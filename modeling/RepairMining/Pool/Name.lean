import RepairMining.Digest.Structural

namespace RepairMining

inductive PoolName where
  | atomic
  | expression
  | statement
  | block
  | identity
  | callTarget
  | callArg
  | switchExpr
  | guard
  | forInit
  | forAfter
  | rhs
  | lhs
  deriving DecidableEq, Repr

namespace PoolName

def name : PoolName → String
  | atomic => "atomic"
  | expression => "expression"
  | statement => "statement"
  | block => "block"
  | identity => "identity"
  | callTarget => "call-target"
  | callArg => "call-arg"
  | switchExpr => "switch-expr"
  | guard => "guard"
  | forInit => "for-init"
  | forAfter => "for-after"
  | rhs => "rhs"
  | lhs => "lhs"

def all : List PoolName :=
  [atomic, expression, statement, block, identity, callTarget, callArg, switchExpr, guard, forInit,
    forAfter, rhs, lhs]

theorem ofName_name (pool : PoolName) :
    all.find? (fun other => other.name == pool.name) = some pool := by
  cases pool <;> rfl

instance : Vocabulary PoolName where
  all := all
  name := name
  mem_all pool := by cases pool <;> decide
  nodup_all := by decide
  name_injective first second same := by
    have found := ofName_name first
    rw [same, ofName_name second] at found
    exact (Option.some.inj found).symm

structure Unknown where
  written : String
  deriving DecidableEq, Repr

def Unknown.message (unknown : Unknown) : String := "unknown donor pool '" ++ unknown.written ++ "'"

def parse (written : String) : Except Unknown PoolName :=
  match Vocabulary.ofName? written with
  | some pool => .ok pool
  | none => .error ⟨written⟩

end PoolName

/-- Whether a pool holds fragments with all identifiers alike, or literally. -/
inductive PoolVariant where
  | abstract
  | concrete
  deriving DecidableEq, Repr

namespace PoolVariant

def name : PoolVariant → String
  | abstract => "abstract"
  | concrete => "concrete"

instance : Vocabulary PoolVariant where
  all := [abstract, concrete]
  name := name
  mem_all variant := by cases variant <;> decide
  nodup_all := by decide
  name_injective first second same := by
    cases first <;> cases second <;> first | rfl | exact absurd same (by decide)

def mode : PoolVariant → HashMode
  | abstract => .abstract
  | concrete => .concrete

end PoolVariant

end RepairMining
