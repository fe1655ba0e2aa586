import RepairMining.Vocabulary

namespace RepairMining

inductive ActionKind where
  | deleteStatement
  | insertStatement
  | modifyStatement
  | wrapStatement
  | unwrapStatement
  | replaceIfCondition
  | replaceThenBranch
  | replaceElseBranch
  | removeElseBranch
  | insertElseBranch
  | insertElseIfBranch
  | guardElseBranch
  | replaceSwitchExpression
  | replaceLoopGuard
  | replaceLoopBody
  | modifyAssignment
  | replaceAssignmentRhs
  | replaceAssignmentLhs
  | replaceAssignmentOp
  | modifyCall
  | replaceCallTarget
  | modifyCallArgs
  | insertCallArg
  | removeCallArg
  | replaceCallArg
  deriving DecidableEq, Repr

namespace ActionKind

def name : ActionKind → String
  | deleteStatement => "DeleteStatement"
  | insertStatement => "InsertStatement"
  | modifyStatement => "ModifyStatement"
  | wrapStatement => "WrapStatement"
  | unwrapStatement => "UnwrapStatement"
  | replaceIfCondition => "ReplaceIfCondition"
  | replaceThenBranch => "ReplaceThenBranch"
  | replaceElseBranch => "ReplaceElseBranch"
  | removeElseBranch => "RemoveElseBranch"
  | insertElseBranch => "InsertElseBranch"
  | insertElseIfBranch => "InsertElseIfBranch"
  | guardElseBranch => "GuardElseBranch"
  | replaceSwitchExpression => "ReplaceSwitchExpression"
  | replaceLoopGuard => "ReplaceLoopGuard"
  | replaceLoopBody => "ReplaceLoopBody"
  | modifyAssignment => "ModifyAssignment"
  | replaceAssignmentRhs => "ReplaceAssignmentRHS"
  | replaceAssignmentLhs => "ReplaceAssignmentLHS"
  | replaceAssignmentOp => "ReplaceAssignmentOp"
  | modifyCall => "ModifyCall"
  | replaceCallTarget => "ReplaceCallTarget"
  | modifyCallArgs => "ModifyCallArgs"
  | insertCallArg => "InsertCallArg"
  | removeCallArg => "RemoveCallArg"
  | replaceCallArg => "ReplaceCallArg"

def all : List ActionKind :=
  [deleteStatement, insertStatement, modifyStatement, wrapStatement, unwrapStatement,
    replaceIfCondition, replaceThenBranch, replaceElseBranch, removeElseBranch, insertElseBranch,
    insertElseIfBranch, guardElseBranch, replaceSwitchExpression, replaceLoopGuard,
    replaceLoopBody, modifyAssignment, replaceAssignmentRhs, replaceAssignmentLhs,
    replaceAssignmentOp, modifyCall, replaceCallTarget, modifyCallArgs, insertCallArg,
    removeCallArg, replaceCallArg]

theorem ofName_name (kind : ActionKind) :
    all.find? (fun other => other.name == kind.name) = some kind := by
  cases kind <;> rfl

instance : Vocabulary ActionKind where
  all := all
  name := name
  mem_all kind := by cases kind <;> decide
  nodup_all := by decide
  name_injective first second same := by
    have found := ofName_name first
    rw [same, ofName_name second] at found
    exact (Option.some.inj found).symm

structure Unknown where
  written : String
  deriving DecidableEq, Repr

def Unknown.message (unknown : Unknown) : String :=
  "unknown repair action category '" ++ unknown.written ++ "'"

def parse (written : String) : Except Unknown ActionKind :=
  match Vocabulary.ofName? written with
  | some kind => .ok kind
  | none => .error ⟨written⟩

def dependencies : ActionKind → List ActionKind
  | wrapStatement => [deleteStatement, insertStatement, modifyStatement]
  | unwrapStatement => [deleteStatement]
  | guardElseBranch => [insertStatement]
  | replaceIfCondition | insertElseBranch | insertElseIfBranch | replaceSwitchExpression
  | replaceLoopGuard | modifyAssignment | modifyCall => [modifyStatement]
  | replaceAssignmentRhs | replaceAssignmentLhs | replaceAssignmentOp => [modifyAssignment]
  | replaceCallTarget | modifyCallArgs => [modifyCall]
  | insertCallArg | removeCallArg | replaceCallArg => [modifyCallArgs]
  | deleteStatement | insertStatement | modifyStatement | replaceThenBranch | replaceElseBranch
  | removeElseBranch | replaceLoopBody => []

def expand (kinds : List ActionKind) : List ActionKind :=
  all.filter fun kind => kind ∈ kinds || kinds.any fun dependent => kind ∈ dependent.dependencies

def expandTimes : Nat → List ActionKind → List ActionKind
  | 0, kinds => kinds
  | count + 1, kinds => expandTimes count (expand kinds)

/-- The least closed set of categories around the listed ones, in pipeline order. A chain of
dependencies is shorter than the number of categories. -/
def closure (kinds : List ActionKind) : List ActionKind := expandTimes all.length kinds

end ActionKind

end RepairMining
