import RepairMining.Pool.Name
import RepairMining.Syntax.Parts

/-!
Which nodes of a tree go into which pool: every node by its own kind, and parts of a construct by
the construct they belong to.
-/

namespace RepairMining

namespace PoolName

def some? (pool : PoolName) (node : Option Nat) : List (PoolName × Nat) :=
  (node.map fun node => (pool, node)).toList

/-- What an expression adds apart from itself. -/
def ofExpression (arena : Arena) (node : Nat) : NodeKind → List (PoolName × Nat)
  | .assignment => lhs.some? (arena.part? node .lhs) ++ rhs.some? (arena.part? node .rhs)
  | .identity => [(identity, node)]
  | .functionCall =>
    callTarget.some? (arena.callTarget? node) ++
      (arena.callArguments node).map fun argument => (callArg, argument)
  | _ => []

def ofStatement (arena : Arena) (node : Nat) : NodeKind → List (PoolName × Nat)
  | .switch => switchExpr.some? (arena.switchExpr? node)
  | .whileLoop | .doWhileLoop | .ifElse => guard.some? (arena.condition? node)
  | .forLoop =>
    guard.some? (arena.condition? node) ++
      (forInit.some? (arena.part? node .init) ++ forAfter.some? (arena.part? node .after))
  | _ => []

/-- Everything that a node adds to the pools. A block is no member of the statement pool. -/
def contributions (arena : Arena) (node : Nat) : List (PoolName × Nat) :=
  (atomic, node) ::
    match arena.kind? node with
    | none => []
    | some .block => [(block, node)]
    | some kind =>
      match kind.category with
      | .expression => (expression, node) :: ofExpression arena node kind
      | .statement => (statement, node) :: ofStatement arena node kind
      | .auxiliary => []

def members (arena : Arena) (pool : PoolName) : List Nat :=
  (arena.nodes.flatMap (contributions arena)).filterMap fun entry =>
    if entry.1 = pool then some entry.2 else none

end PoolName

end RepairMining
