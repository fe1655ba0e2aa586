import RepairMining.Syntax.Arena

namespace RepairMining.Arena

def climb (arena : Arena) : Nat → Nat → List Nat
  | 0, _ => []
  | steps + 1, node =>
    match arena.entry? node with
    | none => []
    | some entry =>
      node :: match entry.parent with
        | none => []
        | some parent => climb arena steps parent

/-- A node, its parent, and so on up to the root. A parent has a smaller number, so `node + 1` steps
always reach the root. -/
def chain (arena : Arena) (node : Nat) : List Nat := arena.climb (node + 1) node

/-- Deepest node of the chain that satisfies the test. -/
def nearest? (arena : Arena) (node : Nat) (test : Nat → Bool) : Option Nat :=
  (arena.chain node).find? test

def enclosingStatement? (arena : Arena) (node : Nat) : Option Nat :=
  arena.nearest? node arena.isStatement

def enclosingStatementWhere? (arena : Arena) (node : Nat) (mapped : Nat → Bool) : Option Nat :=
  arena.nearest? node fun above => arena.isStatement above && mapped above

end RepairMining.Arena
