import RepairMining.Syntax.Arena

namespace RepairMining.Arena

def part? (arena : Arena) (node : Nat) (role : Role) : Option Nat :=
  (arena.children node).find? fun child => arena.role? child == some role

def condition? (arena : Arena) (node : Nat) : Option Nat := arena.part? node .condition

def thenBranch? (arena : Arena) (node : Nat) : Option Nat := arena.part? node .thenBranch

def elseBranch? (arena : Arena) (node : Nat) : Option Nat := arena.part? node .elseBranch

def body? (arena : Arena) (node : Nat) : Option Nat := arena.part? node .body

def switchExpr? (arena : Arena) (node : Nat) : Option Nat := arena.part? node .switchExpr

def callTarget? (arena : Arena) (node : Nat) : Option Nat := arena.part? node .target

/-- Arguments of a call in order, none if it has no argument list. -/
def callArguments (arena : Arena) (node : Nat) : List Nat :=
  match arena.part? node .args with
  | none => []
  | some list => arena.children list

/-- A block with exactly one child stands for that child. -/
def unwrapBlock (arena : Arena) (node : Nat) : Nat :=
  match arena.children node with
  | [only] => if arena.hasKind node .block then only else node
  | _ => node

end RepairMining.Arena
