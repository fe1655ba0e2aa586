import RepairMining.Syntax.Path

/-!
Look-ups by number. A number that no node of the tree has is a fault, and the fault is that number.
-/

namespace RepairMining.Arena

def readEntry (arena : Arena) (node : Nat) : Except Nat Entry :=
  match arena.entry? node with
  | none => .error node
  | some entry => .ok entry

def readKind (arena : Arena) (node : Nat) : Except Nat NodeKind :=
  (arena.readEntry node).map (·.attributes.kind)

def readRole (arena : Arena) (node : Nat) : Except Nat (Option Role) :=
  (arena.readEntry node).map (·.attributes.role)

def readParent (arena : Arena) (node : Nat) : Except Nat (Option Nat) :=
  (arena.readEntry node).map (·.parent)

def readChildren (arena : Arena) (node : Nat) : Except Nat (List Nat) :=
  (arena.readEntry node).map (·.children)

def readSubtree (arena : Arena) (node : Nat) : Except Nat (List Nat) :=
  (arena.readEntry node).map fun entry => List.range' node (entry.stop - node)

/-- Only the upper node is looked up, and only if its number is not the larger one. -/
def readIsAncestorOrSelf (arena : Arena) (ancestor node : Nat) : Except Nat Bool :=
  if ancestor ≤ node then (arena.readEntry ancestor).map fun entry => node < entry.stop
  else .ok false

def readHasKind (arena : Arena) (node : Nat) (kind : NodeKind) : Except Nat Bool :=
  (arena.readKind node).map (· == kind)

def readIsStatement (arena : Arena) (node : Nat) : Except Nat Bool :=
  (arena.readKind node).map (·.isStatement)

def readIsLoop (arena : Arena) (node : Nat) : Except Nat Bool :=
  (arena.readKind node).map (·.isLoop)

def readStatements (arena : Arena) : Except Nat (List Nat) :=
  arena.nodes.filterM arena.readIsStatement

def readPart (arena : Arena) (node : Nat) (role : Role) : Except Nat (Option Nat) := do
  (← arena.readChildren node).findM? fun child => do
    return (← arena.readRole child) == some role

def readArguments (arena : Arena) (node : Nat) : Except Nat (List Nat) := do
  match ← arena.readPart node .args with
  | none => return []
  | some list => arena.readChildren list

def readUnwrapped (arena : Arena) (node : Nat) : Except Nat Nat := do
  match ← arena.readChildren node with
  | [only] => if ← arena.readHasKind node .block then return only else return node
  | _ => return node

def readAscent (arena : Arena) (test : Nat → Except Nat Bool) : Nat → Nat → Except Nat (Option Nat)
  | 0, _ => return none
  | steps + 1, node => do
    if ← test node then return some node
    else
      match ← arena.readParent node with
      | none => return none
      | some parent => arena.readAscent test steps parent

/-- A parent has a smaller number, so `node + 1` steps always lead past the root. -/
def readNearest (arena : Arena) (node : Nat) (test : Nat → Except Nat Bool) :
    Except Nat (Option Nat) :=
  arena.readAscent test (node + 1) node

def readEnclosingStatement (arena : Arena) (node : Nat) : Except Nat (Option Nat) :=
  arena.readNearest node arena.readIsStatement

def readEnclosingStatementWhere (arena : Arena) (node : Nat) (mapped : Nat → Bool) :
    Except Nat (Option Nat) :=
  arena.readNearest node fun above => do return (← arena.readIsStatement above) && mapped above

def readPath (arena : Arena) (node : Nat) : Except Nat NodePath :=
  (arena.readEntry node).map fun _ => arena.pathOf node

end RepairMining.Arena
