import RepairMining.Syntax.Tree

/-!
Numbered trees. A node's number is its place in pre-order, so a subtree is an interval of numbers
and every child comes after its parent.
-/

namespace RepairMining

/-- One numbered node. `stop` is one past the last number of its subtree. -/
structure Entry where
  attributes : Attributes
  parent : Option Nat
  children : List Nat
  stop : Nat
  deriving DecidableEq, Repr

namespace Tree

/-- Numbers of the roots of a forest whose first tree gets the number `start`. -/
def roots : Nat → List Tree → List Nat
  | _, [] => []
  | start, tree :: trees => start :: roots (start + tree.size) trees

mutual

def layout (parent : Option Nat) (start : Nat) : Tree → List Entry
  | node attributes children =>
    { attributes, parent
      children := roots (start + 1) children
      stop := start + 1 + forestSize children } :: layoutForest start (start + 1) children

def layoutForest (parent start : Nat) : List Tree → List Entry
  | [] => []
  | tree :: trees =>
    layout (some parent) start tree ++ layoutForest parent (start + size tree) trees

end

mutual

theorem length_layout (parent : Option Nat) (start : Nat) (tree : Tree) :
    (layout parent start tree).length = size tree := by
  match tree with
  | node attributes children =>
    simp only [layout, size, List.length_cons]
    rw [length_layoutForest]

theorem length_layoutForest (parent start : Nat) (trees : List Tree) :
    (layoutForest parent start trees).length = forestSize trees := by
  match trees with
  | [] => rfl
  | tree :: trees =>
    simp only [layoutForest, forestSize, List.length_append]
    rw [length_layout, length_layoutForest]

end

theorem size_pos (tree : Tree) : 0 < tree.size := by
  cases tree
  simp [size]

end Tree

structure Arena where
  entries : Array Entry
  laid_out : ∃ tree : Tree, entries.toList = tree.layout none 0

namespace Arena

def ofTree (tree : Tree) : Arena where
  entries := (tree.layout none 0).toArray
  laid_out := ⟨tree, rfl⟩

def size (arena : Arena) : Nat := arena.entries.size

def entry? (arena : Arena) (node : Nat) : Option Entry := arena.entries[node]?

def contains (arena : Arena) (node : Nat) : Bool := node < arena.size

def nodes (arena : Arena) : List Nat := List.range arena.size

def kind? (arena : Arena) (node : Nat) : Option NodeKind :=
  (arena.entry? node).map (·.attributes.kind)

def role? (arena : Arena) (node : Nat) : Option Role :=
  (arena.entry? node).bind (·.attributes.role)

def label? (arena : Arena) (node : Nat) : Option String :=
  (arena.entry? node).bind (·.attributes.label)

def parent? (arena : Arena) (node : Nat) : Option Nat := (arena.entry? node).bind (·.parent)

def children (arena : Arena) (node : Nat) : List Nat :=
  ((arena.entry? node).map (·.children)).getD []

def hasKind (arena : Arena) (node : Nat) (kind : NodeKind) : Bool := arena.kind? node == some kind

def isStatement (arena : Arena) (node : Nat) : Bool := (arena.kind? node).any (·.isStatement)

def isLoop (arena : Arena) (node : Nat) : Bool := (arena.kind? node).any (·.isLoop)

/-- A node and everything below it, in pre-order. -/
def subtree (arena : Arena) (node : Nat) : List Nat :=
  match arena.entry? node with
  | none => []
  | some entry => List.range' node (entry.stop - node)

def isAncestorOrSelf (arena : Arena) (ancestor node : Nat) : Bool :=
  match arena.entry? ancestor with
  | none => false
  | some entry => ancestor ≤ node && node < entry.stop

def statements (arena : Arena) : List Nat := arena.nodes.filter arena.isStatement

/-- Computes one value per node from its entry and the values of its children, last node first.
The values come out in reverse: node `i` of `n` is at place `n - 1 - i`. -/
def sweep {α : Type} (combine : Entry → List α → α) (entries : Array Entry) : Array α :=
  entries.foldr
    (fun entry values =>
      values.push (combine entry
        (entry.children.filterMap fun child => values[entries.size - 1 - child]?)))
    #[]

/-- The nested tree, put together again from the entries. -/
def toTree (arena : Arena) : Tree :=
  let built := sweep (fun entry children => Tree.node entry.attributes children) arena.entries
  built.back?.getD (.node ⟨.translationUnit, none, none, none⟩ [])

theorem size_ofTree (tree : Tree) : (ofTree tree).size = tree.size := by
  simp [size, ofTree, Tree.length_layout]

theorem size_pos (arena : Arena) : 0 < arena.size := by
  obtain ⟨tree, same⟩ := arena.laid_out
  have measured : arena.size = tree.size := by
    rw [size, ← Array.length_toList, same, Tree.length_layout]
  rw [measured]
  exact tree.size_pos

end Arena

end RepairMining
