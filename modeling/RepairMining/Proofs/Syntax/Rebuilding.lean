import RepairMining.Proofs.Syntax.Subtrees

/-!
Rebuilding with slots. A sweep from the last node to the first builds the tree of every node, for
which it takes the trees of the children out of their slots. In the end there is one tree, the one
that has been numbered.
-/

namespace RepairMining

namespace Tree

def takeAll : List Nat → List (Option Tree) → List Tree × List (Option Tree)
  | [], slots => ([], slots)
  | number :: numbers, slots =>
    let others := takeAll numbers (slots.set number none)
    match slots[number]?.join with
    | none => others
    | some tree => (tree :: others.1, others.2)

/-- Slots of a forest that has been built: each tree stands in the slot of its root. -/
def spread : List Tree → List (Option Tree)
  | [] => []
  | tree :: trees =>
    some tree :: (List.replicate (forestSize tree.children) none ++ spread trees)

theorem takeAll_roots {start : Nat} {trees : List Tree} {before after : List (Option Tree)}
    (placed : before.length = start) :
    takeAll (roots start trees) (before ++ (spread trees ++ after)) =
      (trees, before ++ (List.replicate (forestSize trees) none ++ after)) := by
  induction trees generalizing start before with
  | nil => rfl
  | cons tree trees ih =>
    cases tree with
    | node attributes children =>
      subst placed
      have longer : (before ++ List.replicate (forestSize children + 1) none).length =
          before.length + (node attributes children).size := by
        rw [List.length_append, List.length_replicate, size]
      have emptied : (before ++ (spread (node attributes children :: trees) ++ after)).set
          before.length none =
            before ++ List.replicate (forestSize children + 1) none ++ (spread trees ++ after) := by
        simp [spread, Tree.children, List.replicate_succ]
      have there : (before ++ (spread (node attributes children :: trees) ++ after))[
          before.length]?.join = some (node attributes children) := by
        simp [spread]
      rw [roots, takeAll, emptied, ih longer, there, forestSize, size,
        List.replicate_add (forestSize children + 1), List.append_assoc, List.append_assoc]

end Tree

namespace Arena

variable {arena : Arena}

/-- Builds the tree of a node and puts it into the slot of the node. -/
def buildAt (arena : Arena) (node : Nat) (slots : List (Option Tree)) : List (Option Tree) :=
  match arena.entry? node with
  | none => slots
  | some entry =>
    let taken := Tree.takeAll entry.children slots
    taken.2.set node (some (.node entry.attributes taken.1))

def rebuild (arena : Arena) : List (Option Tree) :=
  (List.range arena.size).foldr arena.buildAt (List.replicate arena.size none)

mutual

/-- The part of the sweep over a subtree fills the slot of its root and leaves the others of the
subtree empty. -/
theorem Holds.foldr_buildAt {parent : Option Nat} {start : Nat} {tree : Tree}
    (holds : arena.Holds parent start tree) {before : List (Option Tree)}
    (placed : before.length = start) (after : List (Option Tree)) :
    (List.range' start tree.size).foldr arena.buildAt
        (before ++ (List.replicate tree.size none ++ after)) =
      before ++ (Tree.spread [tree] ++ after) := by
  match tree with
  | .node attributes children =>
    have longer : (before ++ [none]).length = start + 1 := by
      rw [List.length_append, placed]
      rfl
    have below := holds.below.foldr_buildAt longer after
    rw [Tree.size, List.range'_succ, List.foldr_cons, List.replicate_succ, List.cons_append,
      ← List.singleton_append, ← List.append_assoc before, below, buildAt, holds.root]
    dsimp only
    rw [Tree.takeAll_roots longer, ← placed]
    simp [Tree.spread, Tree.children]

theorem HoldsAll.foldr_buildAt {parent start : Nat} {trees : List Tree}
    (holds : arena.HoldsAll parent start trees) {before : List (Option Tree)}
    (placed : before.length = start) (after : List (Option Tree)) :
    (List.range' start (Tree.forestSize trees)).foldr arena.buildAt
        (before ++ (List.replicate (Tree.forestSize trees) none ++ after)) =
      before ++ (Tree.spread trees ++ after) := by
  match trees with
  | [] => rfl
  | tree :: trees =>
    have longer : (before ++ List.replicate tree.size none).length = start + tree.size := by
      rw [List.length_append, List.length_replicate, placed]
    have rest := holds.tail.foldr_buildAt longer after
    have first := holds.head.foldr_buildAt placed (Tree.spread trees ++ after)
    rw [Tree.forestSize, ← List.range'_append_1, List.foldr_append, List.replicate_add,
      List.append_assoc, ← List.append_assoc before, rest, List.append_assoc, first]
    simp [Tree.spread]

end

theorem rebuild_ofTree (tree : Tree) : (ofTree tree).rebuild = Tree.spread [tree] := by
  have root : tree.subtrees[0]? = some tree := by
    cases tree
    rfl
  obtain ⟨above, holds⟩ := holds_ofTree root
  have built := holds.foldr_buildAt (show ([] : List (Option Tree)).length = 0 from rfl) []
  rw [List.append_nil, List.append_nil] at built
  rw [rebuild, size_ofTree, List.range_eq_range']
  exact built

theorem rebuild_toTree (tree : Tree) :
    (ofTree tree).rebuild[0]? = some (some (ofTree tree).toTree) := by
  rw [rebuild_ofTree, toTree_ofTree]
  rfl

end Arena

end RepairMining
