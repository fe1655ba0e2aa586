import RepairMining.Proofs.Syntax.Alike
import RepairMining.Proofs.Syntax.Shape

namespace RepairMining

def Entry.recast (see : Attributes → Attributes) (entry : Entry) : Entry :=
  { entry with attributes := see entry.attributes }

namespace Tree

theorem forestSize_map {see : Tree → Tree} {trees : List Tree}
    (same : ∀ tree ∈ trees, (see tree).size = tree.size) :
    forestSize (trees.map see) = forestSize trees := by
  induction trees with
  | nil => rfl
  | cons tree trees ih =>
    obtain ⟨first, rest⟩ := List.forall_mem_cons.mp same
    rw [List.map_cons, forestSize, forestSize, first, ih rest]

theorem size_map (see : Attributes → Attributes) (tree : Tree) : (tree.map see).size = tree.size := by
  induction tree using children_induction with
  | step attributes children ih => rw [map_node, size, size, forestSize_map ih]

theorem roots_map (see : Attributes → Attributes) (start : Nat) (trees : List Tree) :
    roots start (trees.map (map see)) = roots start trees := by
  induction trees generalizing start with
  | nil => rfl
  | cons tree trees ih => rw [List.map_cons, roots, roots, size_map, ih]

mutual

theorem layout_map (see : Attributes → Attributes) (parent : Option Nat) (start : Nat)
    (tree : Tree) :
    (tree.map see).layout parent start = (tree.layout parent start).map (Entry.recast see) := by
  match tree with
  | node attributes children =>
    rw [map_node, layout, layout, List.map_cons, layoutForest_map, roots_map,
      forestSize_map fun tree _ => size_map _ tree]
    rfl

theorem layoutForest_map (see : Attributes → Attributes) (parent start : Nat)
    (trees : List Tree) :
    layoutForest parent start (trees.map (map see)) =
      (layoutForest parent start trees).map (Entry.recast see) := by
  match trees with
  | [] => rfl
  | tree :: trees =>
    rw [List.map_cons, layoutForest, layoutForest, List.map_append, layout_map, layoutForest_map,
      size_map]

end

theorem map_bare_layout_root (tree : Tree) :
    (tree.layout none 0).map Entry.bare = (tree.shape .concrete).layout none 0 := by
  cases tree with
  | node attributes children =>
    have below : (layoutForest 0 1 children).map Entry.bare =
        (layoutForest 0 1 children).map (Entry.recast HashMode.concrete.seen) := by
      apply List.map_congr_left
      intro entry member
      have laidOut : (Arena.ofTree (node attributes children)).entries.toList =
          ⟨attributes, none, roots (0 + 1) children, 0 + 1 + forestSize children⟩ ::
            layoutForest 0 1 children := rfl
      have attached : entry.parent.isSome = true := Arena.attached_of_mem_tail laidOut member
      rw [Entry.bare, if_pos attached]
      rfl
    rw [shape, map_node, unplaced, layout, layout, List.map_cons, layoutForest_map, below,
      roots_map, forestSize_map fun tree _ => size_map _ tree]
    rfl

end Tree

namespace Arena

theorem entry?_map (see : Attributes → Attributes) (tree : Tree) (node : Nat) :
    Arena.entry? (ofTree (tree.map see)) node =
      (Arena.entry? (ofTree tree) node).map (Entry.recast see) := by
  rw [entry?_eq_getElem?, entry?_eq_getElem?, ← List.getElem?_map]
  simp only [ofTree, Tree.layout_map]

theorem ofTree_injective {first second : Tree} (same : ofTree first = ofTree second) :
    first = second := by
  rw [← toTree_ofTree first, same, toTree_ofTree]

theorem alike_ofTree_iff {first second : Tree} :
    (ofTree first).Alike (ofTree second) ↔ first.shape .concrete = second.shape .concrete := by
  rw [Alike]
  simp only [ofTree, Tree.map_bare_layout_root]
  constructor
  · intro same
    apply ofTree_injective
    simp only [ofTree, same]
  · intro same
    rw [same]

/-- Two numbered trees are alike if the trees that they number differ in nothing but the positions
of the nodes and the role of the root. -/
theorem alike_iff_shape {first second : Arena} :
    first.Alike second ↔ first.toTree.shape .concrete = second.toTree.shape .concrete := by
  rw [← alike_ofTree_iff, ofTree_toTree, ofTree_toTree]

end Arena

end RepairMining
