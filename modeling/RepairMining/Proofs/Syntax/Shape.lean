import RepairMining.Digest.Structural
import RepairMining.Proofs.Syntax.Subtrees

namespace RepairMining

/-- What counts of a node below the root. When names do not count, an identifier has the same label
whether it had one or not. -/
def HashMode.seen : HashMode → Attributes → Attributes
  | concrete, attributes => { attributes with span := none }
  | abstract, attributes =>
    if attributes.kind = .identity then
      { attributes with span := none, label := some placeholder }
    else { attributes with span := none }

namespace HashMode

theorem seen_eq (mode : HashMode) (attributes : Attributes) :
    mode.seen attributes =
      { attributes with span := none, label := mode.labelOf attributes } := by
  cases mode with
  | concrete => rfl
  | abstract =>
    obtain ⟨kind, label, role, span⟩ := attributes
    cases kind <;> rfl

theorem seen_inj {mode : HashMode} {first second : Attributes} :
    mode.seen first = mode.seen second ↔ first.kind = second.kind ∧
      mode.labelOf first = mode.labelOf second ∧ first.role = second.role := by
  simp only [seen_eq, Attributes.mk.injEq, and_true]

theorem abstract_seen_concrete : abstract.seen ∘ concrete.seen = abstract.seen := rfl

theorem labelOf_abstract {first second : Attributes} (kinds : first.kind = second.kind)
    (labels : concrete.labelOf first = concrete.labelOf second) :
    abstract.labelOf first = abstract.labelOf second := by
  unfold labelOf
  rw [kinds]
  split
  · rfl
  · exact labels

end HashMode

namespace Tree

def map (see : Attributes → Attributes) : Tree → Tree :=
  fold fun attributes children => node (see attributes) children

def unplaced : Tree → Tree
  | node attributes children => node { attributes with role := none } children

def shape (mode : HashMode) (tree : Tree) : Tree := (tree.map mode.seen).unplaced

theorem map_node (see : Attributes → Attributes) (attributes : Attributes)
    (children : List Tree) :
    (node attributes children).map see = node (see attributes) (children.map (map see)) :=
  fold_node _ attributes children

theorem subtrees_map (see : Attributes → Attributes) (tree : Tree) :
    (tree.map see).subtrees = tree.subtrees.map (map see) := by
  induction tree using children_induction with
  | step attributes children ih =>
    have below : subtreesAll (children.map (map see)) = (subtreesAll children).map (map see) := by
      induction children with
      | nil => rfl
      | cons child children later =>
        rw [List.forall_mem_cons] at ih
        rw [List.map_cons, subtreesAll, subtreesAll, ih.1, later ih.2, List.map_append]
    rw [map_node, subtrees, subtrees, below, List.map_cons, map_node]

theorem map_map (see look : Attributes → Attributes) (tree : Tree) :
    (tree.map see).map look = tree.map (look ∘ see) := by
  induction tree using children_induction with
  | step attributes children ih =>
    have below : children.map (map look ∘ map see) = children.map (map (look ∘ see)) :=
      List.map_congr_left ih
    rw [map_node, map_node, map_node, List.map_map, below, Function.comp_apply]

theorem shape_inj {mode : HashMode} {first second : Tree} :
    first.shape mode = second.shape mode ↔
      first.attributes.kind = second.attributes.kind ∧
        mode.labelOf first.attributes = mode.labelOf second.attributes ∧
        first.children.map (map mode.seen) = second.children.map (map mode.seen) := by
  cases first
  cases second
  simp only [shape, map_node, unplaced, node.injEq, HashMode.seen_eq, Attributes.mk.injEq,
    and_true, and_assoc, Tree.attributes, Tree.children]

theorem map_seen_inj {mode : HashMode} {first second : Tree} :
    first.map mode.seen = second.map mode.seen ↔
      first.attributes.role = second.attributes.role ∧ first.shape mode = second.shape mode := by
  cases first
  cases second
  rw [shape_inj, map_node, map_node, node.injEq, HashMode.seen_inj]
  simp only [Tree.attributes, Tree.children, and_assoc, and_left_comm]

theorem shape_abstract {first second : Tree}
    (same : first.shape .concrete = second.shape .concrete) :
    first.shape .abstract = second.shape .abstract := by
  obtain ⟨kinds, labels, children⟩ := shape_inj.mp same
  have seen (trees : List Tree) :
      (trees.map (map HashMode.concrete.seen)).map (map HashMode.abstract.seen) =
        trees.map (map HashMode.abstract.seen) := by
    rw [List.map_map]
    apply List.map_congr_left
    intro tree _
    rw [Function.comp_apply, map_map, HashMode.abstract_seen_concrete]
  have below := congrArg (List.map (map HashMode.abstract.seen)) children
  rw [seen, seen] at below
  exact shape_inj.mpr ⟨kinds, HashMode.labelOf_abstract kinds labels, below⟩

end Tree

end RepairMining
