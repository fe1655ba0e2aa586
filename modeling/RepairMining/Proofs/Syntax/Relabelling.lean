import Mathlib.Data.List.Forall2
import RepairMining.Proofs.Digest.Structural
import RepairMining.Proofs.Syntax.Positions

namespace RepairMining

theorem HashMode.seen_label {attributes : Attributes} {label : Option String}
    (named : label = attributes.label ∨ attributes.kind = .identity) :
    abstract.seen { attributes with label } = abstract.seen attributes := by
  rcases named with rfl | identifier
  · rfl
  · rw [seen, seen, if_pos identifier, if_pos identifier]

namespace Tree

/-- The second tree is the first with other labels at some of its identifiers, each of which may
also have lost its label or got one. -/
inductive Relabelled : Tree → Tree → Prop
  | node {attributes : Attributes} {children others : List Tree} (label : Option String)
      (named : label = attributes.label ∨ attributes.kind = .identity)
      (below : List.Forall₂ Relabelled children others) :
      Relabelled (.node attributes children) (.node { attributes with label } others)

namespace Relabelled

variable {first second : Tree}

theorem refl (tree : Tree) : tree.Relabelled tree := by
  induction tree using children_induction with
  | step attributes children ih => exact .node _ (.inl rfl) (List.forall₂_same.mpr ih)

theorem map_seen (related : first.Relabelled second) :
    first.map HashMode.abstract.seen = second.map HashMode.abstract.seen := by
  induction first using children_induction generalizing second with
  | step attributes children ih =>
    cases related with
    | @node _ _ others label named below =>
      have children : children.map (map HashMode.abstract.seen) =
          others.map (map HashMode.abstract.seen) := by
        induction below with
        | nil => rfl
        | cons head _ later =>
          rw [List.forall_mem_cons] at ih
          rw [List.map_cons, List.map_cons, ih.1 head, later ih.2]
      rw [map_node, map_node, HashMode.seen_label named, children]

theorem compute (related : first.Relabelled second) :
    NodeHashes.compute .abstract (.ofTree first) =
      NodeHashes.compute .abstract (.ofTree second) := by
  have digests (tree : Tree) : tree.subtrees.map (digest .abstract) =
      (tree.map HashMode.abstract.seen).subtrees.map (digest .abstract) := by
    rw [subtrees_map, List.map_map]
    apply List.map_congr_left
    intro part _
    exact congrArg Prod.snd (hashed_map_seen .abstract part).symm
  rw [NodeHashes.compute_ofTree, NodeHashes.compute_ofTree, digests first, related.map_seen,
    ← digests second]

theorem size (related : first.Relabelled second) : first.size = second.size := by
  rw [← size_map HashMode.abstract.seen first, related.map_seen, size_map]

theorem observe {β : Type} (related : first.Relabelled second) (see : Option Entry → β)
    (blind : ∀ entry, see (some (entry.recast HashMode.abstract.seen)) = see (some entry))
    (node : Nat) :
    see (Arena.entry? (.ofTree first) node) = see (Arena.entry? (.ofTree second) node) := by
  have recast (tree : Tree) :
      see (Arena.entry? (.ofTree (tree.map HashMode.abstract.seen)) node) =
        see (Arena.entry? (.ofTree tree) node) := by
    rw [Arena.entry?_map]
    cases Arena.entry? (.ofTree tree) node with
    | none => rfl
    | some entry => exact blind entry
  rw [← recast first, related.map_seen, recast second]

theorem kind? (related : first.Relabelled second) :
    (Arena.ofTree first).kind? = (Arena.ofTree second).kind? := by
  funext node
  refine related.observe (Option.map (·.attributes.kind)) (fun entry => ?_) node
  rw [Entry.recast, HashMode.seen_eq]
  rfl

theorem role? (related : first.Relabelled second) :
    (Arena.ofTree first).role? = (Arena.ofTree second).role? := by
  funext node
  refine related.observe (fun place => place.bind (·.attributes.role)) (fun entry => ?_) node
  rw [Entry.recast, HashMode.seen_eq]
  rfl

theorem children (related : first.Relabelled second) :
    (Arena.ofTree first).children = (Arena.ofTree second).children := by
  funext node
  exact related.observe (fun place => (place.map (·.children)).getD []) (fun _ => rfl) node

theorem part? (related : first.Relabelled second) :
    (Arena.ofTree first).part? = (Arena.ofTree second).part? := by
  funext node role
  rw [Arena.part?, Arena.part?, related.children, related.role?]

theorem nodes (related : first.Relabelled second) :
    (Arena.ofTree first).nodes = (Arena.ofTree second).nodes := by
  rw [Arena.nodes, Arena.nodes, Arena.size_ofTree, Arena.size_ofTree, related.size]

end Relabelled

end Tree

end RepairMining
