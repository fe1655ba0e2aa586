import RepairMining.Proofs.Digest.Canonical
import RepairMining.Proofs.Syntax.Intervals
import RepairMining.Proofs.Syntax.Shape

/-!
Digests tell shapes apart. As long as no two different inputs of the hash function collide, two
nodes have the same digest if and only if both were hashed in one mode and their subtrees have the
same shape in it. Nodes are numbered by words of 32 bits, so trees are smaller than that.
-/

namespace RepairMining

namespace Digest

def derive (context : String) (bytes : List UInt8) : Digest :=
  .ofChaining (Blake3.derive (Blake3.contextKey (utf8 context)) bytes)

/-- No two different inputs of the hash function, each a context and bytes, have one digest. -/
def CollisionFree (inputs : List (String × List UInt8)) : Prop :=
  ∀ first ∈ inputs, ∀ second ∈ inputs,
    derive first.1 first.2 = derive second.1 second.2 → first = second

instance (inputs : List (String × List UInt8)) : Decidable (CollisionFree inputs) :=
  inferInstanceAs (Decidable (∀ first ∈ inputs, ∀ second ∈ inputs,
    derive first.1 first.2 = derive second.1 second.2 → first = second))

end Digest

theorem nodeDigest_eq_derive (mode : HashMode) (attributes : Attributes)
    (children : List (Option Role × Digest)) :
    nodeDigest mode attributes children =
      Digest.derive mode.context (Canonical.node mode attributes children) := by
  cases mode <;> rfl

theorem HashMode.context_injective {mode other : HashMode} (same : mode.context = other.context) :
    mode = other := by
  revert same
  cases mode <;> cases other <;> decide

theorem HashMode.labelOf_seen (mode : HashMode) (attributes : Attributes) :
    mode.labelOf (mode.seen attributes) = mode.labelOf attributes := by
  rw [seen_eq]
  obtain ⟨kind, label, role, span⟩ := attributes
  cases mode with
  | concrete => rfl
  | abstract => cases kind <;> rfl

theorem nodeDigest_seen (mode : HashMode) (attributes : Attributes)
    (children : List (Option Role × Digest)) :
    nodeDigest mode (mode.seen attributes) children = nodeDigest mode attributes children := by
  rw [nodeDigest, nodeDigest, Canonical.node, Canonical.node, HashMode.labelOf_seen,
    HashMode.seen_eq]

theorem map_eq_map_congr {α β γ : Type} {see : α → β} {look : α → γ} {items others : List α}
    (agree : ∀ item ∈ items, ∀ other ∈ others, see item = see other ↔ look item = look other) :
    items.map see = others.map see ↔ items.map look = others.map look := by
  induction items generalizing others with
  | nil => rw [List.map_nil, List.map_nil, List.nil_eq, List.nil_eq, List.map_eq_nil_iff,
      List.map_eq_nil_iff]
  | cons item items ih =>
    cases others with
    | nil => simp
    | cons other others =>
      rw [List.map_cons, List.map_cons, List.map_cons, List.map_cons, List.cons.injEq,
        List.cons.injEq, agree item List.mem_cons_self other List.mem_cons_self,
        ih fun item member other listed => agree item (List.mem_cons_of_mem _ member) other
          (List.mem_cons_of_mem _ listed)]

namespace Tree

variable {mode other : HashMode} {first second : Tree}

/-- A subtree as the hash of its parent sees it. -/
def hashed (mode : HashMode) : Tree → Option Role × Digest :=
  fold fun attributes children => (attributes.role, nodeDigest mode attributes children)

def digest (mode : HashMode) (tree : Tree) : Digest := (tree.hashed mode).2

/-- The bytes that are hashed for the root. -/
def message (mode : HashMode) (tree : Tree) : List UInt8 :=
  Canonical.node mode tree.attributes (tree.children.map (hashed mode))

/-- All that is hashed for the nodes of the tree. -/
def inputs (mode : HashMode) (tree : Tree) : List (String × List UInt8) :=
  tree.subtrees.map fun part => (mode.context, part.message mode)

theorem hashed_eq (mode : HashMode) (tree : Tree) :
    tree.hashed mode = (tree.attributes.role, tree.digest mode) := by
  cases tree with
  | node attributes children =>
    rw [digest, hashed, fold_node]
    rfl

theorem digest_eq_derive (mode : HashMode) (tree : Tree) :
    tree.digest mode = Digest.derive mode.context (tree.message mode) := by
  cases tree with
  | node attributes children =>
    rw [digest, hashed, fold_node, nodeDigest_eq_derive]
    rfl

theorem inputs_subset {part tree : Tree} (member : part ∈ tree.subtrees) (mode : HashMode) :
    part.inputs mode ⊆ tree.inputs mode :=
  List.map_subset _ (subtrees_subset member)

theorem message_congr (kinds : first.attributes.kind = second.attributes.kind)
    (labels : mode.labelOf first.attributes = mode.labelOf second.attributes)
    (children : first.children.map (hashed mode) = second.children.map (hashed mode)) :
    first.message mode = second.message mode := by
  rw [message, message, Canonical.node, Canonical.node, kinds, labels, children]

theorem message_inj (few : first.size < 2 ^ 32) (fewOthers : second.size < 2 ^ 32) :
    first.message mode = second.message mode ↔
      first.attributes.kind = second.attributes.kind ∧
        mode.labelOf first.attributes = mode.labelOf second.attributes ∧
        first.children.map (hashed mode) = second.children.map (hashed mode) := by
  constructor
  · have fewer (tree : Tree) (few : tree.size < 2 ^ 32) :
        (tree.children.map (hashed mode)).length < 2 ^ 32 := by
      have counted := length_children_lt tree
      rw [List.length_map]
      omega
    exact Canonical.node_injective (fewer first few) (fewer second fewOthers)
  · rintro ⟨kinds, labels, children⟩
    exact message_congr kinds labels children

theorem hashed_map_seen (mode : HashMode) (tree : Tree) :
    (tree.map mode.seen).hashed mode = tree.hashed mode := by
  induction tree using children_induction with
  | step attributes children ih =>
    have below : (children.map (map mode.seen)).map (hashed mode) = children.map (hashed mode) := by
      rw [List.map_map]
      exact List.map_congr_left ih
    rw [map_node, hashed, fold_node, fold_node, nodeDigest_seen]
    rw [hashed] at below
    rw [below, HashMode.seen_eq]

theorem digest_eq_of_shape_eq (same : first.shape mode = second.shape mode) :
    first.digest mode = second.digest mode := by
  obtain ⟨kinds, labels, children⟩ := shape_inj.mp same
  have seen (trees : List Tree) :
      (trees.map (map mode.seen)).map (hashed mode) = trees.map (hashed mode) := by
    rw [List.map_map]
    exact List.map_congr_left fun tree _ => hashed_map_seen mode tree
  have below := congrArg (List.map (hashed mode)) children
  rw [seen, seen] at below
  rw [digest_eq_derive, digest_eq_derive, message_congr kinds labels below]

theorem hashed_inj : first.hashed mode = second.hashed mode ↔
    first.attributes.role = second.attributes.role ∧
      first.digest mode = second.digest mode := by
  rw [hashed_eq, hashed_eq, Prod.mk.injEq]

theorem message_eq_iff (few : first.size < 2 ^ 32) (fewOthers : second.size < 2 ^ 32)
    (below : ∀ child ∈ first.children, ∀ inner ∈ second.children,
      child.digest mode = inner.digest mode ↔ child.shape mode = inner.shape mode) :
    first.message mode = second.message mode ↔ first.shape mode = second.shape mode := by
  have children : first.children.map (hashed mode) = second.children.map (hashed mode) ↔
      first.children.map (map mode.seen) = second.children.map (map mode.seen) := by
    apply map_eq_map_congr
    intro child member inner listed
    rw [hashed_inj, map_seen_inj, below child member inner listed]
  rw [message_inj few fewOthers, shape_inj, children]

theorem digest_eq_iff_message {known : List (String × List UInt8)}
    (free : Digest.CollisionFree known) (firstKnown : first.inputs mode ⊆ known)
    (secondKnown : second.inputs other ⊆ known) :
    first.digest mode = second.digest other ↔
      mode = other ∧ first.message mode = second.message mode := by
  have root (mode : HashMode) (tree : Tree) :
      (mode.context, tree.message mode) ∈ tree.inputs mode :=
    List.mem_map_of_mem (self_mem_subtrees tree)
  rw [digest_eq_derive, digest_eq_derive]
  constructor
  · intro same
    obtain ⟨contexts, bytes⟩ := Prod.mk.inj
      (free _ (firstKnown (root mode first)) _ (secondKnown (root other second)) same)
    obtain rfl := HashMode.context_injective contexts
    exact ⟨rfl, bytes⟩
  · rintro ⟨rfl, bytes⟩
    rw [bytes]

/-- Where nothing collides, digests are as good as shapes. The induction is on the first tree; it
is carried by all that is hashed for a child being hashed for its parent as well. -/
theorem digest_eq_iff {known : List (String × List UInt8)} (free : Digest.CollisionFree known)
    (firstKnown : first.inputs mode ⊆ known) (secondKnown : second.inputs other ⊆ known)
    (few : first.size < 2 ^ 32) (fewOthers : second.size < 2 ^ 32) :
    first.digest mode = second.digest other ↔
      mode = other ∧ first.shape mode = second.shape mode := by
  induction first using children_induction generalizing second with
  | step attributes children ih =>
    rw [digest_eq_iff_message free firstKnown secondKnown]
    apply and_congr_right
    rintro rfl
    apply message_eq_iff few fewOthers
    intro child member inner listed
    have inside : child ∈ (node attributes children).subtrees :=
      mem_subtrees_of_mem_children member
    have alsoInside := mem_subtrees_of_mem_children listed
    have step := ih child member
      (List.Subset.trans (inputs_subset inside mode) firstKnown)
      (List.Subset.trans (inputs_subset alsoInside mode) secondKnown)
      (Nat.lt_of_le_of_lt (size_le_of_mem_subtrees inside) few)
      (Nat.lt_of_le_of_lt (size_le_of_mem_subtrees alsoInside) fewOthers)
    rw [step]
    exact and_iff_right rfl

theorem digest_subtree_eq_iff {part fragment : Tree}
    (free : Digest.CollisionFree (first.inputs mode ++ second.inputs other))
    (few : first.size < 2 ^ 32) (fewOthers : second.size < 2 ^ 32)
    (inside : part ∈ first.subtrees) (alsoInside : fragment ∈ second.subtrees) :
    part.digest mode = fragment.digest other ↔
      mode = other ∧ part.shape mode = fragment.shape mode := by
  apply digest_eq_iff free
  · exact List.Subset.trans (inputs_subset inside mode) (List.subset_append_left _ _)
  · exact List.Subset.trans (inputs_subset alsoInside other) (List.subset_append_right _ _)
  · exact Nat.lt_of_le_of_lt (size_le_of_mem_subtrees inside) few
  · exact Nat.lt_of_le_of_lt (size_le_of_mem_subtrees alsoInside) fewOthers

/-- No two nodes that differ in shape have one digest. -/
def CollisionFree (mode : HashMode) (tree : Tree) : Prop :=
  ∀ part ∈ tree.subtrees, ∀ fragment ∈ tree.subtrees,
    part.digest mode = fragment.digest mode → part.shape mode = fragment.shape mode

theorem collisionFree_of_inputs {tree : Tree} (few : tree.size < 2 ^ 32)
    (free : Digest.CollisionFree (tree.inputs mode)) : tree.CollisionFree mode := by
  intro part inside fragment alsoInside same
  have fewer {part : Tree} (inside : part ∈ tree.subtrees) : part.size < 2 ^ 32 :=
    Nat.lt_of_le_of_lt (size_le_of_mem_subtrees inside) few
  exact ((digest_eq_iff free (inputs_subset inside mode) (inputs_subset alsoInside mode)
    (fewer inside) (fewer alsoInside)).mp same).2

end Tree

namespace NodeHashes

theorem compute_ofTree (mode : HashMode) (tree : Tree) :
    compute mode (.ofTree tree) = ⟨mode, (tree.subtrees.map (Tree.digest mode)).toArray⟩ := by
  have swept := Arena.sweep_ofTree (fun attributes children =>
    (attributes.role, nodeDigest mode attributes children)) tree
  rw [compute, swept, List.map_toArray, List.reverse_toArray, ← List.map_reverse,
    List.reverse_reverse, List.map_map]
  rfl

theorem get?_compute (mode : HashMode) (tree : Tree) (node : Nat) :
    (compute mode (.ofTree tree)).get? node = tree.subtrees[node]?.map (Tree.digest mode) := by
  rw [compute_ofTree, get?, List.getElem?_toArray, List.getElem?_map]

theorem get?_compute_eq_some {mode : HashMode} {tree : Tree} {node : Nat} {digest : Digest} :
    (compute mode (.ofTree tree)).get? node = some digest ↔
      ∃ part, tree.subtrees[node]? = some part ∧ part.digest mode = digest := by
  rw [get?_compute, Option.map_eq_some_iff]

/-- What the hash of a node sees below it: roles and digests of its children. -/
def below (mode : HashMode) (arena : Arena) (node : Nat) : List (Option Role × Option Digest) :=
  (arena.children node).map fun child => (arena.role? child, (compute mode arena).get? child)

theorem below_ofTree (mode : HashMode) {tree part : Tree} {node : Nat}
    (found : tree.subtrees[node]? = some part) :
    below mode (.ofTree tree) node =
      part.children.map fun child => (child.attributes.role, some (child.digest mode)) := by
  have listed := congrArg (List.map fun part? : Option Tree =>
    (part?.bind (·.attributes.role), part?.map (Tree.digest mode))) (Arena.children_ofTree found)
  rw [List.map_map, List.map_map] at listed
  refine Eq.trans (List.map_congr_left ?_) listed
  intro child _
  rw [Arena.role?_ofTree, get?_compute]
  rfl

theorem get?_congr {mode : HashMode} {first second : Arena} {node place : Nat}
    (inside : first.contains node = true) (alsoInside : second.contains place = true)
    (kinds : first.kind? node = second.kind? place)
    (labels : first.label? node = second.label? place)
    (children : below mode first node = below mode second place) :
    (compute mode first).get? node = (compute mode second).get? place := by
  obtain ⟨tree, rfl⟩ : ∃ tree, first = .ofTree tree := ⟨_, first.ofTree_toTree.symm⟩
  obtain ⟨other, rfl⟩ : ∃ tree, second = .ofTree tree := ⟨_, second.ofTree_toTree.symm⟩
  obtain ⟨part, found⟩ := Arena.exists_part_ofTree inside
  obtain ⟨fragment, alsoFound⟩ := Arena.exists_part_ofTree alsoInside
  rw [Arena.kind?_ofTree, Arena.kind?_ofTree, found, alsoFound] at kinds
  rw [Arena.label?_ofTree, Arena.label?_ofTree, found, alsoFound] at labels
  rw [below_ofTree mode found, below_ofTree mode alsoFound] at children
  have kind : part.attributes.kind = fragment.attributes.kind := Option.some.inj kinds
  have label : part.attributes.label = fragment.attributes.label := labels
  have sameLabel : mode.labelOf part.attributes = mode.labelOf fragment.attributes := by
    rw [HashMode.labelOf.eq_def, HashMode.labelOf.eq_def, kind, label]
  -- No child of a tree lacks its digest.
  have hashed := congrArg (List.map fun seen : Option Role × Option Digest =>
    (seen.1, seen.2.getD .zero)) children
  rw [List.map_map, List.map_map] at hashed
  have agree (trees : List Tree) : trees.map (Tree.hashed mode) = trees.map fun child =>
      (child.attributes.role, child.digest mode) :=
    List.map_congr_left fun child _ => child.hashed_eq mode
  rw [get?_compute, get?_compute, found, alsoFound, Option.map_some, Option.map_some,
    Tree.digest_eq_derive, Tree.digest_eq_derive]
  rw [Tree.message_congr kind sameLabel (by rw [agree, agree]; exact hashed)]

/-- Two nodes have the same digest if and only if they were hashed in one mode and their subtrees
have the same shape in it, unless two inputs of the hash function collide. -/
theorem eq_iff_shape_eq {first second : Tree} {mode other : HashMode} {node place : Nat}
    {part fragment : Tree} (few : first.size < 2 ^ 32) (fewOthers : second.size < 2 ^ 32)
    (free : Digest.CollisionFree (first.inputs mode ++ second.inputs other))
    (found : first.subtrees[node]? = some part)
    (alsoFound : second.subtrees[place]? = some fragment) :
    ∃ digest further,
      (compute mode (.ofTree first)).get? node = some digest ∧
      (compute other (.ofTree second)).get? place = some further ∧
      (digest = further ↔ mode = other ∧ part.shape mode = fragment.shape mode) := by
  refine ⟨part.digest mode, fragment.digest other, ?_, ?_, ?_⟩
  · rw [get?_compute, found, Option.map_some]
  · rw [get?_compute, alsoFound, Option.map_some]
  · exact Tree.digest_subtree_eq_iff free few fewOthers (List.mem_of_getElem? found)
      (List.mem_of_getElem? alsoFound)

def access (array : Option String) (role : Option Role) : Tree :=
  .node ⟨.arrayAccess, none, role, none⟩ [.node ⟨.identity, array, some .target, none⟩ []]

theorem eq_of_renamed : ∃ digest,
    (compute .abstract (.ofTree (access (some "a") none))).get? 0 = some digest ∧
      (compute .abstract (.ofTree (.node ⟨.assignment, none, none, none⟩
        [access none (some .rhs)]))).get? 1 = some digest := by
  have free : Digest.CollisionFree ((access (some "a") none).inputs .abstract ++
      (Tree.node ⟨.assignment, none, none, none⟩ [access none (some .rhs)]).inputs .abstract) := by
    decide +kernel
  have inner : (Tree.node ⟨.assignment, none, none, none⟩
      [access none (some .rhs)]).subtrees[1]? = some (access none (some .rhs)) := rfl
  have whole : (access (some "a") none).subtrees[0]? = some (access (some "a") none) := rfl
  obtain ⟨digest, further, found, alsoFound, same⟩ :=
    eq_iff_shape_eq (by decide) (by decide) free whole inner
  obtain rfl := same.mpr ⟨rfl, rfl⟩
  exact ⟨digest, found, alsoFound⟩

end NodeHashes

end RepairMining
