import RepairMining.Proofs.Syntax.Numbering
import RepairMining.Proofs.Syntax.Rebuilding

namespace RepairMining

namespace Tree

theorem roots_increasing (start : Nat) (trees : List Tree) :
    (roots start trees).Pairwise (· < ·) := by
  induction trees generalizing start with
  | nil => exact List.Pairwise.nil
  | cons tree trees ih =>
    refine List.pairwise_cons.mpr ⟨?_, ih (start + tree.size)⟩
    intro child member
    have later := (mem_roots member).1
    have positive := tree.size_pos
    omega

mutual

theorem subtrees_from {tree part : Tree} {place : Nat}
    (found : tree.subtrees[place]? = some part) : part.subtrees <+: tree.subtrees.drop place := by
  match tree, place with
  | node attributes children, 0 =>
    obtain rfl := Option.some.inj found
    exact List.prefix_rfl
  | node attributes children, place + 1 =>
    rw [subtrees, List.getElem?_cons_succ] at found
    rw [subtrees, List.drop_succ_cons]
    exact subtreesAll_from found

theorem subtreesAll_from {trees : List Tree} {part : Tree} {place : Nat}
    (found : (subtreesAll trees)[place]? = some part) :
    part.subtrees <+: (subtreesAll trees).drop place := by
  match trees with
  | [] => cases found
  | tree :: trees =>
    rw [subtreesAll] at found ⊢
    by_cases early : place < tree.subtrees.length
    · rw [List.getElem?_append_left early] at found
      rw [List.drop_append_of_le_length (Nat.le_of_lt early)]
      exact (subtrees_from found).trans (List.prefix_append _ _)
    · rw [Nat.not_lt] at early
      rw [List.getElem?_append_right early] at found
      rw [List.drop_append, List.drop_of_length_le early, List.nil_append]
      exact subtreesAll_from found

end

theorem map_roots {listed : List Tree} {start : Nat} {trees : List Tree}
    (stands : subtreesAll trees <+: listed.drop start) :
    (roots start trees).map (fun child => listed[child]?) = trees.map some := by
  induction trees generalizing start with
  | nil => rfl
  | cons tree trees ih =>
    obtain ⟨later, split⟩ := stands
    rw [subtreesAll, List.append_assoc] at split
    have first : listed[start]? = some tree := by
      rw [← Nat.add_zero start, ← List.getElem?_drop, ← split]
      cases tree
      rfl
    have rest : subtreesAll trees <+: listed.drop (start + tree.size) := by
      rw [← List.drop_drop, ← split, ← length_subtrees, List.drop_left]
      exact List.prefix_append _ _
    rw [roots, List.map_cons, first, ih rest, List.map_cons]

end Tree

namespace Arena

variable {arena : Arena} {node ancestor : Nat}

theorem mem_children_iff {child : Nat} :
    child ∈ arena.children node ↔ arena.parent? child = some node :=
  ⟨parent?_child, fun known => (parent?_lists known).2⟩

theorem children_increasing (node : Nat) : (arena.children node).Pairwise (· < ·) := by
  rw [children]
  cases present : arena.entry? node with
  | none => exact List.Pairwise.nil
  | some entry =>
    obtain ⟨trees, _, listed, _⟩ := exists_holds_of_entry present
    rw [Option.map_some, Option.getD_some, listed]
    exact Tree.roots_increasing (node + 1) trees

theorem child_lt_stop {child : Nat} {entry : Entry} (present : arena.entry? node = some entry)
    (member : child ∈ arena.children node) : child < entry.stop := by
  obtain ⟨trees, _, listed, wide, _⟩ := exists_holds_of_entry present
  rw [children, present, Option.map_some, Option.getD_some, listed] at member
  rw [wide]
  exact (Tree.mem_roots member).2

theorem exists_entry (inside : arena.contains node = true) :
    ∃ entry, arena.entry? node = some entry :=
  ⟨_, Array.getElem?_eq_getElem (contains_iff.mp inside)⟩

theorem climb_of_lt {steps : Nat} (enough : node < steps) :
    arena.climb steps node = arena.chain node := by
  induction node using Nat.strongRecOn generalizing steps with
  | ind node ih =>
    cases steps with
    | zero => omega
    | succ steps =>
      rw [chain, climb, climb]
      cases present : arena.entry? node with
      | none => rfl
      | some entry =>
        cases upward : entry.parent with
        | none => simp only [upward]
        | some parent =>
          have lower : parent < node := parent?_lt (by rw [parent?, present]; exact upward)
          simp only [upward, ih parent lower (show parent < steps by omega), ih parent lower lower]

theorem chain_eq (inside : arena.contains node = true) :
    arena.chain node = node :: ((arena.parent? node).map arena.chain).getD [] := by
  obtain ⟨entry, present⟩ := exists_entry inside
  rw [chain, climb, parent?, present, Option.bind_some]
  cases upward : entry.parent with
  | none => simp only [upward, Option.map_none, Option.getD_none]
  | some parent =>
    have lower : parent < node := parent?_lt (by rw [parent?, present]; exact upward)
    simp only [upward, climb_of_lt lower, Option.map_some, Option.getD_some]

theorem chain_of_outside (outside : ¬ arena.contains node = true) : arena.chain node = [] := by
  cases present : arena.entry? node with
  | none => rw [chain, climb, present]
  | some entry => exact absurd (contains_of_entry present) outside

theorem entry_inside {entry : Entry} (present : arena.entry? ancestor = some entry)
    (first : ancestor ≤ node) (last : node < entry.stop) :
    ∃ inner, arena.entry? node = some inner ∧ inner.stop ≤ entry.stop ∧
      (node = ancestor ∨ ∃ outer, arena.parent? node = some outer ∧ ancestor ≤ outer) := by
  obtain ⟨trees, holds, _, wide, _⟩ := exists_holds_of_entry present
  have sized : ancestor + (Tree.node entry.attributes trees).size = entry.stop := by
    rw [Tree.size, wide]
    omega
  obtain ⟨above, subtree, found, fits, place⟩ := holds.inside first (by omega)
  cases subtree with
  | node attributes children =>
    refine ⟨_, found.root, ?_, ?_⟩
    · rw [Tree.size] at fits
      dsimp only
      omega
    · rcases place with ⟨same, _⟩ | ⟨outer, rfl, least, _⟩
      · exact .inl same
      · refine .inr ⟨outer, ?_, least⟩
        rw [parent?, found.root]
        rfl

theorem lt_stop_of_parent {entry : Entry} {parent : Nat}
    (present : arena.entry? ancestor = some entry) (first : ancestor ≤ parent)
    (last : parent < entry.stop) (known : arena.parent? node = some parent) :
    node < entry.stop := by
  obtain ⟨inner, there, fits, _⟩ := entry_inside present first last
  exact Nat.lt_of_lt_of_le (child_lt_stop there (mem_children_iff.mpr known)) fits

theorem inside_of_mem_chain (member : ancestor ∈ arena.chain node) :
    ∃ entry, arena.entry? ancestor = some entry ∧ ancestor ≤ node ∧ node < entry.stop := by
  induction node using Nat.strongRecOn with
  | ind node ih =>
    by_cases inside : arena.contains node = true
    · rw [chain_eq inside, List.mem_cons] at member
      rcases member with rfl | above
      · obtain ⟨entry, present⟩ := exists_entry inside
        obtain ⟨trees, _, _, wide, _⟩ := exists_holds_of_entry present
        exact ⟨entry, present, Nat.le_refl _, by omega⟩
      · cases known : arena.parent? node with
        | none => simp [known] at above
        | some parent =>
          rw [known, Option.map_some, Option.getD_some] at above
          have lower := parent?_lt known
          obtain ⟨entry, present, first, last⟩ := ih parent lower above
          exact ⟨entry, present, by omega, lt_stop_of_parent present first last known⟩
    · rw [chain_of_outside inside] at member
      cases member

theorem mem_chain_of_inside {entry : Entry} (present : arena.entry? ancestor = some entry)
    (first : ancestor ≤ node) (last : node < entry.stop) : ancestor ∈ arena.chain node := by
  induction node using Nat.strongRecOn with
  | ind node ih =>
    obtain ⟨inner, there, _, place⟩ := entry_inside present first last
    rw [chain_eq (contains_of_entry there)]
    rcases place with rfl | ⟨parent, known, least⟩
    · exact List.mem_cons_self
    · have lower := parent?_lt known
      rw [known]
      exact List.mem_cons_of_mem _ (ih parent lower least (by omega))

theorem mem_subtree : node ∈ arena.subtree ancestor ↔ ancestor ∈ arena.chain node := by
  rw [subtree]
  cases present : arena.entry? ancestor with
  | none =>
    refine iff_of_false List.not_mem_nil ?_
    intro member
    obtain ⟨entry, there, _⟩ := inside_of_mem_chain member
    rw [present] at there
    cases there
  | some entry =>
    rw [List.mem_range'_1]
    constructor
    · rintro ⟨first, last⟩
      exact mem_chain_of_inside present first (by omega)
    · intro member
      obtain ⟨other, there, first, last⟩ := inside_of_mem_chain member
      rw [present] at there
      obtain rfl := Option.some.inj there
      omega

theorem subtree_increasing (node : Nat) : (arena.subtree node).Pairwise (· < ·) := by
  rw [subtree]
  split
  · exact List.Pairwise.nil
  · exact List.pairwise_lt_range'

theorem isAncestorOrSelf_iff : arena.isAncestorOrSelf ancestor node = true ↔
    ancestor ∈ arena.chain node := by
  rw [← mem_subtree, isAncestorOrSelf, subtree]
  cases arena.entry? ancestor with
  | none => simp
  | some entry =>
    simp only [Bool.and_eq_true, decide_eq_true_eq, List.mem_range'_1]
    omega

theorem attributes_ofTree (tree : Tree) (node : Nat) :
    (Arena.entry? (ofTree tree) node).map (·.attributes) =
      (tree.subtrees[node]?).map Tree.attributes := by
  cases found : tree.subtrees[node]? with
  | none =>
    have outside : ¬ (ofTree tree).contains node = true := by
      rw [contains_iff, size_ofTree, ← Tree.length_subtrees, Nat.not_lt]
      exact List.getElem?_eq_none_iff.mp found
    cases present : Arena.entry? (ofTree tree) node with
    | none => rfl
    | some entry => exact absurd (contains_of_entry present) outside
  | some part =>
    obtain ⟨above, holds⟩ := holds_ofTree found
    cases part
    rw [holds.root]
    rfl

theorem kind?_ofTree (tree : Tree) (node : Nat) :
    (ofTree tree).kind? node = tree.subtrees[node]?.map (·.attributes.kind) := by
  have same := congrArg (Option.map (·.kind)) (attributes_ofTree tree node)
  rwa [Option.map_map, Option.map_map] at same

theorem role?_ofTree (tree : Tree) (node : Nat) :
    (ofTree tree).role? node = tree.subtrees[node]?.bind (·.attributes.role) := by
  have same := congrArg (Option.bind · (·.role)) (attributes_ofTree tree node)
  rwa [Option.bind_map, Option.bind_map] at same

theorem label?_ofTree (tree : Tree) (node : Nat) :
    (ofTree tree).label? node = tree.subtrees[node]?.bind (·.attributes.label) := by
  have same := congrArg (Option.bind · (·.label)) (attributes_ofTree tree node)
  rwa [Option.bind_map, Option.bind_map] at same

theorem exists_part_ofTree {tree : Tree} (inside : (ofTree tree).contains node = true) :
    ∃ part, tree.subtrees[node]? = some part := by
  rw [contains_iff, size_ofTree, ← Tree.length_subtrees] at inside
  exact ⟨_, List.getElem?_eq_getElem inside⟩

theorem children_ofTree {tree part : Tree} (found : tree.subtrees[node]? = some part) :
    ((ofTree tree).children node).map (fun child => tree.subtrees[child]?) =
      part.children.map some := by
  obtain ⟨above, holds⟩ := holds_ofTree found
  cases part with
  | node attributes trees =>
    rw [children, holds.root]
    apply Tree.map_roots
    obtain ⟨later, split⟩ := Tree.subtrees_from found
    rw [Tree.subtrees, List.cons_append] at split
    rw [← List.drop_drop, ← split]
    exact List.prefix_append _ _

/-- Numbering a tree, with a stack and a sweep for the ends of the subtrees, gives its nodes their
places in pre-order and keeps what is said of them. In the numbered tree parents and children know
each other, children come in order and after their parent, and the tree can be put together again,
with slots as well as without. A subtree consists of the nodes that have its root on their way up,
in order, and that is also what the test of two numbers finds out. -/
theorem ofTree_numbered (tree : Tree) :
    (ofTree tree).entries.toList = Entry.close (Tree.number [(tree, none)] []) ∧
      (ofTree tree).size = tree.size ∧
      (∀ node, (Arena.entry? (ofTree tree) node).map (·.attributes) =
        (tree.subtrees[node]?).map Tree.attributes) ∧
      (∀ node part, tree.subtrees[node]? = some part →
        ((ofTree tree).children node).map (fun child => tree.subtrees[child]?) =
          part.children.map some) ∧
      (∀ node child, child ∈ (ofTree tree).children node ↔
        (ofTree tree).parent? child = some node) ∧
      (∀ node, ((ofTree tree).children node).Pairwise (· < ·) ∧
        ∀ child ∈ (ofTree tree).children node, node < child) ∧
      (ofTree tree).toTree = tree ∧ ofTree (ofTree tree).toTree = ofTree tree ∧
      (ofTree tree).rebuild[0]? = some (some (ofTree tree).toTree) ∧
      (∀ node, (ofTree tree).contains node = true → (ofTree tree).chain node =
        node :: (((ofTree tree).parent? node).map (ofTree tree).chain).getD []) ∧
      (∀ ancestor, ((ofTree tree).subtree ancestor).Pairwise (· < ·) ∧
        ∀ node, node ∈ (ofTree tree).subtree ancestor ↔ ancestor ∈ (ofTree tree).chain node) ∧
      ∀ ancestor node, (ofTree tree).isAncestorOrSelf ancestor node = true ↔
        ancestor ∈ (ofTree tree).chain node := by
  refine ⟨(close_number tree).symm, size_ofTree tree, attributes_ofTree tree,
    fun node part => children_ofTree, fun node child => mem_children_iff, ?_, toTree_ofTree tree,
    ofTree_toTree (ofTree tree), rebuild_toTree tree, fun node => chain_eq, ?_,
    fun ancestor node => isAncestorOrSelf_iff⟩
  · intro node
    exact ⟨children_increasing node, fun child member => (mem_children member).1⟩
  · intro ancestor
    exact ⟨subtree_increasing ancestor, fun node => mem_subtree⟩

end Arena

end RepairMining
