import RepairMining.Syntax.Parts
import RepairMining.Syntax.Ancestors

namespace RepairMining

namespace Arena

variable {arena : Arena}

theorem contains_iff {node : Nat} : arena.contains node = true ↔ node < arena.size := by
  simp [contains]

theorem entry?_eq_getElem? (node : Nat) : arena.entry? node = arena.entries.toList[node]? := by
  unfold entry?
  rw [Array.getElem?_toList]

theorem contains_of_entry {node : Nat} {entry : Entry} (present : arena.entry? node = some entry) :
    arena.contains node = true := by
  rw [contains_iff]
  exact (Array.getElem?_eq_some_iff.mp present).1

/-- The subtree stands in the arena from number `start` on. -/
def Holds (arena : Arena) (parent : Option Nat) (start : Nat) (tree : Tree) : Prop :=
  ∀ offset entry, (tree.layout parent start)[offset]? = some entry →
    arena.entry? (start + offset) = some entry

def HoldsAll (arena : Arena) (parent start : Nat) (trees : List Tree) : Prop :=
  ∀ offset entry, (Tree.layoutForest parent start trees)[offset]? = some entry →
    arena.entry? (start + offset) = some entry

theorem exists_holds_root (arena : Arena) :
    ∃ tree : Tree, arena.Holds none 0 tree ∧ arena.size = tree.size := by
  obtain ⟨tree, same⟩ := arena.laid_out
  refine ⟨tree, ?_, ?_⟩
  · intro offset entry place
    rw [entry?_eq_getElem?, same, Nat.zero_add]
    exact place
  · rw [size, ← Array.length_toList, same, Tree.length_layout]

theorem Holds.root {parent : Option Nat} {start : Nat} {attributes : Attributes}
    {children : List Tree} (holds : arena.Holds parent start (.node attributes children)) :
    arena.entry? start = some ⟨attributes, parent, Tree.roots (start + 1) children,
      start + 1 + Tree.forestSize children⟩ :=
  holds 0 _ rfl

theorem Holds.below {parent : Option Nat} {start : Nat} {attributes : Attributes}
    {children : List Tree} (holds : arena.Holds parent start (.node attributes children)) :
    arena.HoldsAll start (start + 1) children := by
  intro offset entry place
  have next := holds (offset + 1) entry (by rw [Tree.layout, List.getElem?_cons_succ]; exact place)
  rw [← next]
  congr 1
  omega

theorem HoldsAll.head {parent start : Nat} {tree : Tree} {trees : List Tree}
    (holds : arena.HoldsAll parent start (tree :: trees)) :
    arena.Holds (some parent) start tree := by
  intro offset entry place
  apply holds
  rw [Tree.layoutForest, List.getElem?_append_left]
  · exact place
  · exact (List.getElem?_eq_some_iff.mp place).1

theorem HoldsAll.tail {parent start : Nat} {tree : Tree} {trees : List Tree}
    (holds : arena.HoldsAll parent start (tree :: trees)) :
    arena.HoldsAll parent (start + tree.size) trees := by
  intro offset entry place
  have next := holds (tree.size + offset) entry (by
    rw [Tree.layoutForest, List.getElem?_append_right (by rw [Tree.length_layout]; omega),
      Tree.length_layout, Nat.add_sub_cancel_left]
    exact place)
  rw [← next, Nat.add_assoc]

theorem HoldsAll.child {parent start : Nat} {trees : List Tree}
    (holds : arena.HoldsAll parent start trees) {child : Nat}
    (member : child ∈ Tree.roots start trees) :
    start ≤ child ∧ ∃ entry, arena.entry? child = some entry ∧ entry.parent = some parent := by
  induction trees generalizing start with
  | nil => cases member
  | cons tree trees ih =>
    rcases List.mem_cons.mp member with rfl | member
    · cases tree
      exact ⟨Nat.le_refl _, _, holds.head.root, rfl⟩
    · obtain ⟨later, found⟩ := ih holds.tail member
      exact ⟨by omega, found⟩

mutual

theorem Holds.inside {parent : Option Nat} {start : Nat} {tree : Tree}
    (holds : arena.Holds parent start tree) {node : Nat} (first : start ≤ node)
    (last : node < start + tree.size) :
    ∃ above subtree, arena.Holds above node subtree ∧ node + subtree.size ≤ start + tree.size ∧
      (node = start ∧ above = parent ∨ ∃ outer, above = some outer ∧ start ≤ outer ∧
        outer < node ∧ node ∈ arena.children outer) := by
  match tree with
  | .node attributes children =>
    by_cases same : node = start
    · subst same
      exact ⟨parent, _, holds, Nat.le_refl _, .inl ⟨rfl, rfl⟩⟩
    · have listed : Tree.roots (start + 1) children ⊆ arena.children start := by
        rw [Arena.children, holds.root]
        exact List.Subset.refl _
      rw [Tree.size] at last ⊢
      obtain ⟨outer, subtree, found, fits, least, lower, known⟩ :=
        holds.below.inside listed (show start + 1 ≤ node by omega) (by omega)
          (Nat.lt_succ_self start)
      refine ⟨some outer, subtree, found, by omega, .inr ⟨outer, rfl, ?_, lower, known⟩⟩
      omega

theorem HoldsAll.inside {parent start : Nat} {trees : List Tree}
    (holds : arena.HoldsAll parent start trees)
    (listed : Tree.roots start trees ⊆ arena.children parent) {node : Nat} (first : start ≤ node)
    (last : node < start + Tree.forestSize trees) (below : parent < start) :
    ∃ outer subtree, arena.Holds (some outer) node subtree ∧
      node + subtree.size ≤ start + Tree.forestSize trees ∧ (outer = parent ∨ start ≤ outer) ∧
      outer < node ∧ node ∈ arena.children outer := by
  match trees with
  | [] =>
    rw [Tree.forestSize] at last
    omega
  | tree :: trees =>
    rw [Tree.forestSize] at last ⊢
    obtain ⟨root, rest⟩ := List.cons_subset.mp listed
    by_cases early : node < start + tree.size
    · obtain ⟨above, subtree, found, fits, place⟩ := holds.head.inside first early
      rcases place with ⟨rfl, rfl⟩ | ⟨outer, rfl, least, lower, known⟩
      · exact ⟨parent, subtree, found, by omega, .inl rfl, below, root⟩
      · exact ⟨outer, subtree, found, by omega, .inr least, lower, known⟩
    · obtain ⟨outer, subtree, found, fits, least, lower, known⟩ :=
        holds.tail.inside rest (show start + tree.size ≤ node by omega) (by omega) (by omega)
      refine ⟨outer, subtree, found, by omega, ?_, lower, known⟩
      omega

end

theorem exists_holds_of_entry {node : Nat} {entry : Entry}
    (present : arena.entry? node = some entry) :
    ∃ trees, arena.Holds entry.parent node (.node entry.attributes trees) ∧
      entry.children = Tree.roots (node + 1) trees ∧
      entry.stop = node + 1 + Tree.forestSize trees ∧ (node = 0 ∧ entry.parent = none ∨
        ∃ outer, entry.parent = some outer ∧ outer < node ∧ node ∈ arena.children outer) := by
  obtain ⟨tree, holds, sized⟩ := arena.exists_holds_root
  have bounded := contains_iff.mp (contains_of_entry present)
  obtain ⟨above, subtree, found, _, place⟩ := holds.inside (Nat.zero_le node) (by omega)
  cases subtree with
  | node attributes trees =>
    have root := found.root
    rw [present] at root
    obtain rfl := Option.some.inj root
    refine ⟨trees, found, rfl, rfl, ?_⟩
    rcases place with first | ⟨outer, known, _, lower, listed⟩
    · exact .inl first
    · exact .inr ⟨outer, known, lower, listed⟩

theorem mem_children {node child : Nat} (member : child ∈ arena.children node) :
    node < child ∧ ∃ entry, arena.entry? child = some entry ∧ entry.parent = some node := by
  rw [children] at member
  cases present : arena.entry? node with
  | none => simp [present] at member
  | some entry =>
    obtain ⟨trees, holds, listed, _⟩ := exists_holds_of_entry present
    rw [present, Option.map_some, Option.getD_some, listed] at member
    exact holds.below.child member

theorem contains_child {node child : Nat} (member : child ∈ arena.children node) :
    arena.contains child = true := by
  obtain ⟨_, entry, present, _⟩ := mem_children member
  exact contains_of_entry present

theorem parent?_child {node child : Nat} (member : child ∈ arena.children node) :
    arena.parent? child = some node := by
  obtain ⟨_, entry, present, known⟩ := mem_children member
  rw [parent?, present]
  exact known

theorem parent?_lists {node parent : Nat} (known : arena.parent? node = some parent) :
    parent < node ∧ node ∈ arena.children parent := by
  rw [parent?] at known
  obtain ⟨entry, present, named⟩ := Option.bind_eq_some_iff.mp known
  obtain ⟨_, _, _, _, ⟨_, root⟩ | ⟨outer, upward, lower, listed⟩⟩ := exists_holds_of_entry present
  · rw [root] at named
    cases named
  · rw [upward] at named
    obtain rfl := Option.some.inj named
    exact ⟨lower, listed⟩

theorem parent?_lt {node parent : Nat} (known : arena.parent? node = some parent) :
    parent < node :=
  (parent?_lists known).1

theorem contains_of_parent? {node parent : Nat} (known : arena.parent? node = some parent) :
    arena.contains node = true := by
  obtain ⟨entry, present, _⟩ := Option.bind_eq_some_iff.mp known
  exact contains_of_entry present

theorem contains_parent {node parent : Nat} (known : arena.parent? node = some parent) :
    arena.contains parent = true := by
  have inside := contains_iff.mp (contains_of_parent? known)
  have lower := parent?_lt known
  rw [contains_iff]
  omega

theorem exists_parent {node : Nat} {entry : Entry} (present : arena.entry? node = some entry)
    (positive : 0 < node) : ∃ parent, entry.parent = some parent := by
  obtain ⟨_, _, _, _, ⟨rfl, _⟩ | ⟨outer, known, _⟩⟩ := exists_holds_of_entry present
  · omega
  · exact ⟨outer, known⟩

theorem mem_children_of_part? {node child : Nat} {role : Role}
    (found : arena.part? node role = some child) : child ∈ arena.children node :=
  List.mem_of_find?_eq_some found

theorem contains_part {node child : Nat} {role : Role}
    (found : arena.part? node role = some child) : arena.contains child = true :=
  contains_child (mem_children_of_part? found)

theorem contains_argument {node argument : Nat} (member : argument ∈ arena.callArguments node) :
    arena.contains argument = true := by
  rw [callArguments] at member
  split at member
  · cases member
  · exact contains_child member

theorem contains_of_mem_nodes {node : Nat} (member : node ∈ arena.nodes) :
    arena.contains node = true :=
  contains_iff.mpr (List.mem_range.mp member)

theorem contains_of_mem_statements {node : Nat} (member : node ∈ arena.statements) :
    arena.contains node = true :=
  contains_of_mem_nodes (List.mem_filter.mp member).1

theorem contains_of_kind? {node : Nat} {kind : NodeKind} (known : arena.kind? node = some kind) :
    arena.contains node = true := by
  obtain ⟨entry, present, _⟩ := Option.map_eq_some_iff.mp known
  exact contains_of_entry present

theorem hasKind_iff {node : Nat} {kind : NodeKind} :
    arena.hasKind node kind = true ↔ arena.kind? node = some kind :=
  beq_iff_eq

theorem isStatement_iff {node : Nat} :
    arena.isStatement node = true ↔
      ∃ kind, arena.kind? node = some kind ∧ kind.isStatement = true := by
  rw [isStatement, Option.any_eq_true]

theorem mem_statements {node : Nat} :
    node ∈ arena.statements ↔ arena.isStatement node = true := by
  rw [statements, List.mem_filter]
  refine ⟨And.right, fun statement => ⟨?_, statement⟩⟩
  obtain ⟨kind, known, _⟩ := isStatement_iff.mp statement
  exact List.mem_range.mpr (contains_iff.mp (contains_of_kind? known))

end Arena

end RepairMining
