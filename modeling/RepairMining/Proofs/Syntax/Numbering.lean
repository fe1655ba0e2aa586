import RepairMining.Proofs.Syntax.Subtrees

/-!
Numbering with a stack. A loop takes trees from a stack and gives them the next number, and a sweep
from the last node to the first then finds where every subtree ends. This gives the same numbered
tree as laying out a tree and all below it.
-/

namespace RepairMining

theorem modify_append_left {α : Type} {items more : List α} {place : Nat} (change : α → α)
    (inside : place < items.length) :
    (items ++ more).modify place change = items.modify place change ++ more := by
  induction items generalizing place with
  | nil => cases inside
  | cons first items ih =>
    cases place with
    | zero => rfl
    | succ place => exact congrArg (first :: ·) (ih (Nat.lt_of_succ_lt_succ inside))

theorem modify_append_length {α : Type} (change : α → α) (items : List α) (item : α)
    (more : List α) :
    (items ++ item :: more).modify items.length change = items ++ change item :: more := by
  induction items with
  | nil => rfl
  | cons first items ih => exact congrArg (first :: ·) ih

namespace Entry

def adopt (more : List Nat) (entry : Entry) : Entry :=
  { entry with children := entry.children ++ more }

def unclosed (entry : Entry) : Entry := { entry with stop := 0 }

theorem adopt_nil : adopt [] = id := by
  funext entry
  rw [adopt, List.append_nil]
  rfl

theorem adopt_adopt (first second : List Nat) :
    adopt second ∘ adopt first = adopt (first ++ second) := by
  funext entry
  rw [Function.comp_apply, adopt, adopt, adopt, List.append_assoc]

/-- Where the subtree of an entry ends: with that of its last child, or with its root if it has no
children. -/
def ending (entries : List Entry) (node : Nat) (entry : Entry) : Nat :=
  match entry.children.getLast? with
  | none => node + 1
  | some last => ((entries[last]?).map (·.stop)).getD 0

def closeAt (node : Nat) (entries : List Entry) : List Entry :=
  entries.modify node fun entry => { entry with stop := ending entries node entry }

def close (entries : List Entry) : List Entry := (List.range entries.length).foldr closeAt entries

end Entry

namespace Tree

theorem forestSize_append (trees others : List Tree) :
    forestSize (trees ++ others) = forestSize trees + forestSize others := by
  induction trees with
  | nil => rw [List.nil_append, forestSize, Nat.zero_add]
  | cons tree trees ih => rw [List.cons_append, forestSize, forestSize, ih, Nat.add_assoc]

def under (parent : Nat) (trees : List Tree) : List (Tree × Option Nat) :=
  trees.map fun tree => (tree, some parent)

theorem map_fst_under (parent : Nat) (trees : List Tree) :
    (under parent trees).map (·.1) = trees := by
  rw [under, List.map_map]
  exact List.map_id' trees

/-- Takes the trees from the stack, each with the number of its parent. Every tree gets the next
number and is listed by its parent, and its children come on top of the stack. -/
def number : List (Tree × Option Nat) → List Entry → List Entry
  | [], entries => entries
  | (node attributes children, parent) :: waiting, entries =>
    let listed := match parent with
      | none => entries
      | some parent => entries.modify parent (Entry.adopt [entries.length])
    number (under entries.length children ++ waiting) (listed ++ [⟨attributes, parent, [], 0⟩])
termination_by waiting => forestSize (waiting.map (·.1))
decreasing_by
  rw [List.map_append, map_fst_under, forestSize_append, List.map_cons, forestSize, size]
  omega

mutual

theorem number_tree (tree : Tree) (waiting : List (Tree × Option Nat)) (parent : Nat)
    (entries : List Entry) :
    number ((tree, some parent) :: waiting) entries =
      number waiting (entries.modify parent (Entry.adopt [entries.length]) ++
        (tree.layout (some parent) entries.length).map Entry.unclosed) := by
  match tree with
  | node attributes children =>
    rw [number, layout, List.map_cons]
    generalize adopted : entries.modify parent (Entry.adopt [entries.length]) = listed
    have same : entries.length = listed.length := by
      rw [← adopted, List.length_modify]
    rw [same]
    have below := number_forest children waiting listed.length
      (listed ++ [⟨attributes, some parent, [], 0⟩]) (by simp)
    rw [modify_append_length, List.length_append, List.append_assoc] at below
    exact below

theorem number_forest (trees : List Tree) (waiting : List (Tree × Option Nat)) (parent : Nat)
    (entries : List Entry) (known : parent < entries.length) :
    number (under parent trees ++ waiting) entries =
      number waiting (entries.modify parent (Entry.adopt (roots entries.length trees)) ++
        (layoutForest parent entries.length trees).map Entry.unclosed) := by
  match trees with
  | [] =>
    rw [roots, Entry.adopt_nil, List.modify_id, layoutForest, List.map_nil, List.append_nil]
    rfl
  | tree :: trees =>
    have first := number_tree tree (under parent trees ++ waiting) parent entries
    generalize added : entries.modify parent (Entry.adopt [entries.length]) ++
      (tree.layout (some parent) entries.length).map Entry.unclosed = grown at first
    have length : grown.length = entries.length + tree.size := by
      rw [← added, List.length_append, List.length_modify, List.length_map, length_layout]
    have rest := number_forest trees waiting parent grown (show parent < grown.length by omega)
    rw [length, ← added, modify_append_left _ (by rw [List.length_modify]; exact known),
      List.modify_modify_eq, Entry.adopt_adopt, List.append_assoc] at rest
    rw [roots, layoutForest, List.map_append]
    exact first.trans (added ▸ rest)

end

theorem number_root (tree : Tree) :
    number [(tree, none)] [] = (tree.layout none 0).map Entry.unclosed := by
  cases tree with
  | node attributes children =>
    have below := number_forest children [] 0 [⟨attributes, none, [], 0⟩] Nat.one_pos
    rw [List.append_nil, number] at below
    rw [number, layout, List.map_cons, List.append_nil]
    exact below

end Tree

namespace Arena

variable {arena : Arena}

theorem HoldsAll.last {parent start last : Nat} {trees : List Tree}
    (holds : arena.HoldsAll parent start trees)
    (final : (Tree.roots start trees).getLast? = some last) :
    ∃ entry, arena.entry? last = some entry ∧ entry.stop = start + Tree.forestSize trees := by
  induction trees generalizing start with
  | nil => cases final
  | cons tree trees ih =>
    cases trees with
    | nil =>
      obtain rfl := Option.some.inj final
      cases tree with
      | node attributes children =>
        refine ⟨_, holds.head.root, ?_⟩
        dsimp only
        rw [Tree.forestSize, Tree.forestSize, Tree.size]
        omega
    | cons next trees =>
      rw [Tree.roots, Tree.roots, List.getLast?_cons_cons] at final
      obtain ⟨entry, present, ends⟩ := ih holds.tail final
      refine ⟨entry, present, ?_⟩
      rw [ends, Nat.add_assoc, ← Tree.forestSize]

/-- Every subtree ends as its last child says, and the entry of that child comes later. -/
theorem stop_eq_ending {node : Nat} {entry : Entry} (present : arena.entry? node = some entry)
    {entries : List Entry}
    (agree : ∀ later, node < later → entries[later]? = arena.entry? later) :
    entry.stop = Entry.ending entries node entry := by
  obtain ⟨trees, holds, listed, wide, _⟩ := exists_holds_of_entry present
  rw [Entry.ending]
  cases final : entry.children.getLast? with
  | none =>
    rw [listed] at final
    cases trees with
    | nil => exact wide
    | cons tree trees => simp [Tree.roots] at final
  | some last =>
    rw [listed] at final
    obtain ⟨closed, there, ends⟩ := holds.below.last final
    have later := (Tree.mem_roots (List.mem_of_getLast? final)).1
    simp only [agree last later, there, Option.map_some, Option.getD_some, ends, wide]

theorem closeAt_entry {entry : Entry} {earlier : List Entry}
    (present : arena.entry? earlier.length = some entry) :
    Entry.closeAt earlier.length
        (earlier ++ entry.unclosed :: arena.entries.toList.drop (earlier.length + 1)) =
      earlier ++ entry :: arena.entries.toList.drop (earlier.length + 1) := by
  rw [Entry.closeAt, modify_append_length]
  generalize reached : earlier ++ entry.unclosed :: arena.entries.toList.drop (earlier.length + 1) =
    entries
  have agree : ∀ later, earlier.length < later → entries[later]? = arena.entry? later := by
    intro later after
    obtain ⟨more, rfl⟩ := Nat.exists_eq_add_of_lt after
    rw [← reached, entry?_eq_getElem?, List.getElem?_append_right (by omega), Nat.add_assoc,
      Nat.add_sub_cancel_left, List.getElem?_cons_succ, List.getElem?_drop]
    congr 1
    omega
  have ends : entry.stop = Entry.ending entries earlier.length entry.unclosed :=
    stop_eq_ending present agree
  rw [← ends]
  rfl

/-- Once the sweep has closed the entries from `count` on, the steps that are left close the
others. -/
theorem foldr_closeAt (arena : Arena) {count : Nat} (bounded : count ≤ arena.size) :
    (List.range count).foldr Entry.closeAt
        ((arena.entries.toList.take count).map Entry.unclosed ++ arena.entries.toList.drop count) =
      arena.entries.toList := by
  induction count with
  | zero => rfl
  | succ count ih =>
    have inside : count < arena.entries.toList.length := bounded
    have present : arena.entry? count = some arena.entries.toList[count] := by
      rw [entry?_eq_getElem?, List.getElem?_eq_getElem inside]
    have placed : ((arena.entries.toList.take count).map Entry.unclosed).length = count := by
      rw [List.length_map, List.length_take_of_le (Nat.le_of_lt inside)]
    have step := closeAt_entry (show arena.entry? _ = some arena.entries.toList[count] by
      rw [placed, present])
    rw [placed] at step
    rw [List.range_succ, List.foldr_append, List.foldr_cons, List.foldr_nil,
      List.take_succ_eq_append_getElem inside, List.map_append, List.append_assoc,
      List.map_singleton, List.singleton_append, step, ← List.drop_eq_getElem_cons inside]
    exact ih (Nat.le_of_lt bounded)

theorem close_number (tree : Tree) :
    Entry.close (Tree.number [(tree, none)] []) = (ofTree tree).entries.toList := by
  have all : (Tree.number [(tree, none)] []).length = (ofTree tree).entries.toList.length := by
    rw [Tree.number_root, List.length_map]
    rfl
  have closed := foldr_closeAt (ofTree tree) (Nat.le_refl _)
  rw [size, ← Array.length_toList, List.take_length, List.drop_length, List.append_nil] at closed
  rw [Entry.close, all, Tree.number_root]
  exact closed

end Arena

end RepairMining
