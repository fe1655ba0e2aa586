import Mathlib.Data.List.Basic
import RepairMining.Proofs.Syntax.Arena

namespace RepairMining

namespace Tree

mutual

def subtrees : Tree → List Tree
  | node attributes children => node attributes children :: subtreesAll children

def subtreesAll : List Tree → List Tree
  | [] => []
  | tree :: trees => subtrees tree ++ subtreesAll trees

end

mutual

theorem length_subtrees (tree : Tree) : tree.subtrees.length = tree.size := by
  match tree with
  | node attributes children => rw [subtrees, size, List.length_cons, length_subtreesAll]

theorem length_subtreesAll (trees : List Tree) :
    (subtreesAll trees).length = forestSize trees := by
  match trees with
  | [] => rfl
  | tree :: trees =>
    rw [subtreesAll, forestSize, List.length_append, length_subtrees, length_subtreesAll]

end

mutual

theorem children_induction {motive : Tree → Prop}
    (step : ∀ attributes children, (∀ child ∈ children, motive child) →
      motive (node attributes children)) (tree : Tree) : motive tree := by
  match tree with
  | node attributes children => exact step attributes children (children_inductionAll step children)

theorem children_inductionAll {motive : Tree → Prop}
    (step : ∀ attributes children, (∀ child ∈ children, motive child) →
      motive (node attributes children)) (trees : List Tree) : ∀ tree ∈ trees, motive tree := by
  match trees with
  | [] => simp
  | tree :: trees =>
    rw [List.forall_mem_cons]
    exact ⟨children_induction step tree, children_inductionAll step trees⟩

end

theorem self_mem_subtrees (tree : Tree) : tree ∈ tree.subtrees := by
  cases tree
  rw [subtrees]
  exact List.mem_cons_self

theorem mem_subtreesAll {part : Tree} {trees : List Tree} :
    part ∈ subtreesAll trees ↔ ∃ tree ∈ trees, part ∈ tree.subtrees := by
  induction trees with
  | nil => simp [subtreesAll]
  | cons tree trees ih =>
    rw [subtreesAll, List.mem_append, ih]
    simp

theorem mem_subtrees_node {attributes : Attributes} {children : List Tree} {part : Tree} :
    part ∈ (node attributes children).subtrees ↔
      part = node attributes children ∨ ∃ child ∈ children, part ∈ child.subtrees := by
  rw [subtrees, List.mem_cons, mem_subtreesAll]

theorem mem_subtrees_of_mem_children {child tree : Tree} (member : child ∈ tree.children) :
    child ∈ tree.subtrees := by
  cases tree with
  | node attributes children =>
    exact mem_subtrees_node.mpr (.inr ⟨child, member, self_mem_subtrees child⟩)

theorem forall_subtrees (property : Tree → Prop)
    (down : ∀ attributes children, property (node attributes children) →
      ∀ child ∈ children, property child)
    {tree : Tree} (holds : property tree) : ∀ part ∈ tree.subtrees, property part := by
  induction tree using children_induction with
  | step attributes children ih =>
    intro part member
    rcases mem_subtrees_node.mp member with rfl | ⟨child, listed, below⟩
    · exact holds
    · exact ih child listed (down attributes children holds child listed) part below

theorem subtrees_subset {part tree : Tree} (member : part ∈ tree.subtrees) :
    part.subtrees ⊆ tree.subtrees := by
  refine forall_subtrees (fun part => part.subtrees ⊆ tree.subtrees) ?_
    (List.Subset.refl _) part member
  intro attributes children listed child below part inside
  exact listed (mem_subtrees_node.mpr (.inr ⟨child, below, inside⟩))

theorem length_le_forestSize (trees : List Tree) : trees.length ≤ forestSize trees := by
  induction trees with
  | nil => exact Nat.le_refl 0
  | cons tree trees ih =>
    have positive := tree.size_pos
    rw [List.length_cons, forestSize]
    omega

theorem size_le_forestSize {tree : Tree} {trees : List Tree} (member : tree ∈ trees) :
    tree.size ≤ forestSize trees := by
  induction trees with
  | nil => cases member
  | cons next trees ih =>
    rw [forestSize]
    rcases List.mem_cons.mp member with rfl | member
    · exact Nat.le_add_right _ _
    · exact Nat.le_add_left_of_le (ih member)

theorem length_children_lt (tree : Tree) : tree.children.length < tree.size := by
  cases tree with
  | node attributes children => exact Nat.lt_succ_of_le (length_le_forestSize children)

theorem size_le_of_mem_subtrees {part tree : Tree} (member : part ∈ tree.subtrees) :
    part.size ≤ tree.size := by
  refine forall_subtrees (fun part => part.size ≤ tree.size) ?_
    (Nat.le_refl _) part member
  intro attributes children bounded child below
  have smaller := size_le_forestSize below
  rw [size] at bounded
  omega

variable {α : Type}

theorem foldAll_eq_map (combine : Attributes → List α → α) (trees : List Tree) :
    fold.foldAll combine trees = trees.map (fold combine) := by
  induction trees with
  | nil => rfl
  | cons tree trees ih => rw [fold.foldAll, ih, List.map_cons]

theorem fold_node (combine : Attributes → List α → α) (attributes : Attributes)
    (children : List Tree) :
    (node attributes children).fold combine =
      combine attributes (children.map (fold combine)) := by
  rw [fold, foldAll_eq_map]

theorem fold_id (tree : Tree) : tree.fold node = tree := by
  induction tree using children_induction with
  | step attributes children ih =>
    rw [fold_node, List.map_congr_left ih, List.map_id']

theorem mem_roots {start child : Nat} {trees : List Tree} (member : child ∈ roots start trees) :
    start ≤ child ∧ child < start + forestSize trees := by
  induction trees generalizing start with
  | nil => cases member
  | cons tree trees ih =>
    rw [forestSize]
    rcases List.mem_cons.mp member with rfl | member
    · have positive := tree.size_pos
      omega
    · have inside := ih member
      omega

theorem filterMap_roots (see : Tree → α) (start : Nat) (trees : List Tree) :
    (roots start trees).filterMap (fun child => ((subtreesAll trees).map see)[child - start]?) =
      trees.map see := by
  induction trees generalizing start with
  | nil => rfl
  | cons tree trees ih =>
    have first : ((subtreesAll (tree :: trees)).map see)[start - start]? = some (see tree) := by
      cases tree
      rw [Nat.sub_self, subtreesAll, subtrees]
      rfl
    have rest : ∀ child ∈ roots (start + tree.size) trees,
        ((subtreesAll (tree :: trees)).map see)[child - start]? =
          ((subtreesAll trees).map see)[child - (start + tree.size)]? := by
      intro child member
      have later := (mem_roots member).1
      rw [subtreesAll, List.map_append, List.getElem?_append_right
        (by rw [List.length_map, length_subtrees]; omega), List.length_map, length_subtrees,
        Nat.sub_sub]
    rw [roots, List.filterMap_cons, first, List.filterMap_congr rest, ih, List.map_cons]

end Tree

namespace Arena

variable {α : Type}

/-- One step of a sweep over `count` entries. -/
def sweepStep (combine : Attributes → List α → α) (count : Nat) (entry : Entry)
    (values : Array α) : Array α :=
  values.push (combine entry.attributes
    (entry.children.filterMap fun child => values[count - 1 - child]?))

theorem size_of_swept {see : Tree → α} {trees : List Tree} {values : Array α} {later : List α}
    (swept : values.toList.reverse = (Tree.subtreesAll trees).map see ++ later) :
    values.size = Tree.forestSize trees + later.length := by
  rw [← Array.length_toList, ← List.length_reverse, swept, List.length_append, List.length_map,
    Tree.length_subtreesAll]

/-- The step of a node whose children and their subtrees come right before it in the sweep. -/
theorem sweepStep_node (combine : Attributes → List α → α) {count start stop : Nat}
    {parent : Option Nat} {attributes : Attributes} {children : List Tree} {values : Array α}
    {later : List α}
    (swept : values.toList.reverse =
      (Tree.subtreesAll children).map (Tree.fold combine) ++ later)
    (counted : values.size + (start + 1) = count) :
    (sweepStep combine count ⟨attributes, parent, Tree.roots (start + 1) children, stop⟩
        values).toList.reverse =
      (Tree.node attributes children).subtrees.map (Tree.fold combine) ++ later := by
  have sized := size_of_swept swept
  have found : ∀ child ∈ Tree.roots (start + 1) children, values[count - 1 - child]? =
      ((Tree.subtreesAll children).map (Tree.fold combine))[child - (start + 1)]? := by
    intro child member
    have bounds := Tree.mem_roots member
    -- The values are pushed from the last node on, so read backwards they are in pre-order.
    rw [← List.getElem?_append_left
      (by rw [List.length_map, Tree.length_subtreesAll]; omega), ← swept, List.getElem?_reverse
      (by rw [Array.length_toList]; omega), Array.length_toList, ← Array.getElem?_toList]
    congr 1
    omega
  rw [sweepStep, Array.toList_push, List.reverse_append, swept, List.filterMap_congr found,
    Tree.filterMap_roots, Tree.subtrees, List.map_cons, Tree.fold_node]
  rfl

mutual

theorem foldr_layout (combine : Attributes → List α → α) (count start : Nat)
    (parent : Option Nat) (tree : Tree) (values : Array α)
    (counted : values.size + (start + tree.size) = count) :
    ((tree.layout parent start).foldr (sweepStep combine count) values).toList.reverse =
      tree.subtrees.map (Tree.fold combine) ++ values.toList.reverse := by
  match tree with
  | .node attributes children =>
    rw [Tree.size] at counted
    have below := foldr_layoutForest combine count (start + 1) start children values (by omega)
    have sized := size_of_swept below
    rw [List.length_reverse, Array.length_toList] at sized
    exact sweepStep_node combine below (by omega)

theorem foldr_layoutForest (combine : Attributes → List α → α) (count start parent : Nat)
    (trees : List Tree) (values : Array α)
    (counted : values.size + (start + Tree.forestSize trees) = count) :
    ((Tree.layoutForest parent start trees).foldr (sweepStep combine count)
        values).toList.reverse =
      (Tree.subtreesAll trees).map (Tree.fold combine) ++ values.toList.reverse := by
  match trees with
  | [] => rfl
  | tree :: trees =>
    rw [Tree.forestSize] at counted
    have rest := foldr_layoutForest combine count (start + tree.size) parent trees values (by omega)
    have sized := size_of_swept rest
    rw [List.length_reverse, Array.length_toList] at sized
    rw [Tree.layoutForest, List.foldr_append,
      foldr_layout combine count start (some parent) tree _ (by omega), rest, Tree.subtreesAll,
      List.map_append, List.append_assoc]

end

theorem sweep_ofTree (combine : Attributes → List α → α) (tree : Tree) :
    sweep (fun entry => combine entry.attributes) (ofTree tree).entries =
      (tree.subtrees.map (Tree.fold combine)).reverse.toArray := by
  have sized : (ofTree tree).entries.size = tree.size := size_ofTree tree
  have swept := foldr_layout combine tree.size 0 none tree #[]
    ((Nat.zero_add _).trans (Nat.zero_add _))
  rw [List.reverse_nil, List.append_nil] at swept
  rw [← swept, List.reverse_reverse, Array.toArray_toList, sweep, ← Array.foldr_toList, sized]
  rfl

theorem toTree_ofTree (tree : Tree) : (ofTree tree).toTree = tree := by
  rw [toTree, sweep_ofTree Tree.node]
  cases tree with
  | node attributes children =>
    rw [Tree.subtrees, List.map_cons, Tree.fold_id, List.reverse_cons, List.back?_toArray,
      List.getLast?_concat, Option.getD_some]

theorem ofTree_toTree (arena : Arena) : ofTree arena.toTree = arena := by
  obtain ⟨tree, same⟩ := arena.laid_out
  have numbered : arena = ofTree tree := by
    cases arena
    simp only [ofTree, mk.injEq]
    exact congrArg List.toArray same
  rw [numbered, toTree_ofTree]

mutual

theorem Holds.part {arena : Arena} {parent : Option Nat} {start offset : Nat} {tree part : Tree}
    (holds : arena.Holds parent start tree) (found : tree.subtrees[offset]? = some part) :
    ∃ above, arena.Holds above (start + offset) part := by
  match tree, offset with
  | .node attributes children, 0 =>
    obtain rfl := Option.some.inj found
    exact ⟨parent, holds⟩
  | .node attributes children, offset + 1 =>
    rw [Tree.subtrees, List.getElem?_cons_succ] at found
    rw [Nat.add_comm offset 1, ← Nat.add_assoc]
    exact holds.below.part found

theorem HoldsAll.part {arena : Arena} {parent start offset : Nat} {trees : List Tree} {part : Tree}
    (holds : arena.HoldsAll parent start trees)
    (found : (Tree.subtreesAll trees)[offset]? = some part) :
    ∃ above, arena.Holds above (start + offset) part := by
  match trees with
  | [] => cases found
  | tree :: trees =>
    rw [Tree.subtreesAll] at found
    by_cases early : offset < tree.subtrees.length
    · rw [List.getElem?_append_left early] at found
      exact holds.head.part found
    · rw [List.getElem?_append_right (by omega), Tree.length_subtrees] at found
      rw [Tree.length_subtrees] at early
      rw [show start + offset = start + tree.size + (offset - tree.size) by omega]
      exact holds.tail.part found

end

theorem holds_ofTree {tree part : Tree} {node : Nat} (found : tree.subtrees[node]? = some part) :
    ∃ above, (ofTree tree).Holds above node part := by
  have root : (ofTree tree).Holds none 0 tree := by
    intro offset entry place
    rw [entry?_eq_getElem?, Nat.zero_add]
    exact place
  rw [← Nat.zero_add node]
  exact root.part found

end Arena

end RepairMining
