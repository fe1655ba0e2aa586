import Mathlib.Logic.Relation
import RepairMining.Proofs.Syntax.Ancestors

namespace RepairMining.Arena

variable {arena : Arena} {node above found : Nat} {test : Nat → Bool}

/-- Goes from a node to its parent until the test is passed or the root is left behind. There is no
result if the tree lacks a node whose parent is asked for. -/
def ascend (arena : Arena) (test : Nat → Bool) (node : Nat) : Option (Option Nat) :=
  if test node then some (some node)
  else if arena.contains node then
    match upward : arena.parent? node with
    | none => some none
    | some parent =>
      have : parent < node := parent?_lt upward
      ascend arena test parent
  else none
termination_by node

theorem ascend_eq_nearest? (inside : arena.contains node = true) :
    arena.ascend test node = some (arena.nearest? node test) := by
  fun_induction ascend arena test node with
  | case1 node here => rw [nearest?_eq inside, if_pos here]
  | case2 node misses _ root => rw [nearest?_eq inside, if_neg misses, root, Option.bind_none]
  | case3 node misses _ parent known _ ih =>
    rw [ih (contains_parent known), nearest?_eq inside, if_neg misses, known, Option.bind_some]
  | case4 node misses outside => exact absurd inside outside

theorem nearest?_eq_none_iff :
    arena.nearest? node test = none ↔ ∀ above ∈ arena.chain node, test above = false := by
  rw [nearest?, List.find?_eq_none]
  simp only [Bool.not_eq_true]

theorem contains_ancestor (member : above ∈ arena.chain node) : arena.contains above = true := by
  obtain ⟨entry, present, _⟩ := inside_of_mem_chain member
  exact contains_of_entry present

theorem mem_chain_iff_reached (inside : arena.contains node = true) :
    above ∈ arena.chain node ↔
      Relation.ReflTransGen (fun child parent => arena.parent? child = some parent) node above := by
  constructor
  · intro member
    induction node using Nat.strongRecOn with
    | ind node ih =>
      cases known : arena.parent? node with
      | none =>
        obtain rfl := eq_of_mem_chain_root known member
        exact .refl
      | some parent =>
        rcases (mem_chain_iff known).mp member with rfl | higher
        · exact .refl
        · exact .head known (ih parent (parent?_lt known) (contains_parent known) higher)
  · intro reached
    induction reached with
    | refl => exact mem_chain_self inside
    | tail _ known ih => exact mem_chain_trans (parent_mem_chain known) ih

theorem nearest_iff_misses_below {fits : Nat → Prop} : arena.Nearest fits node found ↔
    found ∈ arena.chain node ∧ fits found ∧
      ∀ between ∈ arena.chain node, arena.ProperAncestor found between → ¬ fits between := by
  constructor
  · rintro ⟨onWay, here, deepest⟩
    refine ⟨onWay, here, ?_⟩
    rintro between member ⟨below, apart⟩ alsoFits
    exact apart (eq_of_mem_chain below (deepest between member alsoFits))
  · rintro ⟨onWay, here, misses⟩
    refine ⟨onWay, here, ?_⟩
    intro other member alsoFits
    by_contra below
    have lower : found ≤ other := by
      by_contra more
      exact below (mem_chain_of_le member onWay (Nat.le_of_not_le more))
    refine misses other member ⟨mem_chain_of_le onWay member lower, ?_⟩ alsoFits
    rintro rfl
    exact below (mem_chain_self (contains_ancestor member))

theorem enclosingStatement?_eq_some_iff : arena.enclosingStatement? node = some found ↔
    arena.Nearest (fun above => arena.isStatement above = true) node found :=
  nearest?_eq_some_iff

theorem enclosingStatementWhere?_above {mapped : Nat → Bool}
    (kept : arena.enclosingStatementWhere? node mapped = some found) :
    ∃ stmt, arena.enclosingStatement? node = some stmt ∧ found ∈ arena.chain stmt := by
  have nearest := (enclosingStatementWhere?_eq_some_iff fun _ => Iff.rfl).mp kept
  have there : ∃ other ∈ arena.chain node, arena.isStatement other = true :=
    ⟨found, nearest.above, nearest.holds.1⟩
  obtain ⟨stmt, statement⟩ := exists_nearest there
  exact ⟨stmt, enclosingStatement?_eq_some_iff.mpr statement,
    statement.deepest found nearest.above nearest.holds.1⟩

/-- A walk up from a node of the tree comes to an end inside the tree. It finds the deepest node on
the way along the parents that passes the test, and nothing exactly if none does. So the nearest
statement around a node is a statement with none below it on this way, and the nearest one that a
further test lets through is on this way too, at the nearest statement or above it. -/
theorem ascend_finds_deepest (inside : arena.contains node = true) (test : Nat → Bool) :
    arena.ascend test node = some (arena.nearest? node test) ∧
      (∀ above, above ∈ arena.chain node ↔ Relation.ReflTransGen
        (fun child parent => arena.parent? child = some parent) node above) ∧
      (∀ found, arena.nearest? node test = some found ↔ found ∈ arena.chain node ∧
        test found = true ∧
        ∀ other ∈ arena.chain node, test other = true → other ∈ arena.chain found) ∧
      (arena.nearest? node test = none ↔ ∀ above ∈ arena.chain node, test above = false) ∧
      (∀ stmt, arena.enclosingStatement? node = some stmt ↔ stmt ∈ arena.chain node ∧
        arena.isStatement stmt = true ∧
        ∀ between ∈ arena.chain node, arena.ProperAncestor stmt between →
          ¬ arena.isStatement between = true) ∧
      ∀ mapped kept, arena.enclosingStatementWhere? node mapped = some kept →
        kept ∈ arena.chain node ∧ arena.isStatement kept = true ∧ mapped kept = true ∧
          ∃ stmt, arena.enclosingStatement? node = some stmt ∧ kept ∈ arena.chain stmt := by
  refine ⟨ascend_eq_nearest? inside, fun above => mem_chain_iff_reached inside, ?_,
    nearest?_eq_none_iff, ?_, ?_⟩
  · intro found
    rw [nearest?_eq_some_iff]
    constructor
    · intro nearest
      exact ⟨nearest.above, nearest.holds, nearest.deepest⟩
    · rintro ⟨onWay, here, deepest⟩
      exact ⟨onWay, here, deepest⟩
  · intro stmt
    rw [enclosingStatement?_eq_some_iff, nearest_iff_misses_below]
  · intro mapped kept found
    obtain ⟨onWay, ⟨statement, here⟩, _⟩ :=
      (enclosingStatementWhere?_eq_some_iff fun _ => Iff.rfl).mp found
    exact ⟨onWay, statement, here, enclosingStatementWhere?_above found⟩

def nestedCall : Tree :=
  .node ⟨.translationUnit, none, none, none⟩
    [.node ⟨.block, none, none, none⟩
      [.node ⟨.exprStatement, none, none, none⟩ [.node ⟨.functionCall, none, none, none⟩ []]]]

theorem ascend_finds_block :
    (ofTree nestedCall).contains 3 = true ∧
      (ofTree nestedCall).ascend (fun above => above == 1) 3 = some (some 1) ∧
      (ofTree nestedCall).enclosingStatement? 3 = some 2 ∧
      (ofTree nestedCall).enclosingStatementWhere? 3 (fun above => above == 1) = some 1 ∧
      1 ∈ (ofTree nestedCall).chain 2 := by
  have inside : (ofTree nestedCall).contains 3 = true := by decide
  have nearest : (ofTree nestedCall).enclosingStatement? 3 = some 2 := by decide
  have kept : (ofTree nestedCall).enclosingStatementWhere? 3 (fun above => above == 1) = some 1 :=
    by decide
  obtain ⟨walked, _, _, _, _, attribution⟩ :=
    ascend_finds_deepest inside fun above => above == 1
  have found : (ofTree nestedCall).nearest? 3 (fun above => above == 1) = some 1 := by decide
  obtain ⟨_, _, _, stmt, alsoNearest, above⟩ := attribution _ 1 kept
  obtain rfl := Option.some.inj (nearest.symm.trans alsoNearest)
  exact ⟨inside, by rw [walked, found], nearest, kept, above⟩

end RepairMining.Arena
