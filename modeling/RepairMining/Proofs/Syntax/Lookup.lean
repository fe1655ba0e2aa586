import RepairMining.Proofs.Syntax.Intervals
import RepairMining.Proofs.Traversal
import RepairMining.Syntax.Lookup

namespace RepairMining.Arena

open Traversal

variable {arena : Arena} {node : Nat}

theorem readEntry_of_entry {entry : Entry} (present : arena.entry? node = some entry) :
    arena.readEntry node = .ok entry := by
  rw [readEntry, present]

theorem readEntry_eq_error_iff :
    arena.readEntry node = .error node ↔ ¬ arena.contains node = true := by
  rw [readEntry]
  cases present : arena.entry? node with
  | none =>
    refine iff_of_true rfl fun inside => ?_
    obtain ⟨entry, there⟩ := exists_entry inside
    rw [present] at there
    cases there
  | some entry => exact iff_of_false (by simp) (not_not_intro (contains_of_entry present))

theorem readHasKind_ok (inside : arena.contains node = true) (kind : NodeKind) :
    arena.readHasKind node kind = .ok (arena.hasKind node kind) := by
  obtain ⟨entry, present⟩ := exists_entry inside
  simp [readHasKind, readKind, readEntry_of_entry present, Except.map, hasKind, kind?, present]

theorem readIsStatement_ok (inside : arena.contains node = true) :
    arena.readIsStatement node = .ok (arena.isStatement node) := by
  obtain ⟨entry, present⟩ := exists_entry inside
  simp [readIsStatement, readKind, readEntry_of_entry present, Except.map, isStatement, kind?,
    present]

theorem readIsLoop_ok (inside : arena.contains node = true) :
    arena.readIsLoop node = .ok (arena.isLoop node) := by
  obtain ⟨entry, present⟩ := exists_entry inside
  simp [readIsLoop, readKind, readEntry_of_entry present, Except.map, isLoop, kind?, present]

theorem readRole_ok (inside : arena.contains node = true) :
    arena.readRole node = .ok (arena.role? node) := by
  obtain ⟨entry, present⟩ := exists_entry inside
  simp [readRole, readEntry_of_entry present, Except.map, role?, present]

theorem readParent_ok (inside : arena.contains node = true) :
    arena.readParent node = .ok (arena.parent? node) := by
  obtain ⟨entry, present⟩ := exists_entry inside
  simp [readParent, readEntry_of_entry present, Except.map, parent?, present]

theorem readChildren_ok (inside : arena.contains node = true) :
    arena.readChildren node = .ok (arena.children node) := by
  obtain ⟨entry, present⟩ := exists_entry inside
  simp [readChildren, readEntry_of_entry present, Except.map, children, present]

theorem readSubtree_ok (inside : arena.contains node = true) :
    arena.readSubtree node = .ok (arena.subtree node) := by
  obtain ⟨entry, present⟩ := exists_entry inside
  simp [readSubtree, readEntry_of_entry present, Except.map, subtree, present]

theorem readIsAncestorOrSelf_ok {ancestor : Nat} (inside : arena.contains ancestor = true) :
    arena.readIsAncestorOrSelf ancestor node = .ok (arena.isAncestorOrSelf ancestor node) := by
  obtain ⟨entry, present⟩ := exists_entry inside
  rw [readIsAncestorOrSelf, isAncestorOrSelf, readEntry_of_entry present, present]
  by_cases lower : ancestor ≤ node <;> simp [lower, Except.map]

theorem readStatements_ok (arena : Arena) : arena.readStatements = .ok arena.statements :=
  filterM_ok fun _ member => readIsStatement_ok (contains_of_mem_nodes member)

theorem readPart_ok (inside : arena.contains node = true) (role : Role) :
    arena.readPart node role = .ok (arena.part? node role) := by
  rw [readPart, readChildren_ok inside, ok_bind, part?]
  apply findM?_ok
  intro child member
  rw [readRole_ok (contains_child member), ok_bind, pure_eq_ok]

theorem readArguments_ok (inside : arena.contains node = true) :
    arena.readArguments node = .ok (arena.callArguments node) := by
  rw [readArguments, readPart_ok inside, ok_bind, callArguments]
  cases present : arena.part? node .args with
  | none => rfl
  | some list => exact readChildren_ok (contains_part present)

theorem readUnwrapped_ok (inside : arena.contains node = true) :
    arena.readUnwrapped node = .ok (arena.unwrapBlock node) := by
  rw [readUnwrapped, readChildren_ok inside, ok_bind, unwrapBlock]
  rcases arena.children node with _ | ⟨only, _ | ⟨second, rest⟩⟩
  · rfl
  · simp only [readHasKind_ok inside, ok_bind]
    split <;> rfl
  · rfl

theorem readAscent_ok {test : Nat → Except Nat Bool} {plain : Nat → Bool}
    (agree : ∀ above, arena.contains above = true → test above = .ok (plain above))
    (inside : arena.contains node = true) (steps : Nat) :
    arena.readAscent test steps node = .ok ((arena.climb steps node).find? plain) := by
  induction steps generalizing node with
  | zero => rfl
  | succ steps ih =>
    obtain ⟨entry, present⟩ := exists_entry inside
    have upward : arena.parent? node = entry.parent := by
      rw [parent?, present, Option.bind_some]
    rw [readAscent, agree node inside, ok_bind, climb, present]
    dsimp only
    rw [List.find?_cons]
    cases plain node with
    | true => rfl
    | false =>
      simp only [Bool.false_eq_true, if_false]
      rw [readParent_ok inside, ok_bind, upward]
      cases known : entry.parent with
      | none => rfl
      | some parent => exact ih (contains_parent (upward.trans known))

theorem readNearest_ok {test : Nat → Except Nat Bool} {plain : Nat → Bool}
    (agree : ∀ above, arena.contains above = true → test above = .ok (plain above))
    (inside : arena.contains node = true) :
    arena.readNearest node test = .ok (arena.nearest? node plain) :=
  readAscent_ok agree inside (node + 1)

theorem readEnclosingStatement_ok (inside : arena.contains node = true) :
    arena.readEnclosingStatement node = .ok (arena.enclosingStatement? node) :=
  readNearest_ok (fun _ => readIsStatement_ok) inside

theorem readEnclosingStatementWhere_ok (inside : arena.contains node = true)
    (mapped : Nat → Bool) :
    arena.readEnclosingStatementWhere node mapped =
      .ok (arena.enclosingStatementWhere? node mapped) := by
  refine readNearest_ok (fun above there => ?_) inside
  rw [readIsStatement_ok there, ok_bind, pure_eq_ok]

theorem contains_unwrapBlock (inside : arena.contains node = true) :
    arena.contains (arena.unwrapBlock node) = true := by
  rw [unwrapBlock]
  split
  · rename_i only single
    split
    · exact contains_child (single ▸ List.mem_singleton_self only)
    · exact inside
  · exact inside

end RepairMining.Arena
