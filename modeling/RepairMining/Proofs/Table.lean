import Mathlib.Data.List.Forall2
import RepairMining.Table

namespace RepairMining.Table

variable {κ α : Type} [Vocabulary κ] {table : Table κ α} {key : κ}

theorem mem_entries {value : α} : (key, value) ∈ table.entries ↔ table.get? key = some value := by
  rw [entries, List.mem_filterMap]
  constructor
  · rintro ⟨other, _, found⟩
    obtain ⟨held, present, same⟩ := Option.map_eq_some_iff.mp found
    obtain ⟨rfl, rfl⟩ := Prod.mk.inj same
    exact present
  · intro present
    exact ⟨key, Vocabulary.mem_all key, by rw [present]; rfl⟩

omit [Vocabulary κ] in
theorem get?_foldl_insert [DecidableEq κ] (table : Table κ α) {entries : List (κ × α)}
    (held : ∀ entry ∈ entries, table.get? entry.1 = some entry.2) (start : Table κ α) (key : κ) :
    (entries.foldl (fun grown entry => grown.insert entry.1 entry.2) start).get? key =
      if key ∈ entries.map (·.1) then table.get? key else start.get? key := by
  induction entries generalizing start with
  | nil => rfl
  | cons entry entries ih =>
    rw [List.foldl_cons, ih (fun other member => held other (List.mem_cons_of_mem entry member)),
      List.map_cons]
    by_cases later : key ∈ entries.map (·.1)
    · rw [if_pos later, if_pos (List.mem_cons_of_mem entry.1 later)]
    · rw [if_neg later]
      by_cases same : key = entry.1
      · subst same
        rw [if_pos List.mem_cons_self, get?_insert_self, held entry List.mem_cons_self]
      · rw [if_neg (by simp [same, later]), get?_insert_ne start entry.2 same]

omit [Vocabulary κ] in
theorem lookup_related [DecidableEq κ] {β : Type} {related : α → β → Prop}
    {entries : List (κ × α)} {others : List (κ × β)}
    (each : List.Forall₂ (fun entry other => entry.1 = other.1 ∧ related entry.2 other.2) entries
      others) (key : κ) :
    Option.Rel related (entries.lookup key) (others.lookup key) := by
  induction each with
  | nil => exact .none
  | @cons entry other _ _ first _ ih =>
    obtain ⟨same, values⟩ := first
    rw [List.lookup_cons, List.lookup_cons, same]
    cases key == other.1 with
    | true => exact .some values
    | false => exact ih

omit [Vocabulary κ] in
theorem get?_foldl_insert_last [DecidableEq κ] (entries : List (κ × α)) (start : Table κ α)
    (key : κ) :
    (entries.foldl (fun grown entry => grown.insert entry.1 entry.2) start).get? key =
      (entries.reverse.lookup key).or (start.get? key) := by
  induction entries generalizing start with
  | nil => rfl
  | cons entry entries ih =>
    obtain ⟨other, value⟩ := entry
    have first : ([(other, value)].lookup key).or (start.get? key) =
        (start.insert other value).get? key := by
      by_cases same : key = other
      · simp [same, insert]
      · simp [same, List.lookup_cons, insert, beq_eq_false_iff_ne.mpr same]
    rw [List.foldl_cons, ih, List.reverse_cons, List.lookup_append, Option.or_assoc, first]

theorem foldl_entries [DecidableEq κ] (table : Table κ α) :
    table.entries.foldl (fun grown entry => grown.insert entry.1 entry.2) .empty = table := by
  refine ext fun key => ?_
  rw [get?_foldl_insert table fun entry member => mem_entries.mp member]
  split
  · rfl
  · rename_i absent
    cases present : table.get? key with
    | none => rfl
    | some value =>
      exact absurd (List.mem_map.mpr ⟨(key, value), mem_entries.mpr present, rfl⟩) absent

end RepairMining.Table
