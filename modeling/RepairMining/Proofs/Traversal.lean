namespace RepairMining

variable {ε α β : Type}

@[simp] theorem Traversal.ok_bind (value : α) (next : α → Except ε β) :
    (Except.ok value >>= next) = next value := rfl

@[simp] theorem Traversal.pure_eq_ok (value : α) : (pure value : Except ε α) = .ok value := rfl

namespace Traversal

variable {items : List α}

theorem mapM_ok {read : α → Except ε β} {plain : α → β}
    (agree : ∀ item ∈ items, read item = .ok (plain item)) :
    items.mapM read = .ok (items.map plain) := by
  induction items with
  | nil => rfl
  | cons item items ih =>
    rw [List.mapM_cons, agree item List.mem_cons_self,
      ih fun other member => agree other (List.mem_cons_of_mem item member)]
    rfl

theorem filterMapM_ok {read : α → Except ε (Option β)} {plain : α → Option β}
    (agree : ∀ item ∈ items, read item = .ok (plain item)) :
    items.filterMapM read = .ok (items.filterMap plain) := by
  induction items with
  | nil => rfl
  | cons item items ih =>
    rw [List.filterMapM_cons, agree item List.mem_cons_self, List.filterMap_cons]
    have rest := ih fun other member => agree other (List.mem_cons_of_mem item member)
    cases plain item with
    | none => exact rest
    | some value =>
      rw [ok_bind]
      simp only [rest]
      rfl

theorem filterAuxM_ok {read : α → Except ε Bool} {plain : α → Bool} (kept : List α)
    (agree : ∀ item ∈ items, read item = .ok (plain item)) :
    items.filterAuxM read kept = .ok ((items.filter plain).reverse ++ kept) := by
  induction items generalizing kept with
  | nil => rfl
  | cons item items ih =>
    have rest := fun kept => ih kept fun other member =>
      agree other (List.mem_cons_of_mem item member)
    rw [List.filterAuxM, agree item List.mem_cons_self, ok_bind, rest]
    cases passes : plain item with
    | false => rw [List.filter_cons_of_neg (by simp [passes]), cond_false]
    | true =>
      rw [List.filter_cons_of_pos passes, cond_true, List.reverse_cons, List.append_assoc,
        List.singleton_append]

theorem filterM_ok {read : α → Except ε Bool} {plain : α → Bool}
    (agree : ∀ item ∈ items, read item = .ok (plain item)) :
    items.filterM read = .ok (items.filter plain) := by
  rw [List.filterM, filterAuxM_ok [] agree, ok_bind, List.append_nil, List.reverse_reverse]
  rfl

theorem findM?_ok {read : α → Except ε Bool} {plain : α → Bool}
    (agree : ∀ item ∈ items, read item = .ok (plain item)) :
    items.findM? read = .ok (items.find? plain) := by
  induction items with
  | nil => rfl
  | cons item items ih =>
    have rest := ih fun other member => agree other (List.mem_cons_of_mem item member)
    rw [List.findM?, agree item List.mem_cons_self, ok_bind, rest, List.find?_cons]
    cases plain item <;> rfl

theorem allM_ok {read : α → Except ε Bool} {plain : α → Bool}
    (agree : ∀ item ∈ items, read item = .ok (plain item)) :
    items.allM read = .ok (items.all plain) := by
  induction items with
  | nil => rfl
  | cons item items ih =>
    have rest := ih fun other member => agree other (List.mem_cons_of_mem item member)
    rw [List.allM_cons, agree item List.mem_cons_self, ok_bind, rest, List.all_cons]
    cases plain item <;> rfl

theorem foldlM_ok {read : β → α → Except ε β} {plain : β → α → β}
    (agree : ∀ state, ∀ item ∈ items, read state item = .ok (plain state item)) (start : β) :
    items.foldlM read start = .ok (items.foldl plain start) := by
  induction items generalizing start with
  | nil => rfl
  | cons item items ih =>
    rw [List.foldlM_cons, agree start item List.mem_cons_self, ok_bind, List.foldl_cons]
    exact ih (fun state other member => agree state other (List.mem_cons_of_mem item member)) _

end Traversal

end RepairMining
