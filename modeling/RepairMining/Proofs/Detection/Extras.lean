import Mathlib.Data.List.InsertIdx
import Mathlib.Data.List.Nodup
import RepairMining.Detection.Expressions

/-!
What one list has more than another. Taking away either of two elements leaves the same list behind
exactly if they are the same and so are all elements between them. Hence the places from which the
extra element can be taken lie next to each other.
-/

namespace RepairMining.Detection

variable {α : Type}

def Level (list : List α) (first last : Nat) : Prop :=
  ∀ place, first ≤ place → place < last → list[place]? = list[place + 1]?

/-- Without the element at this place the longer list is the shorter one. -/
structure Extra (longer shorter : List α) (place : Nat) : Prop where
  within : place < longer.length
  rest : longer.eraseIdx place = shorter

section Places

variable {list longer shorter : List α} {first last place other : Nat}

theorem Level.eq (level : Level list first last) (order : first ≤ last) :
    list[first]? = list[last]? := by
  induction order with
  | refl => rfl
  | @step last order ih =>
    have before : Level list first last := fun place above below =>
      level place above (Nat.lt_succ_of_lt below)
    calc
      list[first]? = list[last]? := ih before
      _ = list[last + 1]? := level last order (Nat.lt_succ_self last)

theorem eraseIdx_eq_iff (order : first ≤ last) :
    list.eraseIdx first = list.eraseIdx last ↔ Level list first last := by
  simp only [List.ext_getElem?_iff, List.getElem?_eraseIdx]
  -- The two lists can differ only at places where one of them is shifted and the other is not.
  constructor
  · intro same place above below
    have shifted := same place
    rw [if_neg (by omega), if_pos below] at shifted
    exact shifted.symm
  · intro level place
    by_cases low : place < first
    · rw [if_pos low, if_pos (by omega)]
    · by_cases high : last ≤ place
      · rw [if_neg low, if_neg (by omega)]
      · rw [if_neg low, if_pos (by omega)]
        exact (level place (by omega) (by omega)).symm

namespace Extra

theorem length_eq (extra : Extra longer shorter place) : longer.length = shorter.length + 1 := by
  have within := extra.within
  rw [← extra.rest, List.length_eraseIdx_of_lt within]
  omega

theorem level (extra : Extra longer shorter first) (also : Extra longer shorter last)
    (order : first ≤ last) : Level longer first last :=
  (eraseIdx_eq_iff order).mp (extra.rest.trans also.rest.symm)

theorem same (extra : Extra longer shorter first) (also : Extra longer shorter last) :
    longer[first]? = longer[last]? := by
  rcases Nat.le_total first last with order | order
  · exact (extra.level also order).eq order
  · exact ((also.level extra order).eq order).symm

theorem between (extra : Extra longer shorter first) (also : Extra longer shorter last)
    (above : first ≤ place) (below : place ≤ last) : Extra longer shorter place where
  within := Nat.lt_of_le_of_lt below also.within
  rest := by
    have level : Level longer first place := fun next from' within =>
      extra.level also (by omega) next from' (by omega)
    calc
      longer.eraseIdx place = longer.eraseIdx first := ((eraseIdx_eq_iff above).mpr level).symm
      _ = shorter := extra.rest

theorem next (extra : Extra longer shorter place) (within : other < longer.length)
    (neighbour : other + 1 = place ∨ other = place + 1)
    (alike : longer[place]? = longer[other]?) : Extra longer shorter other where
  within := within
  rest := by
    have step {low : Nat} (same : longer[low]? = longer[low + 1]?) :
        longer.eraseIdx low = longer.eraseIdx (low + 1) := by
      apply (eraseIdx_eq_iff (Nat.le_succ low)).mpr
      intro between above below
      obtain rfl : between = low := by omega
      exact same
    have both : longer.eraseIdx other = longer.eraseIdx place := by
      rcases neighbour with rfl | rfl
      · exact step alike.symm
      · exact (step alike).symm
    calc
      longer.eraseIdx other = longer.eraseIdx place := both
      _ = shorter := extra.rest

theorem exists_other_iff (extra : Extra longer shorter place) :
    (∃ other, Extra longer shorter other ∧ other ≠ place) ↔
      ∃ next, (next + 1 = place ∨ next = place + 1) ∧ next < longer.length ∧
        longer[place]? = longer[next]? := by
  constructor
  · rintro ⟨other, also, differs⟩
    have within := extra.within
    rcases Nat.lt_or_gt_of_ne differs with less | greater
    · refine ⟨place - 1, .inl (by omega), by omega, ?_⟩
      exact extra.same (also.between extra (by omega) (by omega))
    · have near := extra.between also (Nat.le_succ place) greater
      exact ⟨place + 1, .inr rfl, near.within, extra.same near⟩
  · rintro ⟨next, neighbour, within, alike⟩
    exact ⟨next, extra.next within neighbour alike, by omega⟩

end Extra

end Places

theorem eq_singleton_iff {list : List α} {only : α} (once : list.Nodup) :
    list = [only] ↔ ∀ other, other ∈ list ↔ other = only := by
  rw [← List.perm_singleton, List.perm_ext_iff_of_nodup once (List.nodup_singleton only)]
  simp only [List.mem_singleton]

def Kept (list : List α) (keeps : α → Bool) (place : Nat) : Prop :=
  ∃ element, list[place]? = some element ∧ keeps element = true

section Filters

variable {list : List α} {keeps : α → Bool} {head only : α} {place : Nat}

theorem kept_zero : Kept (head :: list) keeps 0 ↔ keeps head = true := by
  simp [Kept]

theorem kept_succ : Kept (head :: list) keeps (place + 1) ↔ Kept list keeps place := by
  simp [Kept]

theorem filter_eq_nil_iff : list.filter keeps = [] ↔ ∀ place, ¬ Kept list keeps place := by
  rw [List.filter_eq_nil_iff]
  constructor
  · rintro nothing place ⟨element, there, passes⟩
    exact nothing element (List.mem_of_getElem? there) passes
  · intro nothing element listed passes
    obtain ⟨place, there⟩ := List.getElem?_of_mem listed
    exact nothing place ⟨element, there, passes⟩

theorem filter_eq_singleton_iff : list.filter keeps = [only] ↔
    ∃ place, (∀ other, Kept list keeps other ↔ other = place) ∧ list[place]? = some only := by
  induction list with
  | nil => simp
  | cons head list ih =>
    -- A head that passes is at the place already, one that does not moves every place by one.
    by_cases passes : keeps head = true
    · rw [List.filter_cons_of_pos passes, List.cons.injEq, filter_eq_nil_iff]
      constructor
      · rintro ⟨rfl, nothing⟩
        refine ⟨0, fun other => ?_, rfl⟩
        cases other with
        | zero => simp [kept_zero, passes]
        | succ other => simp [kept_succ, nothing]
      · rintro ⟨place, unique, there⟩
        obtain rfl : 0 = place := (unique 0).mp (kept_zero.mpr passes)
        refine ⟨Option.some.inj there, fun other kept => ?_⟩
        exact absurd ((unique (other + 1)).mp (kept_succ.mpr kept)) (Nat.succ_ne_zero other)
    · rw [List.filter_cons_of_neg passes, ih]
      constructor
      · rintro ⟨place, unique, there⟩
        refine ⟨place + 1, fun other => ?_, there⟩
        cases other with
        | zero => simp [kept_zero, passes]
        | succ other => rw [kept_succ, unique, Nat.succ_inj]
      · rintro ⟨place, unique, there⟩
        cases place with
        | zero => exact absurd (kept_zero.mp ((unique 0).mpr rfl)) passes
        | succ place =>
          refine ⟨place, fun other => ?_, there⟩
          rw [← Nat.succ_inj, ← unique (other + 1), kept_succ]

end Filters

section Scans

variable {agree : Nat → Nat → Bool} {longer shorter : List Nat} {long short : Nat → α}

theorem all_zip_iff {xs ys : List Nat} (same : xs.length = ys.length)
    (agrees : ∀ x ∈ xs, ∀ y ∈ ys, agree x y = true ↔ long x = short y) :
    ((xs.zip ys).all fun (x, y) => agree x y) = true ↔ xs.map long = ys.map short := by
  induction xs generalizing ys with
  | nil =>
    obtain rfl := List.eq_nil_of_length_eq_zero same.symm
    simp
  | cons x xs ih =>
    cases ys with
    | nil => cases same
    | cons y ys =>
      have rest := ih (Nat.succ.inj same) fun x listed y alsoListed =>
        agrees x (List.mem_cons_of_mem _ listed) y (List.mem_cons_of_mem _ alsoListed)
      simp only [List.zip_cons_cons, List.all_cons, Bool.and_eq_true, List.map_cons,
        List.cons.injEq, rest, agrees x List.mem_cons_self y List.mem_cons_self]

theorem shifted_lt_of_fits (fits : longer.length = shorter.length + 1) (skip : Nat)
    (place : Fin shorter.length) : shifted skip place.val < longer.length :=
  Nat.lt_of_lt_of_eq (shifted_lt place.isLt) fits.symm

theorem zip_eraseIdx {skip : Nat} (fits : longer.length = shorter.length + 1) :
    (longer.eraseIdx skip).zip shorter = (List.finRange shorter.length).map fun place =>
      (longer.get ⟨shifted skip place.val, shifted_lt_of_fits fits skip place⟩,
        shorter.get place) := by
  apply List.ext_getElem
  · rw [List.length_zip, List.length_eraseIdx, List.length_map, List.length_finRange]
    split <;> omega
  · intro place below alsoBelow
    simp only [List.getElem_zip, List.getElem_eraseIdx, List.getElem_map, List.getElem_finRange,
      List.get_eq_getElem, shifted, Fin.val_cast]
    split <;> rfl

theorem mem_extraPlaces {place : Nat}
    (agrees : ∀ x ∈ longer, ∀ y ∈ shorter, agree x y = true ↔ long x = short y) :
    place ∈ extraPlaces agree longer shorter ↔
      Extra (longer.map long) (shorter.map short) place := by
  rw [extraPlaces]
  split
  · rename_i lengths
    rw [List.mem_filter, List.mem_range]
    have agreesRest : ∀ x ∈ longer.eraseIdx place, ∀ y ∈ shorter,
        agree x y = true ↔ long x = short y := fun x listed =>
      agrees x (List.mem_of_mem_eraseIdx listed)
    have same (within : place < longer.length) :
        ((longer.eraseIdx place).zip shorter).all (fun (x, y) => agree x y) = true ↔
          (longer.map long).eraseIdx place = shorter.map short := by
      rw [List.eraseIdx_map]
      apply all_zip_iff _ agreesRest
      rw [List.length_eraseIdx_of_lt within]
      omega
    constructor
    · rintro ⟨within, agrees⟩
      exact ⟨by simpa using within, (same within).mp agrees⟩
    · rintro ⟨within, rest⟩
      rw [List.length_map] at within
      exact ⟨within, (same within).mpr rest⟩
  · rename_i lengths
    refine ⟨fun listed => absurd listed List.not_mem_nil, fun extra => absurd ?_ lengths⟩
    simpa using extra.length_eq

theorem onlyExtra?_eq_some_iff {extra : Nat}
    (agrees : ∀ x ∈ longer, ∀ y ∈ shorter, agree x y = true ↔ long x = short y) :
    onlyExtra? agree longer shorter = some extra ↔ ∃ place,
      (∀ other, Extra (longer.map long) (shorter.map short) other ↔ other = place) ∧
        longer[place]? = some extra := by
  have once : (extraPlaces agree longer shorter).Nodup := by
    rw [extraPlaces]
    split
    · exact List.nodup_range.filter _
    · exact List.nodup_nil
  have unique (place : Nat) : extraPlaces agree longer shorter = [place] ↔
      ∀ other, Extra (longer.map long) (shorter.map short) other ↔ other = place := by
    simp only [eq_singleton_iff once, mem_extraPlaces agrees]
  simp only [← unique]
  rw [onlyExtra?]
  constructor
  · intro found
    split at found
    · rename_i place single
      exact ⟨place, single, found⟩
    · cases found
  · rintro ⟨place, single, there⟩
    rw [single]
    exact there

def Differs (agree : Nat → Nat → Bool) (first second : List Nat) (place : Nat) : Prop :=
  ∃ x y, first[place]? = some x ∧ second[place]? = some y ∧ agree x y = false

theorem onlyDifference?_eq_some_iff {first second : List Nat} {pair : Nat × Nat} :
    onlyDifference? agree first second = some pair ↔
      first.length = second.length ∧ ∃ place,
        (∀ other, Differs agree first second other ↔ other = place) ∧
          first[place]? = some pair.1 ∧ second[place]? = some pair.2 := by
  have kept (place : Nat) : Kept (first.zip second) (fun (x, y) => !agree x y) place ↔
      Differs agree first second place := by
    simp [Kept, Differs, List.getElem?_zip_eq_some, and_assoc]
  rw [onlyDifference?]
  split
  · rename_i lengths
    have single : (first.zip second).filter (fun (x, y) => !agree x y) = [pair] ↔ ∃ place,
        (∀ other, Differs agree first second other ↔ other = place) ∧
          first[place]? = some pair.1 ∧ second[place]? = some pair.2 := by
      simp only [filter_eq_singleton_iff, kept, List.getElem?_zip_eq_some]
    rw [← single]
    constructor
    · intro found
      refine ⟨lengths, ?_⟩
      split at found
      · rename_i only alone
        rw [alone, Option.some.inj found]
      · cases found
    · rintro ⟨_, alone⟩
      rw [alone]
  · rename_i lengths
    constructor
    · intro found
      cases found
    · rintro ⟨same, _⟩
      exact absurd same lengths

end Scans

end RepairMining.Detection
