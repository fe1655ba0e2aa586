import Mathlib.Data.List.Destutter
import Mathlib.Data.List.Sort
import Mathlib.Order.Bounds.Basic
import RepairMining.Proofs.Action.Closure

/-!
The closure by a list that grows while it is read: for every entry the dependencies that are not
listed yet are put at the end. Reading ends because there are finitely many categories, and what is
listed by then, sorted and without repetitions, is the least closed set around the first entries.
-/

namespace RepairMining.ActionKind

open Pipeline (level)

variable {kinds needed : List ActionKind} {kind other : ActionKind} {cursor : Nat}

def note (needed : List ActionKind) (kind : ActionKind) : List ActionKind :=
  if kind ∈ needed then needed else needed ++ [kind]

theorem mem_note : other ∈ note needed kind ↔ other ∈ needed ∨ other = kind := by
  rw [note]
  split
  · rename_i listed
    refine ⟨.inl, ?_⟩
    rintro (there | rfl)
    · exact there
    · exact listed
  · rw [List.mem_append, List.mem_singleton]

theorem mem_foldl_note {added : List ActionKind} :
    other ∈ added.foldl note needed ↔ other ∈ needed ∨ other ∈ added := by
  induction added generalizing needed with
  | nil => simp
  | cons head tail ih => rw [List.foldl_cons, ih, mem_note, List.mem_cons, or_assoc]

theorem prefix_note (needed : List ActionKind) (kind : ActionKind) :
    needed <+: note needed kind := by
  rw [note]
  split
  · exact List.prefix_rfl
  · exact List.prefix_append _ _

theorem prefix_foldl_note (added needed : List ActionKind) :
    needed <+: added.foldl note needed := by
  induction added generalizing needed with
  | nil => exact List.prefix_rfl
  | cons head tail ih => exact (prefix_note needed head).trans (ih (note needed head))

def room (needed : List ActionKind) : Nat :=
  (all.filter fun kind => kind ∉ needed).length + needed.length

theorem length_le_room (needed : List ActionKind) : needed.length ≤ room needed :=
  Nat.le_add_left _ _

theorem room_le (needed : List ActionKind) : room needed ≤ all.length + needed.length :=
  Nat.add_le_add_right (List.length_filter_le _ _) _

theorem room_note (needed : List ActionKind) (kind : ActionKind) :
    room (note needed kind) = room needed := by
  rw [note]
  split
  · rfl
  · rename_i fresh
    -- The category is lacking once, and is not lacking any more.
    have once : (all.filter fun other => other ∉ needed).Nodup := Vocabulary.nodup_all.filter _
    have lacking : kind ∈ all.filter fun other => other ∉ needed :=
      List.mem_filter.mpr ⟨Vocabulary.mem_all kind, decide_eq_true fresh⟩
    have rest : (all.filter fun other => other ∉ needed ++ [kind]) =
        (all.filter fun other => other ∉ needed).erase kind := by
      rw [once.erase_eq_filter, List.filter_filter]
      apply List.filter_congr
      intro other _
      rw [Bool.eq_iff_iff]
      simp [and_comm]
    have positive := List.length_pos_of_mem lacking
    rw [room, room, rest, List.length_erase_of_mem lacking, List.length_append,
      List.length_singleton]
    omega

theorem room_foldl_note (added needed : List ActionKind) :
    room (added.foldl note needed) = room needed := by
  induction added generalizing needed with
  | nil => rfl
  | cons head tail ih => rw [List.foldl_cons, ih, room_note]

theorem reading_ends (present : needed[cursor]? = some kind) :
    room (kind.dependencies.foldl note needed) - (cursor + 1) < room needed - cursor := by
  obtain ⟨within, _⟩ := List.getElem?_eq_some_iff.mp present
  have fits := length_le_room needed
  rw [room_foldl_note]
  omega

/-- Reads a list from a place on and notes the dependencies of every entry. -/
def grow (needed : List ActionKind) (cursor : Nat) : List ActionKind :=
  match present : needed[cursor]? with
  | none => needed
  | some kind => grow (kind.dependencies.foldl note needed) (cursor + 1)
termination_by room needed - cursor
decreasing_by exact reading_ends present

theorem room_grow (needed : List ActionKind) (cursor : Nat) :
    room (grow needed cursor) = room needed := by
  fun_induction grow needed cursor with
  | case1 => rfl
  | case2 needed cursor kind present ih => rw [ih, room_foldl_note]

structure Reading (kinds needed : List ActionKind) (cursor : Nat) : Prop where
  listed : kinds ⊆ needed
  reached : ∀ kind ∈ needed, ∃ start ∈ kinds, Relation.ReflTransGen DependsOn start kind
  settled : ∀ kind ∈ needed.take cursor, ∀ dependency ∈ kind.dependencies, dependency ∈ needed

theorem Reading.start (kinds : List ActionKind) : Reading kinds kinds 0 where
  listed := List.Subset.refl kinds
  reached := fun kind member => ⟨kind, member, .refl⟩
  settled := by simp

theorem Reading.step (reading : Reading kinds needed cursor)
    (present : needed[cursor]? = some kind) :
    Reading kinds (kind.dependencies.foldl note needed) (cursor + 1) where
  listed := fun other member => mem_foldl_note.mpr (.inl (reading.listed member))
  reached := by
    intro other member
    rcases mem_foldl_note.mp member with there | dependency
    · exact reading.reached other there
    · obtain ⟨start, listed, path⟩ := reading.reached kind (List.mem_of_getElem? present)
      exact ⟨start, listed, path.tail dependency⟩
  settled := by
    obtain ⟨within, _⟩ := List.getElem?_eq_some_iff.mp present
    have front : (kind.dependencies.foldl note needed).take (cursor + 1) =
        needed.take cursor ++ [kind] := by
      obtain ⟨added, grown⟩ := prefix_foldl_note kind.dependencies needed
      rw [← grown, List.take_append_of_le_length within, List.take_add_one, present]
      rfl
    intro other member dependency needs
    rw [front, List.mem_append, List.mem_singleton] at member
    rcases member with earlier | rfl
    · exact mem_foldl_note.mpr (.inl (reading.settled other earlier dependency needs))
    · exact mem_foldl_note.mpr (.inr needs)

theorem Reading.finish (reading : Reading kinds needed cursor) :
    Reading kinds (grow needed cursor) (grow needed cursor).length := by
  fun_induction grow needed cursor with
  | case1 needed cursor ended =>
    refine ⟨reading.listed, reading.reached, ?_⟩
    have past := List.getElem?_eq_none_iff.mp ended
    intro other member
    apply reading.settled
    rwa [List.take_of_length_le past, ← List.take_length (l := needed)]
  | case2 needed cursor kind present ih => exact ih (reading.step present)

theorem mem_grow : kind ∈ grow kinds 0 ↔
    ∃ start ∈ kinds, Relation.ReflTransGen DependsOn start kind := by
  have reading := (Reading.start kinds).finish
  refine ⟨reading.reached kind, ?_⟩
  rintro ⟨start, listed, path⟩
  induction path with
  | refl => exact reading.listed listed
  | @tail middle needed _ dependency ih =>
    rw [← List.take_length (l := grow kinds 0)] at ih
    exact reading.settled middle ih needed dependency

theorem level_injective : Function.Injective level := fun kind _ same =>
  (List.idxOf_inj (Vocabulary.mem_all kind)).mp same

/-- Sorted by place in the pipeline, and without the repetitions that then stand side by side. -/
def arrange (kinds : List ActionKind) : List ActionKind :=
  (kinds.mergeSort fun first second => level first ≤ level second).destutter (· ≠ ·)

theorem mem_destutter' {first : ActionKind} {rest : List ActionKind} :
    kind ∈ rest.destutter' (· ≠ ·) first ↔ kind ∈ first :: rest := by
  induction rest generalizing first with
  | nil => rw [List.destutter'_nil]
  | cons next rest ih =>
    by_cases same : first = next
    · subst same
      rw [List.destutter'_cons_neg rest (not_not_intro rfl), ih]
      simp
    · rw [List.destutter'_cons_pos rest same, List.mem_cons, ih, List.mem_cons (l := next :: rest)]

theorem mem_arrange : kind ∈ arrange kinds ↔ kind ∈ kinds := by
  have sorted := List.mergeSort_perm kinds fun first second => level first ≤ level second
  rw [← sorted.mem_iff, arrange]
  cases kinds.mergeSort fun first second => level first ≤ level second with
  | nil => rw [List.destutter_nil]
  | cons first rest => exact mem_destutter'

theorem destutter'_increasing {first : ActionKind} {rest : List ActionKind}
    (sorted : (first :: rest).Pairwise fun one other => level one ≤ level other) :
    (rest.destutter' (· ≠ ·) first).Pairwise fun one other => level one < level other := by
  induction rest generalizing first with
  | nil => exact List.pairwise_singleton _ _
  | cons next rest ih =>
    obtain ⟨least, later⟩ := List.pairwise_cons.mp sorted
    by_cases same : first = next
    · subst same
      rw [List.destutter'_cons_neg rest (not_not_intro rfl)]
      exact ih later
    · rw [List.destutter'_cons_pos rest same, List.pairwise_cons]
      refine ⟨?_, ih later⟩
      have below : level first < level next :=
        Nat.lt_of_le_of_ne (least next List.mem_cons_self) (level_injective.ne same)
      intro kind member
      rcases List.mem_cons.mp (mem_destutter'.mp member) with rfl | further
      · exact below
      · exact Nat.lt_of_lt_of_le below ((List.pairwise_cons.mp later).1 kind further)

theorem arrange_increasing (kinds : List ActionKind) :
    (arrange kinds).Pairwise fun first second => level first < level second := by
  have sorted : (kinds.mergeSort fun first second => level first ≤ level second).Pairwise
      fun first second => decide (level first ≤ level second) = true := by
    apply List.pairwise_mergeSort
    · simp only [decide_eq_true_eq]
      exact fun _ _ _ => Nat.le_trans
    · simp only [Bool.or_eq_true, decide_eq_true_eq]
      exact fun _ _ => Nat.le_total _ _
  simp only [decide_eq_true_eq] at sorted
  rw [arrange]
  cases same : kinds.mergeSort fun first second => level first ≤ level second with
  | nil => exact List.Pairwise.nil
  | cons first rest =>
    rw [same] at sorted
    exact destutter'_increasing sorted

def closedAround (kinds : List ActionKind) : Set (Set ActionKind) :=
  {larger | (∀ kind ∈ kinds, kind ∈ larger) ∧
    ∀ kind ∈ larger, ∀ needed ∈ kind.dependencies, needed ∈ larger}

theorem mem_closure_of_mem (listed : kind ∈ kinds) : kind ∈ closure kinds :=
  mem_closure.mpr ⟨kind, listed, .refl⟩

theorem closed_closure (kinds : List ActionKind) : Pipeline.Closed (closure kinds) := by
  intro kind member needed dependency
  obtain ⟨start, listed, path⟩ := mem_closure.mp member
  exact mem_closure.mpr ⟨start, listed, path.tail dependency⟩

theorem isLeast_closure (kinds : List ActionKind) :
    IsLeast (closedAround kinds) {kind | kind ∈ closure kinds} := by
  constructor
  · constructor
    · intro kind listed
      rw [Set.mem_ofPred_eq]
      exact mem_closure_of_mem listed
    · intro kind member needed dependency
      rw [Set.mem_ofPred_eq] at member ⊢
      exact closed_closure kinds kind member needed dependency
  · rintro larger ⟨listed, closed⟩ kind member
    rw [Set.mem_ofPred_eq, mem_closure] at member
    obtain ⟨start, there, path⟩ := member
    induction path with
    | refl => exact listed start there
    | tail _ dependency ih => exact closed _ ih _ dependency

theorem closure_subset_closure {more : List ActionKind} (subset : kinds ⊆ more) :
    closure kinds ⊆ closure more := by
  intro kind member
  obtain ⟨start, listed, path⟩ := mem_closure.mp member
  exact mem_closure.mpr ⟨start, subset listed, path⟩

theorem closure_congr {more : List ActionKind} (same : ∀ kind, kind ∈ kinds ↔ kind ∈ more) :
    closure kinds = closure more := by
  apply (closure_increasing kinds).eq_of_mem_iff (closure_increasing more)
  intro kind
  rw [mem_closure, mem_closure]
  simp only [same]

theorem closure_closure (kinds : List ActionKind) : closure (closure kinds) = closure kinds := by
  apply (closure_increasing _).eq_of_mem_iff (closure_increasing kinds)
  intro kind
  exact ⟨fun member => closure_subset_iff.mpr (closed_closure kinds) member, mem_closure_of_mem⟩

theorem closure_eq_arrange (kinds : List ActionKind) : closure kinds = arrange (grow kinds 0) := by
  apply (closure_increasing kinds).eq_of_mem_iff (arrange_increasing _)
  intro kind
  rw [mem_closure, mem_arrange, mem_grow]

/-- Reading on in a list to which the missing dependencies of every entry are added comes to an end,
after no more entries than were listed and categories exist. What has been listed then, sorted and
without repetitions, is the closure. It increases along the pipeline and is the least set that
contains the listed categories and the dependencies of its members. So it grows with the listed
categories, is its own closure and does not depend on order and repetition, and the pipeline accepts
it. -/
theorem closure_least (kinds : List ActionKind) :
    closure kinds = arrange (grow kinds 0) ∧
      (grow kinds 0).length ≤ all.length + kinds.length ∧
      (closure kinds).Pairwise (fun first second => level first < level second) ∧
      IsLeast (closedAround kinds) {kind | kind ∈ closure kinds} ∧
      (∀ more, kinds ⊆ more → closure kinds ⊆ closure more) ∧
      closure (closure kinds) = closure kinds ∧
      (∀ others, (∀ kind, kind ∈ kinds ↔ kind ∈ others) → closure kinds = closure others) ∧
      Pipeline.build (closure kinds) = .ok (Pipeline.order (closure kinds)) := by
  have ends : (grow kinds 0).length ≤ all.length + kinds.length := by
    calc
      (grow kinds 0).length ≤ room (grow kinds 0) := length_le_room _
      _ = room kinds := room_grow kinds 0
      _ ≤ all.length + kinds.length := room_le kinds
  exact ⟨closure_eq_arrange kinds, ends, closure_increasing kinds, isLeast_closure kinds,
    fun _ => closure_subset_closure, closure_closure kinds, fun _ => closure_congr,
    Pipeline.build_of_closed (closure_increasing kinds).nodup (closed_closure kinds)⟩

example : closure [.insertCallArg, .modifyCall, .insertCallArg] =
    [.modifyStatement, .modifyCall, .modifyCallArgs, .insertCallArg] := by decide +kernel

end RepairMining.ActionKind
