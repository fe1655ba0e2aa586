import Mathlib.Data.List.Nodup
import RepairMining.Mining.Miner
import RepairMining.Proofs.Detection.Dependence
import RepairMining.Proofs.Detection.Search

/-!
Running the detectors of a registry. From any sound set, whatever categories it has, all that are
missing come and none fails.
-/

namespace RepairMining

theorem map_kind_detector (kinds : List ActionKind) :
    (kinds.map ActionKind.detector).map (·.kind) = kinds := by
  rw [List.map_map]
  exact List.map_id kinds

namespace Registry

def builtin (kinds : List ActionKind) : Registry := ⟨(Pipeline.order kinds).map ActionKind.detector⟩

theorem find?_of_mem {detectors : List Detector}
    (distinct : (detectors.map (·.kind)).Nodup) {detector : Detector}
    (member : detector ∈ detectors) :
    detectors.find? (fun other => decide (other.kind = detector.kind)) = some detector := by
  cases found : detectors.find? (fun other => decide (other.kind = detector.kind)) with
  | none =>
    have refused := List.find?_eq_none.mp found detector member
    simp at refused
  | some other =>
    have same := List.find?_some found
    rw [decide_eq_true_eq] at same
    have listed := List.mem_of_find?_eq_some found
    rw [List.inj_on_of_nodup_map distinct listed member same]

theorem ofKinds_ok_iff {kinds : List ActionKind} {registry : Registry} :
    ofKinds kinds = .ok registry ↔
      kinds.Nodup ∧ Pipeline.Closed kinds ∧ registry = builtin kinds := by
  have detectors (distinct : kinds.Nodup) : (Pipeline.order kinds).filterMap (fun kind =>
      (kinds.map ActionKind.detector).find? (fun detector => decide (detector.kind = kind))) =
        (Pipeline.order kinds).map ActionKind.detector := by
    rw [← congrFun (@List.filterMap_eq_map _ _ ActionKind.detector) (Pipeline.order kinds)]
    apply List.filterMap_congr
    intro kind member
    have listed : kind.detector ∈ kinds.map ActionKind.detector :=
      List.mem_map_of_mem (Pipeline.mem_order.mp member)
    have found := find?_of_mem (by rw [map_kind_detector]; exact distinct) listed
    rw [ActionKind.kind_detector] at found
    exact found
  rw [ofKinds, ofDetectors, map_kind_detector, builtin]
  constructor
  · intro accepted
    cases built : Pipeline.build kinds with
    | error cause =>
      rw [built] at accepted
      cases accepted
    | ok order =>
      rw [built] at accepted
      obtain ⟨distinct, closed, rfl⟩ := Pipeline.build_ok_iff.mp built
      obtain rfl := Except.ok.inj accepted
      exact ⟨distinct, closed, by rw [detectors distinct]⟩
  · rintro ⟨distinct, closed, rfl⟩
    rw [Pipeline.build_of_closed distinct closed]
    exact congrArg (fun found => Except.ok (Registry.mk found)) (detectors distinct)

theorem kinds_builtin (kinds : List ActionKind) : (builtin kinds).kinds = Pipeline.order kinds :=
  map_kind_detector _

theorem mem_kinds_builtin {kinds : List ActionKind} {kind : ActionKind} :
    kind ∈ (builtin kinds).kinds ↔ kind ∈ kinds := by
  rw [kinds_builtin]
  exact Pipeline.mem_order

end Registry

namespace Detection

variable {context : Context} {set : ActionSet}

theorem detect_ok (grounded : context.Grounded) (sound : set.Sound context.diff)
    {kind : ActionKind} (needs : ∀ needed ∈ (rule kind).needs, set.contains needed = true) :
    kind.detector.detect context set = .ok ((rule kind).finds context set) := by
  have complete : (rule kind).needs.find? (fun needed => !set.contains needed) = none := by
    rw [List.find?_eq_none]
    intro needed reads
    simp [needs needed reads]
  simp only [ActionKind.detector, Rule.detector, complete]
  exact rule_searches grounded sound kind

theorem add_ok (grounded : context.Grounded) (sound : set.Sound context.diff) {kind : ActionKind}
    (absent : set.contains kind = false) :
    set.add kind ((rule kind).finds context set) =
      .ok (set.insert kind ((rule kind).finds context set)) := by
  have ownActions : ((rule kind).finds context set).find? (fun action => action.kind ≠ kind) =
      none := by
    rw [List.find?_eq_none]
    intro action member
    simp [(rule_safe grounded sound kind action member).1]
  simp only [ActionSet.add, absent, ownActions, Bool.false_eq_true, if_false]

end Detection

open Detection

theorem ActionSet.Sound.insert {context : Context} {set : ActionSet}
    (sound : set.Sound context.diff) (grounded : context.Grounded) (kind : ActionKind) :
    ActionSet.Sound (Table.insert set kind ((rule kind).finds context set)) context.diff := by
  intro other found present action member
  by_cases same : other = kind
  · subst same
    rw [Table.get?_insert_self] at present
    obtain rfl := Option.some.inj present
    exact rule_safe grounded sound other action member
  · rw [Table.get?_insert_ne set _ same] at present
    exact sound other found present action member

theorem ActionSet.Sound.restrict {set : ActionSet} {diff : Diff} (sound : set.Sound diff)
    (kinds : List ActionKind) : ActionSet.Sound (Table.restrict set kinds) diff := by
  intro kind found present
  rw [Table.get?_restrict] at present
  split at present
  · exact sound kind found present
  · cases present

/-- What a run makes of a set: the categories that were there stay as they are, the listed ones are
there, and no others. A part that was right for the difference is right again. -/
structure ActionSet.Completes (result set : ActionSet) (context : Context)
    (kinds : List ActionKind) : Prop where
  kept : ∀ kind, set.contains kind = true → result.get? kind = set.get? kind
  contains : ∀ kind, result.contains kind = true ↔ set.contains kind = true ∨ kind ∈ kinds
  sound : result.Sound context.diff
  part : ∀ chosen : List ActionKind, Pipeline.Closed chosen →
    Genuine (set.restrict chosen) context → Genuine (result.restrict chosen) context

def ActionSet.lacks (set : ActionSet) (kinds : List ActionKind) : Nat :=
  (kinds.filter fun kind => !set.contains kind).length

namespace ActionSet

variable {context : Context} {set result : ActionSet} {kind : ActionKind} {kinds : List ActionKind}

theorem lacks_of_present (present : set.contains kind = true) :
    set.lacks (kind :: kinds) = set.lacks kinds := by
  simp [lacks, present]

theorem lacks_of_absent {found : List RepairAction} (absent : set.contains kind = false)
    (once : kind ∉ kinds) :
    set.lacks (kind :: kinds) = lacks (Table.insert set kind found) kinds + 1 := by
  have same : kinds.filter (fun other => !set.contains other) =
      kinds.filter (fun other => !(Table.insert set kind found).contains other) := by
    apply List.filter_congr
    intro other member
    have apart : other ≠ kind := by
      rintro rfl
      exact once member
    rw [Table.contains, Table.contains, Table.get?_insert_ne set found apart]
  rw [lacks, lacks, List.filter_cons, if_pos (by simp [absent]), same, List.length_cons]

theorem restrict_all (set : ActionSet) : Table.restrict set ActionKind.all = set := by
  refine Table.ext fun kind => ?_
  have listed : kind ∈ ActionKind.all := Vocabulary.mem_all kind
  rw [Table.get?_restrict, if_pos listed]

theorem Completes.genuine (completes : result.Completes set context kinds)
    (genuine : set.Genuine context) : result.Genuine context := by
  have whole := completes.part ActionKind.all fun _ _ needed _ => Vocabulary.mem_all needed
  rw [restrict_all, restrict_all] at whole
  exact whole genuine

theorem Completes.restrict_eq (completes : result.Completes set context kinds)
    {chosen : List ActionKind} (apart : ∀ kind ∈ kinds, kind ∉ chosen) :
    Table.restrict result chosen = set.restrict chosen := by
  refine Table.ext fun kind => ?_
  rw [Table.get?_restrict, Table.get?_restrict]
  split
  · rename_i listed
    by_cases there : set.contains kind = true
    · exact completes.kept kind there
    · have absent : ¬ result.contains kind = true := by
        rw [completes.contains]
        rintro (present | asked)
        · exact there present
        · exact apart kind asked listed
      rw [Table.contains, Bool.not_eq_true, Option.isSome_eq_false_iff,
        Option.isNone_iff_eq_none] at absent there
      rw [absent, there]
  · rfl

/-- What a rule finds in a set it finds in every part that has all that the rule reads. -/
theorem Genuine.insert_part {chosen : List ActionKind}
    (genuine : Genuine (set.restrict chosen) context) (closed : Pipeline.Closed chosen)
    (absent : set.contains kind = false)
    (needs : ∀ needed ∈ (rule kind).needs, set.contains needed = true) :
    Genuine (Table.restrict (Table.insert set kind ((rule kind).finds context set)) chosen)
      context := by
  by_cases listed : kind ∈ chosen
  · have reads : ∀ needed ∈ (rule kind).needs, needed ∈ chosen := by
      intro needed read
      exact closed kind listed needed (needs_subset kind read)
    have same : (rule kind).finds context set =
        (rule kind).finds context (set.restrict chosen) := by
      apply (rule_local kind).finds context _ _
      intro needed read
      rw [Table.get?_restrict, if_pos (reads needed read)]
    rw [Table.restrict_insert_of_mem _ _ listed, same]
    apply genuine.insert
    · rw [← Bool.not_eq_true, contains_restrict, absent]
      simp
    · intro needed read
      exact contains_restrict.mpr ⟨reads needed read, needs needed read⟩
  · rw [Table.restrict_insert_of_notMem _ _ listed]
    exact genuine

theorem Completes.skip (completes : result.Completes set context kinds)
    (present : set.contains kind = true) : result.Completes set context (kind :: kinds) where
  kept := completes.kept
  contains := by
    intro other
    rw [completes.contains, List.mem_cons]
    constructor
    · rintro (there | member)
      · exact .inl there
      · exact .inr (.inr member)
    · rintro (there | rfl | member)
      · exact .inl there
      · exact .inl present
      · exact .inr member
  sound := completes.sound
  part := completes.part

theorem Completes.extend
    (completes : result.Completes (Table.insert set kind ((rule kind).finds context set)) context
      kinds)
    (absent : set.contains kind = false)
    (needs : ∀ needed ∈ (rule kind).needs, set.contains needed = true) :
    result.Completes set context (kind :: kinds) where
  kept := by
    intro other there
    have apart : other ≠ kind := by
      rintro rfl
      rw [there] at absent
      cases absent
    rw [completes.kept other (contains_insert.mpr (.inr there)), Table.get?_insert_ne set _ apart]
  contains := by
    intro other
    rw [completes.contains, contains_insert, List.mem_cons]
    constructor
    · rintro ((rfl | there) | member)
      · exact .inr (.inl rfl)
      · exact .inl there
      · exact .inr (.inr member)
    · rintro (there | rfl | member)
      · exact .inl (.inr there)
      · exact .inl (.inl rfl)
      · exact .inr member
  sound := completes.sound
  part := fun chosen closed genuine =>
    completes.part chosen closed (genuine.insert_part closed absent needs)

end ActionSet

namespace Registry

variable {context : Context} {set : ActionSet} {kinds earlier : List ActionKind}

theorem runFrom_completes (grounded : context.Grounded) (sound : set.Sound context.diff)
    (distinct : kinds.Nodup) (ordered : Pipeline.Ordered earlier kinds)
    (ready : ∀ kind ∈ earlier, set.contains kind = true) (count : Nat) :
    ∃ result, runFrom context (kinds.map ActionKind.detector) set count =
      .ok (result, count + set.lacks kinds) ∧ result.Completes set context kinds := by
  -- On the detectors that are left; those that have run are in `earlier`, and their categories in
  -- the set.
  induction kinds generalizing earlier set count with
  | nil => exact ⟨set, rfl, fun _ _ => rfl, by simp, sound, fun _ _ => id⟩
  | cons head tail ih =>
    obtain ⟨once, distinct⟩ := List.nodup_cons.mp distinct
    have needs : ∀ needed ∈ (rule head).needs, set.contains needed = true := by
      intro needed reads
      rcases ordered [] head tail rfl needed (needs_subset head reads) with member | member
      · cases member
      · exact ready needed member
    have later := ordered.tail
    rw [List.map_cons, runFrom, ActionKind.kind_detector]
    by_cases present : set.contains head = true
    · have stillReady : ∀ kind ∈ head :: earlier, set.contains kind = true := by
        intro kind member
        rcases List.mem_cons.mp member with rfl | member
        · exact present
        · exact ready kind member
      obtain ⟨result, ran, completes⟩ := ih sound distinct later stillReady count
      refine ⟨result, ?_, completes.skip present⟩
      rw [if_pos present, ran, ActionSet.lacks_of_present present]
    · rw [Bool.not_eq_true] at present
      have extendedReady : ∀ kind ∈ head :: earlier,
          (Table.insert set head ((rule head).finds context set)).contains kind = true := by
        intro kind member
        rcases List.mem_cons.mp member with rfl | member
        · exact ActionSet.contains_insert.mpr (.inl rfl)
        · exact ActionSet.contains_insert.mpr (.inr (ready kind member))
      obtain ⟨result, ran, completes⟩ :=
        ih (sound.insert grounded head) distinct later extendedReady (count + 1)
      refine ⟨result, ?_, completes.extend present needs⟩
      rw [if_neg (by simp [present]), detect_ok grounded sound needs]
      simp only [add_ok grounded sound present, ran]
      rw [ActionSet.lacks_of_absent present once, Nat.add_right_comm, Nat.add_assoc]

theorem run_completes (closed : Pipeline.Closed kinds) (grounded : context.Grounded)
    (sound : set.Sound context.diff) :
    ∃ result, (builtin kinds).run context set =
      .ok (result, set.lacks (Pipeline.order kinds)) ∧ result.Completes set context kinds := by
  obtain ⟨result, ran, completes⟩ := runFrom_completes grounded sound
    (Pipeline.nodup_order kinds) (Pipeline.order_ordered closed) (by simp) 0
  refine ⟨result, ?_, completes.kept, ?_, completes.sound, completes.part⟩
  · rw [run, builtin, ran, Nat.zero_add]
  · intro kind
    rw [completes.contains, Pipeline.mem_order]

end Registry

end RepairMining
