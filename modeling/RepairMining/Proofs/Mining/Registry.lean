import RepairMining.Proofs.Action.Search
import RepairMining.Proofs.Mining.Run

namespace RepairMining.Registry

variable {detectors : List Detector} {order : List ActionKind}

theorem filterMap_find?_perm (distinct : (detectors.map (·.kind)).Nodup)
    (reordered : order.Perm (detectors.map (·.kind))) :
    (order.filterMap fun kind => detectors.find? fun other => decide (other.kind = kind)).Perm
      detectors := by
  have found : (detectors.map (·.kind)).filterMap (fun kind =>
      detectors.find? fun other => decide (other.kind = kind)) = detectors := by
    rw [List.filterMap_map]
    exact (List.filterMap_congr fun detector => find?_of_mem distinct).trans List.filterMap_some
  exact (reordered.filterMap _).trans (.of_eq found)

theorem map_kind_filterMap_find? (distinct : (detectors.map (·.kind)).Nodup)
    (listed : ∀ kind ∈ order, kind ∈ detectors.map (·.kind)) :
    (order.filterMap fun kind => detectors.find? fun other => decide (other.kind = kind)).map
      (·.kind) = order := by
  have found : ∀ kind ∈ order,
      (detectors.find? fun other => decide (other.kind = kind)).map (·.kind) = some kind := by
    intro kind member
    obtain ⟨detector, there, rfl⟩ := List.mem_map.mp (listed kind member)
    rw [find?_of_mem distinct there, Option.map_some]
  rw [List.map_filterMap, List.filterMap_congr found, List.filterMap_some]

theorem ofDetectors_of_build (built : Pipeline.build (detectors.map (·.kind)) = .ok order) :
    ∃ registry, ofDetectors detectors = .ok registry ∧ registry.kinds = order ∧
      registry.detectors.Perm detectors := by
  obtain ⟨distinct, _, rfl⟩ := Pipeline.build_ok_iff.mp built
  refine ⟨_, by rw [ofDetectors, built], ?_, ?_⟩
  · exact map_kind_filterMap_find? distinct fun kind => Pipeline.mem_order.mp
  · exact filterMap_find?_perm distinct (Pipeline.order_perm distinct)

/-- A list of categories is accepted exactly if it has no repetition and contains all that its
members depend on. A repetition is reported before anything that is missing, what is missing is
reported for the first category that lacks something, and there are no cycles. An accepted list
is put in the order of the search, each category after all that it depends on, and detectors of
these categories are put in that order. -/
theorem pipeline_sorts (enabled : List ActionKind) :
    ((∃ order, Pipeline.build enabled = .ok order) ↔ enabled.Nodup ∧ Pipeline.Closed enabled) ∧
      (¬ enabled.Nodup → ∃ front kind back, enabled = front ++ kind :: back ∧ front.Nodup ∧
        kind ∈ front ∧ Pipeline.build enabled = .error (.registeredTwice kind)) ∧
      (enabled.Nodup → ¬ Pipeline.Closed enabled → ∃ front kind back met missing rest,
        enabled = front ++ kind :: back ∧
        (∀ other ∈ front, ∀ needed ∈ other.dependencies, needed ∈ enabled) ∧
        kind.dependencies = met ++ missing :: rest ∧ (∀ needed ∈ met, needed ∈ enabled) ∧
        missing ∉ enabled ∧ Pipeline.build enabled = .error (.dependencyMissing kind missing)) ∧
      (∀ kind, Pipeline.build enabled ≠ .error (.cycle kind)) ∧
      ∀ order, Pipeline.build enabled = .ok order →
        order = Pipeline.search enabled ∧ order.Perm enabled ∧
        (∀ front kind back, order = front ++ kind :: back →
          ∀ needed ∈ kind.dependencies, needed ∈ front) ∧
        ∀ detectors : List Detector, detectors.map (·.kind) = enabled →
          ∃ registry, ofDetectors detectors = .ok registry ∧ registry.kinds = order ∧
            registry.detectors.Perm detectors := by
  refine ⟨?_, Pipeline.build_of_repeated, Pipeline.build_of_lacking,
    Pipeline.build_ne_cycle enabled, ?_⟩
  · simp only [Pipeline.build_ok_iff, exists_and_left, exists_eq, and_true]
  · intro order built
    obtain ⟨distinct, closed, rfl⟩ := Pipeline.build_ok_iff.mp built
    refine ⟨(Pipeline.search_eq_order enabled).symm, Pipeline.order_perm distinct, ?_, ?_⟩
    · intro front kind back split needed dependency
      have earlier := Pipeline.order_ordered closed front kind back split needed dependency
      simpa using earlier
    · intro detectors same
      subst same
      exact ofDetectors_of_build built

end RepairMining.Registry
