import RepairMining.Analysis.Basic
import RepairMining.Proofs.Action.Closure
import RepairMining.Proofs.Mining.Run

namespace RepairMining

namespace MinerConfig

variable {kinds : List ActionKind} {config : MinerConfig}

def prerequisites (kinds : List ActionKind) : List ActionKind :=
  (ActionKind.closure kinds).filter fun kind => !kinds.contains kind

theorem mem_prerequisites {kind : ActionKind} : kind ∈ prerequisites kinds ↔ kind ∉ kinds ∧
    ∃ listed ∈ kinds, Relation.ReflTransGen ActionKind.DependsOn listed kind := by
  rw [prerequisites, List.mem_filter, ActionKind.mem_closure, and_comm]
  simp

theorem prerequisites_eq_nil : prerequisites kinds = [] ↔ Pipeline.Closed kinds := by
  rw [← ActionKind.closure_subset_iff, prerequisites, List.filter_eq_nil_iff]
  simp [List.subset_def]

theorem prerequisites_increasing (kinds : List ActionKind) :
    (prerequisites kinds).Pairwise fun first second =>
      Vocabulary.rank first < Vocabulary.rank second :=
  (ActionKind.closure_increasing kinds).filter _

theorem detectorFault?_of_incomplete (listed : kinds ≠ []) (incomplete : ¬ Pipeline.Closed kinds) :
    detectorFault? kinds = some (.missingPrerequisites (prerequisites kinds)) := by
  have given : kinds.isEmpty = false := by simpa using listed
  cases lacking : prerequisites kinds with
  | nil => exact absurd (prerequisites_eq_nil.mp lacking) incomplete
  | cons first others =>
    rw [prerequisites] at lacking
    simp only [detectorFault?, given, lacking, Bool.false_eq_true, if_false]

theorem Invalid.message_missingPrerequisites (missing : List ActionKind) :
    (missingPrerequisites missing).message =
      "Validation error: " ++ ("'detectors' is missing prerequisite categories: " ++
        ", ".intercalate (missing.map ActionKind.name)) := rfl

theorem detectorFault?_eq_none : detectorFault? kinds = none ↔
    kinds ≠ [] ∧ kinds.Nodup ∧ Pipeline.Closed kinds := by
  by_cases given : kinds = []
  · simp [given, detectorFault?]
  by_cases closed : Pipeline.Closed kinds
  · have listed : kinds.isEmpty = false := by simpa using given
    have complete := prerequisites_eq_nil.mpr closed
    rw [prerequisites] at complete
    simp only [detectorFault?, listed, complete, Bool.false_eq_true, if_false]
    by_cases distinct : kinds.Nodup
    · rw [Pipeline.build_of_closed distinct closed]
      simp [given, closed, distinct]
    · obtain ⟨_, _, _, _, _, _, refused⟩ := Pipeline.build_of_repeated distinct
      rw [refused]
      simp [distinct]
  · rw [detectorFault?_of_incomplete given closed]
    simp [closed]

theorem fault?_eq_none : config.fault? = none ↔ config.version = 1 ∧
    (∀ kinds, config.detectors = some kinds →
      kinds ≠ [] ∧ kinds.Nodup ∧ Pipeline.Closed kinds) ∧
    ∀ names, config.pools = some names → names ≠ [] := by
  have passed : config.detectors.bind detectorFault? = none ↔ ∀ kinds,
      config.detectors = some kinds → kinds ≠ [] ∧ kinds.Nodup ∧ Pipeline.Closed kinds := by
    simp only [Option.bind_eq_none_iff, detectorFault?_eq_none]
  have known : supportedVersions.contains config.version = true ↔ config.version = 1 := by
    simp [supportedVersions]
  rw [fault?, ← passed, ← known]
  cases supportedVersions.contains config.version with
  | false => simp
  | true =>
    cases config.detectors.bind detectorFault? with
    | some fault => simp
    | none => cases config.pools <;> simp

theorem fault?_of_incomplete (supported : config.version = 1)
    (listed : config.detectors = some kinds) (given : kinds ≠ [])
    (incomplete : ¬ Pipeline.Closed kinds) :
    config.fault? = some (.missingPrerequisites (prerequisites kinds)) := by
  rw [fault?, supported, listed, Option.bind_some, detectorFault?_of_incomplete given incomplete]
  rfl

theorem validate_eq_ok : config.validate = .ok () ↔ config.fault? = none := by
  rw [validate]
  split <;> simp [*]

end MinerConfig

namespace Analyzer

open MinerConfig

theorem ofConfig_of_valid {config : MinerConfig} (valid : config.fault? = none) :
    ∃ analyzer, ofConfig config = .ok analyzer := by
  have accepted : Registry.ofKinds config.kinds = .ok (.builtin config.kinds) := by
    rw [Registry.ofKinds_ok_iff, kinds]
    cases listed : config.detectors with
    | none => exact ⟨Vocabulary.nodup_all, fun _ _ needed _ => Vocabulary.mem_all needed, rfl⟩
    | some kinds =>
      obtain ⟨_, distinct, closed⟩ := (fault?_eq_none.mp valid).2.1 kinds listed
      exact ⟨distinct, closed, rfl⟩
  rw [ofConfig, valid, accepted]
  exact ⟨_, rfl⟩

theorem ofConfig_of_fault {config : MinerConfig} {fault : Invalid}
    (found : config.fault? = some fault) : ofConfig config = .error (.invalid fault) := by
  rw [ofConfig, found]

/-- There is an analyzer for a configuration exactly if its checks pass: the version is known, a
list of categories is not empty, repeats nothing and contains all that its members depend on, and a
list of pools is not empty. Otherwise the fault that the checks have found is reported. If a list
lacks categories, the report names all that can be reached from its members and are not listed, in
the order of the pipeline. -/
theorem ofConfig_iff_valid (config : MinerConfig) :
    ((∃ analyzer, ofConfig config = .ok analyzer) ↔ config.validate = .ok ()) ∧
      (config.validate = .ok () ↔ config.version = 1 ∧
        (∀ kinds, config.detectors = some kinds →
          kinds ≠ [] ∧ kinds.Nodup ∧ Pipeline.Closed kinds) ∧
        ∀ names, config.pools = some names → names ≠ []) ∧
      (∀ failure, ofConfig config = .error failure →
        ∃ fault, failure = .invalid fault ∧ config.validate = .error fault) ∧
      ∀ kinds, config.version = 1 → config.detectors = some kinds → kinds ≠ [] →
        ¬ Pipeline.Closed kinds →
        ∃ missing, config.validate = .error (.missingPrerequisites missing) ∧
          (Invalid.missingPrerequisites missing).message =
            "Validation error: " ++ ("'detectors' is missing prerequisite categories: " ++
              ", ".intercalate (missing.map ActionKind.name)) ∧
          (∀ kind, kind ∈ missing ↔ kind ∉ kinds ∧
            ∃ listed ∈ kinds, Relation.ReflTransGen ActionKind.DependsOn listed kind) ∧
          missing.Pairwise fun first second =>
            Vocabulary.rank first < Vocabulary.rank second := by
  refine ⟨?_, validate_eq_ok.trans fault?_eq_none, ?_, ?_⟩
  · rw [validate_eq_ok]
    constructor
    · rintro ⟨analyzer, made⟩
      cases found : config.fault? with
      | none => rfl
      | some fault =>
        rw [ofConfig_of_fault found] at made
        cases made
    · exact ofConfig_of_valid
  · intro failure refused
    cases found : config.fault? with
    | none =>
      obtain ⟨analyzer, made⟩ := ofConfig_of_valid found
      rw [made] at refused
      cases refused
    | some fault =>
      rw [ofConfig_of_fault found] at refused
      exact ⟨fault, (Except.error.inj refused).symm, by rw [validate, found]⟩
  · intro kinds supported listed given incomplete
    have found := fault?_of_incomplete supported listed given incomplete
    exact ⟨prerequisites kinds, by rw [validate, found],
      Invalid.message_missingPrerequisites (prerequisites kinds), fun kind => mem_prerequisites,
      prerequisites_increasing kinds⟩

end Analyzer

end RepairMining
