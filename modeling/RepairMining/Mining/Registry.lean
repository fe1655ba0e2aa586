import RepairMining.Detection.Builtin

namespace RepairMining

structure Registry where
  detectors : List Detector

namespace Registry

def kinds (registry : Registry) : List ActionKind := registry.detectors.map (·.kind)

def ofDetectors (detectors : List Detector) : Except PipelineError Registry :=
  match Pipeline.build (detectors.map (·.kind)) with
  | .error cause => .error cause
  | .ok order => .ok ⟨order.filterMap fun kind => detectors.find? (·.kind = kind)⟩

def ofKinds (kinds : List ActionKind) : Except PipelineError Registry :=
  ofDetectors (kinds.map ActionKind.detector)

/-- Runs every detector whose category is not there yet, and counts them. The first that fails ends
the run. -/
def runFrom (context : Context) :
    List Detector → ActionSet → Nat → Except MiningError (ActionSet × Nat)
  | [], set, count => .ok (set, count)
  | detector :: rest, set, count =>
    if set.contains detector.kind then runFrom context rest set count
    else
      match detector.detect context set with
      | .error fault => .error fault
      | .ok found =>
        match ActionSet.add set detector.kind found with
        | .error refusal => .error (.refused refusal)
        | .ok extended => runFrom context rest extended (count + 1)

/-- The given actions with all that is missing, and the number of detectors that ran. -/
def run (registry : Registry) (context : Context) (set : ActionSet) :
    Except MiningError (ActionSet × Nat) :=
  runFrom context registry.detectors set 0

def covered (registry : Registry) (set : ActionSet) : Nat :=
  (registry.kinds.filter set.contains).length

end Registry

end RepairMining
