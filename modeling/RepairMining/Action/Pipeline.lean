import RepairMining.Action.Kind

namespace RepairMining

inductive PipelineError where
  | registeredTwice (kind : ActionKind)
  | dependencyMissing (kind missing : ActionKind)
  | cycle (kind : ActionKind)
  deriving DecidableEq, Repr

namespace Pipeline

/-- First category that was listed before. -/
def repeated? : List ActionKind → List ActionKind → Option ActionKind
  | _, [] => none
  | earlier, kind :: rest => if kind ∈ earlier then some kind else repeated? (kind :: earlier) rest

def lacking? (enabled : List ActionKind) : Option (ActionKind × ActionKind) :=
  enabled.findSome? fun kind =>
    (kind.dependencies.find? fun needed => needed ∉ enabled).map fun missing => (kind, missing)

def dependents (enabled : List ActionKind) (kind : ActionKind) : List ActionKind :=
  enabled.filter fun other => kind ∈ other.dependencies

/-- Puts a category in front of `done`, after all its dependents that are not there yet. A walk down
the dependents is no longer than the list of categories, which is what `fuel` counts. -/
def visit (enabled : List ActionKind) : Nat → List ActionKind → ActionKind → List ActionKind
  | 0, done, _ => done
  | fuel + 1, done, kind =>
    if kind ∈ done then done
    else kind :: (dependents enabled kind).foldl (visit enabled fuel) done

def order (enabled : List ActionKind) : List ActionKind :=
  enabled.foldl (visit enabled enabled.length) []

def misplaced? : List ActionKind → List ActionKind → Option ActionKind
  | _, [] => none
  | earlier, kind :: rest =>
    if kind.dependencies.all (· ∈ earlier) then misplaced? (kind :: earlier) rest else some kind

/-- Checks the categories and puts them in order. Repetition is looked at first, then missing
dependencies. -/
def build (enabled : List ActionKind) : Except PipelineError (List ActionKind) :=
  match repeated? [] enabled with
  | some kind => .error (.registeredTwice kind)
  | none =>
    match lacking? enabled with
    | some (kind, missing) => .error (.dependencyMissing kind missing)
    | none =>
      match misplaced? [] (order enabled) with
      | some kind => .error (.cycle kind)
      | none => .ok (order enabled)

def sources (enabled : List ActionKind) (kind : ActionKind) : List ActionKind :=
  if kind ∈ enabled then ActionKind.all.filter (· ∈ kind.dependencies) else []

def targets (enabled : List ActionKind) (kind : ActionKind) : List ActionKind :=
  if kind ∈ enabled then
    ActionKind.all.filter fun other => other ∈ enabled && kind ∈ other.dependencies
  else []

def edgeCount (enabled : List ActionKind) : Nat :=
  (enabled.flatMap ActionKind.dependencies).length

end Pipeline

end RepairMining
