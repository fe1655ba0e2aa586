import RepairMining.Action.Pipeline
import RepairMining.Action.Set
import RepairMining.Digest.Structural
import RepairMining.Syntax.Lookup
import RepairMining.Syntax.Parts

/-!
What a detector sees: a difference, its edit script and the hashes of both trees.
-/

namespace RepairMining

inductive MiningError where
  | pipeline (cause : PipelineError)
  | refused (cause : ActionSet.Refusal)
  | reported (text : String)
  | strayNode (side : Side) (node : Nat)
  deriving DecidableEq, Repr

namespace MiningError

def dependencyMessage (kind missing : ActionKind) : String :=
  s!"Detector {kind.name} requires category {missing.name}, which has not been mined"

def pipelineMessage (text : String) : String := "Pipeline error: " ++ text

def message : MiningError → String
  | pipeline (.dependencyMissing kind missing) => dependencyMessage kind missing
  | pipeline (.registeredTwice kind) =>
    pipelineMessage s!"detector {kind.name} is registered twice"
  | pipeline (.cycle kind) =>
    pipelineMessage s!"detector dependencies contain a cycle involving {kind.name}"
  | refused cause => pipelineMessage cause.message
  | reported text => pipelineMessage text
  | strayNode side node => s!"{side.name} node #{node} lies outside its tree"

end MiningError

structure Context where
  diff : Diff
  edits : List EditOp
  beforeHashes : NodeHashes
  afterHashes : NodeHashes

namespace Context

def make (diff : Diff) (edits : List EditOp) : Context where
  diff := diff
  edits := edits
  beforeHashes := .compute .concrete diff.before
  afterHashes := .compute .concrete diff.after

def before (context : Context) : Arena := context.diff.before

def after (context : Context) : Arena := context.diff.after

def afterOf (context : Context) (node : Nat) : Option Nat := context.diff.correspondence.after? node

def beforeOf (context : Context) (node : Nat) : Option Nat :=
  context.diff.correspondence.before? node

def mapsBefore (context : Context) (node : Nat) : Bool :=
  context.diff.correspondence.mapsBefore node

def mapsAfter (context : Context) (node : Nat) : Bool := context.diff.correspondence.mapsAfter node

/-- Equality of structure up to positions. An absent node equals an absent node only. -/
def equivalent (context : Context) : Option Nat → Option Nat → Bool
  | none, none => true
  | some before, some after =>
    match context.beforeHashes.get? before, context.afterHashes.get? after with
    | some first, some second => first == second
    | _, _ => false
  | _, _ => false

def equivalentLists (context : Context) : List Nat → List Nat → Bool
  | [], [] => true
  | before :: befores, after :: afters =>
    context.equivalent (some before) (some after) && equivalentLists context befores afters
  | _, _ => false

def read {α : Type} (context : Context) (side : Side) (what : Arena → Except Nat α) :
    Except MiningError α :=
  (what (context.diff.tree side)).mapError (.strayNode side)

def readDigest (context : Context) (side : Side) (node : Nat) : Except MiningError Digest :=
  let hashes := match side with
    | .before => context.beforeHashes
    | .after => context.afterHashes
  (hashes.read node).mapError (.strayNode side)

/-- Digests are looked up only if both nodes are there. -/
def readEquivalent (context : Context) : Option Nat → Option Nat → Except MiningError Bool
  | none, none => return true
  | some before, some after => do
    let first ← context.readDigest .before before
    let second ← context.readDigest .after after
    return first == second
  | _, _ => return false

/-- Lists of one length are compared pair by pair, up to the first pair that differs. -/
def readEquivalentLists (context : Context) (befores afters : List Nat) :
    Except MiningError Bool :=
  if befores.length = afters.length then
    (befores.zip afters).allM fun pair => context.readEquivalent (some pair.1) (some pair.2)
  else return false

end Context

structure Detector where
  kind : ActionKind
  detect : Context → ActionSet → Except MiningError (List RepairAction)

/-- A detector: the categories it reads, its search, and what the search comes to as long as it does
not leave the two trees. -/
structure Rule where
  needs : List ActionKind
  search : Context → ActionSet → Except MiningError (List RepairAction)
  finds : Context → ActionSet → List RepairAction

namespace Rule

/-- All categories are asked for before the search starts. -/
def detector (rule : Rule) (kind : ActionKind) : Detector where
  kind := kind
  detect context set :=
    match rule.needs.find? (fun needed => !set.contains needed) with
    | some missing => .error (.pipeline (.dependencyMissing kind missing))
    | none => rule.search context set

end Rule

end RepairMining
