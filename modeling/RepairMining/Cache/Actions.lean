import RepairMining.Cache.Storage
import RepairMining.Document.Pool

namespace RepairMining

structure Fingerprint where
  before : Digest
  after : Digest
  deriving DecidableEq

/-- Digests leave out the positions of the nodes, which actions do not refer to. -/
def Diff.fingerprint (diff : Diff) : Fingerprint where
  before := (NodeHashes.compute .concrete diff.before).root
  after := (NodeHashes.compute .concrete diff.after).root

inductive CacheError where
  | wrongVersion (found : Nat)
  | otherTrees (id : DiffId)
  | misfiled (action category : ActionKind)
  | strayNode (category : ActionKind) (side : Side) (node : Nat)
  | document (cause : Json.Error)
  | storage (cause : DiskFault)
  deriving DecidableEq, Repr

namespace CacheError

def isCorruption : CacheError → Bool
  | storage _ => false
  | _ => true

end CacheError

namespace ActionCache

open Json

def version : Nat := 1

structure Contents where
  version : Nat
  fingerprint : Fingerprint
  actions : ActionSet

structure Draft where
  version : Option Nat
  before : Option Digest
  after : Option Digest
  actions : Option ActionSet

def shape : Shape Draft where
  label := "struct LoadedActions"
  fields := [
    .of "version" Decode.nat32 (·.version)
      (fun draft value => { draft with version := some value }) false,
    .of "before" Document.digest (·.before)
      (fun draft value => { draft with before := some value }) false,
    .of "after" Document.digest (·.after)
      (fun draft value => { draft with after := some value }) false,
    .of "actions" Document.actionSet (·.actions)
      (fun draft value => { draft with actions := some value }) false]
  strict := true

def finish (draft : Draft) : Except Error Contents := do
  let version ← require "version" draft.version
  let before ← require "before" draft.before
  let after ← require "after" draft.after
  let actions ← require "actions" draft.actions
  return { version, fingerprint := { before, after }, actions }

def contents : Decoder Contents := shape.complete ⟨none, none, none, none⟩ finish

def contentsValue (contents : Contents) : Value :=
  .object [
    ("version", .natural contents.version),
    ("before", Document.digestValue contents.fingerprint.before),
    ("after", Document.digestValue contents.fingerprint.after),
    ("actions", Document.actionSetValue contents.actions)]

def objection? (diff : Diff) (category : ActionKind) (action : RepairAction) : Option CacheError :=
  if action.kind = category then
    (action.mentions.find? fun mention => !(diff.tree mention.1).contains mention.2).map
      fun mention => .strayNode category mention.1 mention.2
  else some (.misfiled action.kind category)

def firstObjection? (diff : Diff) (set : ActionSet) : Option CacheError :=
  set.entries.findSome? fun entry => entry.2.findSome? (objection? diff entry.1)

def accept (diff : Diff) (fingerprint : Fingerprint) (contents : Contents) :
    Except CacheError ActionSet :=
  if contents.version ≠ version then .error (.wrongVersion contents.version)
  else if contents.fingerprint ≠ fingerprint then .error (.otherTrees diff.id)
  else
    match firstObjection? diff contents.actions with
    | some objection => .error objection
    | none => .ok contents.actions

def decode (diff : Diff) (fingerprint : Fingerprint) (bytes : ByteArray) :
    Except CacheError ActionSet :=
  match decodeBytes contents bytes with
  | .error cause => .error (.document cause)
  | .ok contents => accept diff fingerprint contents

def encode (fingerprint : Fingerprint) (set : ActionSet) : ByteArray :=
  (contentsValue ⟨version, fingerprint, set⟩).compact.toUTF8

variable {m : Type → Type} [Monad m]

def load (storage : Storage m) (layout : CacheLayout) (diff : Diff) (fingerprint : Fingerprint) :
    m (Except CacheError (Option ActionSet)) := do
  match ← storage.read (CacheFile.actions layout diff.id).path with
  | .error fault => return .error (.storage fault)
  | .ok none => return .ok none
  | .ok (some bytes) => return (decode diff fingerprint bytes).map some

def store (storage : Storage m) (layout : CacheLayout) (id : DiffId) (fingerprint : Fingerprint)
    (set : ActionSet) : m (Option DiskFault) :=
  storage.replace (.actions layout id) (encode fingerprint set)

end ActionCache

namespace CacheError

def message : CacheError → String
  | wrongVersion found =>
    s!"Cache version mismatch: found {found}, expected {ActionCache.version}"
  | otherTrees id => s!"Stale fingerprint: {id.toText} was cached for different trees"
  | misfiled action category =>
    s!"Cache corrupted: {action.name} action filed under {category.name}"
  | strayNode category side node =>
    let side := match side with
      | .before => "Before"
      | .after => "After"
    s!"Cache corrupted: {category.name} references unknown {side} node #{node}"
  | document cause => "Deserialization error: " ++ cause.category
  | storage _ => "I/O error"

end CacheError

end RepairMining
