import RepairMining.Action.Basic
import RepairMining.Table

namespace RepairMining

abbrev ActionSet := Table ActionKind (List RepairAction)

namespace ActionSet

def actions (set : ActionSet) (kind : ActionKind) : List RepairAction := (set.get? kind).getD []

def categoryCount (set : ActionSet) : Nat := set.keys.length

def actionCount (set : ActionSet) : Nat := (set.entries.flatMap fun entry => entry.2).length

def isEmpty (set : ActionSet) : Bool := set.keys.isEmpty

def counts (set : ActionSet) : List (String × Nat) :=
  set.entries.map fun entry => (entry.1.name, entry.2.length)

inductive Refusal where
  | minedTwice (kind : ActionKind)
  | foreignAction (detector produced : ActionKind)
  deriving DecidableEq, Repr

def Refusal.message : Refusal → String
  | minedTwice kind => s!"category {kind.name} was mined twice"
  | foreignAction detector produced =>
    s!"detector for {detector.name} produced a {produced.name} action"

/-- Adds a whole category. -/
def add (set : ActionSet) (kind : ActionKind) (found : List RepairAction) :
    Except Refusal ActionSet :=
  if set.contains kind then .error (.minedTwice kind)
  else
    match found.find? (fun action => action.kind ≠ kind) with
    | some foreign => .error (.foreignAction kind foreign.kind)
    | none => .ok (set.insert kind found)

def modifiedStatements (set : ActionSet) : List (Nat × Nat) :=
  (set.actions .modifyStatement).filterMap fun
    | .modifyStatement before after _ => some (before, after)
    | _ => none

def insertedStatements (set : ActionSet) : List Nat :=
  (set.actions .insertStatement).filterMap fun
    | .insertStatement stmt _ => some stmt
    | _ => none

def deletedStatements (set : ActionSet) : List Nat :=
  (set.actions .deleteStatement).filterMap fun
    | .deleteStatement stmt => some stmt
    | _ => none

def modifiedAssignments (set : ActionSet) : List (Nat × Nat) :=
  (set.actions .modifyAssignment).filterMap fun
    | .modifyAssignment before after => some (before, after)
    | _ => none

def modifiedCalls (set : ActionSet) : List (Nat × Nat) :=
  (set.actions .modifyCall).filterMap fun
    | .modifyCall before after => some (before, after)
    | _ => none

def rearguedCalls (set : ActionSet) : List (Nat × Nat) :=
  (set.actions .modifyCallArgs).filterMap fun
    | .modifyCallArgs before after => some (before, after)
    | _ => none

end ActionSet

end RepairMining
