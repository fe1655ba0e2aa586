import RepairMining.Detection.Context

namespace RepairMining.Detection

def survivesInPart (context : Context) (block : Nat) : Bool :=
  context.before.hasKind block .block && !context.mapsBefore block &&
    (context.before.parent? block).any context.mapsBefore &&
    (context.before.children block).any context.mapsBefore

def readSurvivesInPart (context : Context) (block : Nat) : Except MiningError Bool := do
  if (← context.read .before (·.readHasKind block .block)) && !context.mapsBefore block then
    if (← context.read .before (·.readParent block)).any context.mapsBefore then
      return (← context.read .before (·.readChildren block)).any context.mapsBefore
    else return false
  else return false

/-- Where a deleted statement was attached: its parent, or the parent's parent if the parent is a
block that survives in part. -/
def anchor? (context : Context) (stmt : Nat) : Option Nat :=
  match context.before.parent? stmt with
  | none => none
  | some parent =>
    if survivesInPart context parent then context.before.parent? parent else some parent

def readAnchor (context : Context) (stmt : Nat) : Except MiningError (Option Nat) := do
  match ← context.read .before (·.readParent stmt) with
  | none => return none
  | some parent =>
    if ← readSurvivesInPart context parent then context.read .before (·.readParent parent)
    else return some parent

def deleted (context : Context) : List Nat :=
  context.before.statements.filter fun stmt =>
    !context.mapsBefore stmt && (anchor? context stmt).any context.mapsBefore

def deleteStatement : Rule where
  needs := []
  search context _ := do
    let stmts ← context.read .before (·.readStatements)
    let deleted ← stmts.filterM fun stmt => do
      if context.mapsBefore stmt then return false
      else return (← readAnchor context stmt).any context.mapsBefore
    return deleted.map .deleteStatement
  finds context _ := (deleted context).map .deleteStatement

/-- Unmapped statements with a mapped parent, each with that parent. -/
def inserted (context : Context) : List (Nat × Nat) :=
  context.after.statements.filterMap fun stmt =>
    if context.mapsAfter stmt then none
    else
      match context.after.parent? stmt with
      | none => none
      | some parent => if context.mapsAfter parent then some (stmt, parent) else none

def insertStatement : Rule where
  needs := []
  search context _ := do
    let stmts ← context.read .after (·.readStatements)
    stmts.filterMapM fun stmt => do
      if context.mapsAfter stmt then return none
      else
        match ← context.read .after (·.readParent stmt) with
        | none => return none
        | some parent =>
          if context.mapsAfter parent then return some (.insertStatement stmt parent)
          else return none
  finds context _ := (inserted context).map fun (stmt, parent) => .insertStatement stmt parent

def survivorAroundBefore (context : Context) (node : Nat) : Option Nat :=
  context.before.enclosingStatementWhere? node context.mapsBefore

def survivorAroundAfter (context : Context) (node : Nat) : Option Nat :=
  (context.after.enclosingStatementWhere? node context.mapsAfter).bind context.beforeOf

/-- Statements before the fix that an edit is attributed to. A moved node counts for the places that
it leaves and reaches, not for itself. -/
def subjects (context : Context) : EditOp → List Nat
  | .insert node => (survivorAroundAfter context node).toList
  | .delete node => (survivorAroundBefore context node).toList
  | .update node _ => (context.before.enclosingStatement? node).toList
  | .move source target =>
    let left := (context.before.parent? source).bind (survivorAroundBefore context)
    let reached := (context.after.parent? target).bind (survivorAroundAfter context)
    (left.toList ++ reached.toList).eraseDups

def readSurvivorBefore (context : Context) (node : Nat) : Except MiningError (Option Nat) :=
  context.read .before (·.readEnclosingStatementWhere node context.mapsBefore)

def readSurvivorAfter (context : Context) (node : Nat) : Except MiningError (Option Nat) := do
  return (← context.read .after (·.readEnclosingStatementWhere node context.mapsAfter)).bind
    context.beforeOf

def readSurvivorAround (context : Context) (side : Side) (node : Nat) :
    Except MiningError (Option Nat) := do
  match ← context.read side (·.readParent node) with
  | none => return none
  | some parent =>
    match side with
    | .before => readSurvivorBefore context parent
    | .after => readSurvivorAfter context parent

def readSubjects (context : Context) : EditOp → Except MiningError (List Nat)
  | .insert node => do return (← readSurvivorAfter context node).toList
  | .delete node => do return (← readSurvivorBefore context node).toList
  | .update node _ => do return (← context.read .before (·.readEnclosingStatement node)).toList
  | .move source target => do
    let left ← readSurvivorAround context .before source
    let reached ← readSurvivorAround context .after target
    return (left.toList ++ reached.toList).eraseDups

/-- Edits attributed to a statement, each once, in the order of the script. -/
def editsOf (attributed : List (EditOp × List Nat)) (stmt : Nat) : List EditOp :=
  (attributed.filterMap fun (op, stmts) => if stmt ∈ stmts then some op else none).eraseDups

def attribution (context : Context) : List (EditOp × List Nat) :=
  context.edits.map fun op => (op, subjects context op)

def grouped (context : Context) (attributed : List (EditOp × List Nat)) : List RepairAction :=
  context.before.nodes.filterMap fun stmt =>
    match editsOf attributed stmt with
    | [] => none
    | edits => (context.afterOf stmt).map fun after => .modifyStatement stmt after edits

def modified (context : Context) : List RepairAction := grouped context (attribution context)

def modifyStatement : Rule where
  needs := []
  search context _ := do
    let attributed ← context.edits.mapM fun op => do return (op, ← readSubjects context op)
    return grouped context attributed
  finds context _ := modified context

end RepairMining.Detection
