import RepairMining.Detection.Branches

namespace RepairMining.Detection

def insideModified (context : Context) (set : ActionSet) (node : Nat) : Bool :=
  set.modifiedStatements.any fun pair => context.before.isAncestorOrSelf pair.1 node

/-- Expressions of a kind inside modified statements whose counterparts are of that kind and
differ. -/
def modifiedExpressions (context : Context) (set : ActionSet) (kind : NodeKind) :
    List (Nat × Nat) :=
  context.before.nodes.filterMap fun node =>
    if context.before.hasKind node kind && insideModified context set node then
      match context.afterOf node with
      | none => none
      | some after =>
        if context.after.hasKind after kind && !context.equivalent (some node) (some after) then
          some (node, after)
        else none
    else none

/-- One step of the walk through the modified statements. An expression that has been found is
passed over, and a new one is put in its place among the others. -/
def readModifiedNode (context : Context) (kind : NodeKind) (found : List (Nat × Nat))
    (node : Nat) : Except MiningError (List (Nat × Nat)) := do
  if (← context.read .before (·.readHasKind node kind)) && !found.any (·.1 == node) then
    match context.afterOf node with
    | none => return found
    | some after =>
      if ← context.read .after (·.readHasKind after kind) then
        if ← context.readEquivalent (some node) (some after) then return found
        else return Correspondence.place (node, after) found
      else return found
  else return found

def readModifiedExpressions (context : Context) (set : ActionSet) (kind : NodeKind) :
    Except MiningError (List (Nat × Nat)) :=
  set.modifiedStatements.foldlM (fun found stmt => do
    (← context.read .before (·.readSubtree stmt.1)).foldlM (readModifiedNode context kind) found) []

def modifyAssignment : Rule where
  needs := [.modifyStatement]
  search context set := do
    return (← readModifiedExpressions context set .assignment).map fun (before, after) =>
      .modifyAssignment before after
  finds context set :=
    (modifiedExpressions context set .assignment).map fun (before, after) =>
      .modifyAssignment before after

def assignmentParts : List Role := [.lhs, .op, .rhs]

def changedParts (context : Context) (pair : Nat × Nat) : List Role :=
  assignmentParts.filter fun part =>
    !context.equivalent (context.before.part? pair.1 part) (context.after.part? pair.2 part)

def readChangedRoles (context : Context) (pair : Nat × Nat) : Except MiningError (List Role) :=
  assignmentParts.filterM fun part => do
    let before ← context.read .before (·.readPart pair.1 part)
    let after ← context.read .after (·.readPart pair.2 part)
    return !(← context.readEquivalent before after)

def onlyChange? (context : Context) (part : Role) (pair : Nat × Nat) : Option (Nat × Nat) :=
  if changedParts context pair = [part] then
    match context.before.part? pair.1 part, context.after.part? pair.2 part with
    | some before, some after => some (before, after)
    | _, _ => none
  else none

def readOnlyChange (context : Context) (part : Role) (pair : Nat × Nat) :
    Except MiningError (Option (Nat × Nat)) := do
  if (← readChangedRoles context pair) = [part] then
    match ← context.read .before (·.readPart pair.1 part) with
    | none => return none
    | some before =>
      return (← context.read .after (·.readPart pair.2 part)).map fun after => (before, after)
  else return none

def partRule (part : Role) (action : Nat → Nat → RepairAction) : Rule where
  needs := [.modifyAssignment]
  search context set := do
    let changes ← set.modifiedAssignments.filterMapM (readOnlyChange context part)
    return changes.map fun (before, after) => action before after
  finds context set :=
    (set.modifiedAssignments.filterMap (onlyChange? context part)).map fun (before, after) =>
      action before after

def replaceAssignmentRhs : Rule := partRule .rhs .replaceAssignmentRhs

def replaceAssignmentLhs : Rule := partRule .lhs .replaceAssignmentLhs

def replaceAssignmentOp : Rule := partRule .op .replaceAssignmentOp

def modifyCall : Rule where
  needs := [.modifyStatement]
  search context set := do
    return (← readModifiedExpressions context set .functionCall).map fun (before, after) =>
      .modifyCall before after
  finds context set :=
    (modifiedExpressions context set .functionCall).map fun (before, after) =>
      .modifyCall before after

def sameArguments (context : Context) (pair : Nat × Nat) : Bool :=
  context.equivalentLists (context.before.callArguments pair.1) (context.after.callArguments pair.2)

def sameTarget (context : Context) (pair : Nat × Nat) : Bool :=
  context.equivalent (context.before.callTarget? pair.1) (context.after.callTarget? pair.2)

def readSameArguments (context : Context) (pair : Nat × Nat) : Except MiningError Bool := do
  let before ← context.read .before (·.readArguments pair.1)
  let after ← context.read .after (·.readArguments pair.2)
  context.readEquivalentLists before after

def readSameTarget (context : Context) (pair : Nat × Nat) : Except MiningError Bool := do
  let before ← context.read .before (·.readPart pair.1 .target)
  let after ← context.read .after (·.readPart pair.2 .target)
  context.readEquivalent before after

def replaceCallTarget : Rule where
  needs := [.modifyCall]
  search context set := do
    let retargeted ← set.modifiedCalls.filterM (readSameArguments context)
    retargeted.filterMapM fun pair => do
      return (← readChangedPart context .target pair).map fun (before, after) =>
        .replaceCallTarget before after
  finds context set :=
    (set.modifiedCalls.filter (sameArguments context)).filterMap fun pair =>
      match context.before.callTarget? pair.1, context.after.callTarget? pair.2 with
      | some before, some after =>
        if context.equivalent (some before) (some after) then none
        else some (.replaceCallTarget before after)
      | _, _ => none

def modifyCallArgs : Rule where
  needs := [.modifyCall]
  search context set := do
    let kept ← set.modifiedCalls.filterM (readSameTarget context)
    let rearranged ← kept.filterM fun pair => do return !(← readSameArguments context pair)
    return rearranged.map fun (before, after) => .modifyCallArgs before after
  finds context set :=
    (set.modifiedCalls.filter fun pair =>
      sameTarget context pair && !sameArguments context pair).map fun (before, after) =>
        .modifyCallArgs before after

/-- Places of the longer list whose removal leaves a list that agrees with the shorter one. -/
def extraPlaces (agree : Nat → Nat → Bool) (longer shorter : List Nat) : List Nat :=
  if longer.length = shorter.length + 1 then
    (List.range longer.length).filter fun place =>
      ((longer.eraseIdx place).zip shorter).all fun (long, short) => agree long short
  else []

/-- A place of the shorter list as a place of the longer one, in which one place is skipped. -/
def shifted (skip place : Nat) : Nat := if place < skip then place else place + 1

theorem shifted_lt {skip place length : Nat} (inside : place < length) :
    shifted skip place < length + 1 := by
  unfold shifted
  split <;> omega

/-- The same places, found without building the lists. -/
def readExtraPlaces (same : Nat → Nat → Except MiningError Bool) (longer shorter : List Nat) :
    Except MiningError (List Nat) :=
  if fits : longer.length = shorter.length + 1 then
    (List.range longer.length).filterM fun skip =>
      (List.finRange shorter.length).allM fun (place : Fin shorter.length) =>
        have : shifted skip place < longer.length := fits ▸ shifted_lt place.isLt
        same longer[shifted skip place] shorter[place]
  else return []

def onlyExtra? (agree : Nat → Nat → Bool) (longer shorter : List Nat) : Option Nat :=
  match extraPlaces agree longer shorter with
  | [place] => longer[place]?
  | _ => none

def readOnlyExtra (same : Nat → Nat → Except MiningError Bool) (longer shorter : List Nat) :
    Except MiningError (Option Nat) := do
  match ← readExtraPlaces same longer shorter with
  | [place] => return longer[place]?
  | _ => return none

def onlyDifference? (agree : Nat → Nat → Bool) (first second : List Nat) : Option (Nat × Nat) :=
  if first.length = second.length then
    match (first.zip second).filter fun (x, y) => !agree x y with
    | [pair] => some pair
    | _ => none
  else none

def agree (context : Context) (before after : Nat) : Bool :=
  context.equivalent (some before) (some after)

def readNextDifference (context : Context) :
    List (Nat × Nat) → Except MiningError (Option ((Nat × Nat) × List (Nat × Nat)))
  | [] => return none
  | pair :: rest => do
    if ← context.readEquivalent (some pair.1) (some pair.2) then readNextDifference context rest
    else return some (pair, rest)

/-- The search ends at the second pair that differs. -/
def readOnlyDifference (context : Context) (befores afters : List Nat) :
    Except MiningError (Option (Nat × Nat)) := do
  if befores.length = afters.length then
    match ← readNextDifference context (befores.zip afters) with
    | none => return none
    | some (pair, rest) =>
      if (← readNextDifference context rest).isSome then return none else return some pair
  else return none

def readRearguedCalls (context : Context) (set : ActionSet)
    (report : Nat × Nat → List Nat → List Nat → Except MiningError (Option RepairAction)) :
    Except MiningError (List RepairAction) :=
  set.rearguedCalls.filterMapM fun pair => do
    let befores ← context.read .before (·.readArguments pair.1)
    let afters ← context.read .after (·.readArguments pair.2)
    report pair befores afters

def insertCallArg : Rule where
  needs := [.modifyCallArgs]
  search context set :=
    readRearguedCalls context set fun pair befores afters => do
      let same (long short : Nat) := context.readEquivalent (some short) (some long)
      return (← readOnlyExtra same afters befores).map (.insertCallArg pair.2)
  finds context set :=
    set.rearguedCalls.filterMap fun pair =>
      (onlyExtra? (fun long short => agree context short long) (context.after.callArguments pair.2)
        (context.before.callArguments pair.1)).map (.insertCallArg pair.2)

def removeCallArg : Rule where
  needs := [.modifyCallArgs]
  search context set :=
    readRearguedCalls context set fun pair befores afters => do
      let same (long short : Nat) := context.readEquivalent (some long) (some short)
      return (← readOnlyExtra same befores afters).map (.removeCallArg pair.1)
  finds context set :=
    set.rearguedCalls.filterMap fun pair =>
      (onlyExtra? (agree context) (context.before.callArguments pair.1)
        (context.after.callArguments pair.2)).map (.removeCallArg pair.1)

def replaceCallArg : Rule where
  needs := [.modifyCallArgs]
  search context set :=
    readRearguedCalls context set fun _ befores afters => do
      return (← readOnlyDifference context befores afters).map fun (before, after) =>
        .replaceCallArg before after
  finds context set :=
    set.rearguedCalls.filterMap fun pair =>
      (onlyDifference? (agree context) (context.before.callArguments pair.1)
        (context.after.callArguments pair.2)).map fun (before, after) =>
          .replaceCallArg before after

end RepairMining.Detection
