import RepairMining.Detection.Context

namespace RepairMining.Detection

def bothHaveKind (context : Context) (kind : NodeKind) (pair : Nat × Nat) : Bool :=
  context.before.hasKind pair.1 kind && context.after.hasKind pair.2 kind

/-- The node after the fix is looked up only if the one before it is of the kind. -/
def readBothHaveKind (context : Context) (kind : NodeKind) (pair : Nat × Nat) :
    Except MiningError Bool := do
  if ← context.read .before (·.readHasKind pair.1 kind) then
    context.read .after (·.readHasKind pair.2 kind)
  else return false

def modifiedOfKind (context : Context) (set : ActionSet) (kind : NodeKind) : List (Nat × Nat) :=
  set.modifiedStatements.filter (bothHaveKind context kind)

def readModifiedOfKind (context : Context) (set : ActionSet) (kind : NodeKind) :
    Except MiningError (List (Nat × Nat)) :=
  set.modifiedStatements.filterM (readBothHaveKind context kind)

/-- The parts that play a role on both sides, if they are there and differ. -/
def changedPart? (context : Context) (role : Role) (pair : Nat × Nat) : Option (Nat × Nat) :=
  match context.before.part? pair.1 role, context.after.part? pair.2 role with
  | some before, some after =>
    if context.equivalent (some before) (some after) then none else some (before, after)
  | _, _ => none

def readChangedPart (context : Context) (role : Role) (pair : Nat × Nat) :
    Except MiningError (Option (Nat × Nat)) := do
  match ← context.read .before (·.readPart pair.1 role) with
  | none => return none
  | some before =>
    match ← context.read .after (·.readPart pair.2 role) with
    | none => return none
    | some after =>
      if ← context.readEquivalent (some before) (some after) then return none
      else return some (before, after)

def readChangedParts (context : Context) (role : Role)
    (report : Nat → Nat → Nat → Nat → RepairAction) (pairs : List (Nat × Nat)) :
    Except MiningError (List RepairAction) :=
  pairs.filterMapM fun pair => do
    return (← readChangedPart context role pair).map fun (before, after) =>
      report pair.1 pair.2 before after

/-- An else-less if-statement in its three parts: itself, its guard, its then-branch. -/
def bareIf? (arena : Arena) (stmt : Nat) : Option (Nat × Nat) :=
  if arena.hasKind stmt .ifElse && (arena.elseBranch? stmt).isNone then
    match arena.condition? stmt, arena.thenBranch? stmt with
    | some guard, some branch => some (guard, branch)
    | _, _ => none
  else none

def readIsBareIf (arena : Arena) (stmt : Nat) : Except Nat Bool := do
  if ← arena.readHasKind stmt .ifElse then return (← arena.readPart stmt .elseBranch).isNone
  else return false

def readBareIf (arena : Arena) (stmt : Nat) : Except Nat (Option (Nat × Nat)) := do
  if ← readIsBareIf arena stmt then
    let guard ← arena.readPart stmt .condition
    let branch ← arena.readPart stmt .thenBranch
    match guard, branch with
    | some guard, some branch => return some (guard, branch)
    | _, _ => return none
  else return none

def wrapStatement : Rule where
  needs := [.modifyStatement, .insertStatement]
  search context set :=
    let touched := set.modifiedStatements.map (·.2)
    set.insertedStatements.filterMapM fun wrapper => do
      match ← context.read .after (readBareIf · wrapper) with
      | none => return none
      | some (guard, branch) =>
        let inner ← context.read .after (·.readUnwrapped branch)
        match context.beforeOf inner with
        | none => return none
        | some stmt =>
          if (← context.read .after (·.readIsStatement inner)) && inner ∉ touched then
            return some (.wrapStatement stmt wrapper guard)
          else return none
  finds context set :=
    let touched := set.modifiedStatements.map (·.2)
    set.insertedStatements.filterMap fun wrapper =>
      match bareIf? context.after wrapper with
      | none => none
      | some (guard, branch) =>
        let inner := context.after.unwrapBlock branch
        match context.beforeOf inner with
        | none => none
        | some stmt =>
          if context.after.isStatement inner && inner ∉ touched then
            some (.wrapStatement stmt wrapper guard)
          else none

def unwrapStatement : Rule where
  needs := [.deleteStatement]
  search context set :=
    set.deletedStatements.filterMapM fun stmt => do
      if ← context.read .before (readIsBareIf · stmt) then
        match ← context.read .before (·.readPart stmt .thenBranch) with
        | none => return none
        | some branch =>
          return (context.afterOf (← context.read .before (·.readUnwrapped branch))).map
            (.unwrapStatement stmt)
      else return none
  finds context set :=
    set.deletedStatements.filterMap fun stmt =>
      if context.before.hasKind stmt .ifElse && (context.before.elseBranch? stmt).isNone then
        match context.before.thenBranch? stmt with
        | none => none
        | some branch =>
          (context.afterOf (context.before.unwrapBlock branch)).map (.unwrapStatement stmt)
      else none

def replaceIfCondition : Rule where
  needs := [.modifyStatement]
  search context set := do
    readChangedParts context .condition .replaceIfCondition
      (← readModifiedOfKind context set .ifElse)
  finds context set :=
    (modifiedOfKind context set .ifElse).filterMap fun pair =>
      (changedPart? context .condition pair).map fun (before, after) =>
        .replaceIfCondition pair.1 pair.2 before after

/-- Counterparts of the if-statements after the fix. -/
def ifCounterparts (context : Context) : List (Nat × Nat) :=
  (context.after.statements.filter fun stmt => context.after.hasKind stmt .ifElse).filterMap
    fun after => (context.beforeOf after).map fun before => (before, after)

def survivingIfs (context : Context) : List (Nat × Nat) :=
  (ifCounterparts context).filter fun pair => context.before.hasKind pair.1 .ifElse

def readSurvivors (context : Context) (fits : Arena → Nat → Except Nat Bool) :
    Except MiningError (List (Nat × Nat)) := do
  let stmts ← context.read .after (·.readStatements)
  let fitting ← stmts.filterM fun stmt => context.read .after (fits · stmt)
  let pairs := fitting.filterMap fun after =>
    (context.beforeOf after).map fun before => (before, after)
  pairs.filterM fun pair => context.read .before (fits · pair.1)

def readSurvivingIfs (context : Context) : Except MiningError (List (Nat × Nat)) :=
  readSurvivors context (·.readHasKind · .ifElse)

def replaceThenBranch : Rule where
  needs := []
  search context _ := do
    readChangedParts context .thenBranch .replaceThenBranch (← readSurvivingIfs context)
  finds context _ :=
    (survivingIfs context).filterMap fun pair =>
      (changedPart? context .thenBranch pair).map fun (before, after) =>
        .replaceThenBranch pair.1 pair.2 before after

def replaceElseBranch : Rule where
  needs := []
  search context _ := do
    readChangedParts context .elseBranch .replaceElseBranch (← readSurvivingIfs context)
  finds context _ :=
    (survivingIfs context).filterMap fun pair =>
      (changedPart? context .elseBranch pair).map fun (before, after) =>
        .replaceElseBranch pair.1 pair.2 before after

def removeElseBranch : Rule where
  needs := []
  search context _ := do
    (← readSurvivingIfs context).filterMapM fun pair => do
      if (← context.read .after (·.readPart pair.2 .elseBranch)).isSome then return none
      else
        return (← context.read .before (·.readPart pair.1 .elseBranch)).map
          (.removeElseBranch pair.1 pair.2)
  finds context _ :=
    (survivingIfs context).filterMap fun pair =>
      if (context.after.elseBranch? pair.2).isSome then none
      else (context.before.elseBranch? pair.1).map (.removeElseBranch pair.1 pair.2)

def gainedElse (context : Context) (set : ActionSet) : List (Nat × Nat × Nat) :=
  (modifiedOfKind context set .ifElse).filterMap fun pair =>
    if (context.before.elseBranch? pair.1).isSome then none
    else (context.after.elseBranch? pair.2).map fun branch => (pair.1, pair.2, branch)

def readGainedElse (context : Context) (set : ActionSet) :
    Except MiningError (List (Nat × Nat × Nat)) := do
  (← readModifiedOfKind context set .ifElse).filterMapM fun pair => do
    if (← context.read .before (·.readPart pair.1 .elseBranch)).isSome then return none
    else
      return (← context.read .after (·.readPart pair.2 .elseBranch)).map fun branch =>
        (pair.1, pair.2, branch)

def insertElseBranch : Rule where
  needs := [.modifyStatement]
  search context set := do
    let plain ← (← readGainedElse context set).filterM fun gain => do
      return !(← context.read .after (·.readHasKind gain.2.2 .ifElse))
    return plain.map fun (before, after, branch) => .insertElseBranch before after branch
  finds context set :=
    ((gainedElse context set).filter fun gain => !context.after.hasKind gain.2.2 .ifElse).map
      fun (before, after, branch) => .insertElseBranch before after branch

def insertElseIfBranch : Rule where
  needs := [.modifyStatement]
  search context set := do
    let chained ← (← readGainedElse context set).filterM fun gain =>
      context.read .after (·.readHasKind gain.2.2 .ifElse)
    return chained.map fun (before, after, branch) => .insertElseIfBranch before after branch
  finds context set :=
    ((gainedElse context set).filter fun gain => context.after.hasKind gain.2.2 .ifElse).map
      fun (before, after, branch) => .insertElseIfBranch before after branch

/-- The if-statement after the fix whose else-branch is the node, or a block around it. -/
def ifAroundElse? (context : Context) (node : Nat) : Option Nat :=
  let after := context.after
  match after.parent? node with
  | none => none
  | some parent =>
    let outer :=
      if after.hasKind parent .block && after.role? parent == some .elseBranch then
        after.parent? parent
      else some parent
    match outer with
    | none => none
    | some outer =>
      match after.elseBranch? outer with
      | none => none
      | some branch =>
        if after.hasKind outer .ifElse && after.isAncestorOrSelf branch node then some outer
        else none

def readOutOfElse (arena : Arena) (node : Nat) : Except Nat (Option Nat) := do
  if (← arena.readHasKind node .block) && (← arena.readRole node) == some .elseBranch then
    arena.readParent node
  else return some node

def readIfAroundElse (arena : Arena) (node : Nat) : Except Nat (Option Nat) := do
  match ← arena.readParent node with
  | none => return none
  | some parent =>
    match ← readOutOfElse arena parent with
    | none => return none
    | some outer =>
      match ← arena.readPart outer .elseBranch with
      | none => return none
      | some branch =>
        if ← arena.readHasKind outer .ifElse then
          if ← arena.readIsAncestorOrSelf branch node then return some outer else return none
        else return none

/-- Whether a branch after the fix, with or without its block, comes from a branch before it, with
or without its block. -/
def takesOver (context : Context) (branch oldBranch : Nat) : Bool :=
  let targets := [oldBranch, context.before.unwrapBlock oldBranch]
  ([branch, context.after.unwrapBlock branch].filterMap context.beforeOf).any (· ∈ targets)

def readTakesOver (context : Context) (branch oldBranch : Nat) : Except MiningError Bool := do
  let targets := [oldBranch, ← context.read .before (·.readUnwrapped oldBranch)]
  let promoted := [branch, ← context.read .after (·.readUnwrapped branch)]
  return (promoted.filterMap context.beforeOf).any (· ∈ targets)

/-- An inserted bare if-statement in an else-branch, with the counterpart of the statement around
it. -/
def guardedElse? (context : Context) (stmt : Nat) : Option (Nat × Nat × Nat) :=
  match bareIf? context.after stmt with
  | none => none
  | some (guard, branch) =>
    match (ifAroundElse? context stmt).bind context.beforeOf with
    | none => none
    | some counterpart => some (counterpart, guard, branch)

def readGuardedElse (context : Context) (stmt : Nat) :
    Except MiningError (Option (Nat × Nat × Nat)) := do
  match ← context.read .after (readBareIf · stmt) with
  | none => return none
  | some (guard, branch) =>
    match (← context.read .after (readIfAroundElse · stmt)).bind context.beforeOf with
    | none => return none
    | some counterpart => return some (counterpart, guard, branch)

def guardElseBranch : Rule where
  needs := [.insertStatement]
  search context set :=
    set.insertedStatements.filterMapM fun stmt => do
      match ← readGuardedElse context stmt with
      | none => return none
      | some (outer, guard, branch) =>
        if ← context.read .before (·.readHasKind outer .ifElse) then
          match ← context.read .before (·.readPart outer .elseBranch) with
          | none => return none
          | some oldBranch =>
            if ← readTakesOver context branch oldBranch then
              return some (.guardElseBranch outer stmt guard)
            else return none
        else return none
  finds context set :=
    set.insertedStatements.filterMap fun stmt =>
      match guardedElse? context stmt with
      | none => none
      | some (outer, guard, branch) =>
        if context.before.hasKind outer .ifElse then
          match context.before.elseBranch? outer with
          | none => none
          | some oldBranch =>
            if takesOver context branch oldBranch then some (.guardElseBranch outer stmt guard)
            else none
        else none

end RepairMining.Detection
