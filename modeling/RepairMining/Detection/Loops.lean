import RepairMining.Detection.Branches

namespace RepairMining.Detection

def replaceSwitchExpression : Rule where
  needs := [.modifyStatement]
  search context set := do
    readChangedParts context .switchExpr .replaceSwitchExpression
      (← readModifiedOfKind context set .switch)
  finds context set :=
    (modifiedOfKind context set .switch).filterMap fun pair =>
      (changedPart? context .switchExpr pair).map fun (before, after) =>
        .replaceSwitchExpression pair.1 pair.2 before after

/-- The for-loop whose guard the statement is, else the statement itself. -/
def guardOwner (arena : Arena) (stmt : Nat) : Nat :=
  if arena.role? stmt == some .condition then
    match arena.parent? stmt with
    | some parent => if arena.hasKind parent .forLoop then parent else stmt
    | none => stmt
  else stmt

def readGuardOwner (arena : Arena) (stmt : Nat) : Except Nat Nat := do
  if (← arena.readRole stmt) == some .condition then
    match ← arena.readParent stmt with
    | some parent => if ← arena.readHasKind parent .forLoop then return parent else return stmt
    | none => return stmt
  else return stmt

/-- Pairs of loops that own a modified statement or are one, each pair once. -/
def modifiedLoops (context : Context) (set : ActionSet) : List (Nat × Nat) :=
  ((set.modifiedStatements.map fun pair =>
      (guardOwner context.before pair.1, guardOwner context.after pair.2)).filter fun pair =>
    context.before.isLoop pair.1 && context.after.isLoop pair.2).eraseDups

def readModifiedLoops (context : Context) (set : ActionSet) :
    Except MiningError (List (Nat × Nat)) := do
  let owners ← set.modifiedStatements.mapM fun pair => do
    let before ← context.read .before (readGuardOwner · pair.1)
    let after ← context.read .after (readGuardOwner · pair.2)
    return (before, after)
  let loops ← owners.filterM fun pair => do
    if ← context.read .before (·.readIsLoop pair.1) then
      context.read .after (·.readIsLoop pair.2)
    else return false
  return loops.eraseDups

def replaceLoopGuard : Rule where
  needs := [.modifyStatement]
  search context set := do
    (← readModifiedLoops context set).filterMapM fun pair => do
      let beforeGuard ← context.read .before (·.readPart pair.1 .condition)
      let afterGuard ← context.read .after (·.readPart pair.2 .condition)
      if ← context.readEquivalent beforeGuard afterGuard then return none
      else return some (.replaceLoopGuard pair.1 pair.2 beforeGuard afterGuard)
  finds context set :=
    (modifiedLoops context set).filterMap fun pair =>
      let beforeGuard := context.before.condition? pair.1
      let afterGuard := context.after.condition? pair.2
      if context.equivalent beforeGuard afterGuard then none
      else some (.replaceLoopGuard pair.1 pair.2 beforeGuard afterGuard)

def loopCounterparts (context : Context) : List (Nat × Nat) :=
  (context.after.statements.filter context.after.isLoop).filterMap fun after =>
    (context.beforeOf after).map fun before => (before, after)

def replaceLoopBody : Rule where
  needs := []
  search context _ := do
    readChangedParts context .body .replaceLoopBody (← readSurvivors context (·.readIsLoop ·))
  finds context _ :=
    ((loopCounterparts context).filter fun pair => context.before.isLoop pair.1).filterMap
      fun pair =>
        (changedPart? context .body pair).map fun (before, after) =>
          .replaceLoopBody pair.1 pair.2 before after

end RepairMining.Detection
