import RepairMining.Proofs.Detection.Dependence
import RepairMining.Proofs.Syntax.Alike

namespace RepairMining

/-- Two differences between which no detector can tell. -/
structure Context.Alike (first second : Context) : Prop where
  before : first.before.Alike second.before
  after : first.after.Alike second.after
  correspondence : first.diff.correspondence = second.diff.correspondence
  edits : first.edits = second.edits
  beforeHashes : first.beforeHashes = second.beforeHashes
  afterHashes : first.afterHashes = second.afterHashes

namespace Context.Alike

variable {first second : Context}

theorem make {before after : Diff} {edits : List EditOp}
    (sameBefore : before.before.Alike after.before) (sameAfter : before.after.Alike after.after)
    (correspondence : before.correspondence = after.correspondence) :
    (Context.make before edits).Alike (Context.make after edits) where
  before := sameBefore
  after := sameAfter
  correspondence := correspondence
  edits := rfl
  beforeHashes := sameBefore.compute .concrete
  afterHashes := sameAfter.compute .concrete

theorem symm (alike : first.Alike second) : second.Alike first where
  before := alike.before.symm
  after := alike.after.symm
  correspondence := alike.correspondence.symm
  edits := alike.edits.symm
  beforeHashes := alike.beforeHashes.symm
  afterHashes := alike.afterHashes.symm

theorem afterOf (alike : first.Alike second) : first.afterOf = second.afterOf := by
  funext node
  rw [Context.afterOf, Context.afterOf, alike.correspondence]

theorem beforeOf (alike : first.Alike second) : first.beforeOf = second.beforeOf := by
  funext node
  rw [Context.beforeOf, Context.beforeOf, alike.correspondence]

theorem mapsBefore (alike : first.Alike second) : first.mapsBefore = second.mapsBefore := by
  funext node
  rw [Context.mapsBefore, Context.mapsBefore, alike.correspondence]

theorem mapsAfter (alike : first.Alike second) : first.mapsAfter = second.mapsAfter := by
  funext node
  rw [Context.mapsAfter, Context.mapsAfter, alike.correspondence]

theorem equivalent (alike : first.Alike second) : first.equivalent = second.equivalent := by
  funext before after
  cases before <;> cases after <;>
    simp only [Context.equivalent, alike.beforeHashes, alike.afterHashes]

theorem equivalentLists (alike : first.Alike second) :
    first.equivalentLists = second.equivalentLists := by
  funext befores
  induction befores with
  | nil =>
    funext afters
    cases afters <;> rfl
  | cons before befores ih =>
    funext afters
    cases afters with
    | nil => rfl
    | cons after afters =>
      rw [Context.equivalentLists, Context.equivalentLists, alike.equivalent, ih]

end Context.Alike

theorem Context.equivalent_iff {diff : Diff} {script : List EditOp} {before after : Nat}
    (inside : diff.before.contains before = true)
    (alsoInside : diff.after.contains after = true) :
    (Context.make diff script).equivalent (some before) (some after) = true ↔
      (NodeHashes.compute .concrete diff.before).get? before =
        (NodeHashes.compute .concrete diff.after).get? after := by
  obtain ⟨digest, hashed⟩ := Arena.exists_digest inside .concrete
  obtain ⟨other, alsoHashed⟩ := Arena.exists_digest alsoInside .concrete
  dsimp only [Context.equivalent, Context.make]
  rw [hashed, alsoHashed, beq_iff_eq, Option.some_inj]

namespace Detection

variable {first second : Context}

theorem deleted_alike (alike : first.Alike second) : deleted first = deleted second := by
  have survives : survivesInPart first = survivesInPart second := by
    funext block
    simp only [survivesInPart, alike.before.hasKind, alike.before.parent?, alike.before.children,
      alike.mapsBefore]
  have anchors : anchor? first = anchor? second := by
    funext stmt
    simp only [anchor?, alike.before.parent?, survives]
  rw [deleted, deleted, alike.before.statements, alike.mapsBefore, anchors]

theorem inserted_alike (alike : first.Alike second) : inserted first = inserted second := by
  simp only [inserted, alike.after.statements, alike.after.parent?, alike.mapsAfter]

theorem attribution_alike (alike : first.Alike second) :
    attribution first = attribution second := by
  have before : survivorAroundBefore first = survivorAroundBefore second := by
    funext node
    simp only [survivorAroundBefore, alike.before.enclosingStatementWhere?, alike.mapsBefore]
  have after : survivorAroundAfter first = survivorAroundAfter second := by
    funext node
    simp only [survivorAroundAfter, alike.after.enclosingStatementWhere?, alike.mapsAfter,
      alike.beforeOf]
  have same : subjects first = subjects second := by
    funext op
    cases op <;> simp only [subjects, before, after, alike.before.enclosingStatement?,
      alike.before.parent?, alike.after.parent?]
  rw [attribution, attribution, alike.edits, same]

theorem modified_alike (alike : first.Alike second) : modified first = modified second := by
  simp only [modified, grouped, attribution_alike alike, alike.before.nodes, alike.afterOf]

theorem bareIf_alike {first second : Arena} (alike : first.Alike second) :
    bareIf? first = bareIf? second := by
  funext stmt
  rw [bareIf?, bareIf?, alike.hasKind, alike.elseBranch?, alike.condition?, alike.thenBranch?]

theorem wrapStatement_alike (alike : first.Alike second) (set : ActionSet) :
    wrapStatement.finds first set = wrapStatement.finds second set := by
  simp only [wrapStatement, bareIf_alike alike.after, alike.after.unwrapBlock, alike.beforeOf,
    alike.after.isStatement]

theorem unwrapStatement_alike (alike : first.Alike second) (set : ActionSet) :
    unwrapStatement.finds first set = unwrapStatement.finds second set := by
  simp only [unwrapStatement, alike.before.hasKind, alike.before.elseBranch?,
    alike.before.thenBranch?, alike.before.unwrapBlock, alike.afterOf]

theorem modifiedOfKind_alike (alike : first.Alike second) (set : ActionSet) (kind : NodeKind) :
    modifiedOfKind first set kind = modifiedOfKind second set kind := by
  have same : bothHaveKind first kind = bothHaveKind second kind := by
    funext pair
    rw [bothHaveKind, bothHaveKind, alike.before.hasKind, alike.after.hasKind]
  rw [modifiedOfKind, modifiedOfKind, same]

theorem changedPart_alike (alike : first.Alike second) :
    changedPart? first = changedPart? second := by
  funext role pair
  rw [changedPart?, changedPart?, alike.before.part?, alike.after.part?, alike.equivalent]

theorem ifCounterparts_alike (alike : first.Alike second) :
    ifCounterparts first = ifCounterparts second := by
  rw [ifCounterparts, ifCounterparts, alike.after.statements, alike.after.hasKind, alike.beforeOf]

theorem survivingIfs_alike (alike : first.Alike second) :
    survivingIfs first = survivingIfs second := by
  rw [survivingIfs, survivingIfs, ifCounterparts_alike alike, alike.before.hasKind]

theorem gainedElse_alike (alike : first.Alike second) (set : ActionSet) :
    gainedElse first set = gainedElse second set := by
  rw [gainedElse, gainedElse, modifiedOfKind_alike alike, alike.before.elseBranch?,
    alike.after.elseBranch?]

theorem takesOver_alike (alike : first.Alike second) : takesOver first = takesOver second := by
  funext branch oldBranch
  simp only [takesOver, alike.before.unwrapBlock, alike.after.unwrapBlock, alike.beforeOf]

theorem hasKind_unique {arena : Arena} {node : Nat} {kind other : NodeKind}
    (ofKind : arena.hasKind node kind = true) (apart : kind ≠ other) :
    arena.hasKind node other = false := by
  rw [Arena.hasKind, beq_iff_eq] at ofKind
  rw [Arena.hasKind, ofKind]
  simpa using apart

theorem ifAroundElse_of_root {context : Context} {node parent : Nat}
    (known : context.after.parent? node = some parent)
    (root : context.after.parent? parent = none)
    (isBlock : context.after.hasKind parent .block = true) : ifAroundElse? context node = none := by
  have noIf := hasKind_unique isBlock (show NodeKind.block ≠ .ifElse by decide)
  simp only [ifAroundElse?, known, root, isBlock, Bool.true_and]
  cases context.after.role? parent == some .elseBranch
  · simp only [Bool.false_eq_true, if_false]
    cases context.after.elseBranch? parent with
    | none => rfl
    | some branch => simp [noIf]
  · rfl

theorem ifAroundElse_alike (alike : first.Alike second) :
    ifAroundElse? first = ifAroundElse? second := by
  funext node
  cases known : first.after.parent? node with
  | none =>
    have alsoKnown : second.after.parent? node = none := alike.after.parent? ▸ known
    simp only [ifAroundElse?, known, alsoKnown]
  | some parent =>
    have alsoKnown : second.after.parent? node = some parent := alike.after.parent? ▸ known
    by_cases rootBlock : first.after.parent? parent = none ∧
        first.after.hasKind parent .block = true
    · obtain ⟨root, isBlock⟩ := rootBlock
      rw [ifAroundElse_of_root known root isBlock,
        ifAroundElse_of_root alsoKnown (alike.after.parent? ▸ root) (alike.after.hasKind ▸ isBlock)]
    · have outer : (first.after.hasKind parent .block &&
          first.after.role? parent == some .elseBranch) =
            (second.after.hasKind parent .block &&
              second.after.role? parent == some .elseBranch) := by
        rw [← alike.after.hasKind]
        cases isBlock : first.after.hasKind parent .block with
        | false => rfl
        | true =>
          cases above : first.after.parent? parent with
          | none => exact absurd ⟨above, isBlock⟩ rootBlock
          | some outer => rw [alike.after.role? above]
      rw [alike.after.hasKind] at outer
      simp only [ifAroundElse?, known, alsoKnown, outer, alike.after.parent?, alike.after.hasKind,
        alike.after.elseBranch?, alike.after.isAncestorOrSelf]

theorem guardedElse_alike (alike : first.Alike second) :
    guardedElse? first = guardedElse? second := by
  funext stmt
  rw [guardedElse?, guardedElse?, bareIf_alike alike.after, ifAroundElse_alike alike,
    alike.beforeOf]

theorem guardElseBranch_alike (alike : first.Alike second) (set : ActionSet) :
    guardElseBranch.finds first set = guardElseBranch.finds second set := by
  simp only [guardElseBranch, guardedElse_alike alike, takesOver_alike alike,
    alike.before.hasKind, alike.before.elseBranch?]

theorem guardOwner_alike {first second : Arena} (alike : first.Alike second) :
    guardOwner first = guardOwner second := by
  funext stmt
  rw [guardOwner, guardOwner, ← alike.parent?, alike.hasKind]
  cases known : first.parent? stmt with
  | none => simp only [ite_self]
  | some parent => rw [alike.role? known]

theorem modifiedLoops_alike (alike : first.Alike second) (set : ActionSet) :
    modifiedLoops first set = modifiedLoops second set := by
  rw [modifiedLoops, modifiedLoops, guardOwner_alike alike.before, guardOwner_alike alike.after,
    alike.before.isLoop, alike.after.isLoop]

theorem loopCounterparts_alike (alike : first.Alike second) :
    loopCounterparts first = loopCounterparts second := by
  rw [loopCounterparts, loopCounterparts, alike.after.statements, alike.after.isLoop,
    alike.beforeOf]

theorem modifiedExpressions_alike (alike : first.Alike second) (set : ActionSet)
    (kind : NodeKind) :
    modifiedExpressions first set kind = modifiedExpressions second set kind := by
  have inside : insideModified first set = insideModified second set := by
    funext node
    rw [insideModified, insideModified, alike.before.isAncestorOrSelf]
  simp only [modifiedExpressions, alike.before.nodes, alike.before.hasKind, inside, alike.afterOf,
    alike.after.hasKind, alike.equivalent]

theorem partRule_alike (alike : first.Alike second) (set : ActionSet) (part : Role)
    (make : Nat → Nat → RepairAction) :
    (partRule part make).finds first set = (partRule part make).finds second set := by
  have changed : changedParts first = changedParts second := by
    funext pair
    rw [changedParts, changedParts, alike.equivalent, alike.before.part?, alike.after.part?]
  have only : onlyChange? first part = onlyChange? second part := by
    funext pair
    rw [onlyChange?, onlyChange?, changed, alike.before.part?, alike.after.part?]
  simp only [partRule, only]

theorem sameArguments_alike (alike : first.Alike second) :
    sameArguments first = sameArguments second := by
  funext pair
  rw [sameArguments, sameArguments, alike.equivalentLists, alike.before.callArguments,
    alike.after.callArguments]

theorem sameTarget_alike (alike : first.Alike second) : sameTarget first = sameTarget second := by
  funext pair
  rw [sameTarget, sameTarget, alike.equivalent, alike.before.callTarget?, alike.after.callTarget?]

theorem agree_alike (alike : first.Alike second) : agree first = agree second := by
  funext before after
  rw [agree, agree, alike.equivalent]

/-- No detector can tell the two differences apart. -/
theorem finds_alike (alike : first.Alike second) (kind : ActionKind) (set : ActionSet) :
    (rule kind).finds first set = (rule kind).finds second set := by
  cases kind with
  | deleteStatement => simp only [rule, deleteStatement, deleted_alike alike]
  | insertStatement => simp only [rule, insertStatement, inserted_alike alike]
  | modifyStatement => simp only [rule, modifyStatement, modified_alike alike]
  | wrapStatement => exact wrapStatement_alike alike set
  | unwrapStatement => exact unwrapStatement_alike alike set
  | replaceIfCondition =>
    simp only [rule, replaceIfCondition, modifiedOfKind_alike alike, changedPart_alike alike]
  | replaceThenBranch =>
    simp only [rule, replaceThenBranch, survivingIfs_alike alike, changedPart_alike alike]
  | replaceElseBranch =>
    simp only [rule, replaceElseBranch, survivingIfs_alike alike, changedPart_alike alike]
  | removeElseBranch =>
    simp only [rule, removeElseBranch, survivingIfs_alike alike, alike.before.elseBranch?,
      alike.after.elseBranch?]
  | insertElseBranch =>
    simp only [rule, insertElseBranch, gainedElse_alike alike, alike.after.hasKind]
  | insertElseIfBranch =>
    simp only [rule, insertElseIfBranch, gainedElse_alike alike, alike.after.hasKind]
  | guardElseBranch => exact guardElseBranch_alike alike set
  | replaceSwitchExpression =>
    simp only [rule, replaceSwitchExpression, modifiedOfKind_alike alike, changedPart_alike alike]
  | replaceLoopGuard =>
    simp only [rule, replaceLoopGuard, modifiedLoops_alike alike, alike.before.condition?,
      alike.after.condition?, alike.equivalent]
  | replaceLoopBody =>
    simp only [rule, replaceLoopBody, loopCounterparts_alike alike, alike.before.isLoop,
      changedPart_alike alike]
  | modifyAssignment => simp only [rule, modifyAssignment, modifiedExpressions_alike alike]
  | replaceAssignmentRhs => exact partRule_alike alike set _ _
  | replaceAssignmentLhs => exact partRule_alike alike set _ _
  | replaceAssignmentOp => exact partRule_alike alike set _ _
  | modifyCall => simp only [rule, modifyCall, modifiedExpressions_alike alike]
  | replaceCallTarget =>
    simp only [rule, replaceCallTarget, sameArguments_alike alike, alike.before.callTarget?,
      alike.after.callTarget?, alike.equivalent]
  | modifyCallArgs =>
    simp only [rule, modifyCallArgs, sameTarget_alike alike, sameArguments_alike alike]
  | insertCallArg =>
    simp only [rule, insertCallArg, agree_alike alike, alike.before.callArguments,
      alike.after.callArguments]
  | removeCallArg =>
    simp only [rule, removeCallArg, agree_alike alike, alike.before.callArguments,
      alike.after.callArguments]
  | replaceCallArg =>
    simp only [rule, replaceCallArg, agree_alike alike, alike.before.callArguments,
      alike.after.callArguments]

end Detection

theorem ActionSet.Genuine.alike {first second : Context} {set : ActionSet}
    (genuine : set.Genuine first) (alike : first.Alike second) : set.Genuine second where
  needs := genuine.needs
  finds := by
    intro kind found present
    rw [genuine.finds kind found present, Detection.finds_alike alike]

end RepairMining
