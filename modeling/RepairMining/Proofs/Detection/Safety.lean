import RepairMining.Proofs.Detection.Range

namespace RepairMining

def Rule.Safe (rule : Rule) (kind : ActionKind) (context : Context) (set : ActionSet) : Prop :=
  ∀ action ∈ rule.finds context set, action.kind = kind ∧ context.diff.Covers action

namespace Detection

variable {context : Context} {set : ActionSet}

theorem deleteStatement_safe : deleteStatement.Safe .deleteStatement context set := by
  intro action member
  obtain ⟨stmt, there, rfl⟩ := List.mem_map.mp member
  have inside : context.diff.Inside .before stmt :=
    Arena.contains_of_mem_statements (List.mem_filter.mp there).1
  refine ⟨rfl, Diff.covers_iff.mpr ?_⟩
  simpa [RepairAction.values, Diff.Fits] using inside

theorem mem_inserted {stmt parent : Nat} (member : (stmt, parent) ∈ inserted context) :
    stmt ∈ context.after.statements ∧ context.after.parent? stmt = some parent := by
  obtain ⟨node, there, shape⟩ := List.mem_filterMap.mp member
  split at shape
  · cases shape
  · split at shape
    · cases shape
    · rename_i parent' known
      split at shape
      · obtain ⟨rfl, rfl⟩ := Prod.mk.inj (Option.some.inj shape)
        exact ⟨there, known⟩
      · cases shape

theorem insertStatement_safe : insertStatement.Safe .insertStatement context set := by
  intro action member
  obtain ⟨⟨stmt, parent⟩, there, rfl⟩ := List.mem_map.mp member
  obtain ⟨listed, known⟩ := mem_inserted there
  have inside : context.diff.Inside .after stmt := Arena.contains_of_mem_statements listed
  have parentInside : context.diff.Inside .after parent := Arena.contains_parent known
  refine ⟨rfl, Diff.covers_iff.mpr ?_⟩
  simpa [RepairAction.values, Diff.Fits] using ⟨inside, parentInside⟩

theorem mem_editsOf {attributed : List (EditOp × List Nat)} {stmt : Nat} {op : EditOp}
    (member : op ∈ editsOf attributed stmt) : ∃ stmts, (op, stmts) ∈ attributed ∧ stmt ∈ stmts := by
  rw [editsOf, List.mem_eraseDups] at member
  obtain ⟨⟨other, stmts⟩, there, shape⟩ := List.mem_filterMap.mp member
  simp only [Option.ite_none_right_eq_some, Option.some.injEq] at shape
  obtain ⟨listed, rfl⟩ := shape
  exact ⟨stmts, there, listed⟩

theorem mem_attribution {op : EditOp} {stmts : List Nat}
    (member : (op, stmts) ∈ attribution context) : op ∈ context.edits := by
  obtain ⟨other, there, same⟩ := List.mem_map.mp member
  exact (Prod.mk.inj same).1 ▸ there

theorem modifyStatement_safe (grounded : context.Grounded) :
    modifyStatement.Safe .modifyStatement context set := by
  intro action member
  obtain ⟨stmt, there, shape⟩ := List.mem_filterMap.mp member
  split at shape
  · cases shape
  · obtain ⟨after, found, rfl⟩ := Option.map_eq_some_iff.mp shape
    obtain ⟨beforeInside, afterInside⟩ := Context.pair_of_afterOf found
    refine ⟨rfl, Diff.covers_iff.mpr ?_⟩
    have edits : ∀ op ∈ editsOf (attribution context) stmt, ∀ mention ∈ op.mentions,
        context.diff.Inside mention.1 mention.2 := by
      intro op attributed
      obtain ⟨stmts, listed, _⟩ := mem_editsOf attributed
      exact grounded.scripted op (mem_attribution listed)
    simp only [RepairAction.values, List.forall_mem_cons, Diff.Fits]
    exact ⟨beforeInside, afterInside, edits, by simp⟩

theorem bareIf_inside {arena : Arena} {stmt guard branch : Nat}
    (found : bareIf? arena stmt = some (guard, branch)) :
    arena.contains guard = true ∧ arena.contains branch = true := by
  rw [bareIf?] at found
  split at found
  · split at found
    · rename_i guard' branch' condition thenBranch
      obtain ⟨rfl, rfl⟩ := Prod.mk.inj (Option.some.inj found)
      exact ⟨Arena.contains_part condition, Arena.contains_part thenBranch⟩
    · cases found
  · cases found

theorem wrapStatement_safe (sound : set.Sound context.diff) :
    wrapStatement.Safe .wrapStatement context set := by
  intro action member
  obtain ⟨wrapper, there, shape⟩ := List.mem_filterMap.mp member
  split at shape
  · cases shape
  · rename_i guard branch bare
    dsimp only at shape
    split at shape
    · cases shape
    · rename_i stmt counterpart
      split at shape
      · obtain rfl := Option.some.inj shape
        have wrapperInside := sound.insertedStatements there
        have stmtInside := (Context.pair_of_beforeOf counterpart).1
        have guardInside : context.diff.Inside .after guard := (bareIf_inside bare).1
        refine ⟨rfl, Diff.covers_iff.mpr ?_⟩
        simpa [RepairAction.values, Diff.Fits] using ⟨stmtInside, wrapperInside, guardInside⟩
      · cases shape

theorem unwrapStatement_safe (sound : set.Sound context.diff) :
    unwrapStatement.Safe .unwrapStatement context set := by
  intro action member
  obtain ⟨stmt, there, shape⟩ := List.mem_filterMap.mp member
  split at shape
  · split at shape
    · cases shape
    · obtain ⟨after, counterpart, rfl⟩ := Option.map_eq_some_iff.mp shape
      have stmtInside := sound.deletedStatements there
      have afterInside := (Context.pair_of_afterOf counterpart).2
      refine ⟨rfl, Diff.covers_iff.mpr ?_⟩
      simpa [RepairAction.values, Diff.Fits] using ⟨stmtInside, afterInside⟩
  · cases shape

theorem modifiedOfKind_inside (sound : set.Sound context.diff) {kind : NodeKind} :
    ∀ pair ∈ modifiedOfKind context set kind, context.diff.PairInside pair :=
  fun _ member => sound.modifiedStatements (List.mem_filter.mp member).1

theorem changedPart_inside {role : Role} {pair parts : Nat × Nat}
    (found : changedPart? context role pair = some parts) : context.diff.PairInside parts := by
  rw [changedPart?] at found
  split at found
  · rename_i before after beforePart afterPart
    split at found
    · cases found
    · obtain rfl := Option.some.inj found
      exact ⟨Arena.contains_part beforePart, Arena.contains_part afterPart⟩
  · cases found

theorem changedParts_covered {pairs : List (Nat × Nat)} {role : Role} {kind : ActionKind}
    {make : Nat → Nat → Nat → Nat → RepairAction}
    (made : ∀ before after beforePart afterPart,
      (make before after beforePart afterPart).kind = kind ∧
      (make before after beforePart afterPart).values =
        [.node .before before, .node .after after, .node .before beforePart,
          .node .after afterPart])
    (inside : ∀ pair ∈ pairs, context.diff.PairInside pair) :
    ∀ action ∈ pairs.filterMap (fun pair => (changedPart? context role pair).map
        fun (before, after) => make pair.1 pair.2 before after),
      action.kind = kind ∧ context.diff.Covers action := by
  intro action member
  obtain ⟨pair, there, shape⟩ := List.mem_filterMap.mp member
  obtain ⟨parts, changed, rfl⟩ := Option.map_eq_some_iff.mp shape
  obtain ⟨ofKind, values⟩ := made pair.1 pair.2 parts.1 parts.2
  obtain ⟨beforeInside, afterInside⟩ := inside pair there
  obtain ⟨beforePart, afterPart⟩ := changedPart_inside changed
  refine ⟨ofKind, Diff.covers_iff.mpr ?_⟩
  rw [values]
  simpa [Diff.Fits] using ⟨beforeInside, afterInside, beforePart, afterPart⟩

theorem replaceIfCondition_safe (sound : set.Sound context.diff) :
    replaceIfCondition.Safe .replaceIfCondition context set :=
  changedParts_covered (fun _ _ _ _ => ⟨rfl, rfl⟩) (modifiedOfKind_inside sound)

theorem ifCounterparts_inside :
    ∀ pair ∈ ifCounterparts context, context.diff.PairInside pair := by
  intro pair member
  obtain ⟨after, _, shape⟩ := List.mem_filterMap.mp member
  obtain ⟨before, counterpart, rfl⟩ := Option.map_eq_some_iff.mp shape
  exact Context.pair_of_beforeOf counterpart

theorem survivingIfs_inside : ∀ pair ∈ survivingIfs context, context.diff.PairInside pair :=
  fun pair member => ifCounterparts_inside pair (List.mem_filter.mp member).1

theorem replaceThenBranch_safe : replaceThenBranch.Safe .replaceThenBranch context set :=
  changedParts_covered (fun _ _ _ _ => ⟨rfl, rfl⟩) survivingIfs_inside

theorem replaceElseBranch_safe : replaceElseBranch.Safe .replaceElseBranch context set :=
  changedParts_covered (fun _ _ _ _ => ⟨rfl, rfl⟩) survivingIfs_inside

theorem removeElseBranch_safe : removeElseBranch.Safe .removeElseBranch context set := by
  intro action member
  obtain ⟨pair, there, shape⟩ := List.mem_filterMap.mp member
  split at shape
  · cases shape
  · obtain ⟨branch, part, rfl⟩ := Option.map_eq_some_iff.mp shape
    obtain ⟨beforeInside, afterInside⟩ := survivingIfs_inside pair there
    have branchInside : context.diff.Inside .before branch := Arena.contains_part part
    refine ⟨rfl, Diff.covers_iff.mpr ?_⟩
    simpa [RepairAction.values, Diff.Fits] using ⟨beforeInside, afterInside, branchInside⟩

theorem gainedElse_inside (sound : set.Sound context.diff) {gain : Nat × Nat × Nat}
    (member : gain ∈ gainedElse context set) :
    context.diff.PairInside (gain.1, gain.2.1) ∧ context.diff.Inside .after gain.2.2 := by
  obtain ⟨pair, there, shape⟩ := List.mem_filterMap.mp member
  split at shape
  · cases shape
  · obtain ⟨branch, part, rfl⟩ := Option.map_eq_some_iff.mp shape
    exact ⟨modifiedOfKind_inside sound pair there, Arena.contains_part part⟩

theorem insertElseBranch_safe (sound : set.Sound context.diff) :
    insertElseBranch.Safe .insertElseBranch context set := by
  intro action member
  obtain ⟨gain, there, rfl⟩ := List.mem_map.mp member
  obtain ⟨⟨beforeInside, afterInside⟩, branchInside⟩ :=
    gainedElse_inside sound (List.mem_filter.mp there).1
  refine ⟨rfl, Diff.covers_iff.mpr ?_⟩
  simpa [RepairAction.values, Diff.Fits] using ⟨beforeInside, afterInside, branchInside⟩

theorem insertElseIfBranch_safe (sound : set.Sound context.diff) :
    insertElseIfBranch.Safe .insertElseIfBranch context set := by
  intro action member
  obtain ⟨gain, there, rfl⟩ := List.mem_map.mp member
  obtain ⟨⟨beforeInside, afterInside⟩, branchInside⟩ :=
    gainedElse_inside sound (List.mem_filter.mp there).1
  refine ⟨rfl, Diff.covers_iff.mpr ?_⟩
  simpa [RepairAction.values, Diff.Fits] using ⟨beforeInside, afterInside, branchInside⟩

theorem guardedElse_inside {stmt : Nat} {found : Nat × Nat × Nat}
    (guarded : guardedElse? context stmt = some found) :
    context.diff.Inside .before found.1 ∧ context.diff.Inside .after found.2.1 ∧
      context.diff.Inside .after found.2.2 := by
  rw [guardedElse?] at guarded
  split at guarded
  · cases guarded
  · rename_i guard branch bare
    split at guarded
    · cases guarded
    · rename_i counterpart around
      obtain rfl := Option.some.inj guarded
      obtain ⟨outer, _, known⟩ := Option.bind_eq_some_iff.mp around
      exact ⟨(Context.pair_of_beforeOf known).1, bareIf_inside bare⟩

theorem guardElseBranch_safe (sound : set.Sound context.diff) :
    guardElseBranch.Safe .guardElseBranch context set := by
  intro action member
  obtain ⟨stmt, there, shape⟩ := List.mem_filterMap.mp member
  split at shape
  · cases shape
  · rename_i outer guard branch guarded
    split at shape
    · split at shape
      · cases shape
      · split at shape
        · obtain rfl := Option.some.inj shape
          obtain ⟨outerInside, guardInside, _⟩ := guardedElse_inside guarded
          have stmtInside := sound.insertedStatements there
          refine ⟨rfl, Diff.covers_iff.mpr ?_⟩
          simpa [RepairAction.values, Diff.Fits] using ⟨outerInside, stmtInside, guardInside⟩
        · cases shape
    · cases shape

theorem replaceSwitchExpression_safe (sound : set.Sound context.diff) :
    replaceSwitchExpression.Safe .replaceSwitchExpression context set :=
  changedParts_covered (fun _ _ _ _ => ⟨rfl, rfl⟩) (modifiedOfKind_inside sound)

theorem guardOwner_inside {arena : Arena} {stmt : Nat} (inside : arena.contains stmt = true) :
    arena.contains (guardOwner arena stmt) = true := by
  rw [guardOwner]
  split
  · split
    · rename_i parent known
      split
      · exact Arena.contains_parent known
      · exact inside
    · exact inside
  · exact inside

theorem guardOwners_inside (sound : set.Sound context.diff) :
    ∀ pair ∈ set.modifiedStatements.map fun stmts =>
      (guardOwner context.before stmts.1, guardOwner context.after stmts.2),
      context.diff.PairInside pair := by
  intro pair member
  obtain ⟨stmts, there, rfl⟩ := List.mem_map.mp member
  obtain ⟨beforeInside, afterInside⟩ := sound.modifiedStatements there
  exact ⟨guardOwner_inside beforeInside, guardOwner_inside afterInside⟩

theorem modifiedLoops_inside (sound : set.Sound context.diff) :
    ∀ pair ∈ modifiedLoops context set, context.diff.PairInside pair := by
  intro pair member
  rw [modifiedLoops, List.mem_eraseDups] at member
  exact guardOwners_inside sound pair (List.mem_filter.mp member).1

theorem replaceLoopGuard_safe (sound : set.Sound context.diff) :
    replaceLoopGuard.Safe .replaceLoopGuard context set := by
  intro action member
  obtain ⟨pair, there, shape⟩ := List.mem_filterMap.mp member
  dsimp only at shape
  split at shape
  · cases shape
  · obtain rfl := Option.some.inj shape
    obtain ⟨beforeInside, afterInside⟩ := modifiedLoops_inside sound pair there
    refine ⟨rfl, Diff.covers_iff.mpr ?_⟩
    simp only [RepairAction.values, List.forall_mem_cons, Diff.Fits]
    exact ⟨beforeInside, afterInside, fun _ part => Arena.contains_part part,
      fun _ part => Arena.contains_part part, by simp⟩

theorem loopCounterparts_inside :
    ∀ pair ∈ loopCounterparts context, context.diff.PairInside pair := by
  intro pair member
  obtain ⟨after, _, shape⟩ := List.mem_filterMap.mp member
  obtain ⟨before, counterpart, rfl⟩ := Option.map_eq_some_iff.mp shape
  exact Context.pair_of_beforeOf counterpart

theorem replaceLoopBody_safe : replaceLoopBody.Safe .replaceLoopBody context set :=
  changedParts_covered (fun _ _ _ _ => ⟨rfl, rfl⟩)
  (fun pair member => loopCounterparts_inside pair (List.mem_filter.mp member).1)

theorem pairs_covered {pairs : List (Nat × Nat)} {kind : ActionKind}
    {make : Nat → Nat → RepairAction}
    (made : ∀ before after, (make before after).kind = kind ∧
      (make before after).values = [.node .before before, .node .after after])
    (inside : ∀ pair ∈ pairs, context.diff.PairInside pair) :
    ∀ action ∈ pairs.map (fun (before, after) => make before after),
      action.kind = kind ∧ context.diff.Covers action := by
  intro action member
  obtain ⟨pair, there, rfl⟩ := List.mem_map.mp member
  obtain ⟨ofKind, values⟩ := made pair.1 pair.2
  obtain ⟨beforeInside, afterInside⟩ := inside pair there
  refine ⟨ofKind, Diff.covers_iff.mpr ?_⟩
  rw [values]
  simpa [Diff.Fits] using ⟨beforeInside, afterInside⟩

theorem mem_modifiedExpressions {kind : NodeKind} {pair : Nat × Nat} :
    pair ∈ modifiedExpressions context set kind ↔
      context.before.hasKind pair.1 kind = true ∧ insideModified context set pair.1 = true ∧
        context.afterOf pair.1 = some pair.2 ∧ context.after.hasKind pair.2 kind = true ∧
          context.equivalent (some pair.1) (some pair.2) = false := by
  rw [modifiedExpressions, List.mem_filterMap]
  constructor
  · rintro ⟨node, _, shape⟩
    split at shape
    · rename_i found
      rw [Bool.and_eq_true] at found
      split at shape
      · cases shape
      · rename_i after counterpart
        split at shape
        · rename_i differs
          rw [Bool.and_eq_true, Bool.not_eq_true'] at differs
          obtain rfl := Option.some.inj shape
          exact ⟨found.1, found.2, counterpart, differs.1, differs.2⟩
        · cases shape
    · cases shape
  · rintro ⟨ofKind, inside, counterpart, alsoOfKind, differs⟩
    have node : pair.1 ∈ context.before.nodes :=
      List.mem_range.mpr (Arena.contains_iff.mp (Context.pair_of_afterOf counterpart).1)
    refine ⟨pair.1, node, ?_⟩
    simp [ofKind, inside, counterpart, alsoOfKind, differs]

theorem modifiedExpressions_inside {kind : NodeKind} :
    ∀ pair ∈ modifiedExpressions context set kind, context.diff.PairInside pair :=
  fun _ member => Context.pair_of_afterOf (mem_modifiedExpressions.mp member).2.2.1

theorem modifyAssignment_safe :
    modifyAssignment.Safe .modifyAssignment context set :=
  pairs_covered (fun _ _ => ⟨rfl, rfl⟩) modifiedExpressions_inside

theorem onlyChange_parts {part : Role} {pair parts : Nat × Nat}
    (found : onlyChange? context part pair = some parts) :
    context.before.part? pair.1 part = some parts.1 ∧
      context.after.part? pair.2 part = some parts.2 := by
  rw [onlyChange?] at found
  split at found
  · split at found
    · rename_i before after beforePart afterPart
      obtain rfl := Option.some.inj found
      exact ⟨beforePart, afterPart⟩
    · cases found
  · cases found

theorem onlyChange_inside {part : Role} {pair parts : Nat × Nat}
    (found : onlyChange? context part pair = some parts) : context.diff.PairInside parts := by
  obtain ⟨beforePart, afterPart⟩ := onlyChange_parts found
  exact ⟨Arena.contains_part beforePart, Arena.contains_part afterPart⟩

theorem partRule_safe {part : Role} {kind : ActionKind}
    {make : Nat → Nat → RepairAction}
    (made : ∀ before after, (make before after).kind = kind ∧
      (make before after).values = [.node .before before, .node .after after]) :
    (partRule part make).Safe kind context set := by
  apply pairs_covered made
  intro parts member
  obtain ⟨pair, _, only⟩ := List.mem_filterMap.mp member
  exact onlyChange_inside only

theorem modifyCall_safe :
    modifyCall.Safe .modifyCall context set :=
  pairs_covered (fun _ _ => ⟨rfl, rfl⟩) modifiedExpressions_inside

theorem replaceCallTarget_safe :
    replaceCallTarget.Safe .replaceCallTarget context set := by
  intro action member
  obtain ⟨pair, _, shape⟩ := List.mem_filterMap.mp member
  split at shape
  · rename_i before after beforeTarget afterTarget
    split at shape
    · cases shape
    · obtain rfl := Option.some.inj shape
      have beforeInside : context.diff.Inside .before before := Arena.contains_part beforeTarget
      have afterInside : context.diff.Inside .after after := Arena.contains_part afterTarget
      refine ⟨rfl, Diff.covers_iff.mpr ?_⟩
      simpa [RepairAction.values, Diff.Fits] using ⟨beforeInside, afterInside⟩
  · cases shape

theorem modifyCallArgs_safe (sound : set.Sound context.diff) :
    modifyCallArgs.Safe .modifyCallArgs context set :=
  pairs_covered (fun _ _ => ⟨rfl, rfl⟩)
  (fun _ member => sound.modifiedCalls (List.mem_filter.mp member).1)

theorem mem_of_onlyExtra? {agree : Nat → Nat → Bool} {longer shorter : List Nat} {extra : Nat}
    (found : onlyExtra? agree longer shorter = some extra) : extra ∈ longer := by
  rw [onlyExtra?] at found
  split at found
  · exact List.mem_of_getElem? found
  · cases found

theorem mem_of_onlyDifference? {agree : Nat → Nat → Bool} {first second : List Nat}
    {pair : Nat × Nat} (found : onlyDifference? agree first second = some pair) :
    pair.1 ∈ first ∧ pair.2 ∈ second := by
  rw [onlyDifference?] at found
  split at found
  · split at found
    · rename_i only single
      obtain rfl := Option.some.inj found
      have member : only ∈ (first.zip second).filter fun (x, y) => !agree x y := by
        rw [single]
        exact List.mem_singleton.mpr rfl
      exact ⟨(List.of_mem_zip (List.mem_filter.mp member).1).1,
        (List.of_mem_zip (List.mem_filter.mp member).1).2⟩
    · cases found
  · cases found

theorem insertCallArg_safe (sound : set.Sound context.diff) :
    insertCallArg.Safe .insertCallArg context set := by
  intro action member
  obtain ⟨pair, there, shape⟩ := List.mem_filterMap.mp member
  obtain ⟨argument, extra, rfl⟩ := Option.map_eq_some_iff.mp shape
  have callInside := (sound.rearguedCalls there).2
  have argumentInside : context.diff.Inside .after argument :=
    Arena.contains_argument (mem_of_onlyExtra? extra)
  refine ⟨rfl, Diff.covers_iff.mpr ?_⟩
  simpa [RepairAction.values, Diff.Fits] using ⟨callInside, argumentInside⟩

theorem removeCallArg_safe (sound : set.Sound context.diff) :
    removeCallArg.Safe .removeCallArg context set := by
  intro action member
  obtain ⟨pair, there, shape⟩ := List.mem_filterMap.mp member
  obtain ⟨argument, extra, rfl⟩ := Option.map_eq_some_iff.mp shape
  have callInside := (sound.rearguedCalls there).1
  have argumentInside : context.diff.Inside .before argument :=
    Arena.contains_argument (mem_of_onlyExtra? extra)
  refine ⟨rfl, Diff.covers_iff.mpr ?_⟩
  simpa [RepairAction.values, Diff.Fits] using ⟨callInside, argumentInside⟩

theorem replaceCallArg_safe :
    replaceCallArg.Safe .replaceCallArg context set := by
  intro action member
  obtain ⟨pair, _, shape⟩ := List.mem_filterMap.mp member
  obtain ⟨arguments, difference, rfl⟩ := Option.map_eq_some_iff.mp shape
  obtain ⟨beforeMember, afterMember⟩ := mem_of_onlyDifference? difference
  have beforeInside : context.diff.Inside .before arguments.1 :=
    Arena.contains_argument beforeMember
  have afterInside : context.diff.Inside .after arguments.2 :=
    Arena.contains_argument afterMember
  refine ⟨rfl, Diff.covers_iff.mpr ?_⟩
  simpa [RepairAction.values, Diff.Fits] using ⟨beforeInside, afterInside⟩

theorem rule_safe (grounded : context.Grounded) (sound : set.Sound context.diff)
    (kind : ActionKind) : (rule kind).Safe kind context set := by
  cases kind with
  | deleteStatement => exact deleteStatement_safe
  | insertStatement => exact insertStatement_safe
  | modifyStatement => exact modifyStatement_safe grounded
  | wrapStatement => exact wrapStatement_safe sound
  | unwrapStatement => exact unwrapStatement_safe sound
  | replaceIfCondition => exact replaceIfCondition_safe sound
  | replaceThenBranch => exact replaceThenBranch_safe
  | replaceElseBranch => exact replaceElseBranch_safe
  | removeElseBranch => exact removeElseBranch_safe
  | insertElseBranch => exact insertElseBranch_safe sound
  | insertElseIfBranch => exact insertElseIfBranch_safe sound
  | guardElseBranch => exact guardElseBranch_safe sound
  | replaceSwitchExpression => exact replaceSwitchExpression_safe sound
  | replaceLoopGuard => exact replaceLoopGuard_safe sound
  | replaceLoopBody => exact replaceLoopBody_safe
  | modifyAssignment => exact modifyAssignment_safe
  | replaceAssignmentRhs => exact partRule_safe fun _ _ => ⟨rfl, rfl⟩
  | replaceAssignmentLhs => exact partRule_safe fun _ _ => ⟨rfl, rfl⟩
  | replaceAssignmentOp => exact partRule_safe fun _ _ => ⟨rfl, rfl⟩
  | modifyCall => exact modifyCall_safe
  | replaceCallTarget => exact replaceCallTarget_safe
  | modifyCallArgs => exact modifyCallArgs_safe sound
  | insertCallArg => exact insertCallArg_safe sound
  | removeCallArg => exact removeCallArg_safe sound
  | replaceCallArg => exact replaceCallArg_safe

end Detection

end RepairMining
