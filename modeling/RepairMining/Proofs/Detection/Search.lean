import RepairMining.Detection.Builtin
import RepairMining.Proofs.Detection.Expressions
import RepairMining.Proofs.Detection.Extras
import RepairMining.Proofs.Detection.StatementSearch
import RepairMining.Proofs.Syntax.Ancestors

namespace RepairMining.Detection

open Traversal

variable {context : Context} {set : ActionSet}

section Expressions

variable {pair : Nat × Nat} {node : Nat}

theorem readModifiedNode_ok (grounded : context.Grounded)
    (inside : context.diff.Inside .before node) (kind : NodeKind) (found : List (Nat × Nat)) :
    readModifiedNode context kind found node = .ok (gatherNode context kind found node) := by
  have old : context.read .before (·.readHasKind node kind) =
      .ok (context.before.hasKind node kind) := Context.read_ok (Arena.readHasKind_ok inside _)
  rw [readModifiedNode, old, ok_bind, gatherNode]
  split
  · cases counterpart : context.afterOf node with
    | none => rfl
    | some after =>
      have pairInside := Context.pair_of_afterOf counterpart
      have new : context.read .after (·.readHasKind after kind) =
          .ok (context.after.hasKind after kind) :=
        Context.read_ok (Arena.readHasKind_ok pairInside.2 _)
      dsimp only
      rw [new, ok_bind, Context.readEquivalent_pair grounded pairInside, ok_bind]
      cases context.after.hasKind after kind <;>
        cases context.equivalent (some node) (some after) <;> rfl
  · rfl

theorem readModifiedExpressions_ok (grounded : context.Grounded) (sound : set.Sound context.diff)
    (kind : NodeKind) :
    readModifiedExpressions context set kind = .ok (modifiedExpressions context set kind) := by
  have gathered : gather context set kind = modifiedExpressions context set kind := by
    rw [grounded.eq_make]
    exact gather_eq context.diff context.edits set kind
  rw [← gathered]
  apply foldlM_ok
  intro found stmt member
  have inside := (sound.modifiedStatements member).1
  have nodes : context.read .before (·.readSubtree stmt.1) =
      .ok (context.before.subtree stmt.1) := Context.read_ok (Arena.readSubtree_ok inside)
  rw [nodes, ok_bind]
  apply foldlM_ok
  intro found node listed
  have below : stmt.1 ∈ context.before.chain node := Arena.mem_subtree.mp listed
  exact readModifiedNode_ok grounded (Arena.contains_of_mem_chain below) kind found

theorem modifyAssignment_searches (grounded : context.Grounded) (sound : set.Sound context.diff) :
    Searches modifyAssignment context set := by
  simp only [Searches, modifyAssignment, readModifiedExpressions_ok grounded sound, ok_bind]
  rfl

theorem modifyCall_searches (grounded : context.Grounded) (sound : set.Sound context.diff) :
    Searches modifyCall context set := by
  simp only [Searches, modifyCall, readModifiedExpressions_ok grounded sound, ok_bind]
  rfl

theorem readChangedRoles_ok (grounded : context.Grounded) (inside : context.diff.PairInside pair) :
    readChangedRoles context pair = .ok (changedParts context pair) := by
  apply filterM_ok
  intro part _
  rw [Context.readPart_before inside.1, ok_bind, Context.readPart_after inside.2, ok_bind,
    Context.readEquivalent_parts grounded]
  rfl

theorem readOnlyChange_ok (grounded : context.Grounded) (inside : context.diff.PairInside pair)
    (part : Role) : readOnlyChange context part pair = .ok (onlyChange? context part pair) := by
  rw [readOnlyChange, readChangedRoles_ok grounded inside, ok_bind, onlyChange?,
    Context.readPart_before inside.1, ok_bind, Context.readPart_after inside.2]
  split
  · cases context.before.part? pair.1 part <;> cases context.after.part? pair.2 part <;> rfl
  · rfl

theorem partRule_searches (grounded : context.Grounded) (sound : set.Sound context.diff)
    (part : Role) (make : Nat → Nat → RepairAction) :
    Searches (partRule part make) context set := by
  have changes := filterMapM_ok fun pair (member : pair ∈ set.modifiedAssignments) =>
    readOnlyChange_ok grounded (sound.modifiedAssignments member) part
  simp only [Searches, partRule, changes, ok_bind]
  rfl

theorem arguments_inside (pair : Nat × Nat) :
    ∀ arguments ∈
      (context.before.callArguments pair.1).zip (context.after.callArguments pair.2),
      context.diff.PairInside arguments := by
  intro arguments member
  obtain ⟨beforeMember, afterMember⟩ := List.of_mem_zip member
  exact ⟨Arena.contains_argument beforeMember, Arena.contains_argument afterMember⟩

theorem readSameArguments_ok (grounded : context.Grounded) (inside : context.diff.PairInside pair) :
    readSameArguments context pair = .ok (sameArguments context pair) := by
  rw [readSameArguments, Context.readArguments_before inside.1, ok_bind,
    Context.readArguments_after inside.2, ok_bind]
  exact Context.readEquivalentLists_ok grounded (arguments_inside pair)

theorem readSameTarget_ok (grounded : context.Grounded) (inside : context.diff.PairInside pair) :
    readSameTarget context pair = .ok (sameTarget context pair) := by
  rw [readSameTarget, Context.readPart_before inside.1, ok_bind, Context.readPart_after inside.2,
    ok_bind]
  exact Context.readEquivalent_parts grounded pair .target

theorem replaceCallTarget_searches (grounded : context.Grounded) (sound : set.Sound context.diff) :
    Searches replaceCallTarget context set := by
  have retargeted := filterM_ok fun pair (member : pair ∈ set.modifiedCalls) =>
    readSameArguments_ok grounded (sound.modifiedCalls member)
  simp only [Searches, replaceCallTarget, retargeted, ok_bind]
  apply filterMapM_ok
  intro pair member
  have inside := sound.modifiedCalls (List.mem_filter.mp member).1
  rw [readChangedPart_ok grounded inside, ok_bind, changedPart?, Arena.callTarget?,
    Arena.callTarget?]
  cases context.before.part? pair.1 .target with
  | none => rfl
  | some before =>
    cases context.after.part? pair.2 .target with
    | none => rfl
    | some after =>
      dsimp only
      split <;> rfl

theorem modifyCallArgs_searches (grounded : context.Grounded) (sound : set.Sound context.diff) :
    Searches modifyCallArgs context set := by
  have kept := filterM_ok fun pair (member : pair ∈ set.modifiedCalls) =>
    readSameTarget_ok grounded (sound.modifiedCalls member)
  have rearranged : ∀ pair ∈ set.modifiedCalls.filter (sameTarget context),
      (do return !(← readSameArguments context pair) : Except MiningError Bool) =
        .ok (!sameArguments context pair) := by
    intro pair member
    rw [readSameArguments_ok grounded (sound.modifiedCalls (List.mem_filter.mp member).1)]
    rfl
  simp only [Searches, modifyCallArgs, kept, ok_bind, filterM_ok rearranged, List.filter_filter,
    Bool.and_comm]
  rfl

theorem readRearguedCalls_ok (sound : set.Sound context.diff)
    {report : Nat × Nat → List Nat → List Nat → Except MiningError (Option RepairAction)}
    {plain : Nat × Nat → Option RepairAction}
    (agree : ∀ pair, context.diff.PairInside pair →
      report pair (context.before.callArguments pair.1) (context.after.callArguments pair.2) =
        .ok (plain pair)) :
    readRearguedCalls context set report = .ok (set.rearguedCalls.filterMap plain) := by
  apply filterMapM_ok
  intro pair member
  have inside := sound.rearguedCalls member
  rw [Context.readArguments_before inside.1, ok_bind, Context.readArguments_after inside.2,
    ok_bind, agree pair inside]

/-- Comparing at shifted places comes to the same as taking the element away. -/
theorem readExtraPlaces_ok {same : Nat → Nat → Except MiningError Bool} {plain : Nat → Nat → Bool}
    {longer shorter : List Nat}
    (agree : ∀ long ∈ longer, ∀ short ∈ shorter, same long short = .ok (plain long short)) :
    readExtraPlaces same longer shorter = .ok (extraPlaces plain longer shorter) := by
  rw [readExtraPlaces, extraPlaces]
  split
  · rename_i fits
    apply filterM_ok
    intro skip _
    rw [zip_eraseIdx fits, List.all_map]
    apply allM_ok
    intro place _
    exact agree _ (List.getElem_mem _) _ (List.getElem_mem _)
  · rfl

theorem readOnlyExtra_ok {same : Nat → Nat → Except MiningError Bool} {plain : Nat → Nat → Bool}
    {longer shorter : List Nat}
    (agree : ∀ long ∈ longer, ∀ short ∈ shorter, same long short = .ok (plain long short)) :
    readOnlyExtra same longer shorter = .ok (onlyExtra? plain longer shorter) := by
  rw [readOnlyExtra, readExtraPlaces_ok agree, ok_bind, onlyExtra?]
  split <;> rfl

theorem insertCallArg_searches (grounded : context.Grounded) (sound : set.Sound context.diff) :
    Searches insertCallArg context set := by
  apply readRearguedCalls_ok sound
  intro pair _
  have only : readOnlyExtra (fun long short => context.readEquivalent (some short) (some long))
      (context.after.callArguments pair.2) (context.before.callArguments pair.1) =
      .ok (onlyExtra? (fun long short => agree context short long)
        (context.after.callArguments pair.2) (context.before.callArguments pair.1)) := by
    apply readOnlyExtra_ok
    intro long listed short alsoListed
    have inside : context.diff.PairInside (short, long) :=
      ⟨Arena.contains_argument alsoListed, Arena.contains_argument listed⟩
    exact Context.readEquivalent_pair grounded inside
  dsimp only
  rw [only]
  rfl

theorem removeCallArg_searches (grounded : context.Grounded) (sound : set.Sound context.diff) :
    Searches removeCallArg context set := by
  apply readRearguedCalls_ok sound
  intro pair _
  have only : readOnlyExtra (fun long short => context.readEquivalent (some long) (some short))
      (context.before.callArguments pair.1) (context.after.callArguments pair.2) =
      .ok (onlyExtra? (agree context) (context.before.callArguments pair.1)
        (context.after.callArguments pair.2)) := by
    apply readOnlyExtra_ok
    intro long listed short alsoListed
    have inside : context.diff.PairInside (long, short) :=
      ⟨Arena.contains_argument listed, Arena.contains_argument alsoListed⟩
    exact Context.readEquivalent_pair grounded inside
  dsimp only
  rw [only]
  rfl

theorem readNextDifference_ok (grounded : context.Grounded) {pairs : List (Nat × Nat)}
    (inside : ∀ pair ∈ pairs, context.diff.PairInside pair) :
    (readNextDifference context pairs = .ok none ∧
      pairs.filter (fun (before, after) => !agree context before after) = []) ∨
    ∃ pair rest, readNextDifference context pairs = .ok (some (pair, rest)) ∧ rest ⊆ pairs ∧
      pairs.filter (fun (before, after) => !agree context before after) =
        pair :: rest.filter fun (before, after) => !agree context before after := by
  induction pairs with
  | nil => exact .inl ⟨rfl, rfl⟩
  | cons pair pairs ih =>
    have same := Context.readEquivalent_pair grounded (inside pair List.mem_cons_self)
    rw [readNextDifference, same, ok_bind]
    cases known : context.equivalent (some pair.1) (some pair.2) with
    | true =>
      rw [List.filter_cons_of_neg (by simp [agree, known])]
      rcases ih fun other member => inside other (List.mem_cons_of_mem pair member) with
        none | ⟨first, rest, found, behind, differ⟩
      · exact .inl none
      · exact .inr ⟨first, rest, found, List.subset_cons_of_subset pair behind, differ⟩
    | false =>
      rw [List.filter_cons_of_pos (by simp [agree, known])]
      exact .inr ⟨pair, pairs, rfl, List.subset_cons_self pair pairs, rfl⟩

theorem readOnlyDifference_ok (grounded : context.Grounded) {befores afters : List Nat}
    (inside : ∀ pair ∈ befores.zip afters, context.diff.PairInside pair) :
    readOnlyDifference context befores afters =
      .ok (onlyDifference? (agree context) befores afters) := by
  rw [readOnlyDifference, onlyDifference?]
  split
  · rcases readNextDifference_ok grounded inside with
      ⟨found, differ⟩ | ⟨pair, rest, found, behind, differ⟩
    · rw [found, differ]
      rfl
    · rw [found, ok_bind, differ]
      dsimp only
      rcases readNextDifference_ok grounded fun other member => inside other (behind member) with
        ⟨found, differ⟩ | ⟨other, further, found, _, differ⟩
      · rw [found, differ]
        rfl
      · rw [found, differ]
        rfl
  · rfl

theorem replaceCallArg_searches (grounded : context.Grounded) (sound : set.Sound context.diff) :
    Searches replaceCallArg context set := by
  apply readRearguedCalls_ok sound
  intro pair _
  rw [readOnlyDifference_ok grounded (arguments_inside pair)]
  rfl

end Expressions

/-- No search leaves the two trees, as long as the categories that it reads are sound. Then it comes
to what the rule says that it finds. -/
theorem rule_searches (grounded : context.Grounded) (sound : set.Sound context.diff)
    (kind : ActionKind) : Searches (rule kind) context set := by
  cases kind with
  | deleteStatement => exact deleteStatement_searches
  | insertStatement => exact insertStatement_searches
  | modifyStatement => exact modifyStatement_searches grounded
  | wrapStatement => exact wrapStatement_searches sound
  | unwrapStatement => exact unwrapStatement_searches sound
  | replaceIfCondition => exact replaceIfCondition_searches grounded sound
  | replaceThenBranch => exact replaceThenBranch_searches grounded
  | replaceElseBranch => exact replaceElseBranch_searches grounded
  | removeElseBranch => exact removeElseBranch_searches
  | insertElseBranch => exact insertElseBranch_searches sound
  | insertElseIfBranch => exact insertElseIfBranch_searches sound
  | guardElseBranch => exact guardElseBranch_searches sound
  | replaceSwitchExpression => exact replaceSwitchExpression_searches grounded sound
  | replaceLoopGuard => exact replaceLoopGuard_searches grounded sound
  | replaceLoopBody => exact replaceLoopBody_searches grounded
  | modifyAssignment => exact modifyAssignment_searches grounded sound
  | replaceAssignmentRhs => exact partRule_searches grounded sound _ _
  | replaceAssignmentLhs => exact partRule_searches grounded sound _ _
  | replaceAssignmentOp => exact partRule_searches grounded sound _ _
  | modifyCall => exact modifyCall_searches grounded sound
  | replaceCallTarget => exact replaceCallTarget_searches grounded sound
  | modifyCallArgs => exact modifyCallArgs_searches grounded sound
  | insertCallArg => exact insertCallArg_searches grounded sound
  | removeCallArg => exact removeCallArg_searches grounded sound
  | replaceCallArg => exact replaceCallArg_searches grounded sound

end RepairMining.Detection
