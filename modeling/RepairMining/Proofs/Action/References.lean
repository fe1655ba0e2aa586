import RepairMining.Proofs.Detection.Range

namespace RepairMining

def EditOp.Resolves (diff : Diff) : EditOp → Prop
  | .insert inserted => diff.Inside .after inserted
  | .delete deleted => diff.Inside .before deleted
  | .update before after => diff.PairInside (before, after)
  | .move source target => diff.PairInside (source, target)

theorem EditOp.resolves_iff {diff : Diff} {op : EditOp} :
    op.Resolves diff ↔ ∀ mention ∈ op.mentions, diff.Inside mention.1 mention.2 := by
  cases op <;> simp [Resolves, mentions, before?, after?, Diff.PairInside]

namespace RepairAction

/-- Every node that the action names lies in its tree. -/
def Resolves (diff : Diff) : RepairAction → Prop
  | .deleteStatement stmt => diff.Inside .before stmt
  | .insertStatement stmt parent => diff.Inside .after stmt ∧ diff.Inside .after parent
  | .modifyStatement before after edits =>
    diff.PairInside (before, after) ∧ ∀ op ∈ edits, op.Resolves diff
  | .wrapStatement stmt wrapper guard =>
    diff.PairInside (stmt, wrapper) ∧ diff.Inside .after guard
  | .unwrapStatement stmt after => diff.PairInside (stmt, after)
  | .replaceIfCondition before after beforePart afterPart
  | .replaceThenBranch before after beforePart afterPart
  | .replaceElseBranch before after beforePart afterPart
  | .replaceSwitchExpression before after beforePart afterPart
  | .replaceLoopBody before after beforePart afterPart =>
    diff.PairInside (before, after) ∧ diff.PairInside (beforePart, afterPart)
  | .removeElseBranch before after beforeElse =>
    diff.PairInside (before, after) ∧ diff.Inside .before beforeElse
  | .insertElseBranch before after part | .insertElseIfBranch before after part
  | .guardElseBranch before after part =>
    diff.PairInside (before, after) ∧ diff.Inside .after part
  | .replaceLoopGuard before after beforeGuard afterGuard =>
    diff.PairInside (before, after) ∧ (∀ guard ∈ beforeGuard, diff.Inside .before guard) ∧
      ∀ guard ∈ afterGuard, diff.Inside .after guard
  | .modifyAssignment before after | .replaceAssignmentRhs before after
  | .replaceAssignmentLhs before after | .replaceAssignmentOp before after
  | .modifyCall before after | .replaceCallTarget before after | .modifyCallArgs before after
  | .replaceCallArg before after => diff.PairInside (before, after)
  | .insertCallArg call arg => diff.Inside .after call ∧ diff.Inside .after arg
  | .removeCallArg call arg => diff.Inside .before call ∧ diff.Inside .before arg

theorem resolves_iff {diff : Diff} {action : RepairAction} :
    action.Resolves diff ↔ diff.Covers action := by
  rw [Diff.covers_iff]
  cases action with
  | modifyStatement before after edits =>
    simp [Resolves, values, Diff.Fits, Diff.PairInside, EditOp.resolves_iff, and_assoc]
  | _ => simp [Resolves, values, Diff.Fits, Diff.PairInside, and_assoc]

end RepairAction

def ActionSet.Filed (set : ActionSet) (diff : Diff) : Prop :=
  ∀ kind, ∀ action ∈ set.actions kind, action.kind = kind ∧ action.Resolves diff

theorem ActionSet.filed_iff {set : ActionSet} {diff : Diff} :
    set.Filed diff ↔ set.Sound diff := by
  simp only [Filed, Sound, RepairAction.resolves_iff, ActionSet.actions]
  constructor
  · intro filed kind found present action member
    exact filed kind action (by rw [present]; exact member)
  · intro sound kind action member
    cases present : set.get? kind with
    | none =>
      rw [present] at member
      cases member
    | some found =>
      rw [present] at member
      exact sound kind found present action member

end RepairMining
