import RepairMining.Proofs.Action.Pipeline
import RepairMining.Proofs.Detection.Range

/-!
A detector reads the categories that it asks for and no others. So what it finds is settled by them,
and by induction along the pipeline by the difference alone.
-/

namespace RepairMining

namespace ActionSet

def Agree (kinds : List ActionKind) (first second : ActionSet) : Prop :=
  ∀ kind ∈ kinds, first.get? kind = second.get? kind

variable {kinds : List ActionKind} {first second : ActionSet}

theorem Agree.actions (agree : Agree kinds first second) {kind : ActionKind}
    (listed : kind ∈ kinds) : first.actions kind = second.actions kind := by
  rw [ActionSet.actions, ActionSet.actions, agree kind listed]

theorem Agree.modifiedStatements (agree : Agree kinds first second)
    (listed : .modifyStatement ∈ kinds) : first.modifiedStatements = second.modifiedStatements := by
  rw [ActionSet.modifiedStatements, ActionSet.modifiedStatements, agree.actions listed]

theorem Agree.insertedStatements (agree : Agree kinds first second)
    (listed : .insertStatement ∈ kinds) : first.insertedStatements = second.insertedStatements := by
  rw [ActionSet.insertedStatements, ActionSet.insertedStatements, agree.actions listed]

theorem Agree.deletedStatements (agree : Agree kinds first second)
    (listed : .deleteStatement ∈ kinds) : first.deletedStatements = second.deletedStatements := by
  rw [ActionSet.deletedStatements, ActionSet.deletedStatements, agree.actions listed]

theorem Agree.modifiedAssignments (agree : Agree kinds first second)
    (listed : .modifyAssignment ∈ kinds) :
    first.modifiedAssignments = second.modifiedAssignments := by
  rw [ActionSet.modifiedAssignments, ActionSet.modifiedAssignments, agree.actions listed]

theorem Agree.modifiedCalls (agree : Agree kinds first second)
    (listed : .modifyCall ∈ kinds) : first.modifiedCalls = second.modifiedCalls := by
  rw [ActionSet.modifiedCalls, ActionSet.modifiedCalls, agree.actions listed]

theorem Agree.rearguedCalls (agree : Agree kinds first second)
    (listed : .modifyCallArgs ∈ kinds) : first.rearguedCalls = second.rearguedCalls := by
  rw [ActionSet.rearguedCalls, ActionSet.rearguedCalls, agree.actions listed]

end ActionSet

/-- The rule reads no category but those that it asks for. -/
structure Rule.Local (rule : Rule) : Prop where
  searches : ∀ context first second, ActionSet.Agree rule.needs first second →
    rule.search context first = rule.search context second
  finds : ∀ context first second, ActionSet.Agree rule.needs first second →
    rule.finds context first = rule.finds context second

namespace Detection

theorem local_of_constant {rule : Rule}
    (searches : ∀ context first second, rule.search context first = rule.search context second)
    (finds : ∀ context first second, rule.finds context first = rule.finds context second) :
    rule.Local :=
  ⟨fun context first second _ => searches context first second,
    fun context first second _ => finds context first second⟩

theorem wrapStatement_local : wrapStatement.Local where
  searches := by
    intro context first second agree
    simp only [wrapStatement, agree.insertedStatements (by simp [wrapStatement]),
      agree.modifiedStatements (by simp [wrapStatement])]
  finds := by
    intro context first second agree
    simp only [wrapStatement, agree.insertedStatements (by simp [wrapStatement]),
      agree.modifiedStatements (by simp [wrapStatement])]

theorem unwrapStatement_local : unwrapStatement.Local where
  searches := by
    intro context first second agree
    simp only [unwrapStatement, agree.deletedStatements (by simp [unwrapStatement])]
  finds := by
    intro context first second agree
    simp only [unwrapStatement, agree.deletedStatements (by simp [unwrapStatement])]

theorem replaceIfCondition_local : replaceIfCondition.Local where
  searches := by
    intro context first second agree
    simp only [replaceIfCondition, readModifiedOfKind,
      agree.modifiedStatements (by simp [replaceIfCondition])]
  finds := by
    intro context first second agree
    simp only [replaceIfCondition, modifiedOfKind,
      agree.modifiedStatements (by simp [replaceIfCondition])]

theorem insertElseBranch_local : insertElseBranch.Local where
  searches := by
    intro context first second agree
    simp only [insertElseBranch, readGainedElse, readModifiedOfKind,
      agree.modifiedStatements (by simp [insertElseBranch])]
  finds := by
    intro context first second agree
    simp only [insertElseBranch, gainedElse, modifiedOfKind,
      agree.modifiedStatements (by simp [insertElseBranch])]

theorem insertElseIfBranch_local : insertElseIfBranch.Local where
  searches := by
    intro context first second agree
    simp only [insertElseIfBranch, readGainedElse, readModifiedOfKind,
      agree.modifiedStatements (by simp [insertElseIfBranch])]
  finds := by
    intro context first second agree
    simp only [insertElseIfBranch, gainedElse, modifiedOfKind,
      agree.modifiedStatements (by simp [insertElseIfBranch])]

theorem guardElseBranch_local : guardElseBranch.Local where
  searches := by
    intro context first second agree
    simp only [guardElseBranch, agree.insertedStatements (by simp [guardElseBranch])]
  finds := by
    intro context first second agree
    simp only [guardElseBranch, agree.insertedStatements (by simp [guardElseBranch])]

theorem replaceSwitchExpression_local : replaceSwitchExpression.Local where
  searches := by
    intro context first second agree
    simp only [replaceSwitchExpression, readModifiedOfKind,
      agree.modifiedStatements (by simp [replaceSwitchExpression])]
  finds := by
    intro context first second agree
    simp only [replaceSwitchExpression, modifiedOfKind,
      agree.modifiedStatements (by simp [replaceSwitchExpression])]

theorem replaceLoopGuard_local : replaceLoopGuard.Local where
  searches := by
    intro context first second agree
    simp only [replaceLoopGuard, readModifiedLoops,
      agree.modifiedStatements (by simp [replaceLoopGuard])]
  finds := by
    intro context first second agree
    simp only [replaceLoopGuard, modifiedLoops,
      agree.modifiedStatements (by simp [replaceLoopGuard])]

theorem insideModified_congr {context : Context} {kinds : List ActionKind}
    {first second : ActionSet} (agree : ActionSet.Agree kinds first second)
    (listed : .modifyStatement ∈ kinds) :
    insideModified context first = insideModified context second := by
  funext node
  rw [insideModified, insideModified, agree.modifiedStatements listed]

theorem modifyAssignment_local : modifyAssignment.Local where
  searches := by
    intro context first second agree
    simp only [modifyAssignment, readModifiedExpressions,
      agree.modifiedStatements (by simp [modifyAssignment])]
  finds := by
    intro context first second agree
    simp only [modifyAssignment, modifiedExpressions,
      insideModified_congr agree (by simp [modifyAssignment])]

theorem modifyCall_local : modifyCall.Local where
  searches := by
    intro context first second agree
    simp only [modifyCall, readModifiedExpressions,
      agree.modifiedStatements (by simp [modifyCall])]
  finds := by
    intro context first second agree
    simp only [modifyCall, modifiedExpressions, insideModified_congr agree (by simp [modifyCall])]

theorem partRule_local (part : Role) (make : Nat → Nat → RepairAction) :
    (partRule part make).Local where
  searches := by
    intro context first second agree
    simp only [partRule, agree.modifiedAssignments (by simp [partRule])]
  finds := by
    intro context first second agree
    simp only [partRule, agree.modifiedAssignments (by simp [partRule])]

theorem replaceCallTarget_local : replaceCallTarget.Local where
  searches := by
    intro context first second agree
    simp only [replaceCallTarget, agree.modifiedCalls (by simp [replaceCallTarget])]
  finds := by
    intro context first second agree
    simp only [replaceCallTarget, agree.modifiedCalls (by simp [replaceCallTarget])]

theorem modifyCallArgs_local : modifyCallArgs.Local where
  searches := by
    intro context first second agree
    simp only [modifyCallArgs, agree.modifiedCalls (by simp [modifyCallArgs])]
  finds := by
    intro context first second agree
    simp only [modifyCallArgs, agree.modifiedCalls (by simp [modifyCallArgs])]

theorem insertCallArg_local : insertCallArg.Local where
  searches := by
    intro context first second agree
    simp only [insertCallArg, readRearguedCalls, agree.rearguedCalls (by simp [insertCallArg])]
  finds := by
    intro context first second agree
    simp only [insertCallArg, agree.rearguedCalls (by simp [insertCallArg])]

theorem removeCallArg_local : removeCallArg.Local where
  searches := by
    intro context first second agree
    simp only [removeCallArg, readRearguedCalls, agree.rearguedCalls (by simp [removeCallArg])]
  finds := by
    intro context first second agree
    simp only [removeCallArg, agree.rearguedCalls (by simp [removeCallArg])]

theorem replaceCallArg_local : replaceCallArg.Local where
  searches := by
    intro context first second agree
    simp only [replaceCallArg, readRearguedCalls, agree.rearguedCalls (by simp [replaceCallArg])]
  finds := by
    intro context first second agree
    simp only [replaceCallArg, agree.rearguedCalls (by simp [replaceCallArg])]

theorem rule_local (kind : ActionKind) : (rule kind).Local := by
  cases kind with
  | deleteStatement => exact local_of_constant (fun _ _ _ => rfl) (fun _ _ _ => rfl)
  | insertStatement => exact local_of_constant (fun _ _ _ => rfl) (fun _ _ _ => rfl)
  | modifyStatement => exact local_of_constant (fun _ _ _ => rfl) (fun _ _ _ => rfl)
  | wrapStatement => exact wrapStatement_local
  | unwrapStatement => exact unwrapStatement_local
  | replaceIfCondition => exact replaceIfCondition_local
  | replaceThenBranch => exact local_of_constant (fun _ _ _ => rfl) (fun _ _ _ => rfl)
  | replaceElseBranch => exact local_of_constant (fun _ _ _ => rfl) (fun _ _ _ => rfl)
  | removeElseBranch => exact local_of_constant (fun _ _ _ => rfl) (fun _ _ _ => rfl)
  | insertElseBranch => exact insertElseBranch_local
  | insertElseIfBranch => exact insertElseIfBranch_local
  | guardElseBranch => exact guardElseBranch_local
  | replaceSwitchExpression => exact replaceSwitchExpression_local
  | replaceLoopGuard => exact replaceLoopGuard_local
  | replaceLoopBody => exact local_of_constant (fun _ _ _ => rfl) (fun _ _ _ => rfl)
  | modifyAssignment => exact modifyAssignment_local
  | replaceAssignmentRhs => exact partRule_local _ _
  | replaceAssignmentLhs => exact partRule_local _ _
  | replaceAssignmentOp => exact partRule_local _ _
  | modifyCall => exact modifyCall_local
  | replaceCallTarget => exact replaceCallTarget_local
  | modifyCallArgs => exact modifyCallArgs_local
  | insertCallArg => exact insertCallArg_local
  | removeCallArg => exact removeCallArg_local
  | replaceCallArg => exact replaceCallArg_local

theorem needs_subset (kind : ActionKind) : (rule kind).needs ⊆ kind.dependencies := by
  cases kind <;> decide

theorem level_lt_of_needs {kind needed : ActionKind} (reads : needed ∈ (rule kind).needs) :
    Pipeline.level needed < Pipeline.level kind :=
  Pipeline.level_lt (needs_subset kind reads)

end Detection

open Detection

/-- Every category of the set is what its rule finds given the set, and all that the rule reads is
there too. -/
structure ActionSet.Genuine (set : ActionSet) (context : Context) : Prop where
  needs : ∀ kind, set.contains kind = true →
    ∀ needed ∈ (rule kind).needs, set.contains needed = true
  finds : ∀ kind found, set.get? kind = some found → found = (rule kind).finds context set

namespace ActionSet

variable {context : Context} {set first second : ActionSet}

theorem contains_iff {kind : ActionKind} :
    set.contains kind = true ↔ ∃ found, set.get? kind = some found := by
  rw [Table.contains, Option.isSome_iff_exists]

theorem contains_of_get? {kind : ActionKind} {found : List RepairAction}
    (present : set.get? kind = some found) : set.contains kind = true :=
  contains_iff.mpr ⟨found, present⟩

theorem contains_insert {kind other : ActionKind} {found : List RepairAction} :
    (set.insert kind found).contains other = true ↔ other = kind ∨ set.contains other = true := by
  rw [Table.contains]
  by_cases same : other = kind
  · subst same
    simp [Table.get?_insert_self]
  · simp [Table.get?_insert_ne set found same, same, Table.contains]

theorem contains_restrict {kinds : List ActionKind} {kind : ActionKind} :
    (set.restrict kinds).contains kind = true ↔ kind ∈ kinds ∧ set.contains kind = true := by
  rw [Table.contains, Table.get?_restrict]
  by_cases listed : kind ∈ kinds
  · simp [listed, Table.contains]
  · simp [listed]

theorem genuine_empty (context : Context) : Genuine .empty context where
  needs := by
    intro kind present
    cases present
  finds := by
    intro kind found present
    cases present

theorem Genuine.insert (genuine : set.Genuine context) {kind : ActionKind}
    (absent : set.contains kind = false)
    (needs : ∀ needed ∈ (rule kind).needs, set.contains needed = true) :
    Genuine (Table.insert set kind ((rule kind).finds context set)) context := by
  -- The new category is read neither by itself nor by any that was there before it.
  have unread (other : ActionKind)
      (there : ∀ needed ∈ (rule other).needs, set.contains needed = true) :
      (rule other).finds context (Table.insert set kind ((rule kind).finds context set)) =
        (rule other).finds context set := by
    apply (rule_local other).finds context _ _
    intro needed reads
    refine Table.get?_insert_ne set _ ?_
    rintro rfl
    rw [there needed reads] at absent
    cases absent
  constructor
  · intro other present needed reads
    rcases contains_insert.mp present with rfl | present
    · exact contains_insert.mpr (.inr (needs needed reads))
    · exact contains_insert.mpr (.inr (genuine.needs other present needed reads))
  · intro other found present
    by_cases same : other = kind
    · subst same
      rw [Table.get?_insert_self] at present
      obtain rfl := Option.some.inj present
      exact (unread other needs).symm
    · rw [Table.get?_insert_ne set _ same] at present
      rw [genuine.finds other found present]
      exact (unread other (genuine.needs other (contains_of_get? present))).symm

theorem Genuine.actions_eq (genuine : set.Genuine context) (kind : ActionKind) :
    set.actions kind = [] ∨ set.actions kind = (rule kind).finds context set := by
  rw [ActionSet.actions]
  cases present : set.get? kind with
  | none => exact .inl rfl
  | some found => exact .inr (genuine.finds kind found present)

theorem Genuine.mem_finds (genuine : set.Genuine context) {kind : ActionKind}
    {action : RepairAction} (member : action ∈ set.actions kind) :
    action ∈ (rule kind).finds context set := by
  rcases genuine.actions_eq kind with nothing | found
  · rw [nothing] at member
    cases member
  · rwa [found] at member

theorem Genuine.restrict (genuine : set.Genuine context) {kinds : List ActionKind}
    (closed : Pipeline.Closed kinds) : Genuine (set.restrict kinds) context := by
  have listed {kind needed : ActionKind} (member : kind ∈ kinds)
      (reads : needed ∈ (rule kind).needs) : needed ∈ kinds :=
    closed kind member needed (needs_subset kind reads)
  constructor
  · intro kind present needed reads
    obtain ⟨member, there⟩ := contains_restrict.mp present
    exact contains_restrict.mpr ⟨listed member reads, genuine.needs kind there needed reads⟩
  · intro kind found present
    obtain ⟨member, _⟩ := contains_restrict.mp (contains_of_get? present)
    rw [Table.get?_restrict, if_pos member] at present
    rw [genuine.finds kind found present]
    apply (rule_local kind).finds context _ _
    intro needed reads
    rw [Table.get?_restrict, if_pos (listed member reads)]

theorem Genuine.get?_eq (genuine : first.Genuine context) (other : second.Genuine context)
    {kind : ActionKind} (inFirst : first.contains kind = true)
    (inSecond : second.contains kind = true) : first.get? kind = second.get? kind := by
  -- By induction on the place in the pipeline, since a category reads earlier ones only.
  induction place : Pipeline.level kind using Nat.strongRecOn generalizing kind with
  | _ place ih =>
    subst place
    obtain ⟨found, present⟩ := contains_iff.mp inFirst
    obtain ⟨found', present'⟩ := contains_iff.mp inSecond
    have agree : Agree (rule kind).needs first second := by
      intro needed reads
      exact ih (Pipeline.level needed) (level_lt_of_needs reads)
        (genuine.needs kind inFirst needed reads) (other.needs kind inSecond needed reads) rfl
    rw [present, present', genuine.finds kind found present, other.finds kind found' present',
      (rule_local kind).finds context first second agree]

/-- A genuine set is settled by the difference and the categories that it has. -/
theorem Genuine.eq (genuine : first.Genuine context) (other : second.Genuine context)
    (same : ∀ kind, first.contains kind = true ↔ second.contains kind = true) :
    first = second := by
  refine Table.ext fun kind => ?_
  by_cases present : first.contains kind = true
  · exact genuine.get?_eq other present ((same kind).mp present)
  · have absent : ¬ second.contains kind = true := fun there => present ((same kind).mpr there)
    rw [Table.contains, Bool.not_eq_true, Option.isSome_eq_false_iff, Option.isNone_iff_eq_none]
      at present absent
    rw [present, absent]

end ActionSet

end RepairMining
