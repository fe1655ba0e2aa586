import Mathlib.Data.List.Forall2
import RepairMining.Proofs.Detection.Alike

namespace RepairMining

/-- Both contexts see the same trees with the same correspondence, and the same edits in some
order. -/
structure Context.Reordered (first second : Context) : Prop where
  alike : { first with edits := second.edits }.Alike second
  edits : ∀ op, op ∈ first.edits ↔ op ∈ second.edits

/-- The same modified statement with the same edits in some order, each listed once. -/
inductive RepairAction.Reordered : RepairAction → RepairAction → Prop
  | modifyStatement {before after : Nat} {edits others : List EditOp} (once : edits.Nodup)
      (alsoOnce : others.Nodup) (same : edits.Perm others) :
      RepairAction.Reordered (.modifyStatement before after edits)
        (.modifyStatement before after others)

theorem nodup_eraseDups {α : Type} [BEq α] [LawfulBEq α] (items : List α) :
    items.eraseDups.Nodup := by
  cases items with
  | nil => simp
  | cons item items =>
    rw [List.eraseDups_cons, List.nodup_cons, List.mem_eraseDups]
    exact ⟨by simp, nodup_eraseDups (items.filter fun other => !other == item)⟩
termination_by items.length
decreasing_by exact Nat.lt_succ_of_le (List.length_filter_le _ _)

def RepairAction.unscripted : RepairAction → RepairAction
  | .modifyStatement before after _ => .modifyStatement before after []
  | action => action

theorem RepairAction.Reordered.unscripted {first second : RepairAction}
    (reordered : first.Reordered second) : first.unscripted = second.unscripted := by
  cases reordered
  rfl

namespace ActionSet

def unscripted (set : ActionSet) : ActionSet :=
  ⟨fun kind => (set.get? kind).map (List.map RepairAction.unscripted)⟩

variable {set : ActionSet}

theorem get?_unscripted (set : ActionSet) (kind : ActionKind) :
    set.unscripted.get? kind = (set.get? kind).map (List.map RepairAction.unscripted) := rfl

theorem actions_unscripted (set : ActionSet) (kind : ActionKind) :
    set.unscripted.actions kind = (set.actions kind).map RepairAction.unscripted := by
  rw [actions, actions, get?_unscripted]
  cases set.get? kind <;> rfl

theorem filterMap_unscripted {β : Type} {pick : RepairAction → Option β}
    (blind : ∀ action, pick action.unscripted = pick action) (set : ActionSet)
    (kind : ActionKind) :
    (set.unscripted.actions kind).filterMap pick = (set.actions kind).filterMap pick := by
  rw [actions_unscripted, List.filterMap_map]
  congr 1
  exact funext blind

theorem modifiedStatements_unscripted (set : ActionSet) :
    set.unscripted.modifiedStatements = set.modifiedStatements :=
  filterMap_unscripted (fun action => by cases action <;> rfl) set _

theorem insertedStatements_unscripted (set : ActionSet) :
    set.unscripted.insertedStatements = set.insertedStatements :=
  filterMap_unscripted (fun action => by cases action <;> rfl) set _

theorem deletedStatements_unscripted (set : ActionSet) :
    set.unscripted.deletedStatements = set.deletedStatements :=
  filterMap_unscripted (fun action => by cases action <;> rfl) set _

theorem modifiedAssignments_unscripted (set : ActionSet) :
    set.unscripted.modifiedAssignments = set.modifiedAssignments :=
  filterMap_unscripted (fun action => by cases action <;> rfl) set _

theorem modifiedCalls_unscripted (set : ActionSet) :
    set.unscripted.modifiedCalls = set.modifiedCalls :=
  filterMap_unscripted (fun action => by cases action <;> rfl) set _

theorem rearguedCalls_unscripted (set : ActionSet) :
    set.unscripted.rearguedCalls = set.rearguedCalls :=
  filterMap_unscripted (fun action => by cases action <;> rfl) set _

end ActionSet

namespace Detection

variable {context first second : Context}

/-- No detector looks at the edits of the modified statements. -/
theorem finds_unscripted (kind : ActionKind) (context : Context) (set : ActionSet) :
    (rule kind).finds context set.unscripted = (rule kind).finds context set := by
  have inside : insideModified context set.unscripted = insideModified context set := by
    funext node
    rw [insideModified, insideModified, set.modifiedStatements_unscripted]
  cases kind with
  | deleteStatement | insertStatement | modifyStatement | replaceThenBranch | replaceElseBranch
  | removeElseBranch | replaceLoopBody => rfl
  | wrapStatement =>
    simp only [rule, wrapStatement, set.modifiedStatements_unscripted,
      set.insertedStatements_unscripted]
  | unwrapStatement => simp only [rule, unwrapStatement, set.deletedStatements_unscripted]
  | replaceIfCondition =>
    simp only [rule, replaceIfCondition, modifiedOfKind, set.modifiedStatements_unscripted]
  | insertElseBranch =>
    simp only [rule, insertElseBranch, gainedElse, modifiedOfKind,
      set.modifiedStatements_unscripted]
  | insertElseIfBranch =>
    simp only [rule, insertElseIfBranch, gainedElse, modifiedOfKind,
      set.modifiedStatements_unscripted]
  | guardElseBranch => simp only [rule, guardElseBranch, set.insertedStatements_unscripted]
  | replaceSwitchExpression =>
    simp only [rule, replaceSwitchExpression, modifiedOfKind, set.modifiedStatements_unscripted]
  | replaceLoopGuard =>
    simp only [rule, replaceLoopGuard, modifiedLoops, set.modifiedStatements_unscripted]
  | modifyAssignment => simp only [rule, modifyAssignment, modifiedExpressions, inside]
  | replaceAssignmentRhs =>
    simp only [rule, replaceAssignmentRhs, partRule, set.modifiedAssignments_unscripted]
  | replaceAssignmentLhs =>
    simp only [rule, replaceAssignmentLhs, partRule, set.modifiedAssignments_unscripted]
  | replaceAssignmentOp =>
    simp only [rule, replaceAssignmentOp, partRule, set.modifiedAssignments_unscripted]
  | modifyCall => simp only [rule, modifyCall, modifiedExpressions, inside]
  | replaceCallTarget => simp only [rule, replaceCallTarget, set.modifiedCalls_unscripted]
  | modifyCallArgs => simp only [rule, modifyCallArgs, set.modifiedCalls_unscripted]
  | insertCallArg => simp only [rule, insertCallArg, set.rearguedCalls_unscripted]
  | removeCallArg => simp only [rule, removeCallArg, set.rearguedCalls_unscripted]
  | replaceCallArg => simp only [rule, replaceCallArg, set.rearguedCalls_unscripted]

theorem equivalentLists_rescripted (context : Context) (edits : List EditOp) :
    { context with edits }.equivalentLists = context.equivalentLists := by
  funext befores
  induction befores with
  | nil =>
    funext afters
    cases afters <;> rfl
  | cons before befores ih =>
    funext afters
    cases afters with
    | nil => rfl
    | cons after afters =>
      rw [Context.equivalentLists, Context.equivalentLists, ih]
      rfl

theorem finds_rescripted {kind : ActionKind} (other : kind ≠ .modifyStatement) (context : Context)
    (edits : List EditOp) (set : ActionSet) :
    (rule kind).finds { context with edits } set = (rule kind).finds context set := by
  cases kind with
  | modifyStatement => exact absurd rfl other
  | replaceCallTarget | modifyCallArgs =>
    have same : sameArguments { context with edits } = sameArguments context := by
      funext pair
      rw [sameArguments, sameArguments, equivalentLists_rescripted]
      rfl
    simp only [rule, replaceCallTarget, modifyCallArgs, same]
    rfl
  | _ => rfl

theorem nodup_editsOf (attributed : List (EditOp × List Nat)) (stmt : Nat) :
    (editsOf attributed stmt).Nodup :=
  nodup_eraseDups _

theorem mem_editsOf_attribution {stmt : Nat} {op : EditOp} :
    op ∈ editsOf (attribution context) stmt ↔ op ∈ context.edits ∧ stmt ∈ subjects context op := by
  rw [editsOf, List.mem_eraseDups, attribution, List.filterMap_map, List.mem_filterMap]
  simp only [Function.comp_apply, Option.ite_none_right_eq_some, Option.some.injEq]
  constructor
  · rintro ⟨other, member, stmts, rfl⟩
    exact ⟨member, stmts⟩
  · rintro ⟨member, stmts⟩
    exact ⟨op, member, stmts, rfl⟩

theorem modified_reordered (reordered : first.Reordered second) :
    List.Forall₂ RepairAction.Reordered (modified first) (modified second) := by
  rw [← modified_alike reordered.alike]
  -- Statement by statement: both contexts attribute the same edits to it.
  have permuted (stmt : Nat) : (editsOf (attribution first) stmt).Perm
      (editsOf (attribution { first with edits := second.edits }) stmt) := by
    rw [List.perm_ext_iff_of_nodup (nodup_editsOf _ _) (nodup_editsOf _ _)]
    intro op
    rw [mem_editsOf_attribution, mem_editsOf_attribution, reordered.edits]
    rfl
  have nodes : List.Forall₂ (· = ·) first.before.nodes first.before.nodes := List.forall₂_refl _
  refine List.rel_filterMap ?_ nodes
  rintro stmt _ rfl
  have same := permuted stmt
  have once := nodup_editsOf (attribution first) stmt
  have alsoOnce := nodup_editsOf (attribution { first with edits := second.edits }) stmt
  dsimp only
  generalize editsOf (attribution first) stmt = edits at same once ⊢
  generalize editsOf (attribution { first with edits := second.edits }) stmt = others
    at same alsoOnce ⊢
  cases edits with
  | nil =>
    obtain rfl := same.nil_eq
    exact .none
  | cons op edits =>
    cases others with
    | nil => exact absurd same.eq_nil (List.cons_ne_nil op edits)
    | cons other others =>
      simp only [Context.afterOf]
      cases first.diff.correspondence.after? stmt with
      | none => exact .none
      | some after => exact .some (RepairAction.Reordered.modifyStatement once alsoOnce same)

end Detection

open Detection

namespace ActionSet

variable {first second : Context} {set other : ActionSet} {kind : ActionKind}

theorem finds_reordered (reordered : first.Reordered second)
    (agree : Agree (rule kind).needs set.unscripted other.unscripted)
    (unscripted : kind ≠ .modifyStatement) :
    (rule kind).finds first set = (rule kind).finds second other :=
  calc
    (rule kind).finds first set = (rule kind).finds first set.unscripted :=
      (finds_unscripted kind first set).symm
    _ = (rule kind).finds first other.unscripted :=
      (rule_local kind).finds first set.unscripted other.unscripted agree
    _ = (rule kind).finds first other := finds_unscripted kind first other
    _ = (rule kind).finds { first with edits := second.edits } other :=
      (finds_rescripted unscripted first second.edits other).symm
    _ = (rule kind).finds second other := finds_alike reordered.alike kind other

theorem map_unscripted_of_reordered {found others : List RepairAction}
    (reordered : List.Forall₂ RepairAction.Reordered found others) :
    found.map RepairAction.unscripted = others.map RepairAction.unscripted := by
  induction reordered with
  | nil => rfl
  | cons head _ ih => rw [List.map_cons, List.map_cons, head.unscripted, ih]

theorem Genuine.unscripted_eq (genuine : set.Genuine first) (alsoGenuine : other.Genuine second)
    (reordered : first.Reordered second) (inSet : set.contains kind = true)
    (inOther : other.contains kind = true) :
    set.unscripted.get? kind = other.unscripted.get? kind := by
  -- By induction on the place in the pipeline, since a category reads earlier ones only.
  induction place : Pipeline.level kind using Nat.strongRecOn generalizing kind with
  | _ place ih =>
    subst place
    obtain ⟨found, present⟩ := contains_iff.mp inSet
    obtain ⟨others, alsoPresent⟩ := contains_iff.mp inOther
    have agree : Agree (rule kind).needs set.unscripted other.unscripted := by
      intro needed reads
      exact ih (Pipeline.level needed) (level_lt_of_needs reads)
        (genuine.needs kind inSet needed reads) (alsoGenuine.needs kind inOther needed reads) rfl
    have same : found.map RepairAction.unscripted = others.map RepairAction.unscripted := by
      rw [genuine.finds kind found present, alsoGenuine.finds kind others alsoPresent]
      by_cases scripted : kind = .modifyStatement
      · subst scripted
        exact map_unscripted_of_reordered (modified_reordered reordered)
      · rw [finds_reordered reordered agree scripted]
    rw [get?_unscripted, get?_unscripted, present, alsoPresent, Option.map_some, Option.map_some,
      same]

theorem Genuine.get?_reordered (genuine : set.Genuine first) (alsoGenuine : other.Genuine second)
    (reordered : first.Reordered second) (unscripted : kind ≠ .modifyStatement)
    (inSet : set.contains kind = true) (inOther : other.contains kind = true) :
    set.get? kind = other.get? kind := by
  obtain ⟨found, present⟩ := contains_iff.mp inSet
  obtain ⟨others, alsoPresent⟩ := contains_iff.mp inOther
  have agree : Agree (rule kind).needs set.unscripted other.unscripted := by
    intro needed reads
    exact genuine.unscripted_eq alsoGenuine reordered (genuine.needs kind inSet needed reads)
      (alsoGenuine.needs kind inOther needed reads)
  rw [present, alsoPresent, genuine.finds kind found present,
    alsoGenuine.finds kind others alsoPresent, finds_reordered reordered agree unscripted]

theorem Genuine.modified_reordered (genuine : set.Genuine first)
    (alsoGenuine : other.Genuine second) (reordered : first.Reordered second)
    (inSet : set.contains .modifyStatement = true)
    (inOther : other.contains .modifyStatement = true) :
    List.Forall₂ RepairAction.Reordered (set.actions .modifyStatement)
      (other.actions .modifyStatement) := by
  obtain ⟨found, present⟩ := contains_iff.mp inSet
  obtain ⟨others, alsoPresent⟩ := contains_iff.mp inOther
  rw [actions, actions, present, alsoPresent, Option.getD_some, Option.getD_some,
    genuine.finds _ found present, alsoGenuine.finds _ others alsoPresent]
  exact Detection.modified_reordered reordered

end ActionSet

end RepairMining
