import Mathlib.Data.List.Nodup
import RepairMining.Proofs.Detection.Expressions
import RepairMining.Proofs.Detection.Reordering

namespace RepairMining

namespace Arena

variable {arena : Arena}

theorem statements_increasing (arena : Arena) : arena.statements.Pairwise (· < ·) :=
  List.pairwise_lt_range.filter _

theorem parent?_part {node child : Nat} {role : Role}
    (found : arena.part? node role = some child) : arena.parent? child = some node :=
  parent?_child (mem_children_of_part? found)

theorem grandparent?_argument {call argument : Nat}
    (member : argument ∈ arena.callArguments call) :
    (arena.parent? argument).bind arena.parent? = some call := by
  rw [callArguments] at member
  split at member
  · cases member
  · rename_i list args
    rw [parent?_child member]
    exact parent?_part args

end Arena

theorem Correspondence.eq_of_after? {correspondence : Correspondence} {first second after : Nat}
    (one : correspondence.after? first = some after)
    (other : correspondence.after? second = some after) : first = second := by
  have distinct := correspondence.injective
  rw [← List.pairwise_map (f := Prod.snd)] at distinct
  have same := List.inj_on_of_nodup_map distinct (mem_of_after? one) (mem_of_after? other) rfl
  exact congrArg Prod.fst same

/-- The first of two actions comes before the second: deleted and modified statements and modified
expressions by their numbers before the fix, inserted statements by those after it. -/
inductive RepairAction.Ahead : RepairAction → RepairAction → Prop
  | deleteStatement {first second : Nat} (less : first < second) :
      Ahead (.deleteStatement first) (.deleteStatement second)
  | insertStatement {first second parent other : Nat} (less : first < second) :
      Ahead (.insertStatement first parent) (.insertStatement second other)
  | modifyStatement {first second after other : Nat} {edits others : List EditOp}
      (less : first < second) :
      Ahead (.modifyStatement first after edits) (.modifyStatement second other others)
  | modifyAssignment {first second after other : Nat} (less : first < second) :
      Ahead (.modifyAssignment first after) (.modifyAssignment second other)
  | modifyCall {first second after other : Nat} (less : first < second) :
      Ahead (.modifyCall first after) (.modifyCall second other)

namespace Context

/-- The node at which an action was found, or the two loops: what tells it from the other actions of
its category. A part of an assignment or a call is found at the parent, an argument at the call. -/
def origin (context : Context) : RepairAction → List Nat
  | .deleteStatement stmt | .insertStatement stmt _ | .wrapStatement _ stmt _
  | .unwrapStatement stmt _ | .guardElseBranch _ stmt _ => [stmt]
  | .modifyStatement before _ _ | .replaceIfCondition before _ _ _ | .insertElseBranch before _ _
  | .insertElseIfBranch before _ _ | .replaceSwitchExpression before _ _ _
  | .modifyAssignment before _ | .modifyCall before _ | .modifyCallArgs before _ => [before]
  | .replaceThenBranch _ after _ _ | .replaceElseBranch _ after _ _ | .removeElseBranch _ after _
  | .replaceLoopBody _ after _ _ => [after]
  | .replaceLoopGuard before after _ _ => [before, after]
  | .replaceAssignmentRhs part _ | .replaceAssignmentLhs part _ | .replaceAssignmentOp part _
  | .replaceCallTarget part _ => (context.before.parent? part).toList
  | .insertCallArg call _ | .removeCallArg call _ => [call]
  | .replaceCallArg argument _ =>
    ((context.before.parent? argument).bind context.before.parent?).toList

def Apart (context : Context) (one other : RepairAction) : Prop :=
  context.origin one ≠ context.origin other

theorem nodup_of_apart {context : Context} {actions : List RepairAction}
    (apart : actions.Pairwise context.Apart) : actions.Nodup :=
  apart.imp fun differ same => differ (congrArg context.origin same)

end Context

/-- What other categories are derived from is listed in order. -/
structure ActionSet.Ordered (set : ActionSet) : Prop where
  deleted : set.deletedStatements.Pairwise (· < ·)
  inserted : set.insertedStatements.Pairwise (· < ·)
  modified : set.modifiedStatements.Pairwise fun one other => one.1 < other.1
  assignments : set.modifiedAssignments.Pairwise fun one other => one.1 < other.1
  calls : set.modifiedCalls.Pairwise fun one other => one.1 < other.1
  reargued : set.rearguedCalls.Pairwise fun one other => one.1 < other.1 ∧ one.2 ≠ other.2

namespace Detection

variable {context : Context} {set : ActionSet}

theorem filter_scan {α β : Type} [DecidableEq α] {items : List α} {item : α} {scan : α → Option β}
    {name : β → Option α} (once : items.Nodup) (member : item ∈ items)
    (named : ∀ other found, scan other = some found → name found = some other) :
    (items.filterMap scan).filter (fun found => name found = some item) = (scan item).toList := by
  have others {rest : List α} (missing : item ∉ rest) :
      (rest.filterMap scan).filter (fun found => name found = some item) = [] := by
    apply List.filter_eq_nil_iff.mpr
    intro found listed
    obtain ⟨other, there, made⟩ := List.mem_filterMap.mp listed
    rw [named other found made, decide_eq_true_eq, Option.some_inj]
    rintro rfl
    exact missing there
  obtain ⟨front, back, rfl⟩ := List.append_of_mem member
  obtain ⟨_, later, apart⟩ := List.nodup_append.mp once
  have early : item ∉ front := fun there => apart item there item List.mem_cons_self rfl
  rw [List.filterMap_append, List.filter_append, others early, List.nil_append,
    List.filterMap_cons]
  cases made : scan item with
  | none => exact others (List.nodup_cons.mp later).1
  | some found =>
    rw [List.filter_cons, if_pos (decide_eq_true (named item found made)),
      others (List.nodup_cons.mp later).1]
    rfl

theorem apart_of_less {one other : RepairAction} {first second : Nat}
    (origin : context.origin one = [first]) (alsoOrigin : context.origin other = [second])
    (less : first < second) : context.Apart one other := by
  rw [Context.Apart, origin, alsoOrigin]
  intro same
  exact Nat.ne_of_lt less (List.singleton_inj.mp same)

theorem apart_scan {α : Type} {items : List α} {scan : α → Option RepairAction} (start : α → Nat)
    (increasing : items.Pairwise fun one other => start one < start other)
    (named : ∀ item action, scan item = some action → context.origin action = [start item]) :
    (items.filterMap scan).Pairwise context.Apart := by
  refine increasing.filterMap scan ?_
  intro one other less action made next alsoMade
  exact apart_of_less (named one action made) (named other next alsoMade) less

theorem deleted_increasing (context : Context) : (deleted context).Pairwise (· < ·) :=
  context.before.statements_increasing.filter _

theorem inserted_increasing (context : Context) :
    (inserted context).Pairwise fun one other => one.1 < other.1 := by
  apply pairwise_scan (fun stmt => stmt) Prod.fst context.after.statements_increasing
  intro stmt pair shape
  split at shape
  · cases shape
  · split at shape
    · cases shape
    · split at shape
      · obtain rfl := Option.some.inj shape
        rfl
      · cases shape

theorem modified_ahead (context : Context) : (modified context).Pairwise RepairAction.Ahead := by
  refine List.Pairwise.filterMap _ ?_ List.pairwise_lt_range
  intro stmt next less action shape other alsoShape
  split at shape
  · cases shape
  · obtain ⟨after, _, rfl⟩ := Option.map_eq_some_iff.mp shape
    split at alsoShape
    · cases alsoShape
    · obtain ⟨further, _, rfl⟩ := Option.map_eq_some_iff.mp alsoShape
      exact .modifyStatement less

def scanned : List ActionKind :=
  [.deleteStatement, .insertStatement, .modifyStatement, .modifyAssignment, .modifyCall]

theorem finds_ahead {kind : ActionKind} (listed : kind ∈ scanned) :
    ((rule kind).finds context set).Pairwise RepairAction.Ahead := by
  have expressions := modifiedExpressions_increasing context set
  simp only [scanned, List.mem_cons, List.not_mem_nil, or_false] at listed
  rcases listed with rfl | rfl | rfl | rfl | rfl
  · exact List.pairwise_map.mpr ((deleted_increasing context).imp .deleteStatement)
  · exact List.pairwise_map.mpr ((inserted_increasing context).imp .insertStatement)
  · exact modified_ahead context
  · exact List.pairwise_map.mpr ((expressions .assignment).imp .modifyAssignment)
  · exact List.pairwise_map.mpr ((expressions .functionCall).imp .modifyCall)

theorem origin_of_ahead (context : Context) {one other : RepairAction} (ahead : one.Ahead other) :
    ∃ first second, context.origin one = [first] ∧ context.origin other = [second] ∧
      first < second := by
  cases ahead <;> exact ⟨_, _, rfl, rfl, ‹_›⟩

theorem apart_of_ahead {one other : RepairAction} (ahead : one.Ahead other) :
    context.Apart one other := by
  obtain ⟨first, second, origin, alsoOrigin, less⟩ := origin_of_ahead context ahead
  exact apart_of_less origin alsoOrigin less

theorem changedParts_apart {pairs : List (Nat × Nat)} (role : Role)
    {make : Nat → Nat → Nat → Nat → RepairAction} (start : Nat × Nat → Nat)
    (increasing : pairs.Pairwise fun one other => start one < start other)
    (made : ∀ pair before after,
      context.origin (make pair.1 pair.2 before after) = [start pair]) :
    (pairs.filterMap fun pair => (changedPart? context role pair).map
      fun (before, after) => make pair.1 pair.2 before after).Pairwise context.Apart := by
  apply apart_scan start increasing
  intro pair action shape
  obtain ⟨parts, _, rfl⟩ := Option.map_eq_some_iff.mp shape
  exact made pair parts.1 parts.2

theorem modifiedOfKind_increasing (ordered : set.Ordered) (kind : NodeKind) :
    (modifiedOfKind context set kind).Pairwise fun one other => one.1 < other.1 :=
  ordered.modified.filter _

theorem ifCounterparts_increasing (context : Context) :
    (ifCounterparts context).Pairwise fun one other => one.2 < other.2 := by
  apply pairwise_scan (fun stmt => stmt) Prod.snd (context.after.statements_increasing.filter _)
  intro after pair shape
  obtain ⟨before, _, rfl⟩ := Option.map_eq_some_iff.mp shape
  rfl

theorem loopCounterparts_increasing (context : Context) :
    (loopCounterparts context).Pairwise fun one other => one.2 < other.2 := by
  apply pairwise_scan (fun stmt => stmt) Prod.snd (context.after.statements_increasing.filter _)
  intro after pair shape
  obtain ⟨before, _, rfl⟩ := Option.map_eq_some_iff.mp shape
  rfl

theorem gainedElse_increasing (context : Context) (ordered : set.Ordered) :
    (gainedElse context set).Pairwise fun one other => one.1 < other.1 := by
  apply pairwise_scan Prod.fst Prod.fst (modifiedOfKind_increasing ordered _)
  intro pair gain shape
  split at shape
  · cases shape
  · obtain ⟨branch, _, rfl⟩ := Option.map_eq_some_iff.mp shape
    rfl

theorem wrapStatement_apart (ordered : set.Ordered) :
    (wrapStatement.finds context set).Pairwise context.Apart := by
  apply apart_scan (fun stmt => stmt) ordered.inserted
  intro wrapper action shape
  split at shape
  · cases shape
  · dsimp only at shape
    split at shape
    · cases shape
    · split at shape
      · obtain rfl := Option.some.inj shape
        rfl
      · cases shape

theorem unwrapStatement_apart (ordered : set.Ordered) :
    (unwrapStatement.finds context set).Pairwise context.Apart := by
  apply apart_scan (fun stmt => stmt) ordered.deleted
  intro stmt action shape
  split at shape
  · split at shape
    · cases shape
    · obtain ⟨after, _, rfl⟩ := Option.map_eq_some_iff.mp shape
      rfl
  · cases shape

theorem removeElseBranch_apart : (removeElseBranch.finds context set).Pairwise context.Apart := by
  apply apart_scan Prod.snd ((ifCounterparts_increasing context).filter _)
  intro pair action shape
  split at shape
  · cases shape
  · obtain ⟨branch, _, rfl⟩ := Option.map_eq_some_iff.mp shape
    rfl

theorem guardElseBranch_apart (ordered : set.Ordered) :
    (guardElseBranch.finds context set).Pairwise context.Apart := by
  apply apart_scan (fun stmt => stmt) ordered.inserted
  intro stmt action shape
  split at shape
  · cases shape
  · split at shape
    · split at shape
      · cases shape
      · split at shape
        · obtain rfl := Option.some.inj shape
          rfl
        · cases shape
    · cases shape

theorem replaceLoopGuard_apart : (replaceLoopGuard.finds context set).Pairwise context.Apart := by
  have once : (modifiedLoops context set).Nodup := nodup_eraseDups _
  apply pairwise_scan (fun pair : Nat × Nat => [pair.1, pair.2]) context.origin
  · apply once.imp
    intro one other differ same
    obtain ⟨first, second⟩ := List.cons.inj same
    exact differ (Prod.ext first (List.singleton_inj.mp second))
  · intro pair action shape
    dsimp only at shape
    split at shape
    · cases shape
    · obtain rfl := Option.some.inj shape
      rfl

theorem partRule_apart (ordered : set.Ordered) (part : Role) {make : Nat → Nat → RepairAction}
    (made : ∀ before after,
      context.origin (make before after) = (context.before.parent? before).toList) :
    ((partRule part make).finds context set).Pairwise context.Apart := by
  simp only [partRule, List.map_filterMap]
  apply apart_scan Prod.fst ordered.assignments
  intro pair action shape
  obtain ⟨parts, found, rfl⟩ := Option.map_eq_some_iff.mp shape
  rw [made, Arena.parent?_part (onlyChange_parts found).1]
  rfl

theorem replaceCallTarget_apart (ordered : set.Ordered) :
    (replaceCallTarget.finds context set).Pairwise context.Apart := by
  apply apart_scan Prod.fst (ordered.calls.filter _)
  intro pair action shape
  split at shape
  · rename_i before after target alsoTarget
    split at shape
    · cases shape
    · obtain rfl := Option.some.inj shape
      rw [Context.origin, Arena.parent?_part target]
      rfl
  · cases shape

theorem modifyCallArgs_apart (ordered : set.Ordered) :
    (modifyCallArgs.finds context set).Pairwise context.Apart := by
  apply List.pairwise_map.mpr
  apply (ordered.calls.filter _).imp
  intro one other less
  exact apart_of_less rfl rfl less

theorem insertCallArg_apart (ordered : set.Ordered) :
    (insertCallArg.finds context set).Pairwise context.Apart := by
  apply pairwise_scan (fun pair : Nat × Nat => [pair.2]) context.origin
  · apply ordered.reargued.imp
    intro one other differ same
    exact differ.2 (List.singleton_inj.mp same)
  · intro pair action shape
    obtain ⟨argument, _, rfl⟩ := Option.map_eq_some_iff.mp shape
    rfl

theorem removeCallArg_apart (ordered : set.Ordered) :
    (removeCallArg.finds context set).Pairwise context.Apart := by
  apply apart_scan Prod.fst (ordered.reargued.imp And.left)
  intro pair action shape
  obtain ⟨argument, _, rfl⟩ := Option.map_eq_some_iff.mp shape
  rfl

theorem replaceCallArg_apart (ordered : set.Ordered) :
    (replaceCallArg.finds context set).Pairwise context.Apart := by
  apply apart_scan Prod.fst (ordered.reargued.imp And.left)
  intro pair action shape
  obtain ⟨arguments, found, rfl⟩ := Option.map_eq_some_iff.mp shape
  rw [Context.origin, Arena.grandparent?_argument (mem_of_onlyDifference? found).1]
  rfl

theorem finds_apart (ordered : set.Ordered) (kind : ActionKind) :
    ((rule kind).finds context set).Pairwise context.Apart := by
  have gains := gainedElse_increasing context ordered
  cases kind with
  | deleteStatement | insertStatement | modifyStatement | modifyAssignment | modifyCall =>
    exact (finds_ahead (by decide)).imp apart_of_ahead
  | wrapStatement => exact wrapStatement_apart ordered
  | unwrapStatement => exact unwrapStatement_apart ordered
  | replaceIfCondition | replaceSwitchExpression =>
    exact changedParts_apart _ Prod.fst (modifiedOfKind_increasing ordered _) fun _ _ _ => rfl
  | replaceThenBranch | replaceElseBranch =>
    exact changedParts_apart _ Prod.snd ((ifCounterparts_increasing context).filter _)
      fun _ _ _ => rfl
  | removeElseBranch => exact removeElseBranch_apart
  | insertElseBranch | insertElseIfBranch =>
    apply List.pairwise_map.mpr
    apply (gains.filter _).imp
    intro one other less
    exact apart_of_less rfl rfl less
  | guardElseBranch => exact guardElseBranch_apart ordered
  | replaceLoopGuard => exact replaceLoopGuard_apart
  | replaceLoopBody =>
    exact changedParts_apart _ Prod.snd ((loopCounterparts_increasing context).filter _)
      fun _ _ _ => rfl
  | replaceAssignmentRhs | replaceAssignmentLhs | replaceAssignmentOp =>
    exact partRule_apart ordered _ fun _ _ => rfl
  | replaceCallTarget => exact replaceCallTarget_apart ordered
  | modifyCallArgs => exact modifyCallArgs_apart ordered
  | insertCallArg => exact insertCallArg_apart ordered
  | removeCallArg => exact removeCallArg_apart ordered
  | replaceCallArg => exact replaceCallArg_apart ordered

end Detection

open Detection

namespace ActionSet

variable {context : Context} {set : ActionSet}

theorem Genuine.ahead (genuine : set.Genuine context) {kind : ActionKind}
    (listed : kind ∈ scanned) : (set.actions kind).Pairwise RepairAction.Ahead := by
  rcases genuine.actions_eq kind with nothing | found
  · rw [nothing]
    exact List.Pairwise.nil
  · rw [found]
    exact finds_ahead listed

theorem Genuine.increasing (genuine : set.Genuine context) {kind : ActionKind}
    (listed : kind ∈ scanned) {α : Type} {pick : RepairAction → Option α} (number : α → Nat)
    (told : ∀ action found, pick action = some found → context.origin action = [number found]) :
    ((set.actions kind).filterMap pick).Pairwise fun one other => number one < number other := by
  refine (genuine.ahead listed).filterMap pick ?_
  intro one other ahead found picked next alsoPicked
  obtain ⟨first, second, origin, alsoOrigin, less⟩ := origin_of_ahead context ahead
  rw [told one found picked] at origin
  rw [told other next alsoPicked] at alsoOrigin
  rw [List.singleton_inj.mp origin, List.singleton_inj.mp alsoOrigin]
  exact less

theorem Genuine.afterOf_modifiedCalls (genuine : set.Genuine context) {pair : Nat × Nat}
    (member : pair ∈ set.modifiedCalls) : context.afterOf pair.1 = some pair.2 := by
  obtain ⟨action, listed, picked⟩ := List.mem_filterMap.mp member
  obtain ⟨⟨before, after⟩, found, rfl⟩ := List.mem_map.mp (genuine.mem_finds listed)
  obtain rfl := Option.some.inj picked
  exact (mem_modifiedExpressions.mp found).2.2.1

theorem Genuine.rearguedCalls_sublist (genuine : set.Genuine context) :
    set.rearguedCalls.Sublist set.modifiedCalls := by
  rw [rearguedCalls]
  rcases genuine.actions_eq .modifyCallArgs with nothing | found
  · rw [nothing]
    exact List.nil_sublist _
  · rw [found]
    simp only [rule, modifyCallArgs, List.filterMap_map]
    change (List.filterMap some (List.filter _ _)).Sublist _
    rw [List.filterMap_some]
    exact List.filter_sublist

theorem Genuine.ordered (genuine : set.Genuine context) : set.Ordered := by
  -- The calls come first, since those with other arguments are some of them.
  have calls : set.modifiedCalls.Pairwise fun one other => one.1 < other.1 := by
    apply genuine.increasing (by decide) Prod.fst
    intro action pair picked
    cases action <;> cases picked
    rfl
  constructor
  · apply genuine.increasing (by decide) fun stmt => stmt
    intro action stmt picked
    cases action <;> cases picked
    rfl
  · apply genuine.increasing (by decide) fun stmt => stmt
    intro action stmt picked
    cases action <;> cases picked
    rfl
  · apply genuine.increasing (by decide) Prod.fst
    intro action pair picked
    cases action <;> cases picked
    rfl
  · apply genuine.increasing (by decide) Prod.fst
    intro action pair picked
    cases action <;> cases picked
    rfl
  · exact calls
  · have sublist := genuine.rearguedCalls_sublist
    refine (calls.sublist sublist).imp_of_mem ?_
    intro one other member alsoMember less
    refine ⟨less, fun same => Nat.ne_of_lt less ?_⟩
    -- Two calls with one counterpart are the same call.
    have first := genuine.afterOf_modifiedCalls (sublist.subset member)
    have second := genuine.afterOf_modifiedCalls (sublist.subset alsoMember)
    rw [same] at first
    exact Correspondence.eq_of_after? first second

theorem Genuine.apart (genuine : set.Genuine context) (kind : ActionKind) :
    (set.actions kind).Pairwise context.Apart := by
  rcases genuine.actions_eq kind with nothing | found
  · rw [nothing]
    exact List.Pairwise.nil
  · rw [found]
    exact finds_apart genuine.ordered kind

theorem Genuine.nodup (genuine : set.Genuine context) (kind : ActionKind) :
    (set.actions kind).Nodup :=
  Context.nodup_of_apart (genuine.apart kind)

end ActionSet

end RepairMining
