import RepairMining.Proofs.Detection.Alike
import RepairMining.Proofs.Detection.Safety

namespace RepairMining

/-- Nothing has changed: the trees are alike and every node corresponds to itself. -/
structure Context.Unchanged (context : Context) : Prop where
  alike : context.before.Alike context.after
  pairs : context.diff.correspondence.pairs = context.before.nodes.map fun node => (node, node)
  beforeHashes : context.beforeHashes = .compute .concrete context.before
  afterHashes : context.afterHashes = .compute .concrete context.after

namespace Context.Unchanged

variable {context : Context} {node other : Nat}

theorem mem_pairs (unchanged : context.Unchanged) :
    (node, other) ∈ context.diff.correspondence.pairs ↔
      context.before.contains node = true ∧ node = other := by
  rw [unchanged.pairs, List.mem_map, Arena.contains_iff]
  simp only [Arena.nodes, List.mem_range, Prod.mk.injEq]
  constructor
  · rintro ⟨known, inside, rfl, rfl⟩
    exact ⟨inside, rfl⟩
  · rintro ⟨inside, rfl⟩
    exact ⟨node, inside, rfl, rfl⟩

theorem eq_of_afterOf (unchanged : context.Unchanged) (known : context.afterOf node = some other) :
    node = other :=
  (unchanged.mem_pairs.mp (Correspondence.mem_of_after? known)).2

theorem eq_of_beforeOf (unchanged : context.Unchanged)
    (known : context.beforeOf node = some other) : other = node :=
  (unchanged.mem_pairs.mp (Correspondence.mem_of_before? known)).2

theorem mapsBefore (unchanged : context.Unchanged) (inside : context.before.contains node = true) :
    context.mapsBefore node = true := by
  have listed := unchanged.mem_pairs.mpr ⟨inside, rfl⟩
  rw [Context.mapsBefore, Correspondence.mapsBefore, Correspondence.after?, Option.isSome_map,
    List.find?_isSome]
  exact ⟨(node, node), listed, beq_self_eq_true node⟩

theorem mapsAfter (unchanged : context.Unchanged) (inside : context.after.contains node = true) :
    context.mapsAfter node = true := by
  rw [← unchanged.alike.contains] at inside
  have listed := unchanged.mem_pairs.mpr ⟨inside, rfl⟩
  rw [Context.mapsAfter, Correspondence.mapsAfter, Correspondence.before?, Option.isSome_map,
    List.find?_isSome]
  exact ⟨(node, node), listed, beq_self_eq_true node⟩

theorem equivalent_self (unchanged : context.Unchanged)
    (inside : context.before.contains node = true) :
    context.equivalent (some node) (some node) = true := by
  obtain ⟨digest, hashed⟩ := Arena.exists_digest inside .concrete
  have hashes : context.afterHashes = context.beforeHashes := by
    rw [unchanged.beforeHashes, unchanged.afterHashes, unchanged.alike.compute]
  rw [Context.equivalent, hashes, unchanged.beforeHashes, hashed]
  exact beq_self_eq_true digest

theorem equivalent_part (unchanged : context.Unchanged) (node : Nat) (role : Role) :
    context.equivalent (context.before.part? node role) (context.after.part? node role) = true := by
  rw [← unchanged.alike.part?]
  cases part : context.before.part? node role with
  | none => rfl
  | some child => exact unchanged.equivalent_self (Arena.contains_part part)

end Context.Unchanged

/-- What is left of the categories that others are derived from where nothing has changed. -/
structure ActionSet.Idle (set : ActionSet) : Prop where
  deleted : set.deletedStatements = []
  inserted : set.insertedStatements = []
  modified : ∀ pair ∈ set.modifiedStatements, pair.1 = pair.2
  assignments : set.modifiedAssignments = []
  calls : set.modifiedCalls = []
  reargued : set.rearguedCalls = []

namespace Detection

variable {context : Context} {set : ActionSet}

theorem deleted_unchanged (unchanged : context.Unchanged) : deleted context = [] := by
  rw [deleted, List.filter_eq_nil_iff]
  intro stmt member
  simp [unchanged.mapsBefore (Arena.contains_of_mem_statements member)]

theorem inserted_unchanged (unchanged : context.Unchanged) : inserted context = [] := by
  rw [inserted, List.filterMap_eq_nil_iff]
  intro stmt member
  rw [if_pos (unchanged.mapsAfter (Arena.contains_of_mem_statements member))]

theorem modifiedExpressions_unchanged (unchanged : context.Unchanged) (set : ActionSet)
    (kind : NodeKind) : modifiedExpressions context set kind = [] := by
  rw [List.eq_nil_iff_forall_not_mem]
  intro pair member
  obtain ⟨_, _, counterpart, _, differs⟩ := mem_modifiedExpressions.mp member
  have same := unchanged.equivalent_self (Context.pair_of_afterOf counterpart).1
  rw [← unchanged.eq_of_afterOf counterpart, same] at differs
  cases differs

theorem changedPart_unchanged (unchanged : context.Unchanged) (role : Role) {pair : Nat × Nat}
    (same : pair.1 = pair.2) : changedPart? context role pair = none := by
  have equivalent := unchanged.equivalent_part pair.2 role
  rw [changedPart?, same]
  split
  · rename_i before after one other
    rw [one, other] at equivalent
    rw [if_pos equivalent]
  · rfl

theorem changedParts_unchanged (unchanged : context.Unchanged) {pairs : List (Nat × Nat)}
    (same : ∀ pair ∈ pairs, pair.1 = pair.2) (role : Role)
    (make : Nat → Nat → Nat → Nat → RepairAction) :
    pairs.filterMap (fun pair => (changedPart? context role pair).map
      fun (before, after) => make pair.1 pair.2 before after) = [] := by
  rw [List.filterMap_eq_nil_iff]
  intro pair member
  rw [changedPart_unchanged unchanged role (same pair member)]
  rfl

theorem modifiedOfKind_unchanged (idle : set.Idle) (kind : NodeKind) :
    ∀ pair ∈ modifiedOfKind context set kind, pair.1 = pair.2 :=
  fun pair member => idle.modified pair (List.mem_filter.mp member).1

theorem survivingIfs_unchanged (unchanged : context.Unchanged) :
    ∀ pair ∈ survivingIfs context, pair.1 = pair.2 := by
  intro pair member
  obtain ⟨after, _, shape⟩ := List.mem_filterMap.mp (List.mem_filter.mp member).1
  obtain ⟨before, known, rfl⟩ := Option.map_eq_some_iff.mp shape
  exact unchanged.eq_of_beforeOf known

theorem loopCounterparts_unchanged (unchanged : context.Unchanged) :
    ∀ pair ∈ loopCounterparts context, pair.1 = pair.2 := by
  intro pair member
  obtain ⟨after, _, shape⟩ := List.mem_filterMap.mp member
  obtain ⟨before, known, rfl⟩ := Option.map_eq_some_iff.mp shape
  exact unchanged.eq_of_beforeOf known

theorem removeElseBranch_unchanged (unchanged : context.Unchanged) (set : ActionSet) :
    removeElseBranch.finds context set = [] := by
  simp only [removeElseBranch]
  rw [List.filterMap_eq_nil_iff]
  intro pair member
  rw [← unchanged.alike.elseBranch?, survivingIfs_unchanged unchanged pair member]
  cases context.before.elseBranch? pair.2 <;> rfl

theorem gainedElse_unchanged (unchanged : context.Unchanged) (idle : set.Idle) :
    gainedElse context set = [] := by
  rw [gainedElse, List.filterMap_eq_nil_iff]
  intro pair member
  rw [← unchanged.alike.elseBranch?, modifiedOfKind_unchanged idle _ pair member]
  cases context.before.elseBranch? pair.2 <;> rfl

theorem modifiedLoops_unchanged (unchanged : context.Unchanged) (idle : set.Idle) :
    ∀ pair ∈ modifiedLoops context set, pair.1 = pair.2 := by
  intro pair member
  rw [modifiedLoops, List.mem_eraseDups] at member
  obtain ⟨stmts, listed, rfl⟩ := List.mem_map.mp (List.mem_filter.mp member).1
  rw [guardOwner_alike unchanged.alike, idle.modified stmts listed]

theorem replaceLoopGuard_unchanged (unchanged : context.Unchanged) (idle : set.Idle) :
    replaceLoopGuard.finds context set = [] := by
  simp only [replaceLoopGuard]
  rw [List.filterMap_eq_nil_iff]
  intro pair member
  rw [modifiedLoops_unchanged unchanged idle pair member]
  exact if_pos (unchanged.equivalent_part pair.2 .condition)

theorem finds_unchanged (unchanged : context.Unchanged) (idle : set.Idle) {kind : ActionKind}
    (other : kind ≠ .modifyStatement) : (rule kind).finds context set = [] := by
  cases kind with
  | modifyStatement => exact absurd rfl other
  | deleteStatement => simp only [rule, deleteStatement, deleted_unchanged unchanged, List.map_nil]
  | insertStatement =>
    simp only [rule, insertStatement, inserted_unchanged unchanged, List.map_nil]
  | wrapStatement => simp only [rule, wrapStatement, idle.inserted, List.filterMap_nil]
  | unwrapStatement => simp only [rule, unwrapStatement, idle.deleted, List.filterMap_nil]
  | replaceIfCondition =>
    exact changedParts_unchanged unchanged (modifiedOfKind_unchanged idle .ifElse) _ _
  | replaceThenBranch =>
    exact changedParts_unchanged unchanged (survivingIfs_unchanged unchanged) _ _
  | replaceElseBranch =>
    exact changedParts_unchanged unchanged (survivingIfs_unchanged unchanged) _ _
  | removeElseBranch => exact removeElseBranch_unchanged unchanged set
  | insertElseBranch =>
    simp only [rule, insertElseBranch, gainedElse_unchanged unchanged idle, List.filter_nil,
      List.map_nil]
  | insertElseIfBranch =>
    simp only [rule, insertElseIfBranch, gainedElse_unchanged unchanged idle, List.filter_nil,
      List.map_nil]
  | guardElseBranch => simp only [rule, guardElseBranch, idle.inserted, List.filterMap_nil]
  | replaceSwitchExpression =>
    exact changedParts_unchanged unchanged (modifiedOfKind_unchanged idle .switch) _ _
  | replaceLoopGuard => exact replaceLoopGuard_unchanged unchanged idle
  | replaceLoopBody =>
    apply changedParts_unchanged unchanged
    intro pair member
    exact loopCounterparts_unchanged unchanged pair (List.mem_filter.mp member).1
  | modifyAssignment =>
    simp only [rule, modifyAssignment, modifiedExpressions_unchanged unchanged, List.map_nil]
  | replaceAssignmentRhs | replaceAssignmentLhs | replaceAssignmentOp =>
    simp only [rule, replaceAssignmentRhs, replaceAssignmentLhs, replaceAssignmentOp, partRule,
      idle.assignments, List.filterMap_nil, List.map_nil]
  | modifyCall =>
    simp only [rule, modifyCall, modifiedExpressions_unchanged unchanged, List.map_nil]
  | replaceCallTarget =>
    simp only [rule, replaceCallTarget, idle.calls, List.filter_nil, List.filterMap_nil]
  | modifyCallArgs => simp only [rule, modifyCallArgs, idle.calls, List.filter_nil, List.map_nil]
  | insertCallArg => simp only [rule, insertCallArg, idle.reargued, List.filterMap_nil]
  | removeCallArg => simp only [rule, removeCallArg, idle.reargued, List.filterMap_nil]
  | replaceCallArg => simp only [rule, replaceCallArg, idle.reargued, List.filterMap_nil]

end Detection

end RepairMining
