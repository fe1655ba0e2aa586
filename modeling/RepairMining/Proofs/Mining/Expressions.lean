import RepairMining.Proofs.Mining.Attribution

namespace RepairMining

inductive Expression where
  | assignment
  | call
  deriving DecidableEq, Repr

namespace Expression

def category : Expression → ActionKind
  | assignment => .modifyAssignment
  | call => .modifyCall

def kind : Expression → NodeKind
  | assignment => .assignment
  | call => .functionCall

def report : Expression → Nat × Nat → RepairAction
  | assignment, pair => .modifyAssignment pair.1 pair.2
  | call, pair => .modifyCall pair.1 pair.2

end Expression

namespace ActionSet

variable {diff : Diff} {script : List EditOp} {set : ActionSet} {pair : Nat × Nat}
  {action : RepairAction}

theorem mem_picked_iff {kind : ActionKind} {pick : RepairAction → Option (Nat × Nat)}
    (picks : ∀ other, pick other = some pair ↔ other = action) :
    pair ∈ (set.actions kind).filterMap pick ↔ action ∈ set.actions kind := by
  simp only [List.mem_filterMap, picks, exists_eq_right]

def altered (set : ActionSet) : Expression → List (Nat × Nat)
  | .assignment => set.modifiedAssignments
  | .call => set.modifiedCalls

theorem mem_altered_iff (expression : Expression) :
    pair ∈ set.altered expression ↔ expression.report pair ∈ set.actions expression.category := by
  cases expression <;>
  · apply mem_picked_iff
    intro other
    cases other <;> simp [Expression.report, Prod.ext_iff]

theorem Genuine.alters_of_altered (genuine : set.Genuine (.make diff script))
    (expression : Expression) (listed : pair ∈ set.altered expression) :
    diff.Alters script expression.kind pair ∧ set.WithinModified diff pair.1 := by
  have found := genuine.mem_finds ((mem_altered_iff expression).mp listed)
  apply Detection.mem_modifiedExpressions_iff.mp
  cases expression <;>
  · obtain ⟨other, member, same⟩ := List.mem_map.mp found
    obtain rfl : other = pair := by simpa [Expression.report, Prod.ext_iff] using same
    exact member

theorem Genuine.altered_unique (genuine : set.Genuine (.make diff script))
    (expression : Expression) {other : Nat × Nat} (listed : pair ∈ set.altered expression)
    (also : other ∈ set.altered expression) (meet : other.1 = pair.1 ∨ other.2 = pair.2) :
    other = pair :=
  Correspondence.eq_of_meet (genuine.alters_of_altered expression also).1.counterpart
    (genuine.alters_of_altered expression listed).1.counterpart meet

end ActionSet

namespace Miner

variable {σ : Type} {kinds : List ActionKind}

theorem Finds.expressions {diff : Diff} {script : List EditOp} {set : ActionSet}
    {expression : Expression} (finds : Finds diff script kinds set)
    (listed : expression.category ∈ kinds) :
    set.get? expression.category = some
      ((Detection.modifiedExpressions (.make diff script) set expression.kind).map
        expression.report) := by
  rw [finds.get?_eq listed]
  cases expression <;> rfl

theorem Finds.mem_modifiedStatements_iff {diff : Diff} {script : List EditOp} {set : ActionSet}
    {before after : Nat} (finds : Finds diff script kinds set) (listed : .modifyStatement ∈ kinds) :
    (before, after) ∈ set.modifiedStatements ↔ diff.Modifies script before after :=
  Detection.mem_modifiedStatements (finds.get?_eq listed)

theorem Finds.mem_altered_iff {diff : Diff} {script : List EditOp} {set : ActionSet}
    {pair : Nat × Nat} (finds : Finds diff script kinds set) (expression : Expression)
    (listed : expression.category ∈ kinds) : pair ∈ set.altered expression ↔
      diff.Alters script expression.kind pair ∧ set.WithinModified diff pair.1 := by
  refine ⟨finds.1.alters_of_altered expression, fun alters => ?_⟩
  rw [ActionSet.mem_altered_iff, ActionSet.actions, finds.expressions listed]
  exact List.mem_map_of_mem (Detection.mem_modifiedExpressions_iff.mpr alters)

theorem Finds.mem_altered {diff : Diff} {script : List EditOp} {set : ActionSet} {pair : Nat × Nat}
    (finds : Finds diff script kinds set) (expression : Expression)
    (statements : .modifyStatement ∈ kinds) (listed : expression.category ∈ kinds)
    {before after : Nat} (modifies : diff.Modifies script before after)
    (above : before ∈ diff.before.chain pair.1) (alters : diff.Alters script expression.kind pair) :
    pair ∈ set.altered expression := by
  have stmt := (finds.mem_modifiedStatements_iff statements).mpr modifies
  exact (finds.mem_altered_iff expression listed).mpr
    ⟨alters, ActionSet.withinModified_iff.mpr ⟨(before, after), stmt, above⟩⟩

/-- Changed expressions are found exactly. Reported are the assignments and the calls that lie in
the subtree of a modified statement and whose counterparts are of the same kind and not equivalent,
each once and in the order of the tree, however the modified statements nest. The list is that of a
walk through the subtrees of the modified statements, one after the other, on which what has been
found is passed over. -/
theorem mine_expressions {registry : Registry} (accepted : Registry.ofKinds kinds = .ok registry)
    (storage : Storage (StateM σ)) (diff : Diff) (state : σ) :
    ∃ outcome, ((Miner.mk registry none).mine storage diff).run state = (.ok outcome, state) ∧
      outcome.isAnalyzed = diff.edits.isSome ∧
      ∀ set, outcome.actions? = some set →
        ∃ script, diff.edits = some script ∧
          ∀ expression : Expression, expression.category ∈ kinds →
            ∃ pairs : List (Nat × Nat),
              set.get? expression.category = some (pairs.map expression.report) ∧
              (pairs.Pairwise fun one other => one.1 < other.1) ∧
              (∀ pair, pair ∈ pairs ↔
                diff.Alters script expression.kind pair ∧ set.WithinModified diff pair.1) ∧
              pairs = Detection.gather (.make diff script) set expression.kind := by
  obtain ⟨outcome, mined, analyzed, found⟩ := mine_accepted accepted storage diff state
  refine ⟨outcome, mined, analyzed, ?_⟩
  intro set there
  obtain ⟨script, scripted, finds, _⟩ := found set there
  refine ⟨script, scripted, ?_⟩
  intro expression listed
  exact ⟨Detection.modifiedExpressions (.make diff script) set expression.kind,
    finds.expressions listed, Detection.modifiedExpressions_increasing _ set _,
    fun pair => Detection.mem_modifiedExpressions_iff, (Detection.gather_eq diff script set _).symm⟩

end Miner

/-- An assignment changes in a statement of a block that gets a further statement: both are
modified, and the one lies in the other. -/
def Diff.reassigned : Diff where
  id := ⟨"r", "f", "a.c"⟩
  before := .ofTree (.node ⟨.translationUnit, none, none, none⟩
    [.node ⟨.block, none, none, none⟩
      [.node ⟨.exprStatement, none, none, none⟩
        [.node ⟨.assignment, none, none, none⟩
          [.node ⟨.identity, some "x", some .lhs, none⟩ [],
            .node ⟨.operator, some "=", some .op, none⟩ [],
            .node ⟨.constant, some "1", some .rhs, none⟩ []]]]])
  after := .ofTree (.node ⟨.translationUnit, none, none, none⟩
    [.node ⟨.block, none, none, none⟩
      [.node ⟨.exprStatement, none, none, none⟩
          [.node ⟨.assignment, none, none, none⟩
            [.node ⟨.identity, some "x", some .lhs, none⟩ [],
              .node ⟨.operator, some "=", some .op, none⟩ [],
              .node ⟨.constant, some "2", some .rhs, none⟩ []]],
        .node ⟨.empty, none, none, none⟩ []]])
  correspondence := ⟨[(0, 0), (1, 1), (2, 2), (3, 3), (4, 4), (5, 5), (6, 6)], by decide,
    by decide⟩
  edits := some [.update 6 6, .insert 7]
  fixFiles := ["a.c"]
  in_trees := by decide

theorem Diff.alters_reassigned :
    Diff.reassigned.Alters [.update 6 6, .insert 7] .assignment (3, 3) where
  counterpart := by decide
  old := by decide
  new := by decide
  differs := by decide +kernel

namespace Miner

theorem mine_expressions_reassigned :
    ∃ (registry : Registry) (outcome : MiningOutcome) (set : ActionSet) (pairs : List (Nat × Nat)),
      Registry.ofKinds [.modifyStatement, .modifyAssignment] = .ok registry ∧
      ((Miner.mk registry none).mine Disk.storage .reassigned).run .empty =
        (.ok outcome, .empty) ∧
      outcome.actions? = some set ∧
      set.get? .modifyAssignment = some (pairs.map Expression.assignment.report) ∧
      (1, 1) ∈ set.modifiedStatements ∧ (2, 2) ∈ set.modifiedStatements ∧ (3, 3) ∈ pairs ∧
      pairs.Pairwise fun one other => one.1 < other.1 := by
  have accepted : Registry.ofKinds [.modifyStatement, .modifyAssignment] =
      .ok (.builtin [.modifyStatement, .modifyAssignment]) :=
    Registry.ofKinds_ok_iff.mpr ⟨by decide, by unfold Pipeline.Closed; decide, rfl⟩
  obtain ⟨outcome, mined, analyzed, found⟩ :=
    mine_expressions accepted Disk.storage .reassigned .empty
  cases outcome with
  | notAnalyzable reason => cases analyzed
  | analyzed set stats =>
    obtain ⟨script, scripted, law⟩ := found set rfl
    obtain rfl := Option.some.inj scripted
    have finds := finds_of_mined accepted mined rfl rfl
    have modified {before after : Nat} (modifies : Diff.reassigned.Modifies _ before after) :
        (before, after) ∈ set.modifiedStatements :=
      (finds.mem_modifiedStatements_iff (by decide)).mpr modifies
    have outer : (1, 1) ∈ set.modifiedStatements := modified
      ⟨by decide, .insert 7, by decide, Detection.touches_of_subjects (by decide) (by decide)⟩
    have inner : (2, 2) ∈ set.modifiedStatements := modified
      ⟨by decide, .update 6 6, by decide, Detection.touches_of_subjects (by decide) (by decide)⟩
    obtain ⟨pairs, there, sorted, member, _⟩ := law .assignment (by decide)
    refine ⟨_, _, set, pairs, accepted, mined, rfl, there, outer, inner, ?_, sorted⟩
    exact (member (3, 3)).mpr ⟨Diff.alters_reassigned,
      ActionSet.withinModified_iff.mpr ⟨(1, 1), outer, by decide⟩⟩

end Miner

end RepairMining
