import RepairMining.Proofs.Action.References
import RepairMining.Proofs.Detection.Distinct
import RepairMining.Proofs.Mining.Cached

namespace RepairMining

namespace Miner

variable {σ : Type} {kinds : List ActionKind}

/-- Every category that is asked for is there. It lists actions of its own only, each once, and the
scanned ones in increasing order. -/
theorem mine_distinct {registry : Registry} (accepted : Registry.ofKinds kinds = .ok registry)
    (storage : Storage (StateM σ)) (diff : Diff) (state : σ) :
    ∃ outcome, ((Miner.mk registry none).mine storage diff).run state = (.ok outcome, state) ∧
      outcome.isAnalyzed = diff.edits.isSome ∧
      ∀ set, outcome.actions? = some set →
        (∀ kind, set.contains kind = true ↔ kind ∈ kinds) ∧
        (∀ kind, ∀ action ∈ set.actions kind, action.kind = kind) ∧
        (∀ kind, (set.actions kind).Nodup) ∧
        ∀ kind ∈ [ActionKind.deleteStatement, .insertStatement, .modifyStatement,
            .modifyAssignment, .modifyCall], (set.actions kind).Pairwise RepairAction.Ahead := by
  obtain ⟨outcome, mined, analyzed, found⟩ := mine_accepted accepted storage diff state
  refine ⟨outcome, mined, analyzed, ?_⟩
  intro set there
  obtain ⟨edits, _, ⟨genuine, present⟩, sound⟩ := found set there
  refine ⟨present, ?_, genuine.nodup, ?_⟩
  · intro kind action member
    exact (ActionSet.filed_iff.mpr sound kind action member).1
  · intro kind scanned
    exact genuine.ahead scanned

end Miner

/-- A call in the body of a loop. The guard of the loop and the argument of the call are replaced,
so both the loop and the statement in it are modified. -/
def Diff.nested : Diff where
  id := ⟨"r", "f", "a.c"⟩
  before := .ofTree (.node ⟨.translationUnit, none, none, none⟩
    [.node ⟨.whileLoop, none, none, none⟩
      [.node ⟨.constant, some "1", some .condition, none⟩ [],
        .node ⟨.exprStatement, none, some .body, none⟩
          [.node ⟨.functionCall, none, none, none⟩
            [.node ⟨.identity, some "f", some .target, none⟩ [],
              .node ⟨.exprList, none, some .args, none⟩
                [.node ⟨.identity, some "x", none, none⟩ []]]]]])
  after := .ofTree (.node ⟨.translationUnit, none, none, none⟩
    [.node ⟨.whileLoop, none, none, none⟩
      [.node ⟨.constant, some "0", some .condition, none⟩ [],
        .node ⟨.exprStatement, none, some .body, none⟩
          [.node ⟨.functionCall, none, none, none⟩
            [.node ⟨.identity, some "f", some .target, none⟩ [],
              .node ⟨.exprList, none, some .args, none⟩
                [.node ⟨.identity, some "y", none, none⟩ []]]]]])
  correspondence := ⟨[(0, 0), (1, 1), (2, 2), (3, 3), (4, 4), (5, 5), (6, 6), (7, 7)],
    by decide, by decide⟩
  edits := some [.update 7 7, .update 2 2]
  fixFiles := ["a.c"]
  in_trees := by decide

namespace Miner

theorem mine_distinct_nested :
    ∃ registry outcome set,
      Registry.ofKinds [.replaceCallArg, .modifyCallArgs, .modifyCall, .modifyStatement] =
        .ok registry ∧
      ((Miner.mk registry none).mine Disk.storage .nested).run .empty = (.ok outcome, .empty) ∧
      outcome.actions? = some set ∧
      set.contains .modifyCall = true ∧
      (set.actions .modifyCall).Nodup ∧
      (set.actions .modifyCall).Pairwise RepairAction.Ahead := by
  have accepted : Registry.ofKinds
      [.replaceCallArg, .modifyCallArgs, .modifyCall, .modifyStatement] =
        .ok (.builtin [.replaceCallArg, .modifyCallArgs, .modifyCall, .modifyStatement]) :=
    Registry.ofKinds_ok_iff.mpr ⟨by decide, by unfold Pipeline.Closed; decide, rfl⟩
  obtain ⟨outcome, mined, analyzed, found⟩ :=
    mine_distinct accepted Disk.storage .nested .empty
  cases outcome with
  | notAnalyzable reason => cases analyzed
  | analyzed set stats =>
    obtain ⟨present, _, once, ahead⟩ := found set rfl
    exact ⟨_, _, set, accepted, mined, rfl, (present _).mpr (by decide), once _,
      ahead _ (by decide)⟩

end Miner

end RepairMining
