import RepairMining.Proofs.Detection.Unchanged
import RepairMining.Proofs.Mining.Modularity
import RepairMining.Proofs.Syntax.Positions

namespace RepairMining

theorem ActionSet.Genuine.idle {context : Context} {set : ActionSet}
    (genuine : set.Genuine context) (unchanged : context.Unchanged) : set.Idle := by
  have quiet {kind : ActionKind} (nothing : (Detection.rule kind).finds context set = []) :
      set.actions kind = [] := (genuine.actions_eq kind).elim id fun found => found.trans nothing
  have calls : set.modifiedCalls = [] := by
    have found : set.actions .modifyCall = [] := quiet (by
      simp only [Detection.rule, Detection.modifyCall,
        Detection.modifiedExpressions_unchanged unchanged, List.map_nil])
    rw [modifiedCalls, found, List.filterMap_nil]
  constructor
  · have found : set.actions .deleteStatement = [] := quiet (by
      simp only [Detection.rule, Detection.deleteStatement, Detection.deleted_unchanged unchanged,
        List.map_nil])
    rw [deletedStatements, found, List.filterMap_nil]
  · have found : set.actions .insertStatement = [] := quiet (by
      simp only [Detection.rule, Detection.insertStatement, Detection.inserted_unchanged unchanged,
        List.map_nil])
    rw [insertedStatements, found, List.filterMap_nil]
  · intro pair member
    obtain ⟨action, listed, picked⟩ := List.mem_filterMap.mp member
    obtain ⟨stmt, _, shape⟩ := List.mem_filterMap.mp (genuine.mem_finds listed)
    split at shape
    · cases shape
    · obtain ⟨after, known, rfl⟩ := Option.map_eq_some_iff.mp shape
      obtain rfl := Option.some.inj picked
      exact unchanged.eq_of_afterOf known
  · have found : set.actions .modifyAssignment = [] := quiet (by
      simp only [Detection.rule, Detection.modifyAssignment,
        Detection.modifiedExpressions_unchanged unchanged, List.map_nil])
    rw [modifiedAssignments, found, List.filterMap_nil]
  · exact calls
  · have found : set.actions .modifyCallArgs = [] := quiet (by
      simp only [Detection.rule, Detection.modifyCallArgs, calls, List.filter_nil, List.map_nil])
    rw [rearguedCalls, found, List.filterMap_nil]

namespace Diff

/-- Both trees are the same up to positions and the role of the root, and every node corresponds to
the one with its number. -/
structure Unchanged (diff : Diff) : Prop where
  trees : diff.before.toTree.shape .concrete = diff.after.toTree.shape .concrete
  pairs : diff.correspondence.pairs = diff.before.nodes.map fun node => (node, node)

theorem Unchanged.make {diff : Diff} (unchanged : diff.Unchanged) (edits : List EditOp) :
    (Context.make diff edits).Unchanged where
  alike := Arena.alike_iff_shape.mpr unchanged.trees
  pairs := unchanged.pairs
  beforeHashes := rfl
  afterHashes := rfl

end Diff

namespace Miner

variable {σ : Type} {diff : Diff} {edits : List EditOp}

/-- A miner of all categories reports no action of any category but modified statements, whatever
edits are listed. -/
theorem mine_unchanged (unchanged : diff.Unchanged) (scripted : diff.edits = some edits)
    (storage : Storage (StateM σ)) (state : σ) :
    ∃ registry set stats, Registry.ofKinds ActionKind.all = .ok registry ∧
      (((Miner.mk registry none).mine storage diff).run state).1 = .ok (.analyzed set stats) ∧
      (∀ kind, set.contains kind = true) ∧
      ∀ kind, kind ≠ .modifyStatement → set.get? kind = some [] := by
  obtain ⟨set, stats, mined, genuine, every⟩ := mine_uncached closed_all scripted storage state
  have present (kind : ActionKind) : set.contains kind = true :=
    (every kind).mpr (Vocabulary.mem_all kind)
  have still := unchanged.make edits
  refine ⟨_, set, stats, Registry.ofKinds_ok_iff.mpr ⟨Vocabulary.nodup_all, closed_all, rfl⟩, mined,
    present, ?_⟩
  intro kind other
  obtain ⟨found, there⟩ := ActionSet.contains_iff.mp (present kind)
  rw [there, genuine.finds kind found there,
    Detection.finds_unchanged still (genuine.idle still) other]

end Miner

/-- A loop in a file that is only printed anew, with a script that touches all of it. -/
def Diff.reprinted : Diff where
  id := ⟨"r", "f", "a.c"⟩
  before := .ofTree (.node ⟨.translationUnit, none, some .body, some ⟨1, 0, 1, 20⟩⟩
    [.node ⟨.forLoop, none, none, some ⟨1, 0, 1, 20⟩⟩
      [.node ⟨.exprStatement, none, some .condition, none⟩
        [.node ⟨.identity, some "x", none, none⟩ []]]])
  after := .ofTree (.node ⟨.translationUnit, none, none, some ⟨1, 0, 3, 1⟩⟩
    [.node ⟨.forLoop, none, none, some ⟨1, 0, 3, 1⟩⟩
      [.node ⟨.exprStatement, none, some .condition, some ⟨2, 4, 2, 5⟩⟩
        [.node ⟨.identity, some "x", none, none⟩ []]]])
  correspondence := ⟨[(0, 0), (1, 1), (2, 2), (3, 3)], by decide, by decide⟩
  edits := some [.delete 3, .insert 3, .move 2 1, .update 1 2]
  fixFiles := ["a.c"]
  in_trees := by decide

namespace Miner

theorem mine_unchanged_reprinted :
    Diff.reprinted.Unchanged ∧ Diff.reprinted.edits.isSome = true ∧
    ∃ registry set stats, Registry.ofKinds ActionKind.all = .ok registry ∧
      (((Miner.mk registry none).mine Disk.storage .reprinted).run .empty).1 =
        .ok (.analyzed set stats) ∧
      ∀ kind, kind ≠ .modifyStatement → set.get? kind = some [] := by
  have unchanged : Diff.reprinted.Unchanged := by
    constructor
    · simp only [Diff.reprinted, Arena.toTree_ofTree]
      rfl
    · decide
  obtain ⟨registry, set, stats, accepted, mined, _, quiet⟩ :=
    mine_unchanged unchanged rfl Disk.storage .empty
  exact ⟨unchanged, rfl, registry, set, stats, accepted, mined, quiet⟩

end Miner

end RepairMining
