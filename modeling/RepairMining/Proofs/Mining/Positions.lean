import RepairMining.Proofs.Mining.History
import RepairMining.Proofs.Pool.Building
import RepairMining.Proofs.Syntax.Positions
import RepairMining.Pool.Service

namespace RepairMining

/-- Both differences say the same, up to positions and the roles of the roots. -/
structure Diff.Repositioned (first second : Diff) : Prop where
  before : first.before.toTree.shape .concrete = second.before.toTree.shape .concrete
  after : first.after.toTree.shape .concrete = second.after.toTree.shape .concrete
  correspondence : first.correspondence = second.correspondence
  edits : first.edits = second.edits

namespace Diff.Repositioned

variable {first second : Diff}

theorem before_alike (moved : first.Repositioned second) :
    first.before.Alike second.before :=
  Arena.alike_iff_shape.mpr moved.before

theorem after_alike (moved : first.Repositioned second) : first.after.Alike second.after :=
  Arena.alike_iff_shape.mpr moved.after

theorem fingerprint (moved : first.Repositioned second) :
    first.fingerprint = second.fingerprint := by
  rw [Diff.fingerprint, Diff.fingerprint, moved.before_alike.compute, moved.after_alike.compute]

theorem context_alike (moved : first.Repositioned second) (edits : List EditOp) :
    (Context.make first edits).Alike (Context.make second edits) :=
  Context.Alike.make moved.before_alike moved.after_alike moved.correspondence

theorem finds (moved : first.Repositioned second) {edits : List EditOp}
    {kinds : List ActionKind} {set : ActionSet}
    (found : Miner.Finds first edits kinds set) : Miner.Finds second edits kinds set :=
  ⟨found.1.alike (moved.context_alike edits), found.2⟩

end Diff.Repositioned

namespace Miner

variable {σ : Type} {kinds : List ActionKind}

theorem mine_of_repositioned {first second : Diff} (moved : first.Repositioned second)
    {registry : Registry} (accepted : Registry.ofKinds kinds = .ok registry)
    (storage : Storage (StateM σ)) (state : σ) :
    ∃ outcome, ((Miner.mk registry none).mine storage first).run state = (.ok outcome, state) ∧
      ((Miner.mk registry none).mine storage second).run state = (.ok outcome, state) ∧
      outcome.isAnalyzed = first.edits.isSome := by
  obtain ⟨_, closed, rfl⟩ := Registry.ofKinds_ok_iff.mp accepted
  cases scripted : first.edits with
  | none =>
    have alsoUnscripted : second.edits = none := moved.edits ▸ scripted
    exact ⟨_, mine_of_unscripted scripted, mine_of_unscripted alsoUnscripted, rfl⟩
  | some edits =>
    have alsoScripted : second.edits = some edits := moved.edits ▸ scripted
    obtain ⟨set, found, _, mined⟩ := mine_uncached_eq closed scripted storage state
    obtain ⟨other, alsoFound, _, alsoMined⟩ :=
      mine_uncached_eq closed alsoScripted storage state
    have same : other = set := alsoFound.unique (moved.finds found)
    rw [same] at alsoMined
    exact ⟨_, mined, alsoMined, rfl⟩

end Miner

theorem Pools.build_alike {first second : Arena} (alike : first.Alike second)
    (variant : PoolVariant) (existing : Pools) (requested : List PoolName) :
    build first variant.mode existing requested = build second variant.mode existing requested := by
  have same (name : PoolName) : gather first (.compute variant.mode first) name =
      gather second (.compute variant.mode second) name := name.own_alike alike variant
  simp only [build, same]

namespace PoolService

variable {σ : Type}

theorem build_uncached_eq (requested : List PoolName) (storage : Storage (StateM σ)) (diff : Diff)
    (variant : PoolVariant) (state : σ) {outcome : BuiltPools}
    (built : Pools.build diff.before variant.mode .empty requested = outcome) :
    ((PoolService.mk requested none).build storage diff variant).run state =
      (⟨⟨diff.id, variant, outcome.pools⟩, outcome.built, outcome.traversed, false⟩, state) := by
  rw [← built]
  rfl

end PoolService

namespace Diff.Repositioned

variable {first second : Diff} {σ : Type}

/-- Neither a miner of built-in detectors, nor the fingerprint, nor a service for pools in either
variant tells such differences apart. -/
theorem same_results (moved : first.Repositioned second) (storage : Storage (StateM σ))
    (state : σ) :
    (∀ kinds registry, Registry.ofKinds kinds = .ok registry →
      ∃ outcome, ((Miner.mk registry none).mine storage first).run state = (.ok outcome, state) ∧
        ((Miner.mk registry none).mine storage second).run state = (.ok outcome, state) ∧
        outcome.isAnalyzed = first.edits.isSome) ∧
    first.fingerprint = second.fingerprint ∧
    ∀ variant requested, ∃ pools built,
      ((PoolService.mk requested none).build storage first variant).run state =
          (⟨⟨first.id, variant, pools⟩, built, !built.isEmpty, false⟩, state) ∧
        ((PoolService.mk requested none).build storage second variant).run state =
          (⟨⟨second.id, variant, pools⟩, built, !built.isEmpty, false⟩, state) ∧
        ∀ name ∈ requested, pools.contains name = true := by
  refine ⟨?_, moved.fingerprint, ?_⟩
  · intro kinds registry accepted
    exact Miner.mine_of_repositioned moved accepted storage state
  · intro variant requested
    have alsoBuilt := Pools.build_alike moved.before_alike variant .empty requested
    refine ⟨_, _, PoolService.build_uncached_eq requested storage first variant state rfl,
      PoolService.build_uncached_eq requested storage second variant state alsoBuilt.symm, ?_⟩
    intro name listed
    rw [Table.contains, Pools.get?_build_empty first.before variant listed]
    rfl

end Diff.Repositioned

def Diff.excerpt : Diff where
  id := ⟨"r", "f", "a.c"⟩
  before := .ofTree (.node ⟨.exprStatement, none, some .condition, some ⟨3, 8, 3, 9⟩⟩
    [.node ⟨.identity, some "x", none, some ⟨3, 8, 3, 9⟩⟩ []])
  after := .ofTree (.node ⟨.exprStatement, none, some .condition, some ⟨4, 8, 4, 9⟩⟩
    [.node ⟨.identity, some "y", none, none⟩ []])
  correspondence := Diff.kept.correspondence
  edits := some [.update 1 1]
  fixFiles := ["a.c"]
  in_trees := by decide

def Diff.bareExcerpt : Diff where
  id := ⟨"r", "f", "b.c"⟩
  before := .ofTree (.node ⟨.exprStatement, none, none, none⟩
    [.node ⟨.identity, some "x", none, none⟩ []])
  after := .ofTree (.node ⟨.exprStatement, none, none, none⟩
    [.node ⟨.identity, some "y", none, none⟩ []])
  correspondence := Diff.kept.correspondence
  edits := some [.update 1 1]
  fixFiles := ["b.c"]
  in_trees := by decide

namespace Diff.Repositioned

theorem same_results_excerpt :
    Diff.excerpt.Repositioned .bareExcerpt ∧
    Diff.excerpt.fingerprint = Diff.bareExcerpt.fingerprint ∧
    ∃ registry outcome, Registry.ofKinds [.replaceLoopGuard, .modifyStatement] = .ok registry ∧
      ((Miner.mk registry none).mine Disk.storage .excerpt).run .empty = (.ok outcome, .empty) ∧
      ((Miner.mk registry none).mine Disk.storage .bareExcerpt).run .empty =
        (.ok outcome, .empty) := by
  have moved : Diff.excerpt.Repositioned .bareExcerpt := by
    constructor <;> simp only [Diff.excerpt, Diff.bareExcerpt, Arena.toTree_ofTree] <;> rfl
  have accepted : Registry.ofKinds [.replaceLoopGuard, .modifyStatement] =
      .ok (.builtin [.replaceLoopGuard, .modifyStatement]) :=
    Registry.ofKinds_ok_iff.mpr ⟨by decide, by unfold Pipeline.Closed; decide, rfl⟩
  obtain ⟨mined, fingerprint, _⟩ := moved.same_results Disk.storage .empty
  obtain ⟨outcome, one, other, _⟩ := mined _ _ accepted
  exact ⟨moved, fingerprint, _, outcome, accepted, one, other⟩

end Diff.Repositioned

end RepairMining
