import RepairMining.Proofs.Cache.Codec
import RepairMining.Proofs.Cache.Disk
import RepairMining.Proofs.Cache.Location
import RepairMining.Proofs.Detection.Alike

namespace RepairMining

/-- The actions that were found, nothing if the difference was not analyzed. -/
def MiningOutcome.actions? : MiningOutcome → Option ActionSet
  | analyzed actions _ => some actions
  | notAnalyzable _ => none

def CacheLayout.actionsPlace (layout : CacheLayout) (id : DiffId) : DiskPath :=
  .ofText (CacheFile.actions layout id).path

def CacheLayout.actionsTemporary (layout : CacheLayout) (id : DiffId) : DiskPath :=
  .ofText (CacheFile.actions layout id).temporary

namespace CacheLayout

theorem actionsPlace_ne_temporary (layout : CacheLayout) (id other : DiffId) :
    layout.actionsPlace id ≠ layout.actionsTemporary other := by
  rw [actionsPlace, actionsTemporary]
  exact CacheFile.path_ne_temporary (.actions layout id) (.actions layout other)

theorem actionsPlace_plain : actionsPlace ⟨"cache"⟩ ⟨"r", "f", "a.c"⟩ =
    ["cache", "artefacts", "r", "f", "a.c.actions.json"] := by
  decide +kernel

theorem actionsTemporary_plain : actionsTemporary ⟨"cache"⟩ ⟨"r", "f", "a.c"⟩ =
    ["cache", "artefacts", "r", "f", "a.c.actions.tmp"] := by
  decide +kernel

theorem replace_plain (bytes : ByteArray) :
    (Disk.empty.replace (actionsPlace ⟨"cache"⟩ ⟨"r", "f", "a.c"⟩)
      (actionsTemporary ⟨"cache"⟩ ⟨"r", "f", "a.c"⟩) bytes).1 = none := by
  rw [actionsPlace_plain, actionsTemporary_plain]
  rfl

theorem read_plain :
    Disk.empty.read (actionsPlace ⟨"cache"⟩ ⟨"r", "f", "a.c"⟩) = .ok none := by
  rw [actionsPlace_plain]
  rfl

end CacheLayout

namespace Miner

variable {σ : Type} {storage : Storage (StateM σ)} {state : σ} {diff : Diff} {edits : List EditOp}
variable {kinds : List ActionKind}

theorem mine_uncached_eq (closed : Pipeline.Closed kinds) (scripted : diff.edits = some edits)
    (storage : Storage (StateM σ)) (state : σ) :
    ∃ set, Finds diff edits kinds set ∧ set.Sound diff ∧
      ((Miner.mk (.builtin kinds) none).mine storage diff).run state =
        (.ok (.analyzed set
          { detectorsRun := ActionSet.lacks .empty (Pipeline.order kinds)
            loadedFromCache := (Registry.builtin kinds).covered .empty
            cacheWritten := false }), state) := by
  have loaded := loadCached_none (.builtin kinds) storage diff state
  obtain ⟨result, completes, mined⟩ := mine_completes closed scripted none loaded
  have finds := finds_of_completes closed completes ((ActionSet.genuine_empty _).restrict closed)
  exact ⟨_, finds, completes.sound.restrict _, mined⟩

theorem mine_uncached (closed : Pipeline.Closed kinds) (scripted : diff.edits = some edits)
    (storage : Storage (StateM σ)) (state : σ) :
    ∃ set stats, (((Miner.mk (.builtin kinds) none).mine storage diff).run state).1 =
      .ok (.analyzed set stats) ∧ Finds diff edits kinds set := by
  obtain ⟨set, finds, _, mined⟩ := mine_uncached_eq closed scripted storage state
  exact ⟨set, _, congrArg Prod.fst mined, finds⟩

theorem mine_accepted {registry : Registry} (accepted : Registry.ofKinds kinds = .ok registry)
    (storage : Storage (StateM σ)) (diff : Diff) (state : σ) :
    ∃ outcome, ((Miner.mk registry none).mine storage diff).run state = (.ok outcome, state) ∧
      outcome.isAnalyzed = diff.edits.isSome ∧
      ∀ set, outcome.actions? = some set →
        ∃ edits, diff.edits = some edits ∧ Finds diff edits kinds set ∧ set.Sound diff := by
  obtain ⟨_, closed, rfl⟩ := Registry.ofKinds_ok_iff.mp accepted
  cases scripted : diff.edits with
  | none =>
    refine ⟨_, mine_of_unscripted scripted, rfl, ?_⟩
    intro set nothing
    cases nothing
  | some edits =>
    obtain ⟨set, finds, sound, mined⟩ := mine_uncached_eq closed scripted storage state
    refine ⟨_, mined, rfl, ?_⟩
    intro other same
    obtain rfl := Option.some.inj same
    exact ⟨edits, rfl, finds, sound⟩

theorem finds_of_mined {registry : Registry} (accepted : Registry.ofKinds kinds = .ok registry)
    {storage : Storage (StateM σ)} {state : σ} {outcome : MiningOutcome} {set : ActionSet}
    (mined : ((Miner.mk registry none).mine storage diff).run state = (.ok outcome, state))
    (present : outcome.actions? = some set) (scripted : diff.edits = some edits) :
    Finds diff edits kinds set := by
  obtain ⟨other, again, _, found⟩ := mine_accepted accepted storage diff state
  obtain rfl := Except.ok.inj (Prod.mk.inj (mined.symm.trans again)).1
  obtain ⟨script, same, finds, _⟩ := found set present
  obtain rfl := Option.some.inj (scripted.symm.trans same)
  exact finds

theorem offered_encode (diff : Diff) {writer : Diff} {set : ActionSet} (sound : set.Sound writer)
    (small : writer.Small) :
    (offered diff (.ok (some (ActionCache.encode writer.fingerprint set))) = set ∧
        writer.fingerprint = diff.fingerprint) ∨
      offered diff (.ok (some (ActionCache.encode writer.fingerprint set))) = .empty := by
  have read := ActionCache.decodeBytes_encode (sound.numbered small) writer.fingerprint
  by_cases same : writer.fingerprint = diff.fingerprint
  · rw [offered, ActionCache.decode, read]
    simp only [ActionCache.accept, same, ne_eq, not_true_eq_false, if_false]
    cases ActionCache.firstObjection? diff set with
    | none => exact .inl ⟨rfl, trivial⟩
    | some objection => exact .inr rfl
  · right
    rw [offered, ActionCache.decode, read]
    simp only [ActionCache.accept, same, ne_eq, not_true_eq_false, not_false_eq_true, if_false,
      if_true]

theorem read_storage (path : String) (disk : Disk) :
    (Disk.storage.read path).run disk = (disk.read (.ofText path), disk) := rfl

theorem loadCached_disk (registry : Registry) (layout : CacheLayout) (diff : Diff) (disk : Disk) :
    (loadCached ⟨registry, some layout⟩ Disk.storage diff).run disk =
      (offered diff (disk.read (layout.actionsPlace diff.id)), disk) := by
  rw [loadCached_eq, read_storage, CacheLayout.actionsPlace]

theorem storeMined_eq (registry : Registry) (layout : CacheLayout) (storage : Storage (StateM σ))
    (set : ActionSet) (fresh : Nat) (state : σ) :
    (storeMined ⟨registry, some layout⟩ storage diff set fresh).run state =
      if fresh = 0 then (false, state)
      else
        (((storage.replace (.actions layout diff.id)
            (ActionCache.encode diff.fingerprint set)).run state).1.isNone,
          ((storage.replace (.actions layout diff.id)
            (ActionCache.encode diff.fingerprint set)).run state).2) := by
  by_cases old : fresh = 0
  · simp only [storeMined, old, if_true]
    rfl
  · simp only [storeMined, old, if_false]
    rfl

theorem storeMined_disk (registry : Registry) (layout : CacheLayout) (set : ActionSet)
    (fresh : Nat) (disk : Disk) :
    (storeMined ⟨registry, some layout⟩ Disk.storage diff set fresh).run disk =
      if fresh = 0 then (false, disk)
      else
        ((disk.replace (layout.actionsPlace diff.id) (layout.actionsTemporary diff.id)
            (ActionCache.encode diff.fingerprint set)).1.isNone,
          (disk.replace (layout.actionsPlace diff.id) (layout.actionsTemporary diff.id)
            (ActionCache.encode diff.fingerprint set)).2) := by
  rw [storeMined_eq, Disk.replace_storage, CacheLayout.actionsPlace, CacheLayout.actionsTemporary]

end Miner

end RepairMining
