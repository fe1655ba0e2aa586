import RepairMining.Proofs.Action.References
import RepairMining.Proofs.Mining.Atomicity

namespace RepairMining

namespace CacheLayout

variable {layout : CacheLayout} {id : DiffId} {disk : Disk} {bytes : ByteArray}

theorem read_after_replace
    (done : (disk.replace (layout.actionsPlace id) (layout.actionsTemporary id) bytes).1 = none) :
    (disk.replace (layout.actionsPlace id) (layout.actionsTemporary id) bytes).2.read
        (layout.actionsPlace id) = .ok (some bytes) ∧
      ∀ next, ((disk.replace (layout.actionsPlace id) (layout.actionsTemporary id) bytes).2.replace
        (layout.actionsPlace id) (layout.actionsTemporary id) next).1 = none := by
  rw [actionsPlace, actionsTemporary] at done ⊢
  exact (CacheFile.actions layout id).replace_again done

theorem removeFile_of_read (held : disk.read (layout.actionsPlace id) = .ok (some bytes)) :
    (disk.removeFile (layout.actionsPlace id)).read (layout.actionsPlace id) = .ok none ∧
      ∀ next, ((disk.removeFile (layout.actionsPlace id)).replace (layout.actionsPlace id)
          (layout.actionsTemporary id) next).1 = none ↔
        (disk.replace (layout.actionsPlace id) (layout.actionsTemporary id) next).1 = none := by
  rw [actionsPlace] at held ⊢
  rw [actionsTemporary]
  exact (CacheFile.actions layout id).removeFile_of_read held

end CacheLayout

namespace ActionCache

variable {diff : Diff} {fingerprint : Fingerprint} {set : ActionSet} {bytes : ByteArray}

theorem store_disk (layout : CacheLayout) (id : DiffId) (fingerprint : Fingerprint)
    (set : ActionSet) (disk : Disk) :
    (store Disk.storage layout id fingerprint set).run disk =
      disk.replace (layout.actionsPlace id) (layout.actionsTemporary id)
        (encode fingerprint set) := by
  rw [store, Disk.replace_storage, CacheLayout.actionsPlace, CacheLayout.actionsTemporary]

theorem load_disk {layout : CacheLayout} {disk : Disk}
    (held : disk.read (layout.actionsPlace diff.id) = .ok (some bytes)) :
    (load Disk.storage layout diff fingerprint).run disk =
      ((decode diff fingerprint bytes).map some, disk) := by
  have answered := Miner.read_storage (CacheFile.actions layout diff.id).path disk
  rw [show DiskPath.ofText _ = layout.actionsPlace diff.id from rfl, held] at answered
  simp only [StateT.run] at answered
  simp only [load, bind, StateT.bind, StateT.run, answered]
  rfl

theorem decode_eq_ok :
    decode diff fingerprint bytes = .ok set ↔
      Json.decodeBytes contents bytes = .ok ⟨version, fingerprint, set⟩ ∧ set.Filed diff := by
  rw [decode, ActionSet.filed_iff]
  cases Json.decodeBytes contents bytes with
  | error cause => simp
  | ok contents => simp only [accept_eq_ok, Except.ok.injEq]

theorem objection?_corruption {kind : ActionKind} {action : RepairAction} {fault : CacheError}
    (objected : objection? diff kind action = some fault) : fault.isCorruption = true := by
  rw [objection?] at objected
  split at objected
  · obtain ⟨mention, _, rfl⟩ := Option.map_eq_some_iff.mp objected
    rfl
  · obtain rfl := Option.some.inj objected
    rfl

theorem decode_corruption {fault : CacheError}
    (refused : decode diff fingerprint bytes = .error fault) : fault.isCorruption = true := by
  rw [decode] at refused
  split at refused
  · obtain rfl := Except.error.inj refused
    rfl
  · rw [accept] at refused
    split at refused
    · obtain rfl := Except.error.inj refused
      rfl
    · split at refused
      · obtain rfl := Except.error.inj refused
        rfl
      · split at refused
        · rename_i objection objected
          obtain rfl := Except.error.inj refused
          obtain ⟨entry, _, found⟩ := List.exists_of_findSome?_eq_some objected
          obtain ⟨action, _, found⟩ := List.exists_of_findSome?_eq_some found
          exact objection?_corruption found
        · cases refused

end ActionCache

namespace Registry

variable {registry : Registry} {context : Context} {grown : ActionSet} {fresh : Nat}

theorem restrict_of_run (ran : registry.run context .empty = .ok (grown, fresh)) :
    Table.restrict grown registry.kinds = grown := by
  refine Table.ext fun kind => ?_
  rw [Table.get?_restrict]
  split
  · rfl
  · rename_i unlisted
    cases present : grown.get? kind with
    | none => rfl
    | some found =>
      rcases (contains_of_runFrom ran kind).mp (ActionSet.contains_of_get? present) with
        there | listed
      · cases there
      · exact absurd listed unlisted

theorem fresh_of_run (nonempty : registry.detectors ≠ [])
    (ran : registry.run context .empty = .ok (grown, fresh)) : fresh ≠ 0 := by
  intro idle
  obtain ⟨detector, listed⟩ := List.exists_mem_of_ne_nil _ nonempty
  cases (count_eq_of_runFrom ran).mp idle detector listed

theorem covered_empty (registry : Registry) : registry.covered .empty = 0 := by
  rw [covered, List.length_eq_zero_iff, List.filter_eq_nil_iff]
  intro kind _ present
  cases present

end Registry

namespace Miner

variable {registry : Registry} {layout : CacheLayout} {diff : Diff} {edits : List EditOp}
variable {disk : Disk}

theorem mine_disk_fresh (nonempty : registry.detectors ≠ []) (scripted : diff.edits = some edits)
    (nothing : offered diff (disk.read (layout.actionsPlace diff.id)) = .empty) :
    ((Miner.mk registry (some layout)).mine Disk.storage diff).run disk =
      match registry.run (.make diff edits) .empty with
      | .error fault => (.error fault, disk)
      | .ok (set, fresh) =>
        (.ok (.analyzed set
          { detectorsRun := fresh
            loadedFromCache := 0
            cacheWritten := ((ActionCache.store Disk.storage layout diff.id diff.fingerprint
              set).run disk).1.isNone }),
          ((ActionCache.store Disk.storage layout diff.id diff.fingerprint set).run disk).2) := by
  have loaded := loadCached_disk registry layout diff disk
  rw [nothing] at loaded
  cases ran : registry.run (.make diff edits) .empty with
  | error fault =>
    rw [mine_of_fault ⟨registry, some layout⟩ Disk.storage disk scripted
      (by rw [loaded]; exact ran), loaded]
  | ok result =>
    obtain ⟨grown, fresh⟩ := result
    have mined := mine_eq ⟨registry, some layout⟩ Disk.storage disk scripted
      (by rw [loaded]; exact ran)
    rw [mined, loaded, Registry.restrict_of_run ran, Registry.covered_empty, storeMined_disk,
      if_neg (Registry.fresh_of_run nonempty ran)]
    simp only [ActionCache.store_disk]

/-- The miner says the same as if there were no file, and what it has found takes its place if it
can be written. -/
def Renews (registry : Registry) (layout : CacheLayout) (diff : Diff) (disk : Disk) : Prop :=
  (disk.removeFile (layout.actionsPlace diff.id)).read (layout.actionsPlace diff.id) = .ok none ∧
  ∃ result after other,
    ((Miner.mk registry (some layout)).mine Disk.storage diff).run disk = (result, after) ∧
    ((Miner.mk registry (some layout)).mine Disk.storage diff).run
        (disk.removeFile (layout.actionsPlace diff.id)) = (result, other) ∧
    ∀ set stats, result = .ok (.analyzed set stats) →
      stats.loadedFromCache = 0 ∧
      (stats.cacheWritten = true ↔
        ((ActionCache.store Disk.storage layout diff.id diff.fingerprint set).run disk).1 = none) ∧
      (stats.cacheWritten = true →
        after.read (layout.actionsPlace diff.id) =
          .ok (some (ActionCache.encode diff.fingerprint set)))

theorem renews_of_refused (nonempty : registry.detectors ≠ []) {bytes : ByteArray}
    (held : disk.read (layout.actionsPlace diff.id) = .ok (some bytes))
    (refused : ∀ set, ActionCache.decode diff diff.fingerprint bytes ≠ .ok set) :
    Renews registry layout diff disk := by
  obtain ⟨gone, replaceable⟩ := CacheLayout.removeFile_of_read held
  refine ⟨gone, ?_⟩
  cases scripted : diff.edits with
  | none =>
    refine ⟨_, _, _, mine_of_unscripted scripted, mine_of_unscripted scripted, ?_⟩
    intro set stats analyzed
    cases analyzed
  | some edits =>
    have nothing : offered diff (disk.read (layout.actionsPlace diff.id)) = .empty := by
      rw [held, offered]
      cases decoded : ActionCache.decode diff diff.fingerprint bytes with
      | error fault => rfl
      | ok set => exact absurd decoded (refused set)
    have alsoNothing : offered diff ((disk.removeFile (layout.actionsPlace diff.id)).read
        (layout.actionsPlace diff.id)) = .empty := by
      rw [gone]
      rfl
    have mined := mine_disk_fresh nonempty scripted nothing
    have alsoMined := mine_disk_fresh nonempty scripted alsoNothing
    cases ran : registry.run (.make diff edits) .empty with
    | error fault =>
      rw [ran] at mined alsoMined
      refine ⟨_, _, _, mined, alsoMined, ?_⟩
      intro set stats analyzed
      cases analyzed
    | ok result =>
      obtain ⟨grown, fresh⟩ := result
      rw [ran] at mined alsoMined
      -- The file in the way neither helps nor hinders the new one.
      have same : ((ActionCache.store Disk.storage layout diff.id diff.fingerprint grown).run
          (disk.removeFile (layout.actionsPlace diff.id))).1.isNone =
          ((ActionCache.store Disk.storage layout diff.id diff.fingerprint grown).run
            disk).1.isNone := by
        rw [Bool.eq_iff_iff, Option.isNone_iff_eq_none, Option.isNone_iff_eq_none,
          ActionCache.store_disk, ActionCache.store_disk]
        exact replaceable _
      simp only [same] at alsoMined
      refine ⟨_, _, _, mined, alsoMined, ?_⟩
      intro set stats analyzed
      obtain ⟨rfl, rfl⟩ := MiningOutcome.analyzed.inj (Except.ok.inj analyzed)
      dsimp only
      rw [ActionCache.store_disk, Option.isNone_iff_eq_none]
      refine ⟨rfl, Iff.rfl, fun written => ?_⟩
      exact (CacheLayout.read_after_replace written).1

end Miner

namespace ActionCache

theorem load_stored {layout : CacheLayout} {diff : Diff} (small : diff.Small)
    {fingerprint : Fingerprint} {set : ActionSet} (filed : set.Filed diff) {disk stored : Disk}
    (done : (store Disk.storage layout diff.id fingerprint set).run disk = (none, stored)) :
    (load Disk.storage layout diff fingerprint).run stored = (.ok (some set), stored) ∧
      ∃ bytes again,
        stored.read (layout.actionsPlace diff.id) = .ok (some bytes) ∧
        (store Disk.storage layout diff.id fingerprint set).run stored = (none, again) ∧
        again.read (layout.actionsPlace diff.id) = .ok (some bytes) := by
  rw [store_disk] at done
  have after := congrArg Prod.snd done
  obtain ⟨held, replaceable⟩ := CacheLayout.read_after_replace (congrArg Prod.fst done)
  rw [show (disk.replace _ _ _).2 = stored from after] at held replaceable
  have again := replaceable (encode fingerprint set)
  have rewritten := (CacheLayout.read_after_replace again).1
  have accepted := decode_encode diff (ActionSet.filed_iff.mp filed) small fingerprint
  refine ⟨?_, encode fingerprint set, ?_⟩
  · rw [load_disk held, accepted]
    rfl
  · rw [store_disk]
    rcases replaced : stored.replace _ _ _ with ⟨fault, next⟩
    rw [replaced] at again rewritten
    exact ⟨next, held, Prod.ext again rfl, rewritten⟩

/-- The cache returns a set exactly if the file says so, for these trees, and every action is filed
rightly and refers to nodes of the right trees. Any other file is an error, which costs a miner
nothing but its work. -/
theorem faithful (layout : CacheLayout) (diff : Diff) (fingerprint : Fingerprint) (disk : Disk) :
    (diff.Small → ∀ set, set.Filed diff → ∀ stored,
      (store Disk.storage layout diff.id fingerprint set).run disk = (none, stored) →
      (load Disk.storage layout diff fingerprint).run stored = (.ok (some set), stored) ∧
      ∃ bytes again,
        stored.read (layout.actionsPlace diff.id) = .ok (some bytes) ∧
        (store Disk.storage layout diff.id fingerprint set).run stored = (none, again) ∧
        again.read (layout.actionsPlace diff.id) = .ok (some bytes)) ∧
    ∀ bytes, disk.read (layout.actionsPlace diff.id) = .ok (some bytes) →
      (∃ answer, (load Disk.storage layout diff fingerprint).run disk = (answer, disk) ∧
        (∀ set, answer = .ok (some set) ↔
          Json.decodeBytes contents bytes = .ok ⟨1, fingerprint, set⟩ ∧ set.Filed diff) ∧
        ((∃ set, answer = .ok (some set)) ∨
          ∃ fault, answer = .error fault ∧ fault.isCorruption = true)) ∧
      ((∀ set, ((load Disk.storage layout diff diff.fingerprint).run disk).1 ≠ .ok (some set)) →
        ∀ registry : Registry, registry.detectors ≠ [] →
          Miner.Renews registry layout diff disk) := by
  refine ⟨fun small set filed stored done => load_stored small filed done, ?_⟩
  intro bytes held
  refine ⟨⟨_, load_disk held, ?_, ?_⟩, ?_⟩
  · intro set
    rw [← show version = 1 from rfl, ← decode_eq_ok]
    cases decode diff fingerprint bytes <;> simp [Except.map]
  · cases decoded : decode diff fingerprint bytes with
    | ok set => exact .inl ⟨set, rfl⟩
    | error fault => exact .inr ⟨fault, rfl, decode_corruption decoded⟩
  · intro refused registry nonempty
    apply Miner.renews_of_refused nonempty held
    intro set decoded
    apply refused set
    rw [load_disk held, decoded]
    rfl

end ActionCache

def ActionSet.guarded : ActionSet :=
  Table.insert (Table.insert .empty .modifyStatement [.modifyStatement 0 0 [.move 0 0, .insert 0]])
    .replaceLoopGuard [.replaceLoopGuard 0 0 none (some 0)]

theorem ActionSet.guarded_filed (id : DiffId) : ActionSet.guarded.Filed (.blank id) := by
  have root (side : Side) : (Diff.blank id).Inside side 0 := by
    cases side <;> rfl
  intro kind action member
  rw [ActionSet.actions, ActionSet.guarded] at member
  by_cases loops : kind = .replaceLoopGuard
  · subst loops
    rw [Table.get?_insert_self, Option.getD_some, List.mem_singleton] at member
    subst member
    simp [RepairAction.kind, RepairAction.Resolves, Diff.PairInside, root]
  · rw [Table.get?_insert_ne _ _ loops] at member
    by_cases modified : kind = .modifyStatement
    · subst modified
      rw [Table.get?_insert_self, Option.getD_some, List.mem_singleton] at member
      subst member
      simp [RepairAction.kind, RepairAction.Resolves, EditOp.Resolves, Diff.PairInside, root]
    · rw [Table.get?_insert_ne _ _ modified] at member
      cases member

namespace ActionCache

theorem load_of_blank_file {layout : CacheLayout} (diff : Diff) {disk : Disk}
    (held : disk.read (layout.actionsPlace diff.id) = .ok (some "".toUTF8))
    (fingerprint : Fingerprint) (set : ActionSet) :
    ((load Disk.storage layout diff fingerprint).run disk).1 ≠ .ok (some set) := by
  have refused : (Json.decodeText contents "").toBool = false := by decide +kernel
  intro loaded
  rw [load_disk held] at loaded
  cases decoded : decode diff fingerprint "".toUTF8 with
  | error fault =>
    rw [decoded] at loaded
    cases loaded
  | ok other =>
    have accepted := (decode_eq_ok.mp decoded).1
    rw [Json.decodeBytes_toUTF8] at accepted
    rw [accepted] at refused
    cases refused

theorem faithful_blank :
    ∃ stored forged : Disk, ∃ registry,
      ((store Disk.storage ⟨"cache"⟩ ⟨"r", "f", "a.c"⟩
        (Diff.fingerprint (.blank ⟨"r", "f", "a.c"⟩)) .guarded).run .empty) = (none, stored) ∧
      (load Disk.storage ⟨"cache"⟩ (.blank ⟨"r", "f", "a.c"⟩)
        (Diff.fingerprint (.blank ⟨"r", "f", "a.c"⟩))).run stored =
          (.ok (some .guarded), stored) ∧
      forged.read (CacheLayout.actionsPlace ⟨"cache"⟩ ⟨"r", "f", "a.c"⟩) = .ok (some "".toUTF8) ∧
      Registry.ofKinds [.deleteStatement] = .ok registry ∧ registry.detectors ≠ [] ∧
      Miner.Renews registry ⟨"cache"⟩ (.blank ⟨"r", "f", "a.c"⟩) forged := by
  have small : (Diff.blank ⟨"r", "f", "a.c"⟩).Small := by
    intro side
    cases side <;> decide
  -- Which digests the trees have plays no part, so they are kept from being computed.
  generalize Diff.fingerprint (.blank ⟨"r", "f", "a.c"⟩) = fingerprint
  have done := CacheLayout.replace_plain (encode fingerprint .guarded)
  rcases ran : (store Disk.storage ⟨"cache"⟩ ⟨"r", "f", "a.c"⟩ fingerprint .guarded).run .empty
    with ⟨fault, stored⟩
  rw [← store_disk, ran] at done
  obtain rfl : fault = none := done
  obtain ⟨forged, held⟩ : ∃ forged : Disk,
      forged.read (CacheLayout.actionsPlace ⟨"cache"⟩ ⟨"r", "f", "a.c"⟩) = .ok (some "".toUTF8) :=
    ⟨_, (CacheLayout.read_after_replace (CacheLayout.replace_plain "".toUTF8)).1⟩
  have accepted : Registry.ofKinds [.deleteStatement] = .ok (.builtin [.deleteStatement]) :=
    Registry.ofKinds_ok_iff.mpr ⟨by decide, by unfold Pipeline.Closed; decide, rfl⟩
  have nonempty : (Registry.builtin [.deleteStatement]).detectors ≠ [] := by
    intro none
    have kinds := congrArg List.length none
    rw [Registry.builtin, List.length_map] at kinds
    exact absurd kinds (by decide)
  obtain ⟨roundTrip, _⟩ := faithful ⟨"cache"⟩ (.blank ⟨"r", "f", "a.c"⟩) fingerprint .empty
  obtain ⟨loaded, _⟩ := roundTrip small .guarded (ActionSet.guarded_filed _) stored ran
  obtain ⟨_, renews⟩ :=
    (faithful ⟨"cache"⟩ (.blank ⟨"r", "f", "a.c"⟩) fingerprint forged).2 "".toUTF8 held
  have refused := load_of_blank_file (.blank ⟨"r", "f", "a.c"⟩) held
    (Diff.fingerprint (.blank ⟨"r", "f", "a.c"⟩))
  have renewed := renews refused (.builtin [.deleteStatement]) nonempty
  exact ⟨stored, forged, _, rfl, loaded, held, accepted, nonempty, renewed⟩

end ActionCache

end RepairMining
