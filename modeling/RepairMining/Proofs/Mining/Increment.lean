import RepairMining.Proofs.Mining.History

namespace RepairMining

def ActionCache.keptBytes (diff : Diff) (listed : List ActionKind) (held : ActionSet) :
    Option ByteArray :=
  if listed = [] then none else some (encode diff.fingerprint held)

theorem Miner.finds_empty (diff : Diff) (edits : List EditOp) : Finds diff edits [] .empty :=
  ⟨ActionSet.genuine_empty _, fun kind => by simp [Table.contains, Table.empty]⟩

namespace Disk

/-- There is no file of the difference, and one could be written. -/
structure Awaits (disk : Disk) (layout : CacheLayout) (id : DiffId) : Prop where
  absent : disk.read (layout.actionsPlace id) = .ok none
  writes : ∀ bytes,
    (disk.replace (layout.actionsPlace id) (layout.actionsTemporary id) bytes).1 = none

/-- The file of the difference holds the listed categories as they are found, and it can be
replaced. -/
structure Keeps (disk : Disk) (layout : CacheLayout) (diff : Diff) (edits : List EditOp)
    (listed : List ActionKind) (held : ActionSet) : Prop where
  finds : Miner.Finds diff edits listed held
  sound : held.Sound diff
  content : disk.read (layout.actionsPlace diff.id) = .ok (ActionCache.keptBytes diff listed held)
  writes : ∀ bytes,
    (disk.replace (layout.actionsPlace diff.id) (layout.actionsTemporary diff.id) bytes).1 = none

variable {disk : Disk} {layout : CacheLayout} {diff : Diff} {edits : List EditOp}
variable {listed kinds : List ActionKind} {held : ActionSet}

theorem Awaits.keeps (awaits : disk.Awaits layout diff.id) :
    disk.Keeps layout diff edits [] .empty where
  finds := Miner.finds_empty diff edits
  sound := ActionSet.sound_empty diff
  content := awaits.absent
  writes := awaits.writes

theorem Keeps.offered (keeps : disk.Keeps layout diff edits listed held) (small : diff.Small) :
    Miner.offered diff (disk.read (layout.actionsPlace diff.id)) = held := by
  rw [keeps.content, ActionCache.keptBytes]
  by_cases none : listed = []
  · rw [if_pos none]
    subst none
    exact (Miner.finds_empty diff edits).unique keeps.finds
  · rw [if_neg none, Miner.offered]
    simp only [ActionCache.decode_encode diff keeps.sound small]

theorem Keeps.replace (keeps : disk.Keeps layout diff edits listed held) {grown : ActionSet}
    (finds : Miner.Finds diff edits (listed ++ kinds) grown) (sound : grown.Sound diff)
    (some : listed ++ kinds ≠ []) :
    (disk.replace (layout.actionsPlace diff.id) (layout.actionsTemporary diff.id)
      (ActionCache.encode diff.fingerprint grown)).2.Keeps layout diff edits (listed ++ kinds)
        grown := by
  have done := keeps.writes (ActionCache.encode diff.fingerprint grown)
  rw [CacheLayout.actionsPlace, CacheLayout.actionsTemporary] at done ⊢
  obtain ⟨content, again⟩ := (CacheFile.actions layout diff.id).replace_again done
  constructor
  · exact finds
  · exact sound
  · rw [CacheLayout.actionsPlace, ActionCache.keptBytes, if_neg some]
    exact content
  · rw [CacheLayout.actionsPlace, CacheLayout.actionsTemporary]
    exact again

theorem Keeps.extend (keeps : disk.Keeps layout diff edits listed held) {grown : ActionSet}
    (finds : Miner.Finds diff edits (listed ++ kinds) grown)
    (old : ∀ kind ∈ kinds, kind ∈ listed) :
    disk.Keeps layout diff edits (listed ++ kinds) grown := by
  have listing (kind : ActionKind) : kind ∈ listed ++ kinds ↔ kind ∈ listed := by
    rw [List.mem_append]
    exact or_iff_left_of_imp (old kind)
  have heldFinds : Miner.Finds diff edits (listed ++ kinds) held :=
    ⟨keeps.finds.1, fun kind => (keeps.finds.2 kind).trans (listing kind).symm⟩
  obtain rfl := finds.unique heldFinds
  have empty : listed ++ kinds = [] ↔ listed = [] := by
    rw [List.eq_nil_iff_forall_not_mem, List.eq_nil_iff_forall_not_mem]
    exact forall_congr' fun kind => not_congr (listing kind)
  constructor
  · exact finds
  · exact keeps.sound
  · rw [keeps.content, ActionCache.keptBytes, ActionCache.keptBytes]
    simp only [empty]
  · exact keeps.writes

theorem Keeps.store (keeps : disk.Keeps layout diff edits listed held) {grown : ActionSet}
    (finds : Miner.Finds diff edits (listed ++ kinds) grown) (sound : grown.Sound diff)
    (registry : Registry) {fresh : Nat} (lacking : fresh = (kinds.filter (· ∉ listed)).length) :
    ((Miner.storeMined ⟨registry, some layout⟩ storage diff grown fresh).run disk).1 =
        decide (0 < fresh) ∧
      (fresh = 0 →
        ((Miner.storeMined ⟨registry, some layout⟩ storage diff grown fresh).run disk).2 = disk) ∧
      ((Miner.storeMined ⟨registry, some layout⟩ storage diff grown fresh).run disk).2.Keeps layout
        diff edits (listed ++ kinds) grown := by
  rw [Miner.storeMined_disk]
  by_cases none : fresh = 0
  · rw [if_pos none]
    refine ⟨by simp [none], fun _ => rfl, keeps.extend finds ?_⟩
    rw [none, eq_comm, List.length_eq_zero_iff, List.filter_eq_nil_iff] at lacking
    simpa using lacking
  · rw [if_neg none, keeps.writes]
    dsimp only
    refine ⟨by simp [Nat.pos_of_ne_zero none], fun old => absurd old none, ?_⟩
    apply keeps.replace finds sound
    intro empty
    obtain ⟨rfl, rfl⟩ := List.append_eq_nil_iff.mp empty
    exact none lacking

end Disk

namespace ActionSet

variable {diff : Diff} {edits : List EditOp} {listed kinds : List ActionKind} {held : ActionSet}

theorem lacks_of_finds (finds : Miner.Finds diff edits listed held) (distinct : kinds.Nodup) :
    held.lacks (Pipeline.order kinds) = (kinds.filter (· ∉ listed)).length := by
  have same : kinds.filter (fun kind => !held.contains kind) = kinds.filter (· ∉ listed) := by
    apply List.filter_congr
    intro kind _
    rw [Bool.eq_iff_iff, decide_eq_true_eq, ← finds.2 kind, Bool.not_eq_true', Bool.not_eq_true]
  calc
    held.lacks (Pipeline.order kinds) = (kinds.filter fun kind => !held.contains kind).length :=
      ((Pipeline.order_perm distinct).filter _).length_eq
    _ = (kinds.filter (· ∉ listed)).length := by rw [same]

theorem covered_of_finds (finds : Miner.Finds diff edits listed held) (distinct : kinds.Nodup) :
    (Registry.builtin kinds).covered held = (kinds.filter (· ∈ listed)).length := by
  have same : kinds.filter held.contains = kinds.filter (· ∈ listed) := by
    apply List.filter_congr
    intro kind _
    rw [Bool.eq_iff_iff, decide_eq_true_eq]
    exact finds.2 kind
  calc
    (Registry.builtin kinds).covered held =
        ((Pipeline.order kinds).filter held.contains).length := by
      rw [Registry.covered, Registry.kinds_builtin]
    _ = (kinds.filter held.contains).length := ((Pipeline.order_perm distinct).filter _).length_eq
    _ = (kinds.filter (· ∈ listed)).length := by rw [same]

end ActionSet

namespace MiningCall

variable {layout : CacheLayout} {diff : Diff} {edits : List EditOp} {disk : Disk}
variable {listed kinds : List ActionKind} {held : ActionSet}

theorem run_keeps (distinct : kinds.Nodup) (closed : Pipeline.Closed kinds)
    (scripted : diff.edits = some edits) (small : diff.Small)
    (keeps : disk.Keeps layout diff edits listed held) :
    ∃ set stats grown,
      ((caching layout kinds diff).run disk).1 = .ok (.analyzed set stats) ∧
        Miner.Finds diff edits kinds set ∧
        stats.loadedFromCache = (kinds.filter (· ∈ listed)).length ∧
        stats.detectorsRun = (kinds.filter (· ∉ listed)).length ∧
        stats.cacheWritten = decide (0 < stats.detectorsRun) ∧
        (stats.detectorsRun = 0 → ((caching layout kinds diff).run disk).2 = disk) ∧
        ((caching layout kinds diff).run disk).2.Keeps layout diff edits (listed ++ kinds) grown ∧
        ∀ kind ∈ listed, grown.get? kind = held.get? kind := by
  have loaded := Miner.loadCached_disk (.builtin kinds) layout diff disk
  rw [keeps.offered small] at loaded
  obtain ⟨result, completes, mined⟩ := Miner.mine_completes closed scripted (some layout) loaded
  have finds : Miner.Finds diff edits (listed ++ kinds) result := by
    refine ⟨completes.genuine keeps.finds.1, fun kind => ?_⟩
    rw [completes.contains, keeps.finds.2, List.mem_append]
  have kept : ∀ kind ∈ listed, result.get? kind = held.get? kind := by
    intro kind member
    exact completes.kept kind ((keeps.finds.2 kind).mpr member)
  have lacking := ActionSet.lacks_of_finds keeps.finds distinct
  obtain ⟨written, unchanged, stored⟩ :=
    keeps.store finds completes.sound (.builtin kinds) lacking
  rw [run, caching, mined]
  refine ⟨_, _, result, rfl, ?_, ?_, lacking, written, unchanged, stored, kept⟩
  · exact Miner.finds_of_completes closed completes (keeps.finds.1.restrict closed)
  · exact ActionSet.covered_of_finds keeps.finds distinct

theorem after_keeps {runs : List (List ActionKind)}
    (accepted : ∀ kinds ∈ runs, kinds.Nodup ∧ Pipeline.Closed kinds)
    (scripted : diff.edits = some edits) (small : diff.Small)
    (keeps : disk.Keeps layout diff edits listed held) :
    ∃ grown, (after (runs.map fun kinds => caching layout kinds diff) disk).Keeps layout diff edits
      (listed ++ runs.flatten) grown := by
  induction runs generalizing disk listed held with
  | nil =>
    rw [List.flatten_nil, List.append_nil]
    exact ⟨held, keeps⟩
  | cons kinds runs ih =>
    obtain ⟨distinct, closed⟩ := accepted kinds List.mem_cons_self
    obtain ⟨_, _, grown, _, _, _, _, _, _, next, _⟩ :=
      run_keeps distinct closed scripted small keeps
    have later := ih (fun other member => accepted other (List.mem_cons_of_mem kinds member)) next
    rwa [List.append_assoc] at later

/-- What a run of the kinds does if the earlier runs were of the listed ones: it returns `set`, and
the file grows from `held` to `grown`. -/
structure Increments (call : MiningCall) (layout : CacheLayout) (disk : Disk)
    (listed kinds : List ActionKind) (set : ActionSet) (stats : MiningStats)
    (held grown : ActionSet) : Prop where
  accepted : Registry.ofKinds kinds = .ok call.miner.registry
  analyzed : (call.run disk).1 = .ok (.analyzed set stats)
  plainly : call.plain.found .empty = .ok (some set)
  loaded : stats.loadedFromCache = (kinds.filter (· ∈ listed)).length
  ran : stats.detectorsRun = (kinds.filter (· ∉ listed)).length
  written : stats.cacheWritten = true ↔ 0 < stats.detectorsRun
  repeated : (∀ kind ∈ kinds, kind ∈ listed) → stats.detectorsRun = 0 ∧ (call.run disk).2 = disk
  before : disk.read (layout.actionsPlace call.diff.id) =
    .ok (ActionCache.keptBytes call.diff listed held)
  after : (call.run disk).2.read (layout.actionsPlace call.diff.id) =
    .ok (ActionCache.keptBytes call.diff (listed ++ kinds) grown)
  offered : Miner.offered call.diff ((call.run disk).2.read (layout.actionsPlace call.diff.id)) =
    grown
  categories : ∀ kind, grown.contains kind = true ↔ kind ∈ listed ++ kinds
  kept : ∀ kind ∈ listed, grown.get? kind = held.get? kind

/-- Runs of any accepted lists on one difference, from a cache that does not have its file yet. -/
theorem runs_increment {earlier : List (List ActionKind)} (scripted : diff.edits = some edits)
    (small : diff.Small) (awaits : disk.Awaits layout diff.id)
    (accepted : ∀ list ∈ kinds :: earlier, list.Nodup ∧ Pipeline.Closed list) :
    ∃ set stats held grown,
      (caching layout kinds diff).Increments layout
        (after (earlier.map fun list => caching layout list diff) disk) earlier.flatten kinds set
        stats held grown := by
  obtain ⟨distinct, closed⟩ := accepted kinds List.mem_cons_self
  have lists : ∀ list ∈ earlier, list.Nodup ∧ Pipeline.Closed list := by
    intro list member
    exact accepted list (List.mem_cons_of_mem kinds member)
  obtain ⟨held, keeps⟩ := after_keeps lists scripted small awaits.keeps
  rw [List.nil_append] at keeps
  obtain ⟨set, stats, grown, analyzed, finds, loaded, ran, written, unchanged, next, kept⟩ :=
    run_keeps distinct closed scripted small keeps
  refine ⟨set, stats, held, grown, ?_⟩
  constructor
  · exact Registry.ofKinds_ok_iff.mpr ⟨distinct, closed, rfl⟩
  · exact analyzed
  · obtain ⟨plainly, _, mined, same⟩ :=
      Miner.mine_uncached closed scripted Disk.storage Disk.empty
    rw [found, run, plain, caching, mined, finds.unique same]
    rfl
  · exact loaded
  · exact ran
  · rw [written, decide_eq_true_eq]
  · intro old
    have none : stats.detectorsRun = 0 := by
      rw [ran, List.length_eq_zero_iff, List.filter_eq_nil_iff]
      simpa using old
    exact ⟨none, unchanged none⟩
  · exact keeps.content
  · exact next.content
  · exact next.offered small
  · exact next.finds.2
  · exact kept

/-- One category first, then that and one that depends on it. -/
theorem runs_increment_deletions : ∃ set stats held grown,
    (caching ⟨"cache"⟩ [.unwrapStatement, .deleteStatement] .exchanged).Increments ⟨"cache"⟩
        (after [caching ⟨"cache"⟩ [.deleteStatement] .exchanged] .empty)
        [.deleteStatement] [.unwrapStatement, .deleteStatement] set stats held grown ∧
      stats.loadedFromCache = 1 ∧ stats.detectorsRun = 1 ∧
      set.get? .deleteStatement = some [.deleteStatement 1] := by
  have awaits : Disk.empty.Awaits ⟨"cache"⟩ Diff.exchanged.id :=
    ⟨CacheLayout.read_plain, CacheLayout.replace_plain⟩
  have accepted : ∀ list ∈ [[.unwrapStatement, .deleteStatement], [.deleteStatement]],
      list.Nodup ∧ Pipeline.Closed list := by
    unfold Pipeline.Closed
    decide
  have small : Diff.exchanged.Small := by
    intro side
    cases side <;> decide
  obtain ⟨set, stats, held, grown, increments⟩ := runs_increment rfl small awaits accepted
  refine ⟨set, stats, held, grown, increments, increments.loaded, increments.ran, ?_⟩
  have closed := (accepted _ List.mem_cons_self).2
  have scripted : Diff.exchanged.edits = some [] := rfl
  obtain ⟨alone, _, mined, finds⟩ := Miner.mine_uncached closed scripted Disk.storage Disk.empty
  have plainly := increments.plainly
  rw [found, run, plain, caching, mined] at plainly
  obtain rfl := Option.some.inj (Except.ok.inj plainly)
  rw [get?_of_finds finds (by decide)]
  decide

end MiningCall

end RepairMining
