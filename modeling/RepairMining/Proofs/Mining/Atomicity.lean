import RepairMining.Analysis.Basic
import RepairMining.Proofs.Cache.Journal
import RepairMining.Proofs.Mining.Cached

namespace RepairMining

theorem ActionSet.add_eq_ok {set extended : ActionSet} {kind : ActionKind}
    {found : List RepairAction} (added : set.add kind found = .ok extended) :
    (∀ action ∈ found, action.kind = kind) ∧ extended = Table.insert set kind found := by
  rw [ActionSet.add] at added
  split at added
  · cases added
  · split at added
    · cases added
    · rename_i own
      rw [List.find?_eq_none] at own
      exact ⟨fun action member => by simpa using own action member, (Except.ok.inj added).symm⟩

namespace Registry

variable {context : Context} {detector : Detector} {detectors : List Detector}
variable {set grown : ActionSet} {count fresh : Nat}

theorem runFrom_cons_ok
    (ran : runFrom context (detector :: detectors) set count = .ok (grown, fresh)) :
    (set.contains detector.kind = true ∧
        runFrom context detectors set count = .ok (grown, fresh)) ∨
      (set.contains detector.kind = false ∧ ∃ found, detector.detect context set = .ok found ∧
        (∀ action ∈ found, action.kind = detector.kind) ∧
        runFrom context detectors (Table.insert set detector.kind found) (count + 1) =
          .ok (grown, fresh)) := by
  rw [runFrom] at ran
  split at ran
  · rename_i present
    exact .inl ⟨present, ran⟩
  · rename_i absent
    split at ran
    · cases ran
    · rename_i found detected
      split at ran
      · cases ran
      · rename_i extended added
        obtain ⟨own, rfl⟩ := ActionSet.add_eq_ok added
        exact .inr ⟨Bool.eq_false_iff.mpr absent, found, detected, own, ran⟩

theorem runFrom_append (context : Context) (earlier later : List Detector) (set : ActionSet)
    (count : Nat) :
    runFrom context (earlier ++ later) set count =
      match runFrom context earlier set count with
      | .error fault => .error fault
      | .ok (stage, ran) => runFrom context later stage ran := by
  induction earlier generalizing set count with
  | nil => rfl
  | cons detector earlier ih =>
    rw [List.cons_append, runFrom, runFrom]
    split
    · exact ih set count
    · cases detector.detect context set with
      | error fault => rfl
      | ok found =>
        simp only
        cases ActionSet.add set detector.kind found with
        | error refusal => rfl
        | ok extended => exact ih extended (count + 1)

theorem get?_of_runFrom (ran : runFrom context detectors set count = .ok (grown, fresh))
    {kind : ActionKind} (present : set.contains kind = true) : grown.get? kind = set.get? kind := by
  induction detectors generalizing set count with
  | nil =>
    obtain rfl := (Prod.mk.inj (Except.ok.inj ran)).1
    rfl
  | cons detector detectors ih =>
    rcases runFrom_cons_ok ran with ⟨_, ran⟩ | ⟨absent, found, _, _, ran⟩
    · exact ih ran present
    · have apart : kind ≠ detector.kind := by
        rintro rfl
        rw [present] at absent
        cases absent
      rw [ih ran (ActionSet.contains_insert.mpr (.inr present)), Table.get?_insert_ne set _ apart]

theorem contains_of_runFrom (ran : runFrom context detectors set count = .ok (grown, fresh))
    (kind : ActionKind) :
    grown.contains kind = true ↔ set.contains kind = true ∨ kind ∈ detectors.map (·.kind) := by
  -- On the detectors that are left, for every set that they may start from.
  induction detectors generalizing set count with
  | nil =>
    obtain rfl := (Prod.mk.inj (Except.ok.inj ran)).1
    simp
  | cons detector detectors ih =>
    rw [List.map_cons, List.mem_cons]
    rcases runFrom_cons_ok ran with ⟨present, ran⟩ | ⟨_, found, _, _, ran⟩
    · rw [ih ran]
      constructor
      · rintro (there | member)
        · exact .inl there
        · exact .inr (.inr member)
      · rintro (there | rfl | member)
        · exact .inl there
        · exact .inl present
        · exact .inr member
    · rw [ih ran, ActionSet.contains_insert, or_assoc]
      exact or_left_comm

theorem count_le_of_runFrom (ran : runFrom context detectors set count = .ok (grown, fresh)) :
    count ≤ fresh := by
  induction detectors generalizing set count with
  | nil => exact Nat.le_of_eq (Prod.mk.inj (Except.ok.inj ran)).2
  | cons detector detectors ih =>
    rcases runFrom_cons_ok ran with ⟨_, ran⟩ | ⟨_, found, _, _, ran⟩
    · exact ih ran
    · exact Nat.le_of_succ_le (ih ran)

theorem count_eq_of_runFrom (ran : runFrom context detectors set count = .ok (grown, fresh)) :
    fresh = count ↔ ∀ detector ∈ detectors, set.contains detector.kind = true := by
  induction detectors generalizing set count with
  | nil => simpa using (Prod.mk.inj (Except.ok.inj ran)).2.symm
  | cons detector detectors ih =>
    rw [List.forall_mem_cons]
    rcases runFrom_cons_ok ran with ⟨present, ran⟩ | ⟨absent, found, _, _, ran⟩
    · rw [ih ran, and_iff_right present]
    · have more := count_le_of_runFrom ran
      rw [absent]
      refine ⟨fun same => ?_, fun all => Bool.noConfusion all.1⟩
      rw [same] at more
      exact absurd more (Nat.not_succ_le_self count)

/-- How a run has come from one set to another. -/
structure Fills (registry : Registry) (context : Context) (cached grown : ActionSet) : Prop where
  kept : ∀ kind, cached.contains kind = true → grown.get? kind = cached.get? kind
  contains : ∀ kind,
    grown.contains kind = true ↔ cached.contains kind = true ∨ kind ∈ registry.kinds
  /-- Every detector, when it was its turn, had nothing to do, or has succeeded and found what now
  stands under its category. -/
  succeeded : ∀ earlier detector later, registry.detectors = earlier ++ detector :: later →
    ∃ stage count, runFrom context earlier cached 0 = .ok (stage, count) ∧
      (stage.contains detector.kind = true ∨
        ∃ found, detector.detect context stage = .ok found ∧
          (∀ action ∈ found, action.kind = detector.kind) ∧
          grown.get? detector.kind = some found)

theorem fills_of_run {registry : Registry} {cached : ActionSet}
    (ran : registry.run context cached = .ok (grown, fresh)) :
    registry.Fills context cached grown := by
  rw [run] at ran
  refine ⟨fun kind => get?_of_runFrom ran, contains_of_runFrom ran, ?_⟩
  intro earlier detector later split
  -- The run is cut in two in front of the detector; what stands in the set there is its stage.
  rw [split, runFrom_append] at ran
  cases begun : runFrom context earlier cached 0 with
  | error fault =>
    rw [begun] at ran
    cases ran
  | ok reached =>
    obtain ⟨stage, count⟩ := reached
    rw [begun] at ran
    refine ⟨stage, count, rfl, ?_⟩
    rcases runFrom_cons_ok ran with ⟨present, _⟩ | ⟨_, found, detected, own, ran⟩
    · exact .inl present
    · refine .inr ⟨found, detected, own, ?_⟩
      rw [get?_of_runFrom ran (ActionSet.contains_insert.mpr (.inl rfl)),
        Table.get?_insert_self]

end Registry

open Journal

theorem ActionCache.records_load (layout : CacheLayout) (diff : Diff) (fingerprint : Fingerprint) :
    Records (load Journal.storage layout diff fingerprint)
      (load Disk.storage layout diff fingerprint) := by
  refine (records_read _).bind fun answer => ?_
  rcases answer with _ | _ | _ <;> exact .pure _

theorem PoolCache.records_load (layout : CacheLayout) (id : DiffId) (variant : PoolVariant) :
    Records (load Journal.storage layout id variant) (load Disk.storage layout id variant) := by
  refine (records_read _).bind fun answer => ?_
  rcases answer with _ | _ | _ <;> exact .pure _

namespace Miner

theorem records_loadCached (miner : Miner) (diff : Diff) :
    Records (miner.loadCached Journal.storage diff) (miner.loadCached Disk.storage diff) := by
  obtain ⟨registry, _ | layout⟩ := miner
  · exact .pure _
  · refine (ActionCache.records_load layout diff _).bind fun loaded => ?_
    rcases loaded with _ | _ | _ <;> exact .pure _

theorem records_storeMined (miner : Miner) (diff : Diff) (set : ActionSet) (fresh : Nat) :
    Records (miner.storeMined Journal.storage diff set fresh)
      (miner.storeMined Disk.storage diff set fresh) := by
  obtain ⟨registry, _ | layout⟩ := miner
  · exact .pure _
  · unfold storeMined
    simp only
    split
    · exact .pure _
    · exact (records_replace _ _).bind fun fault => .pure _

theorem records_mine (miner : Miner) (diff : Diff) :
    Records (miner.mine Journal.storage diff) (miner.mine Disk.storage diff) := by
  unfold mine
  cases diff.edits with
  | none => exact .pure _
  | some edits =>
    refine (miner.records_loadCached diff).bind fun cached => ?_
    rcases miner.registry.run (.make diff edits) cached with fault | ⟨set, fresh⟩
    · exact .pure _
    · exact (miner.records_storeMined diff set fresh).bind fun written => .pure _

def cachedOn (miner : Miner) (diff : Diff) (disk : Disk) : ActionSet :=
  match miner.cache with
  | none => .empty
  | some layout => offered diff (disk.read (layout.actionsPlace diff.id))

theorem loadCached_journal (miner : Miner) (diff : Diff) (journal : Journal) :
    (miner.loadCached Journal.storage diff).run journal =
      (miner.cachedOn diff journal.disk, journal) := by
  obtain ⟨registry, _ | layout⟩ := miner
  · rfl
  · simp only [loadCached_eq, Journal.read_storage, cachedOn, CacheLayout.actionsPlace]

/-- What a miner stores: nothing if nothing is new, else one file, once. -/
structure Stores (miner : Miner) (diff : Diff) (set : ActionSet) (stats : MiningStats)
    (before after : Journal) : Prop where
  idle : miner.cache = none ∨ stats.detectorsRun = 0 →
    after = before ∧ stats.cacheWritten = false
  once : ∀ layout, miner.cache = some layout → stats.detectorsRun ≠ 0 →
    before.Replaces after (.actions layout diff.id)
      (ActionCache.encode diff.fingerprint set) stats.cacheWritten

theorem stores_storeMined (miner : Miner) (diff : Diff) (set : ActionSet) (fresh loaded : Nat)
    (journal : Journal) :
    miner.Stores diff set
      ⟨fresh, loaded, ((miner.storeMined Journal.storage diff set fresh).run journal).1⟩ journal
      ((miner.storeMined Journal.storage diff set fresh).run journal).2 := by
  obtain ⟨registry, _ | layout⟩ := miner
  · exact ⟨fun _ => ⟨rfl, rfl⟩, fun _ cached => by cases cached⟩
  · by_cases old : fresh = 0
    · simp only [storeMined, old, if_true]
      exact ⟨fun _ => ⟨rfl, rfl⟩, fun _ _ new => absurd rfl new⟩
    · simp only [storeMined, ActionCache.store, old, if_false]
      constructor
      · rintro (uncached | unchanged)
        · cases uncached
        · exact absurd unchanged old
      · intro other cached _
        obtain rfl := Option.some.inj cached
        -- Which file it is plays no part, so its name is kept from being computed.
        generalize CacheFile.actions layout diff.id = file
        generalize ActionCache.encode diff.fingerprint set = text
        exact replaces_replace journal file text

/-- What may have become of the disk after a call, by the result of the call: nothing, unless the
difference has been analyzed, and then no more than one file with all actions. -/
def Leaves (miner : Miner) (diff : Diff) (before after : Journal) :
    Except MiningError MiningOutcome → Prop
  | .error _ | .ok (.notAnalyzable _) => after = before
  | .ok (.analyzed found stats) =>
    ∃ edits grown, diff.edits = some edits ∧
      miner.registry.Fills (.make diff edits) (miner.cachedOn diff before.disk) grown ∧
      found = grown.restrict miner.registry.kinds ∧
      (stats.detectorsRun = 0 ↔ ∀ kind ∈ miner.registry.kinds,
        (miner.cachedOn diff before.disk).contains kind = true) ∧
      miner.Stores diff grown stats before after

theorem leaves_mine (miner : Miner) (diff : Diff) (journal : Journal) :
    miner.Leaves diff journal ((miner.mine Journal.storage diff).run journal).2
      ((miner.mine Journal.storage diff).run journal).1 := by
  cases scripted : diff.edits with
  | none =>
    rw [mine_of_unscripted scripted]
    rfl
  | some edits =>
    have loaded := miner.loadCached_journal diff journal
    cases ran : miner.registry.run (.make diff edits) (miner.cachedOn diff journal.disk) with
    | error fault =>
      rw [miner.mine_of_fault Journal.storage journal scripted (by rw [loaded]; exact ran), loaded]
      rfl
    | ok result =>
      obtain ⟨grown, fresh⟩ := result
      have mined := miner.mine_eq Journal.storage journal scripted (by rw [loaded]; exact ran)
      rw [mined, loaded]
      refine ⟨edits, grown, scripted, Registry.fills_of_run ran, rfl, ?_,
        miner.stores_storeMined diff grown fresh _ journal⟩
      rw [Registry.count_eq_of_runFrom ran, Registry.kinds, List.forall_mem_map]

end Miner

namespace PoolService

theorem records_build (service : PoolService) (diff : Diff) (variant : PoolVariant) :
    Records (service.build Journal.storage diff variant)
      (service.build Disk.storage diff variant) := by
  obtain ⟨requested, _ | layout⟩ := service
  · exact .pure _
  · unfold build loadCached
    refine .bind (.bind (PoolCache.records_load layout diff.id variant) fun loaded => ?_)
      fun existing => ?_
    · rcases loaded with _ | _ | _ <;> exact .pure _
    · refine .bind ?_ fun written => .pure _
      simp only [storeBuilt]
      split
      · exact .pure _
      · exact (records_replace _ _).bind fun fault => .pure _

end PoolService

namespace Analyzer

theorem records_analyze (analyzer : Analyzer) (diff : Diff) (wanted : Bool) :
    Records (analyzer.analyze Journal.storage diff wanted)
      (analyzer.analyze Disk.storage diff wanted) := by
  unfold analyze mine
  refine .bind ?_ fun result => ?_
  · cases analyzer.skipReason? diff with
    | some reason => exact .pure _
    | none => exact analyzer.miner.records_mine diff
  · rcases result with fault | outcome
    · exact .pure _
    · refine .bind ?_ fun pools => .pure _
      unfold buildPools
      split
      · exact (analyzer.pools.records_build diff .abstract).bind fun abstract =>
          (analyzer.pools.records_build diff .concrete).bind fun concrete => .pure _
      · exact .pure _

variable {analyzer : Analyzer} {diff : Diff} {before after : Journal}

theorem analyze_of_error (wanted : Bool) {fault : MiningError}
    (failed : (analyzer.mine Journal.storage diff).run before = (.error fault, after)) :
    (analyzer.analyze Journal.storage diff wanted).run before = (.error fault, after) := by
  simp only [StateT.run] at failed
  simp only [analyze, StateT.run, bind, StateT.bind, failed]
  rfl

theorem analyze_of_notAnalyzable (wanted : Bool) {reason : SkipReason}
    (skipped : (analyzer.mine Journal.storage diff).run before =
      (.ok (.notAnalyzable reason), after)) :
    (analyzer.analyze Journal.storage diff wanted).run before =
      (.ok ⟨diff.id, .notAnalyzable reason, none⟩, after) := by
  simp only [StateT.run] at skipped
  simp only [analyze, buildPools, StateT.run, bind, StateT.bind, skipped, MiningOutcome.isAnalyzed,
    Bool.and_false]
  rfl

theorem analyze_of_analyzed (wanted : Bool) {found : ActionSet} {stats : MiningStats}
    (analyzed : (analyzer.mine Journal.storage diff).run before =
      (.ok (.analyzed found stats), after)) :
    ∃ pools last, (analyzer.analyze Journal.storage diff wanted).run before =
      (.ok ⟨diff.id, .analyzed found stats, pools⟩, last) := by
  simp only [StateT.run] at analyzed
  simp only [analyze, StateT.run, bind, StateT.bind, analyzed]
  exact ⟨_, _, rfl⟩

theorem mine_skipped (skip : (analyzer.skipReason? diff).isSome = true ∨ diff.edits = none) :
    ∃ reason, (analyzer.mine Journal.storage diff).run before =
      (.ok (.notAnalyzable reason), before) := by
  rw [mine]
  cases filtered : analyzer.skipReason? diff with
  | some reason => exact ⟨reason, rfl⟩
  | none =>
    rw [filtered] at skip
    exact ⟨.noEditScript, Miner.mine_of_unscripted (skip.resolve_left (by decide))⟩

theorem mine_untouched (analyzer : Analyzer) (diff : Diff) (journal : Journal) :
    match (analyzer.mine Journal.storage diff).run journal with
    | (.error _, after) | (.ok (.notAnalyzable _), after) => after = journal
    | (.ok (.analyzed _ _), _) => True := by
  rw [mine]
  cases analyzer.skipReason? diff with
  | some reason => rfl
  | none =>
    have left := analyzer.miner.leaves_mine diff journal
    simp only
    rcases ran : (analyzer.miner.mine Journal.storage diff).run journal with
      ⟨fault | (⟨found, stats⟩ | reason), after⟩
    · rw [ran] at left
      exact left
    · trivial
    · rw [ran] at left
      exact left

theorem analyze_untouched (analyzer : Analyzer) (diff : Diff) (wanted : Bool) (journal : Journal) :
    match (analyzer.analyze Journal.storage diff wanted).run journal with
    | (.error _, after) => after = journal
    | (.ok analysis, after) => analysis.outcome.isAnalyzed = false →
        analysis.pools = none ∧ after = journal := by
  have mined := analyzer.mine_untouched diff journal
  rcases ran : (analyzer.mine Journal.storage diff).run journal with
    ⟨fault | (⟨found, stats⟩ | reason), after⟩
  · rw [ran] at mined
    rw [analyze_of_error wanted ran]
    exact mined
  · obtain ⟨pools, last, analyzed⟩ := analyze_of_analyzed wanted ran
    rw [analyzed]
    intro unanalyzed
    cases unanalyzed
  · rw [ran] at mined
    rw [analyze_of_notAnalyzable wanted ran]
    exact fun _ => ⟨rfl, mined⟩

end Analyzer

/-- The cache is written by a call that analyzes a difference, and by no other. Whatever the
detectors do, a miner whose call fails or has nothing to analyze leaves the disk as it is; else it
stores the complete set, once, so that the set can be read back. An analyzer that fails or skips a
fix writes neither actions nor pools. -/
theorem untouched_unless_analyzed (diff : Diff) (journal : Journal) :
    (∀ miner : Miner,
      Records (miner.mine Journal.storage diff) (miner.mine Disk.storage diff) ∧
      miner.Leaves diff journal ((miner.mine Journal.storage diff).run journal).2
        ((miner.mine Journal.storage diff).run journal).1) ∧
    (∀ set : ActionSet, (∀ kind, ∀ action ∈ set.actions kind, Numbered action.mentions) →
      Json.decodeBytes ActionCache.contents (ActionCache.encode diff.fingerprint set) =
        .ok ⟨ActionCache.version, diff.fingerprint, set⟩) ∧
    ∀ (analyzer : Analyzer) (wanted : Bool),
      Records (analyzer.analyze Journal.storage diff wanted)
        (analyzer.analyze Disk.storage diff wanted) ∧
      ((analyzer.skipReason? diff).isSome = true ∨ diff.edits = none →
        ∃ reason, (analyzer.analyze Journal.storage diff wanted).run journal =
          (.ok ⟨diff.id, .notAnalyzable reason, none⟩, journal)) ∧
      match (analyzer.analyze Journal.storage diff wanted).run journal with
      | (.error _, after) => after = journal
      | (.ok analysis, after) => analysis.outcome.isAnalyzed = false →
          analysis.pools = none ∧ after = journal := by
  refine ⟨fun miner => ⟨miner.records_mine diff, miner.leaves_mine diff journal⟩, ?_, ?_⟩
  · intro set numbered
    exact ActionCache.decodeBytes_encode numbered diff.fingerprint
  · intro analyzer wanted
    refine ⟨analyzer.records_analyze diff wanted, fun skip => ?_,
      analyzer.analyze_untouched diff wanted journal⟩
    obtain ⟨reason, skipped⟩ := analyzer.mine_skipped skip
    exact ⟨reason, Analyzer.analyze_of_notAnalyzable wanted skipped⟩

end RepairMining
