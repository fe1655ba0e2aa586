import RepairMining.Proofs.Cache.Trouble
import RepairMining.Proofs.Mining.Cached

namespace RepairMining

structure MiningCall where
  miner : Miner
  diff : Diff

namespace MiningCall

def run (call : MiningCall) (disk : Disk) : Except MiningError MiningOutcome × Disk :=
  (call.miner.mine Disk.storage call.diff).run disk

def found (call : MiningCall) (disk : Disk) : Except MiningError (Option ActionSet) :=
  (call.run disk).1.map MiningOutcome.actions?

def plain (call : MiningCall) : MiningCall := ⟨⟨call.miner.registry, none⟩, call.diff⟩

def after (calls : List MiningCall) (disk : Disk) : Disk :=
  calls.foldl (fun disk call => (call.run disk).2) disk

def caching (layout : CacheLayout) (kinds : List ActionKind) (diff : Diff) : MiningCall :=
  ⟨⟨.builtin kinds, some layout⟩, diff⟩

/-- The miner of the call runs built-in detectors and keeps its files in the layout. -/
def Within (call : MiningCall) (layout : CacheLayout) : Prop :=
  call.miner.cache = some layout ∧ ∃ kinds, Registry.ofKinds kinds = .ok call.miner.registry

end MiningCall

namespace Diff

/-- Digests tell the trees of the two differences apart. -/
def Distinguished (first second : Diff) : Prop :=
  first.fingerprint = second.fingerprint →
    first.before.Alike second.before ∧ first.after.Alike second.after

/-- Correspondence and script are the same, if both differences have a script. -/
def SameMatching (first second : Diff) : Prop :=
  ∀ edits others, first.edits = some edits → second.edits = some others →
    first.correspondence = second.correspondence ∧ edits = others

variable {first second : Diff} {edits others : List EditOp}

theorem SameMatching.alike (matching : first.SameMatching second)
    (distinguished : first.Distinguished second) (trees : first.fingerprint = second.fingerprint)
    (scripted : first.edits = some edits) (alsoScripted : second.edits = some others) :
    (Context.make first edits).Alike (.make second others) := by
  obtain ⟨before, after⟩ := distinguished trees
  obtain ⟨correspondence, rfl⟩ := matching edits others scripted alsoScripted
  exact .make before after correspondence

end Diff

/-- A call, and what goes wrong with the storage meanwhile. -/
structure MiningAttempt where
  call : MiningCall
  trouble : Trouble

namespace MiningAttempt

def run (attempt : MiningAttempt) (disk : Disk) : Except MiningError MiningOutcome × Disk :=
  (attempt.call.miner.mine (Disk.troubled attempt.trouble) attempt.call.diff).run disk

def found (attempt : MiningAttempt) (disk : Disk) : Except MiningError (Option ActionSet) :=
  (attempt.run disk).1.map MiningOutcome.actions?

def after (attempts : List MiningAttempt) (disk : Disk) : Disk :=
  attempts.foldl (fun disk attempt => (attempt.run disk).2) disk

/-- What the call stores under some of the kinds would be accepted for the difference. -/
structure Reaches (attempt : MiningAttempt) (layout : CacheLayout) (diff : Diff)
    (kinds : List ActionKind) : Prop where
  stores : attempt.trouble.replacing = none
  place : layout.actionsPlace attempt.call.diff.id = layout.actionsPlace diff.id
  trees : attempt.call.diff.fingerprint = diff.fingerprint
  category : ∃ kind ∈ attempt.call.miner.registry.kinds, kind ∈ kinds

end MiningAttempt

/-- The file of a difference was written for some difference. If that has the same trees, then what
the file holds of the categories is right. -/
def Disk.Reliable (disk : Disk) (layout : CacheLayout) (diff : Diff) (edits : List EditOp)
    (kinds : List ActionKind) : Prop :=
  ∀ bytes, disk.item? (layout.actionsPlace diff.id) = some (.file bytes) →
    ∃ (writer : Diff) (set : ActionSet), writer.Small ∧ set.Sound writer ∧
      bytes = ActionCache.encode writer.fingerprint set ∧
      (writer.fingerprint = diff.fingerprint →
        ActionSet.Genuine (set.restrict kinds) (.make diff edits))

namespace Disk.Reliable

variable {disk : Disk} {layout : CacheLayout} {diff : Diff} {edits : List EditOp}
variable {kinds : List ActionKind}

theorem empty : Disk.empty.Reliable layout diff edits kinds := by
  intro bytes there
  exact absurd there (Disk.item?_empty_ne_file _ bytes)

theorem offered (reliable : disk.Reliable layout diff edits kinds) (closed : Pipeline.Closed kinds)
    {answer : Except DiskFault (Option ByteArray)}
    (held : ∀ bytes, answer = .ok (some bytes) →
      disk.item? (layout.actionsPlace diff.id) = some (.file bytes))
    {reader : Diff} (same : reader.fingerprint = diff.fingerprint) :
    ActionSet.Genuine (Table.restrict (Miner.offered reader answer) kinds) (.make diff edits) := by
  have nothing : ActionSet.Genuine (Table.restrict .empty kinds) (.make diff edits) :=
    (ActionSet.genuine_empty _).restrict closed
  cases answer with
  | error fault => exact nothing
  | ok content =>
    cases content with
    | none => exact nothing
    | some bytes =>
      obtain ⟨writer, set, small, sound, rfl, right⟩ := reliable bytes (held bytes rfl)
      rcases Miner.offered_encode reader sound small with ⟨offered, fingerprints⟩ | offered
      · rw [offered]
        exact right (fingerprints.trans same)
      · rw [offered]
        exact nothing

end Disk.Reliable

namespace MiningAttempt

variable {layout : CacheLayout} {diff : Diff} {edits : List EditOp} {kinds : List ActionKind}
variable {attempt : MiningAttempt} {disk : Disk}

theorem loaded (registry : Registry) (layout : CacheLayout) (trouble : Trouble) (diff : Diff)
    (disk : Disk) :
    ∃ answer, (Miner.loadCached ⟨registry, some layout⟩ (Disk.troubled trouble) diff).run disk =
        (Miner.offered diff answer, disk) ∧
      ∀ bytes, answer = .ok (some bytes) →
        disk.item? (layout.actionsPlace diff.id) = some (.file bytes) := by
  obtain ⟨answer, read, held⟩ :=
    Disk.read_troubled trouble (CacheFile.actions layout diff.id).path disk
  refine ⟨answer, ?_, held⟩
  rw [Miner.loadCached_eq, read]

/-- What a call has made of a set that is right for another difference is right for that one too. A
call without a category in common leaves alone what counts. -/
theorem genuine_of_completes {context other : Context} {cached result : ActionSet}
    {asked : List ActionKind} (completes : result.Completes cached context asked)
    (closed : Pipeline.Closed kinds) (right : ActionSet.Genuine (cached.restrict kinds) other)
    (harmless : (∃ kind ∈ asked, kind ∈ kinds) → context.Alike other) :
    ActionSet.Genuine (result.restrict kinds) other := by
  by_cases shared : ∃ kind ∈ asked, kind ∈ kinds
  · have alike := harmless shared
    exact (completes.part kinds closed (right.alike alike.symm)).alike alike
  · rw [completes.restrict_eq]
    · exact right
    · intro kind asks member
      exact shared ⟨kind, asks, member⟩

/-- A call keeps the file reliable, whether or not it can write, if it has the same matching as the
difference or has nothing to do with it. -/
theorem run_reliable (within : attempt.call.Within layout) (small : attempt.call.diff.Small)
    (closed : Pipeline.Closed kinds)
    (harmless : attempt.Reaches layout diff kinds → ∀ script,
      attempt.call.diff.edits = some script →
        (Context.make attempt.call.diff script).Alike (.make diff edits))
    (reliable : disk.Reliable layout diff edits kinds) :
    (attempt.run disk).2.Reliable layout diff edits kinds := by
  obtain ⟨⟨⟨registry, cache⟩, writer⟩, trouble⟩ := attempt
  obtain ⟨rfl, asked, accepted⟩ := within
  obtain ⟨_, closedAsked, rfl⟩ := Registry.ofKinds_ok_iff.mp accepted
  dsimp only at harmless small
  cases scripted : writer.edits with
  | none =>
    rw [run, Miner.mine_of_unscripted scripted]
    exact reliable
  | some script =>
    obtain ⟨answer, load, held⟩ := loaded (.builtin asked) layout trouble writer disk
    obtain ⟨result, completes, mined⟩ :=
      Miner.mine_completes closedAsked scripted (some layout) load
    rw [run, mined, Miner.storeMined_eq]
    by_cases old : (Miner.offered writer answer).lacks (Pipeline.order asked) = 0
    · rw [if_pos old]
      exact reliable
    · rw [if_neg old]
      intro bytes there
      have apart := layout.actionsPlace_ne_temporary diff.id writer.id
      -- Either the file is as before or this call has written it.
      rcases Disk.file_of_troubled there apart with before | ⟨stores, same, rfl⟩
      · exact reliable bytes before
      · refine ⟨writer, result, small, completes.sound, rfl, fun fingerprints => ?_⟩
        have place : layout.actionsPlace writer.id = layout.actionsPlace diff.id := same.symm
        rw [place] at held
        apply genuine_of_completes completes closed (reliable.offered closed held fingerprints)
        rintro ⟨kind, asks, member⟩
        exact harmless ⟨stores, place, fingerprints, kind, Registry.mem_kinds_builtin.mpr asks,
          member⟩ script scripted

theorem after_reliable {earlier : List MiningAttempt}
    (within : ∀ other ∈ earlier, other.call.Within layout)
    (small : ∀ other ∈ earlier, other.call.diff.Small) (closed : Pipeline.Closed kinds)
    (harmless : ∀ other ∈ earlier, other.Reaches layout diff kinds → ∀ script,
      other.call.diff.edits = some script →
        (Context.make other.call.diff script).Alike (.make diff edits))
    (reliable : disk.Reliable layout diff edits kinds) :
    (after earlier disk).Reliable layout diff edits kinds := by
  induction earlier generalizing disk with
  | nil => exact reliable
  | cons attempt earlier ih =>
    have next := run_reliable (within attempt List.mem_cons_self) (small attempt List.mem_cons_self)
      closed (harmless attempt List.mem_cons_self) reliable
    exact ih (fun other member => within other (List.mem_cons_of_mem attempt member))
      (fun other member => small other (List.mem_cons_of_mem attempt member))
      (fun other member => harmless other (List.mem_cons_of_mem attempt member)) next

end MiningAttempt

namespace MiningCall

variable {layout : CacheLayout} {call : MiningCall}

theorem plain_found (within : call.Within layout) :
    ∃ actions, call.plain.found .empty = .ok actions := by
  obtain ⟨_, kinds, accepted⟩ := within
  obtain ⟨_, closed, builtin⟩ := Registry.ofKinds_ok_iff.mp accepted
  cases scripted : call.diff.edits with
  | none =>
    refine ⟨none, ?_⟩
    rw [found, MiningCall.run, plain, Miner.mine_of_unscripted scripted]
    rfl
  | some edits =>
    obtain ⟨set, stats, mined, _⟩ :=
      Miner.mine_uncached closed scripted Disk.storage Disk.empty
    refine ⟨some set, ?_⟩
    rw [found, MiningCall.run, plain, builtin, mined]
    rfl

theorem caching_within {kinds : List ActionKind} (distinct : kinds.Nodup)
    (closed : Pipeline.Closed kinds) (layout : CacheLayout) (diff : Diff) :
    (caching layout kinds diff).Within layout :=
  ⟨rfl, kinds, Registry.ofKinds_ok_iff.mpr ⟨distinct, closed, rfl⟩⟩

theorem get?_of_finds {diff : Diff} {edits : List EditOp} {kinds : List ActionKind}
    {set : ActionSet} (finds : Miner.Finds diff edits kinds set)
    (listed : .deleteStatement ∈ kinds) :
    set.get? .deleteStatement =
      some ((Detection.deleted (.make diff edits)).map .deleteStatement) :=
  finds.get?_eq listed

theorem closed_deletions : Pipeline.Closed [.deleteStatement] := by
  unfold Pipeline.Closed
  decide

end MiningCall

namespace MiningAttempt

variable {layout : CacheLayout} {attempt : MiningAttempt} {earlier : List MiningAttempt}

/-- A call returns what it returns without a cache, if the earlier calls that reach it had the same
correspondence and the same script. Reading and writing may fail in every call. -/
theorem found_after (within : ∀ other ∈ attempt :: earlier, other.call.Within layout)
    (small : ∀ other ∈ earlier, other.call.diff.Small)
    (distinguished : ∀ other ∈ earlier, other.call.diff.Distinguished attempt.call.diff)
    (matching : ∀ other ∈ earlier,
      other.Reaches layout attempt.call.diff attempt.call.miner.registry.kinds →
        other.call.diff.SameMatching attempt.call.diff) :
    ∃ actions, attempt.found (after earlier .empty) = .ok actions ∧
      attempt.call.plain.found .empty = .ok actions := by
  have own := within attempt List.mem_cons_self
  obtain ⟨actions, plainly⟩ := MiningCall.plain_found own
  refine ⟨actions, ?_, plainly⟩
  rw [← plainly]
  obtain ⟨⟨⟨registry, cache⟩, diff⟩, trouble⟩ := attempt
  obtain ⟨rfl, kinds, accepted⟩ := own
  obtain ⟨_, closed, rfl⟩ := Registry.ofKinds_ok_iff.mp accepted
  dsimp only at distinguished matching
  cases scripted : diff.edits with
  | none =>
    rw [found, run, MiningCall.found, MiningCall.run, MiningCall.plain,
      Miner.mine_of_unscripted scripted, Miner.mine_of_unscripted scripted]
  | some edits =>
    have reliable : (after earlier .empty).Reliable layout diff edits kinds := by
      apply after_reliable (fun other member => within other (List.mem_cons_of_mem _ member)) small
        closed _ Disk.Reliable.empty
      rintro other member ⟨stores, place, trees, kind, asked, listed⟩ script alsoScripted
      have same := matching other member
        ⟨stores, place, trees, kind, asked, Registry.mem_kinds_builtin.mpr listed⟩
      exact same.alike (distinguished other member) trees alsoScripted scripted
    obtain ⟨answer, load, held⟩ :=
      loaded (.builtin kinds) layout trouble diff (after earlier .empty)
    obtain ⟨result, completes, mined⟩ := Miner.mine_completes closed scripted (some layout) load
    obtain ⟨set, stats, alone, finds⟩ :=
      Miner.mine_uncached closed scripted Disk.storage Disk.empty
    have same : result.restrict (Pipeline.order kinds) = set :=
      (Miner.finds_of_completes closed completes (reliable.offered closed held rfl)).unique finds
    rw [found, run, mined, MiningCall.found, MiningCall.run, MiningCall.plain, alone]
    simp only [Except.map, MiningOutcome.actions?, same]

end MiningAttempt

def Diff.spread : Diff where
  id := ⟨"r", "f", "a.c"⟩
  before := .ofTree (.node ⟨.translationUnit, none, none, some ⟨1, 0, 3, 1⟩⟩
    [.node ⟨.empty, none, none, some ⟨2, 4, 2, 5⟩⟩ []])
  after := .ofTree (.node ⟨.translationUnit, none, some .body, some ⟨1, 0, 4, 1⟩⟩
    [.node ⟨.empty, none, none, some ⟨3, 4, 3, 5⟩⟩ []])
  correspondence := Diff.exchanged.correspondence
  edits := some []
  fixFiles := ["a.c"]
  in_trees := by decide

namespace MiningAttempt

def spoiled (diff : Diff) : MiningAttempt where
  call := .caching ⟨"cache"⟩ [.deleteStatement] diff
  trouble := ⟨none, some ⟨.noDirectory, 5, .content "\x7b".toUTF8⟩⟩

def smooth (kinds : List ActionKind) (diff : Diff) : MiningAttempt where
  call := .caching ⟨"cache"⟩ kinds diff
  trouble := ⟨none, none⟩

/-- The first call has another correspondence but stores nothing, so the third finds the statement
that the second has found. -/
theorem found_after_spread : ∃ set,
    (smooth [.unwrapStatement, .deleteStatement] .exchanged).found
        (after [spoiled .kept, smooth [.deleteStatement] .spread] .empty) = .ok (some set) ∧
      set.get? .deleteStatement = some [.deleteStatement 1] := by
  have closed : Pipeline.Closed [.unwrapStatement, .deleteStatement] := by
    unfold Pipeline.Closed
    decide
  have within : ∀ other ∈ [smooth [.unwrapStatement, .deleteStatement] .exchanged, spoiled .kept,
      smooth [.deleteStatement] .spread], other.call.Within ⟨"cache"⟩ := by
    intro other member
    simp only [List.mem_cons, List.not_mem_nil, or_false] at member
    rcases member with rfl | rfl | rfl
    · exact MiningCall.caching_within (by decide) closed _ _
    · exact MiningCall.caching_within (by decide) MiningCall.closed_deletions _ _
    · exact MiningCall.caching_within (by decide) MiningCall.closed_deletions _ _
  have earlier {motive : MiningAttempt → Prop} (first : motive (spoiled .kept))
      (second : motive (smooth [.deleteStatement] .spread)) :
      ∀ other ∈ [spoiled .kept, smooth [.deleteStatement] .spread], motive other := by
    simp [first, second]
  obtain ⟨actions, found, plainly⟩ := found_after within
    (earlier (fun side => by cases side <;> decide) fun side => by cases side <;> decide)
    (earlier (fun _ => ⟨rfl, rfl⟩) fun _ => ⟨rfl, rfl⟩)
    (earlier (fun reaches => nomatch reaches.stores) fun _ edits others same also => by
      cases same
      cases also
      exact ⟨rfl, rfl⟩)
  have scripted : Diff.exchanged.edits = some [] := rfl
  obtain ⟨set, stats, mined, finds⟩ :=
    Miner.mine_uncached closed scripted Disk.storage Disk.empty
  refine ⟨set, ?_, ?_⟩
  · rw [found, ← plainly, MiningCall.found, MiningCall.run, MiningCall.plain, smooth,
      MiningCall.caching, mined]
    rfl
  · rw [MiningCall.get?_of_finds finds (by decide)]
    decide

end MiningAttempt

namespace MiningCall

variable {diff : Diff} {edits : List EditOp}

theorem stored_first (diff : Diff) (place : diff.id = ⟨"r", "f", "a.c"⟩)
    (scripted : diff.edits = some edits) :
    ∃ set, Miner.Finds diff edits [.deleteStatement] set ∧ set.Sound diff ∧
      (after [caching ⟨"cache"⟩ [.deleteStatement] diff] .empty).read
          (CacheLayout.actionsPlace ⟨"cache"⟩ ⟨"r", "f", "a.c"⟩) =
        .ok (some (ActionCache.encode diff.fingerprint set)) := by
  have loaded : (Miner.loadCached ⟨.builtin [.deleteStatement], some ⟨"cache"⟩⟩ Disk.storage
      diff).run Disk.empty = (.empty, .empty) := by
    rw [Miner.loadCached_disk, place, CacheLayout.read_plain]
    rfl
  obtain ⟨result, completes, mined⟩ :=
    Miner.mine_completes closed_deletions scripted (some ⟨"cache"⟩) loaded
  have genuine := completes.genuine (ActionSet.genuine_empty _)
  refine ⟨result, ⟨genuine, fun kind => ?_⟩, completes.sound, ?_⟩
  · rw [completes.contains]
    exact or_iff_right (by intro there; cases there)
  · have new : ActionSet.lacks .empty (Pipeline.order [.deleteStatement]) ≠ 0 := by
      decide
    rw [after, List.foldl_cons, List.foldl_nil, run, caching, mined, Miner.storeMined_disk,
      if_neg new, place]
    dsimp only
    exact ((CacheFile.actions ⟨"cache"⟩ ⟨"r", "f", "a.c"⟩).replace_again
      (CacheLayout.replace_plain _)).1

/-- Both differences have the same identity and the same trees, so the second gets what was found
for the first. -/
theorem found_after_kept :
    (∀ diff, (caching ⟨"cache"⟩ [.deleteStatement] diff).Within ⟨"cache"⟩) ∧
    ∃ cached plainly : ActionSet,
      (caching ⟨"cache"⟩ [.deleteStatement] .exchanged).found
          (after [caching ⟨"cache"⟩ [.deleteStatement] .kept] .empty) = .ok (some cached) ∧
        (caching ⟨"cache"⟩ [.deleteStatement] .exchanged).plain.found .empty = .ok (some plainly) ∧
        cached.get? .deleteStatement = some [] ∧
        plainly.get? .deleteStatement = some [.deleteStatement 1] := by
  refine ⟨caching_within (by decide) closed_deletions _, ?_⟩
  have scripted : Diff.exchanged.edits = some [] := rfl
  obtain ⟨old, keeps, sound, there⟩ := stored_first .kept rfl rfl
  have accepted : ActionCache.decode .exchanged (Diff.fingerprint .kept)
      (ActionCache.encode (Diff.fingerprint .kept) old) = .ok old :=
    ActionCache.decode_encode .exchanged sound (by intro side; cases side <;> decide) _
  have loaded : (Miner.loadCached ⟨.builtin [.deleteStatement], some ⟨"cache"⟩⟩ Disk.storage
      .exchanged).run (after [caching ⟨"cache"⟩ [.deleteStatement] .kept] .empty) =
        (old, after [caching ⟨"cache"⟩ [.deleteStatement] .kept] .empty) := by
    rw [Miner.loadCached_disk]
    have id : Diff.exchanged.id = ⟨"r", "f", "a.c"⟩ := rfl
    rw [id, there, Miner.offered]
    rw [show Diff.exchanged.fingerprint = Diff.fingerprint .kept from rfl, accepted]
  obtain ⟨result, completes, mined⟩ :=
    Miner.mine_completes closed_deletions scripted (some ⟨"cache"⟩) loaded
  obtain ⟨set, stats, plainly, finds⟩ :=
    Miner.mine_uncached closed_deletions scripted Disk.storage Disk.empty
  refine ⟨result.restrict (Pipeline.order [.deleteStatement]), set, ?_, ?_, ?_, ?_⟩
  · rw [found, run, caching, mined]
    rfl
  · rw [found, run, plain, caching, plainly]
    rfl
  · have present : old.contains .deleteStatement = true := by
      rw [keeps.2]
      exact List.mem_singleton_self _
    rw [Table.get?_restrict, if_pos (by decide), completes.kept _ present,
      get?_of_finds keeps (List.mem_singleton_self _)]
    decide
  · rw [get?_of_finds finds (List.mem_singleton_self _)]
    decide

end MiningCall

end RepairMining
