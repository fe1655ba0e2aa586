import RepairMining.Pool.Service
import RepairMining.Proofs.Cache.Codec
import RepairMining.Proofs.Cache.Disk
import RepairMining.Proofs.Cache.Trouble
import RepairMining.Proofs.Pool.Building

namespace RepairMining

structure PoolCall where
  service : PoolService
  diff : Diff
  variant : PoolVariant

namespace PoolCall

def run (call : PoolCall) (disk : Disk) : PoolOutcome × Disk :=
  (call.service.build Disk.storage call.diff call.variant).run disk

def pool? (call : PoolCall) (disk : Disk) (name : PoolName) : Option DonorPool :=
  (call.run disk).1.pools.pools.get? name

def plain (call : PoolCall) : PoolCall := ⟨⟨call.service.requested, none⟩, call.diff, call.variant⟩

def after (calls : List PoolCall) (disk : Disk) : Disk :=
  calls.foldl (fun disk call => (call.run disk).2) disk

def place (call : PoolCall) (layout : CacheLayout) : DiskPath :=
  layout.poolsPlace call.diff.id call.variant

def own (call : PoolCall) (name : PoolName) : DonorPool := name.own call.diff.before call.variant

end PoolCall

structure PoolAttempt where
  call : PoolCall
  trouble : Trouble

namespace PoolAttempt

def run (attempt : PoolAttempt) (disk : Disk) : PoolOutcome × Disk :=
  (attempt.call.service.build (Disk.troubled attempt.trouble) attempt.call.diff
    attempt.call.variant).run disk

def pool? (attempt : PoolAttempt) (disk : Disk) (name : PoolName) : Option DonorPool :=
  (attempt.run disk).1.pools.pools.get? name

def after (attempts : List PoolAttempt) (disk : Disk) : Disk :=
  attempts.foldl (fun disk attempt => (attempt.run disk).2) disk

/-- The call may store a pool of the name in the file. -/
structure Reaches (attempt : PoolAttempt) (layout : CacheLayout) (place : DiskPath)
    (name : PoolName) : Prop where
  stores : attempt.trouble.replacing = none
  place : attempt.call.place layout = place
  requested : name ∈ attempt.call.service.requested

end PoolAttempt

/-- Every pool of the set is what one of the calls that reach the file has built. -/
def Pools.Descend (pools : Pools) (layout : CacheLayout) (attempts : List PoolAttempt)
    (place : DiskPath) : Prop :=
  ∀ name pool, pools.get? name = some pool →
    ∃ writer ∈ attempts, writer.Reaches layout place name ∧ pool = writer.call.own name

def Disk.Descends (disk : Disk) (layout : CacheLayout) (attempts : List PoolAttempt) : Prop :=
  ∀ call : PoolCall, ∀ bytes, disk.item? (call.place layout) = some (.file bytes) →
    ∃ pools : Pools, bytes = PoolCache.encode pools ∧
      pools.Descend layout attempts (call.place layout)

namespace PoolService

variable {storage : Storage (StateM Disk)} {diff : Diff} {variant : PoolVariant} {disk : Disk}
variable {layout : CacheLayout} {answer : Except DiskFault (Option ByteArray)}

def offered : Except DiskFault (Option ByteArray) → Pools
  | .ok (some bytes) =>
    match PoolCache.decode bytes with
    | .ok pools => pools
    | .error _ => .empty
  | _ => .empty

theorem offered_encode (pools : Pools) : offered (.ok (some (PoolCache.encode pools))) = pools := by
  rw [offered]
  simp only [PoolCache.decode_encode]

theorem loadCached_eq (requested : List PoolName)
    (read : (storage.read (CacheFile.pools layout diff.id variant).path).run disk =
      (answer, disk)) :
    (loadCached ⟨requested, some layout⟩ storage diff variant).run disk =
      (offered answer, disk) := by
  simp only [StateT.run] at read
  simp only [loadCached, PoolCache.load, bind, StateT.bind, StateT.run, pure, read]
  cases answer with
  | error fault => rfl
  | ok content =>
    cases content with
    | none => rfl
    | some bytes =>
      simp only [offered]
      cases PoolCache.decode bytes with
      | error fault => rfl
      | ok pools => rfl

theorem storeBuilt_eq (storage : Storage (StateM Disk)) (requested : List PoolName)
    (layout : CacheLayout) (diff : Diff) (variant : PoolVariant) (outcome : BuiltPools)
    (disk : Disk) :
    ((storeBuilt ⟨requested, some layout⟩ storage diff variant outcome).run disk).2 =
      if outcome.built = [] then disk
      else
        ((storage.replace (.pools layout diff.id variant)
          (PoolCache.encode outcome.pools)).run disk).2 := by
  cases built : outcome.built with
  | nil =>
    simp only [storeBuilt, built, List.isEmpty_nil, if_true]
    rfl
  | cons name names =>
    rw [if_neg (List.cons_ne_nil name names)]
    simp only [storeBuilt, built, List.isEmpty_cons, Bool.false_eq_true, if_false,
      PoolCache.store, bind, StateT.bind, StateT.run]
    rcases storage.replace (.pools layout diff.id variant) (PoolCache.encode outcome.pools) disk
      with ⟨fault, next⟩
    rfl

theorem build_eq {requested : List PoolName} {outcome : BuiltPools}
    (read : (storage.read (CacheFile.pools layout diff.id variant).path).run disk =
      (answer, disk))
    (built : Pools.build diff.before variant.mode (offered answer) requested = outcome) :
    ((build ⟨requested, some layout⟩ storage diff variant).run disk).1.pools.pools =
        outcome.pools ∧
      ((build ⟨requested, some layout⟩ storage diff variant).run disk).2 =
        if outcome.built = [] then disk
        else
          ((storage.replace (.pools layout diff.id variant)
            (PoolCache.encode outcome.pools)).run disk).2 := by
  have loaded := loadCached_eq requested read
  have stored := storeBuilt_eq storage requested layout diff variant outcome disk
  simp only [StateT.run] at loaded stored ⊢
  simp only [build, bind, StateT.bind, loaded, built]
  exact ⟨rfl, stored⟩

end PoolService

namespace Pools.Descend

variable {pools : Pools} {layout : CacheLayout} {attempts : List PoolAttempt} {place : DiskPath}

theorem empty : Pools.Descend .empty layout attempts place := by
  intro name pool present
  cases present

theorem mono (descend : pools.Descend layout attempts place) (attempt : PoolAttempt) :
    pools.Descend layout (attempts ++ [attempt]) place := by
  intro name pool present
  obtain ⟨writer, member, reaches, same⟩ := descend name pool present
  exact ⟨writer, List.mem_append_left [attempt] member, reaches, same⟩

/-- What a call returns of a pool is there if it was requested. It was built from the tree of this
call, or of one that reaches the file. -/
theorem get?_build (descend : pools.Descend layout attempts place) (call : PoolCall)
    {name : PoolName} {pool : DonorPool}
    (present : (Pools.build call.diff.before call.variant.mode pools
      call.service.requested).pools.get? name = some pool) :
    name ∈ call.service.requested ∧ pool = call.own name ∨
      ∃ writer ∈ attempts, writer.Reaches layout place name ∧ pool = writer.call.own name := by
  rw [Pools.get?_build] at present
  split at present
  · rename_i lacking
    exact .inl ⟨(mem_missing.mp lacking).1, (Option.some.inj present).symm⟩
  · exact .inr (descend name pool present)

theorem build {attempt : PoolAttempt}
    (descend : pools.Descend layout attempts (attempt.call.place layout))
    (stores : attempt.trouble.replacing = none) :
    (Pools.build attempt.call.diff.before attempt.call.variant.mode pools
        attempt.call.service.requested).pools.Descend
      layout (attempts ++ [attempt]) (attempt.call.place layout) := by
  intro name pool present
  rcases descend.get?_build attempt.call present with ⟨requested, same⟩ | ⟨writer, member, old⟩
  · refine ⟨attempt, ?_, ⟨stores, rfl, requested⟩, same⟩
    exact List.mem_append_right attempts (List.mem_singleton_self attempt)
  · exact ⟨writer, List.mem_append_left [attempt] member, old⟩

end Pools.Descend

theorem Disk.Descends.empty {layout : CacheLayout} : Disk.empty.Descends layout [] := by
  intro call bytes there
  exact absurd there (item?_empty_ne_file _ bytes)

namespace PoolAttempt

variable {disk : Disk} {layout : CacheLayout} {attempts : List PoolAttempt} {attempt : PoolAttempt}

theorem run_eq (cached : attempt.call.service.cache = some layout)
    (descends : disk.Descends layout attempts) :
    ∃ existing : Pools, existing.Descend layout attempts (attempt.call.place layout) ∧
      ∀ outcome, Pools.build attempt.call.diff.before attempt.call.variant.mode existing
          attempt.call.service.requested = outcome →
        (attempt.run disk).1.pools.pools = outcome.pools ∧
          (attempt.run disk).2 =
            if outcome.built = [] then disk
            else
              (((Disk.troubled attempt.trouble).replace
                (.pools layout attempt.call.diff.id attempt.call.variant)
                (PoolCache.encode outcome.pools)).run disk).2 := by
  obtain ⟨⟨⟨requested, cache⟩, diff, variant⟩, trouble⟩ := attempt
  obtain rfl : cache = some layout := cached
  obtain ⟨answer, read, held⟩ :=
    Disk.read_troubled trouble (CacheFile.pools layout diff.id variant).path disk
  refine ⟨PoolService.offered answer, ?_, fun outcome built => PoolService.build_eq read built⟩
  cases answer with
  | error fault => exact .empty
  | ok content =>
    cases content with
    | none => exact .empty
    | some bytes =>
      obtain ⟨pools, rfl, descend⟩ :=
        descends ⟨⟨requested, some layout⟩, diff, variant⟩ bytes (held bytes rfl)
      rwa [PoolService.offered_encode]

theorem pool?_descends (cached : attempt.call.service.cache = some layout)
    (descends : disk.Descends layout attempts) {name : PoolName}
    (listed : name ∈ attempt.call.service.requested) :
    ∃ pool, attempt.pool? disk name = some pool ∧
      (pool = attempt.call.own name ∨ ∃ writer ∈ attempts,
        writer.Reaches layout (attempt.call.place layout) name ∧ pool = writer.call.own name) := by
  obtain ⟨existing, descend, settled⟩ := run_eq cached descends
  obtain ⟨returned, _⟩ := settled _ rfl
  have available : ∃ pool, attempt.pool? disk name = some pool := by
    rw [pool?, returned, Pools.get?_build]
    split
    · exact ⟨_, rfl⟩
    · rename_i there
      rw [Pools.mem_missing, not_and, Bool.not_eq_false, Table.contains] at there
      exact Option.isSome_iff_exists.mp (there listed)
  obtain ⟨pool, present⟩ := available
  refine ⟨pool, present, ?_⟩
  rw [pool?, returned] at present
  exact (descend.get?_build attempt.call present).imp And.right id

theorem run_descends (cached : attempt.call.service.cache = some layout)
    (descends : disk.Descends layout attempts) :
    (attempt.run disk).2.Descends layout (attempts ++ [attempt]) := by
  obtain ⟨existing, descend, settled⟩ := run_eq cached descends
  obtain ⟨_, left⟩ := settled _ rfl
  rw [left]
  intro other bytes there
  split at there
  · obtain ⟨pools, written, old⟩ := descends other bytes there
    exact ⟨pools, written, old.mono attempt⟩
  · -- The file asked about is another one, or it was not replaced, or this call has written it.
    have apart := (CacheFile.pools layout other.diff.id other.variant).path_ne_temporary
      (.pools layout attempt.call.diff.id attempt.call.variant)
    rcases Disk.file_of_troubled there apart with before | ⟨stores, same, rfl⟩
    · obtain ⟨pools, written, old⟩ := descends other bytes before
      exact ⟨pools, written, old.mono attempt⟩
    · refine ⟨_, rfl, ?_⟩
      have place : other.place layout = attempt.call.place layout := same
      rw [place]
      exact descend.build stores

theorem after_descends {seen : List PoolAttempt}
    (cached : ∀ attempt ∈ attempts, attempt.call.service.cache = some layout)
    (descends : disk.Descends layout seen) :
    (after attempts disk).Descends layout (seen ++ attempts) := by
  induction attempts generalizing disk seen with
  | nil =>
    rw [List.append_nil]
    exact descends
  | cons attempt attempts ih =>
    have next := run_descends (cached attempt List.mem_cons_self) descends
    have later := ih (fun other member => cached other (List.mem_cons_of_mem attempt member)) next
    rwa [List.append_assoc] at later

end PoolAttempt

namespace PoolCall

variable {disk : Disk} {layout : CacheLayout} {call : PoolCall}

theorem plain_pool? (call : PoolCall) (disk : Disk) {name : PoolName}
    (listed : name ∈ call.service.requested) :
    call.plain.pool? disk name = some (call.own name) :=
  Pools.get?_build_empty call.diff.before call.variant listed

theorem pool?_of_read (cached : call.service.cache = some layout) {pools : Pools}
    (content : disk.read (call.place layout) = .ok (some (PoolCache.encode pools)))
    {name : PoolName} {pool : DonorPool} (present : pools.get? name = some pool) :
    call.pool? disk name = some pool := by
  obtain ⟨⟨requested, cache⟩, diff, variant⟩ := call
  obtain rfl : cache = some layout := cached
  have read : (Disk.storage.read (CacheFile.pools layout diff.id variant).path).run disk =
      (.ok (some (PoolCache.encode pools)), disk) := congrArg (·, disk) content
  obtain ⟨returned, _⟩ := PoolService.build_eq read rfl
  have known : name ∉ pools.missing requested := by
    rw [Pools.mem_missing, Table.contains, present]
    simp
  rw [pool?, run, returned, PoolService.offered_encode, Pools.get?_build, if_neg known, present]

end PoolCall

namespace PoolAttempt

variable {layout : CacheLayout} {attempt : PoolAttempt}

/-- A call returns a pool as it would without a cache, if the earlier calls that may have stored a
pool of the name in its file had the same tree. Reading and writing may fail in every call. -/
theorem pool?_after {earlier : List PoolAttempt}
    (cached : ∀ other ∈ attempt :: earlier, other.call.service.cache = some layout)
    {name : PoolName} (listed : name ∈ attempt.call.service.requested)
    (same : ∀ other ∈ earlier, other.Reaches layout (attempt.call.place layout) name →
      other.call.diff.before.Alike attempt.call.diff.before) :
    ∃ pool, attempt.pool? (after earlier .empty) name = some pool ∧
      attempt.call.plain.pool? .empty name = some pool := by
  have descends := after_descends
    (fun other member => cached other (List.mem_cons_of_mem attempt member)) Disk.Descends.empty
  rw [List.nil_append] at descends
  obtain ⟨pool, found, origin⟩ := pool?_descends (cached attempt List.mem_cons_self) descends listed
  have own : pool = attempt.call.own name := by
    rcases origin with own | ⟨writer, member, reaches, rfl⟩
    · exact own
    · calc
        writer.call.own name = name.own writer.call.diff.before attempt.call.variant := by
          rw [PoolCall.own, CacheLayout.variant_eq_of_poolsPlace reaches.place]
        _ = attempt.call.own name :=
          name.own_alike (same writer member reaches) attempt.call.variant
  exact ⟨pool, found, own ▸ attempt.call.plain_pool? .empty listed⟩

end PoolAttempt

/-- A difference whose tree before the fix has no identity. -/
def Diff.vacant : Diff := .blank ⟨"r", "f", "a.c"⟩

/-- One whose tree before the fix is one identity. -/
def Diff.named : Diff where
  id := ⟨"r", "f", "a.c"⟩
  before := .ofTree (.node ⟨.identity, none, none, none⟩ [])
  after := .ofTree (.node ⟨.translationUnit, none, none, none⟩ [])
  correspondence := .empty
  edits := none
  fixFiles := ["a.c"]
  in_trees := by
    intro mention member
    simp [DiffDraft.mentions, Correspondence.empty] at member

namespace PoolCall

def caching (requested : List PoolName) (diff : Diff) : PoolCall :=
  ⟨⟨requested, some ⟨"cache"⟩⟩, diff, .concrete⟩

theorem size_named : ((caching [.identity] .named).own .identity).size = 1 := by
  have one : PoolName.members Diff.named.before .identity = [0] := by
    decide
  have inside : Diff.named.before.contains 0 = true := by
    decide
  obtain ⟨digest, hashed⟩ := Arena.exists_digest inside .concrete
  have gathered :
      [0].filterMap (NodeHashes.compute .concrete Diff.named.before).get? = [digest] := by
    rw [List.filterMap_cons_some hashed]
    rfl
  rw [own, PoolName.own, Pools.gather, caching, one, PoolVariant.mode, gathered]
  rfl

end PoolCall

/-- Another difference of the same file. Its tree before the fix is the same up to positions. -/
def Diff.retold : Diff where
  id := ⟨"r", "f", "a.c"⟩
  before := .ofTree (.node ⟨.identity, none, some .body, some ⟨3, 0, 3, 1⟩⟩ [])
  after := .ofTree (.node ⟨.identity, none, none, none⟩ [])
  correspondence := .empty
  edits := some []
  fixFiles := ["a.c"]
  in_trees := by decide

namespace PoolAttempt

/-- The first call has another tree but stores nothing, the second has another but stores another
pool, and the third stores what the next one returns. -/
def varied : List PoolAttempt :=
  [⟨.caching [.identity] .vacant, none, some ⟨.noDirectory, 5, .removed⟩⟩,
    ⟨.caching [.statement] .vacant, none, none⟩,
    ⟨.caching [.identity] .retold, none, none⟩]

theorem pool?_after_varied : ∃ pool,
    pool? ⟨.caching [.identity] .named, none, none⟩ (after varied .empty) .identity = some pool ∧
      pool.size = 1 := by
  have cached : ∀ other ∈ PoolAttempt.mk (.caching [.identity] .named) ⟨none, none⟩ :: varied,
      other.call.service.cache = some ⟨"cache"⟩ := by
    simp [varied, PoolCall.caching]
  have same : ∀ other ∈ varied, other.Reaches ⟨"cache"⟩
      (PoolCall.place (.caching [.identity] .named) ⟨"cache"⟩) .identity →
        other.call.diff.before.Alike Diff.named.before := by
    intro other member reaches
    simp only [varied, List.mem_cons, List.not_mem_nil, or_false] at member
    rcases member with rfl | rfl | rfl
    · cases reaches.stores
    · cases List.mem_singleton.mp reaches.requested
    · rfl
  obtain ⟨pool, found, plainly⟩ := pool?_after cached (List.mem_singleton_self _) same
  refine ⟨pool, found, ?_⟩
  rw [PoolCall.plain_pool? _ _ (List.mem_singleton_self _)] at plainly
  obtain rfl := Option.some.inj plainly
  exact PoolCall.size_named

end PoolAttempt

namespace PoolCall

theorem poolsPlace_plain : CacheLayout.poolsPlace ⟨"cache"⟩ ⟨"r", "f", "a.c"⟩ .concrete =
    ["cache", "artefacts", "r", "f", "a.c.concrete.pool.json"] := by
  decide +kernel

theorem poolsTemporary_plain : CacheLayout.poolsTemporary ⟨"cache"⟩ ⟨"r", "f", "a.c"⟩ .concrete =
    ["cache", "artefacts", "r", "f", "a.c.concrete.pool.tmp"] := by
  decide +kernel

theorem replace_plain (bytes : ByteArray) :
    (Disk.empty.replace (CacheLayout.poolsPlace ⟨"cache"⟩ ⟨"r", "f", "a.c"⟩ .concrete)
      (CacheLayout.poolsTemporary ⟨"cache"⟩ ⟨"r", "f", "a.c"⟩ .concrete) bytes).1 = none := by
  rw [poolsPlace_plain, poolsTemporary_plain]
  rfl

theorem stored_first : ∃ pools : Pools,
    (after [caching [.identity] .vacant] .empty).read
        (CacheLayout.poolsPlace ⟨"cache"⟩ ⟨"r", "f", "a.c"⟩ .concrete) =
      .ok (some (PoolCache.encode pools)) ∧
      pools.get? .identity = some ((caching [.identity] .vacant).own .identity) := by
  have read : (Disk.storage.read
      (CacheFile.pools ⟨"cache"⟩ Diff.vacant.id .concrete).path).run
        Disk.empty = (.ok none, Disk.empty) := by
    have absent : Disk.empty.read (CacheLayout.poolsPlace ⟨"cache"⟩ ⟨"r", "f", "a.c"⟩ .concrete) =
        .ok none := by
      rw [poolsPlace_plain]
      rfl
    exact congrArg (·, Disk.empty) absent
  have built : Pools.build Diff.vacant.before PoolVariant.concrete.mode
      (PoolService.offered (.ok none)) [.identity] =
      ⟨Table.insert .empty .identity ((caching [.identity] .vacant).own .identity),
        [.identity]⟩ := rfl
  obtain ⟨_, left⟩ := PoolService.build_eq read built
  refine ⟨.insert .empty .identity ((caching [.identity] .vacant).own .identity), ?_,
    Table.get?_insert_self _ _ _⟩
  rw [after, List.foldl_cons, List.foldl_nil, run, caching, left, if_neg (List.cons_ne_nil _ _)]
  exact ((CacheFile.pools ⟨"cache"⟩ ⟨"r", "f", "a.c"⟩ .concrete).replace_again
    (replace_plain _)).1

/-- The first difference has no identity, so the second gets none from the file that they share. -/
theorem pool?_after_other : ∃ cached plainly : DonorPool,
    (caching [.identity] .named).pool? (after [caching [.identity] .vacant] .empty) .identity =
        some cached ∧
      (caching [.identity] .named).plain.pool? .empty .identity = some plainly ∧
      cached.size = 0 ∧ plainly.size = 1 := by
  obtain ⟨pools, content, present⟩ := stored_first
  refine ⟨(caching [.identity] .vacant).own .identity, (caching [.identity] .named).own .identity,
    ?_, plain_pool? (caching [.identity] .named) .empty (List.mem_singleton_self _), ?_, ?_⟩
  · have cached : (caching [.identity] .named).service.cache = some ⟨"cache"⟩ := rfl
    exact pool?_of_read cached content present
  · have none : PoolName.members Diff.vacant.before .identity = [] := by
      decide
    rw [own, PoolName.own, Pools.gather, caching, none]
    rfl
  · exact size_named

end PoolCall

end RepairMining
