import RepairMining.Cache.Pools
import RepairMining.Pool.Building

namespace RepairMining

structure PoolService where
  requested : List PoolName
  cache : Option CacheLayout

structure PoolOutcome where
  pools : PoolSet
  built : List PoolName
  traversed : Bool
  cacheWritten : Bool

namespace PoolService

variable {m : Type → Type} [Monad m]

def loadCached (service : PoolService) (storage : Storage m) (diff : Diff) (variant : PoolVariant) :
    m Pools :=
  match service.cache with
  | none => return .empty
  | some layout => do
    match ← PoolCache.load storage layout diff.id variant with
    | .ok (some pools) => return pools
    | _ => return .empty

def storeBuilt (service : PoolService) (storage : Storage m) (diff : Diff) (variant : PoolVariant)
    (outcome : BuiltPools) : m Bool :=
  match service.cache with
  | none => return false
  | some layout =>
    if outcome.built.isEmpty then return false
    else return (← PoolCache.store storage layout diff.id variant outcome.pools).isNone

def build (service : PoolService) (storage : Storage m) (diff : Diff) (variant : PoolVariant) :
    m PoolOutcome := do
  let existing ← service.loadCached storage diff variant
  let outcome := Pools.build diff.before variant.mode existing service.requested
  let cacheWritten ← service.storeBuilt storage diff variant outcome
  return {
    pools := { id := diff.id, variant, pools := outcome.pools }
    built := outcome.built
    traversed := outcome.traversed
    cacheWritten }

end PoolService

end RepairMining
