import RepairMining.Pool.Basic

namespace RepairMining

/-- Pools after building, and the names of those that had been missing. The tree is walked over only
if there are any. -/
structure BuiltPools where
  pools : Pools
  built : List PoolName

namespace BuiltPools

def traversed (outcome : BuiltPools) : Bool := !outcome.built.isEmpty

end BuiltPools

namespace Pools

def missing (existing : Pools) (requested : List PoolName) : List PoolName :=
  PoolName.all.filter fun name => requested.contains name && !existing.contains name

def gather (arena : Arena) (hashes : NodeHashes) (name : PoolName) : DonorPool :=
  .ofList ((name.members arena).filterMap hashes.get?)

def build (arena : Arena) (mode : HashMode) (existing : Pools) (requested : List PoolName) :
    BuiltPools :=
  match existing.missing requested with
  | [] => ⟨existing, []⟩
  | names =>
    let hashes := NodeHashes.compute mode arena
    ⟨names.foldl (fun pools name => pools.insert name (gather arena hashes name)) existing, names⟩

end Pools

end RepairMining
