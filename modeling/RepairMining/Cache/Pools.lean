import RepairMining.Cache.Actions

/-!
The pool cache: one file for each difference and variant. A file does not say which tree it was
built from; the difference it is named after decides.
-/

namespace RepairMining.PoolCache

open Json

def decode (bytes : ByteArray) : Except CacheError Pools :=
  match decodeBytes Document.pools bytes with
  | .error cause => .error (.document cause)
  | .ok pools => .ok pools

def encode (pools : Pools) : ByteArray := (Document.poolsValue pools).compact.toUTF8

variable {m : Type → Type} [Monad m]

def load (storage : Storage m) (layout : CacheLayout) (id : DiffId) (variant : PoolVariant) :
    m (Except CacheError (Option Pools)) := do
  match ← storage.read (CacheFile.pools layout id variant).path with
  | .error fault => return .error (.storage fault)
  | .ok none => return .ok none
  | .ok (some bytes) => return (decode bytes).map some

def store (storage : Storage m) (layout : CacheLayout) (id : DiffId) (variant : PoolVariant)
    (pools : Pools) : m (Option DiskFault) :=
  storage.replace (.pools layout id variant) (encode pools)

end RepairMining.PoolCache
