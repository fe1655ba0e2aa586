import RepairMining.Cache.Actions
import RepairMining.Mining.Registry

/-!
Mining one difference: categories come from the cache where it has them and from the detectors where
it has not. The cache is written only after every detector has succeeded.
-/

namespace RepairMining

inductive SkipReason where
  | noEditScript
  | headerFile
  | sourceFiles (count : Nat)
  deriving DecidableEq, Repr

def SkipReason.message : SkipReason → String
  | noEditScript => "no edit script"
  | headerFile => "fix modifies a header file"
  | sourceFiles count => s!"fix modifies {count} source files"

structure MiningStats where
  detectorsRun : Nat
  loadedFromCache : Nat
  cacheWritten : Bool
  deriving DecidableEq, Repr

inductive MiningOutcome where
  | analyzed (actions : ActionSet) (stats : MiningStats)
  | notAnalyzable (reason : SkipReason)

namespace MiningOutcome

def isAnalyzed : MiningOutcome → Bool
  | analyzed _ _ => true
  | notAnalyzable _ => false

end MiningOutcome

structure Miner where
  registry : Registry
  cache : Option CacheLayout

namespace Miner

variable {m : Type → Type} [Monad m]

/-- What the cache has to offer. A file that cannot be used counts as none. -/
def loadCached (miner : Miner) (storage : Storage m) (diff : Diff) : m ActionSet :=
  match miner.cache with
  | none => return .empty
  | some layout => do
    match ← ActionCache.load storage layout diff diff.fingerprint with
    | .ok (some set) => return set
    | _ => return .empty

def storeMined (miner : Miner) (storage : Storage m) (diff : Diff) (set : ActionSet) (fresh : Nat) :
    m Bool :=
  match miner.cache with
  | none => return false
  | some layout =>
    if fresh = 0 then return false
    else return (← ActionCache.store storage layout diff.id diff.fingerprint set).isNone

def mine (miner : Miner) (storage : Storage m) (diff : Diff) :
    m (Except MiningError MiningOutcome) :=
  match diff.edits with
  | none => return .ok (.notAnalyzable .noEditScript)
  | some edits => do
    let cached ← miner.loadCached storage diff
    match miner.registry.run (.make diff edits) cached with
    | .error fault => return .error fault
    | .ok (set, fresh) =>
      let cacheWritten ← miner.storeMined storage diff set fresh
      return .ok (.analyzed (set.restrict miner.registry.kinds)
        { detectorsRun := fresh, loadedFromCache := miner.registry.covered cached, cacheWritten })

end Miner

end RepairMining
