import RepairMining.Config.Basic
import RepairMining.Mining.Miner
import RepairMining.Pool.Service

namespace RepairMining

structure Analysis where
  id : DiffId
  outcome : MiningOutcome
  /-- Abstract and concrete pools. -/
  pools : Option (PoolOutcome × PoolOutcome)

structure Analyzer where
  config : MinerConfig
  miner : Miner
  pools : PoolService

namespace Analyzer

inductive SetupError where
  | invalid (cause : MinerConfig.Invalid)
  | pipeline (cause : PipelineError)
  deriving DecidableEq, Repr

def ofConfig (config : MinerConfig) : Except SetupError Analyzer :=
  match config.fault? with
  | some fault => .error (.invalid fault)
  | none =>
    match Registry.ofKinds config.kinds with
    | .error cause => .error (.pipeline cause)
    | .ok registry =>
      .ok {
        config
        miner := { registry, cache := config.cacheLayout }
        pools := { requested := config.poolNames, cache := config.cacheLayout } }

def skipReason? (analyzer : Analyzer) (diff : Diff) : Option SkipReason :=
  let filter := analyzer.config.fixFilter
  if filter.skipHeaderFixes && diff.fixFiles.touchesHeader then some .headerFile
  else if filter.skipMultiFileFixes && 1 < diff.fixFiles.sourceCount then
    some (.sourceFiles diff.fixFiles.sourceCount)
  else none

variable {m : Type → Type} [Monad m]

def mine (analyzer : Analyzer) (storage : Storage m) (diff : Diff) :
    m (Except MiningError MiningOutcome) :=
  match analyzer.skipReason? diff with
  | some reason => return .ok (.notAnalyzable reason)
  | none => analyzer.miner.mine storage diff

def buildPools (analyzer : Analyzer) (storage : Storage m) (diff : Diff) (wanted : Bool) :
    m (Option (PoolOutcome × PoolOutcome)) :=
  if wanted then do
    let abstract ← analyzer.pools.build storage diff .abstract
    let concrete ← analyzer.pools.build storage diff .concrete
    return some (abstract, concrete)
  else return none

def analyze (analyzer : Analyzer) (storage : Storage m) (diff : Diff) (withPools : Bool) :
    m (Except MiningError Analysis) := do
  match ← analyzer.mine storage diff with
  | .error fault => return .error fault
  | .ok outcome =>
    let pools ← analyzer.buildPools storage diff (withPools && outcome.isAnalyzed)
    return .ok { id := diff.id, outcome, pools }

end Analyzer

end RepairMining
