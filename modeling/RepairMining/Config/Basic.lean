import RepairMining.Cache.Layout
import RepairMining.Detection.Context

namespace RepairMining

structure FixFilter where
  skipHeaderFixes : Bool
  skipMultiFileFixes : Bool
  deriving DecidableEq, Repr

def FixFilter.standard : FixFilter := ⟨true, true⟩

structure MinerConfig where
  version : Nat
  cacheRoot : Option String
  cacheEnabled : Bool
  /-- Categories to mine, all of them if none are listed. -/
  detectors : Option (List ActionKind)
  /-- Pools to build, all of them if none are listed. -/
  pools : Option (List PoolName)
  fixFilter : FixFilter
  deriving DecidableEq, Repr

namespace MinerConfig

def standard : MinerConfig := ⟨1, none, true, none, none, .standard⟩

inductive Invalid where
  | unsupportedVersion (found : Nat)
  | noDetectors
  | missingPrerequisites (kinds : List ActionKind)
  | pipeline (cause : PipelineError)
  | noPools
  deriving DecidableEq, Repr

def supportedVersions : List Nat := [1]

namespace Invalid

def validation (text : String) : String := "Validation error: " ++ text

def message : Invalid → String
  | unsupportedVersion found =>
    s!"Unsupported configuration version {found}. Supported versions: " ++
      ", ".intercalate (supportedVersions.map fun version => toString version)
  | noDetectors => validation "'detectors' must list at least one category; omit it to enable all"
  | missingPrerequisites kinds =>
    validation ("'detectors' is missing prerequisite categories: " ++
      ", ".intercalate (kinds.map ActionKind.name))
  | pipeline cause => validation (MiningError.pipeline cause).message
  | noPools => validation "'pools' must list at least one pool; omit it to build all"

end Invalid

def detectorFault? (kinds : List ActionKind) : Option Invalid :=
  if kinds.isEmpty then some .noDetectors
  else
    match (ActionKind.closure kinds).filter fun kind => !kinds.contains kind with
    | [] =>
      match Pipeline.build kinds with
      | .error cause => some (.pipeline cause)
      | .ok _ => none
    | missing => some (.missingPrerequisites missing)

/-- The first thing that is wrong: the version, then the categories, then the pools. -/
def fault? (config : MinerConfig) : Option Invalid :=
  if !supportedVersions.contains config.version then some (.unsupportedVersion config.version)
  else
    match config.detectors.bind detectorFault? with
    | some fault => some fault
    | none => if config.pools == some [] then some .noPools else none

def validate (config : MinerConfig) : Except Invalid Unit :=
  match config.fault? with
  | some fault => .error fault
  | none => .ok ()

def kinds (config : MinerConfig) : List ActionKind := config.detectors.getD ActionKind.all

def poolNames (config : MinerConfig) : List PoolName := config.pools.getD PoolName.all

/-- Nothing is cached unless a root is given and caching is on. -/
def cacheLayout (config : MinerConfig) : Option CacheLayout :=
  if config.cacheEnabled then config.cacheRoot.map CacheLayout.mk else none

def withCacheRoot (config : MinerConfig) (root : String) : MinerConfig :=
  { config with cacheRoot := some root }

end MinerConfig

end RepairMining
