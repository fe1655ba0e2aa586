import RepairMining.Analysis.Basic
import RepairMining.Json.Value

namespace RepairMining

open Json

def countsValue (counts : List (String × Nat)) : Value :=
  .object ((counts.mergeSort fun first second => decide (first.1 ≤ second.1)).map fun entry =>
    (entry.1, .natural entry.2))

def MiningStats.value (stats : MiningStats) : Value :=
  .object [("detectors_run", .natural stats.detectorsRun),
    ("loaded_from_cache", .natural stats.loadedFromCache),
    ("cache_written", .bool stats.cacheWritten)]

namespace Analysis

def outcomeMembers : MiningOutcome → List (String × Value)
  | .analyzed actions stats =>
    [("status", .text "analyzed"), ("actions", countsValue actions.counts), ("stats", stats.value)]
  | .notAnalyzable reason => [("status", .text "not_analyzable"), ("reason", .text reason.message)]

def poolsValue (pools : PoolOutcome × PoolOutcome) : Value :=
  .object [("abstract", countsValue pools.1.pools.pools.counts),
    ("concrete", countsValue pools.2.pools.pools.counts)]

def report (analysis : Analysis) : Value :=
  .object (("diff", .text analysis.id.toText) ::
    (outcomeMembers analysis.outcome ++ Value.memberOf "pools" poolsValue analysis.pools))

end Analysis

end RepairMining
