import RepairMining.Main
import RepairMining.Syntax.Path
import RepairMining.Proofs.Action.Pipeline
import RepairMining.Proofs.Mining.Run
import RepairMining.Proofs.Table
import RepairMining.Proofs.Json.Scanning
import RepairMining.Proofs.Json.Decoding
import RepairMining.Proofs.Json.Nesting
import RepairMining.Proofs.Digest.Hex
import RepairMining.Proofs.Document.Pool
import RepairMining.Proofs.Document.Tree
import RepairMining.Proofs.Document.Diff
import RepairMining.Proofs.Cache.Codec
import RepairMining.Proofs.Cache.Disk
import RepairMining.Proofs.Cache.Artefacts
import RepairMining.Proofs.Cache.Journal
import RepairMining.Proofs.Detection.Alike
import RepairMining.Proofs.Mining.Cached
import RepairMining.Proofs.Mining.Atomicity
import RepairMining.Proofs.Mining.Totality
import RepairMining.Proofs.Mining.History
import RepairMining.Proofs.Mining.Increment
import RepairMining.Proofs.Pool.History
import RepairMining.Proofs.Mining.Modularity
import RepairMining.Proofs.Mining.Reordering
import RepairMining.Proofs.Pool.Queries
import RepairMining.Proofs.Mining.Positions
import RepairMining.Proofs.Mining.Unchanged
import RepairMining.Proofs.Mining.Distinct
import RepairMining.Proofs.Mining.Recovery
import RepairMining.Proofs.Diff.Maps
import RepairMining.Proofs.Mining.Registry
import RepairMining.Proofs.Mining.Deletions
import RepairMining.Proofs.Mining.Insertions
import RepairMining.Proofs.Mining.Growth
import RepairMining.Proofs.Mining.Wrapping
import RepairMining.Proofs.Mining.Branches
import RepairMining.Proofs.Mining.Attribution
import RepairMining.Proofs.Mining.ElseGuards
import RepairMining.Proofs.Mining.LoopGuards
import RepairMining.Proofs.Config.Validation
import RepairMining.Proofs.Syntax.Intervals
import RepairMining.Proofs.Syntax.Ancestors
import RepairMining.Proofs.Pool.Incremental
import RepairMining.Proofs.Pool.Relabelling
import RepairMining.Proofs.Pool.Algebra
import RepairMining.Proofs.Pool.Documents
import RepairMining.Proofs.Mining.Guards
import RepairMining.Proofs.Mining.Expressions
import RepairMining.Proofs.Detection.Extras
import RepairMining.Proofs.Mining.Calls
import RepairMining.Proofs.Mining.Arguments
import RepairMining.Proofs.Mining.Assignments
import RepairMining.Proofs.Action.Worklist
import RepairMining.Proofs.Syntax.Ascent
import RepairMining.Proofs.Syntax.Paths
