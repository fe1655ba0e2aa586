import RepairMining.Config.Basic
import RepairMining.Json.Decode
import RepairMining.Json.Value

namespace RepairMining.Document

open Json

structure FilterDraft where
  header : Option Bool
  multiFile : Option Bool

def filterShape : Shape FilterDraft where
  label := "struct FixFilter"
  fields := [
    .of "skip_header_fixes" Decode.bool (·.header)
      (fun draft value => { draft with header := some value }) true,
    .of "skip_multi_file_fixes" Decode.bool (·.multiFile)
      (fun draft value => { draft with multiFile := some value }) true]
  strict := true

def finishFilter (draft : FilterDraft) : FixFilter :=
  ⟨draft.header.getD true, draft.multiFile.getD true⟩

def fixFilter : Decoder FixFilter :=
  filterShape.complete ⟨none, none⟩ fun draft => .ok (finishFilter draft)

structure ConfigDraft where
  version : Option Nat
  cacheRoot : Option (Option String)
  cacheEnabled : Option Bool
  detectors : Option (Option (List ActionKind))
  pools : Option (Option (List PoolName))
  fixFilter : Option FixFilter

def ConfigDraft.empty : ConfigDraft := ⟨none, none, none, none, none, none⟩

def configShape : Shape ConfigDraft where
  label := "struct MinerConfig"
  fields := [
    .of "version" Decode.nat32 (·.version)
      (fun draft value => { draft with version := some value }) false,
    .of "cache_root" (Decode.optional (Decode.text "path string")) (·.cacheRoot)
      (fun draft value => { draft with cacheRoot := some value }) true,
    .of "cache_enabled" Decode.bool (·.cacheEnabled)
      (fun draft value => { draft with cacheEnabled := some value }) true,
    .of "detectors" (Decode.optional (Decode.list (Decode.named ActionKind))) (·.detectors)
      (fun draft value => { draft with detectors := some value }) true,
    .of "pools" (Decode.optional (Decode.list (Decode.named PoolName))) (·.pools)
      (fun draft value => { draft with pools := some value }) true,
    .of "fix_filter" Document.fixFilter (·.fixFilter)
      (fun draft value => { draft with fixFilter := some value }) true]
  strict := true

def finishConfig (draft : ConfigDraft) (version : Nat) : MinerConfig where
  version := version
  cacheRoot := draft.cacheRoot.getD none
  cacheEnabled := draft.cacheEnabled.getD true
  detectors := draft.detectors.getD none
  pools := draft.pools.getD none
  fixFilter := draft.fixFilter.getD .standard

def config : Decoder MinerConfig :=
  configShape.complete .empty fun draft => do
    return finishConfig draft (← require "version" draft.version)

def filterValue (filter : FixFilter) : Value :=
  .object [("skip_header_fixes", .bool filter.skipHeaderFixes),
    ("skip_multi_file_fixes", .bool filter.skipMultiFileFixes)]

def configValue (config : MinerConfig) : Value :=
  .object (("version", .natural config.version) ::
    (Value.memberOf "cache_root" .text config.cacheRoot ++
      (("cache_enabled", .bool config.cacheEnabled) ::
        (Value.memberOf "detectors" (fun kinds => .array (kinds.map fun kind => .text kind.name))
            config.detectors ++
          (Value.memberOf "pools" (fun names => .array (names.map fun name => .text name.name))
              config.pools ++
            [("fix_filter", filterValue config.fixFilter)])))))

end RepairMining.Document
