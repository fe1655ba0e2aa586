import RepairMining.Config.Document
import RepairMining.Yaml.Reading
import RepairMining.Yaml.Style

namespace RepairMining

namespace MinerConfig

inductive FileError where
  | unreadable
  | missingVersion
  | invalid (cause : Invalid)
  deriving DecidableEq, Repr

def FileError.message : FileError → String
  | unreadable => "YAML parsing error"
  | missingVersion =>
    "Missing 'version' field in configuration file. Add 'version: 1' to the top of your YAML file."
  | invalid cause => cause.message

namespace Read

open Yaml

def nat32? (value : Value) : Option Nat :=
  match value.untag with
  | .number (.natural number) => if number < 4294967296 then some number else none
  | _ => none

def bool? (value : Value) : Option Bool :=
  match value.untag with
  | .bool value => some value
  | _ => none

def text? (value : Value) : Option String :=
  match value.untag with
  | .text text => some text
  | _ => none

def optional? {α : Type} (read : Value → Option α) : Value → Option (Option α)
  | .null => some none
  | value => (read value).map some

def list? {α : Type} (read : Value → Option α) (value : Value) : Option (List α) :=
  match value.untag with
  | .list items => items.mapM read
  | .null => some []
  | _ => none

def named? (α : Type) [Vocabulary α] : Value → Option α
  | .text name => Vocabulary.ofName? name
  | .tagged tag .null => Vocabulary.ofName? tag
  | _ => none

def members? {σ : Type} (field? : String → Value → σ → Option σ) :
    List String → List (Value × Value) → σ → Option σ
  | _, [], record => some record
  | seen, (key, value) :: members, record => do
    let name ← text? key
    if seen.contains name then none
    members? field? (name :: seen) members (← field? name value record)

/-- A record, written as a mapping. Nothing counts as an empty mapping. -/
def record? {σ : Type} (field? : String → Value → σ → Option σ) (start : σ) (value : Value) :
    Option σ :=
  match value.untag with
  | .mapping members => members? field? [] members start
  | .null => some start
  | _ => none

def filterField? (name : String) (value : Value) (filter : FixFilter) : Option FixFilter :=
  match name with
  | "skip_header_fixes" => do return { filter with skipHeaderFixes := ← bool? value }
  | "skip_multi_file_fixes" => do return { filter with skipMultiFileFixes := ← bool? value }
  | _ => none

def filter? : Value → Option FixFilter := record? filterField? .standard

def configField? (name : String) (value : Value) (config : MinerConfig) : Option MinerConfig :=
  match name with
  | "version" => do return { config with version := ← nat32? value }
  | "cache_root" => do return { config with cacheRoot := ← optional? text? value }
  | "cache_enabled" => do return { config with cacheEnabled := ← bool? value }
  | "detectors" => do
    return { config with detectors := ← optional? (list? (named? ActionKind)) value }
  | "pools" => do return { config with pools := ← optional? (list? (named? PoolName)) value }
  | "fix_filter" => do return { config with fixFilter := ← filter? value }
  | _ => none

def config? : Value → Option MinerConfig := record? configField? .standard

def hasVersion (value : Value) : Bool :=
  match value.untag with
  | .mapping members => members.any (·.1 == .text "version")
  | _ => false

end Read

def parse (text : String) : Except FileError MinerConfig :=
  match Yaml.read? text with
  | none => .error .unreadable
  | some value =>
    if Read.hasVersion value then
      match Read.config? value with
      | none => .error .unreadable
      | some config =>
        match config.fault? with
        | some fault => .error (.invalid fault)
        | none => .ok config
    else .error .missingVersion

def line (key value : String) : String :=
  let text := key ++ ": " ++ value
  if value.endsWith "\n" then text else text ++ "\n"

def lines (key : String) (items : List String) : String :=
  if items.isEmpty then line key "[]"
  else key ++ ":\n" ++ String.join (items.map fun item => "- " ++ Yaml.Text.write item ++ "\n")

def written (value : Bool) : String := if value then "true" else "false"

def render (config : MinerConfig) : String :=
  String.join [
    line "version" (toString config.version),
    ((config.cacheRoot.map fun root => line "cache_root" (Yaml.Text.write root)).getD ""),
    line "cache_enabled" (written config.cacheEnabled),
    ((config.detectors.map fun kinds => lines "detectors" (kinds.map ActionKind.name)).getD ""),
    ((config.pools.map fun names => lines "pools" (names.map PoolName.name)).getD ""),
    "fix_filter:\n",
    "  " ++ line "skip_header_fixes" (written config.fixFilter.skipHeaderFixes),
    "  " ++ line "skip_multi_file_fixes" (written config.fixFilter.skipMultiFileFixes)]

end MinerConfig

end RepairMining
