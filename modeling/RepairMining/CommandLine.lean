import RepairMining.Analysis.Report
import RepairMining.Config.File
import RepairMining.Document.Diff

namespace RepairMining.CommandLine

structure Request where
  diff : String
  config : Option String
  cacheRoot : Option String
  pools : Bool
  deriving DecidableEq, Repr

structure Draft where
  diff : Option String
  config : Option String
  cacheRoot : Option String
  pools : Bool

inductive Parsed where
  | run (request : Request)
  | help
  | unusable
  deriving DecidableEq, Repr

inductive Setting where
  | diff
  | config
  | cacheRoot
  deriving DecidableEq, Repr

/-- Gives an option its value. An option that is given twice or without a value is refused. -/
def Draft.give? (draft : Draft) (option : Setting) (value : String) : Option Draft :=
  if value = "" then none
  else
    match option with
    | .diff => if draft.diff.isSome then none else some { draft with diff := some value }
    | .config => if draft.config.isSome then none else some { draft with config := some value }
    | .cacheRoot =>
      if draft.cacheRoot.isSome then none else some { draft with cacheRoot := some value }

def isValue (word : String) : Bool := !word.startsWith "-" || word = "-"

def longOption? : String → Option Setting
  | "--diff" => some .diff
  | "--config" => some .config
  | "--cache-root" => some .cacheRoot
  | _ => none

def shortOption? : Char → Option Setting
  | 'd' => some .diff
  | 'c' => some .config
  | _ => none

inductive Word where
  | flag
  | help
  | option (option : Setting) (value : Option String)
  | stop
  | other
  deriving DecidableEq, Repr

def word (text : String) : Word :=
  match text.toList with
  | ['-', '-'] => .stop
  | '-' :: '-' :: rest =>
    let name := "--" ++ String.ofList (rest.takeWhile (· != '='))
    let value := match rest.dropWhile (· != '=') with
      | _ :: value => some (String.ofList value)
      | [] => none
    match longOption? name, value with
    | some option, value => .option option value
    | none, none => if name = "--pools" then .flag else if name = "--help" then .help else .other
    | none, some _ => .other
  | '-' :: c :: rest =>
    match shortOption? c, rest with
    | some option, [] => .option option none
    | some option, '=' :: value => .option option (some (String.ofList value))
    | some option, value => .option option (some (String.ofList value))
    | none, _ => if c = 'h' then .help else .other
  | _ => .other

def finish (draft : Draft) : Parsed :=
  match draft.diff with
  | none => .unusable
  | some diff => .run ⟨diff, draft.config, draft.cacheRoot, draft.pools⟩

def parseFrom : Draft → List String → Parsed
  | draft, [] => finish draft
  | draft, text :: rest =>
    match word text with
    | .flag => if draft.pools then .unusable else parseFrom { draft with pools := true } rest
    | .help => .help
    | .option option (some value) =>
      match draft.give? option value with
      | none => .unusable
      | some draft => parseFrom draft rest
    | .option option none =>
      match rest with
      | [] => .unusable
      | value :: rest =>
        if isValue value then
          match draft.give? option value with
          | none => .unusable
          | some draft => parseFrom draft rest
        else .unusable
    | .stop => if rest.isEmpty then finish draft else .unusable
    | .other => .unusable

def parse (args : List String) : Parsed := parseFrom ⟨none, none, none, false⟩ args

def helpText : String :=
  "Mine repair actions and donor pools from a before/after AST diff\n\n" ++
  "Usage: bughunter-mine [OPTIONS] --diff <DIFF>\n\n" ++
  "Options:\n" ++
  "  -d, --diff <DIFF>              Diff document (JSON) emitted by the tree differ\n" ++
  "  -c, --config <CONFIG>          Miner configuration (YAML, schema v1)\n" ++
  "      --cache-root <CACHE_ROOT>  Cache root; overrides the configuration file\n" ++
  "      --pools                    Also build the abstract and concrete donor pools\n" ++
  "  -h, --help                     Print help\n"

inductive Failure where
  | file (path : String)
  | config (cause : MinerConfig.FileError)
  | setup (cause : Analyzer.SetupError)
  | document (cause : Json.Error)
  | stray (cause : Diff.Stray)
  | mining (cause : MiningError)
  deriving DecidableEq, Repr

namespace Failure

def message : Failure → String
  | file path => "IO error: " ++ path
  | config cause => cause.message
  | setup (.invalid cause) => "Configuration error: " ++ cause.message
  | setup (.pipeline cause) => (MiningError.pipeline cause).message
  | document (.data mismatch) => "JSON error: " ++ mismatch.message
  | document (.text _) => "JSON error"
  | stray cause => "Invalid input: " ++ cause.message
  | mining cause => cause.message

end Failure

variable {m : Type → Type} [Monad m]

/-- A file is read as text, so that its bytes have to be the encoding of one. -/
def readFile (storage : Storage m) (path : String) : m (Except Failure String) := do
  match (← storage.read path).map fun found => found.bind String.fromUTF8? with
  | .ok (some text) => return .ok text
  | _ => return .error (.file path)

def readConfig (storage : Storage m) : Option String → m (Except Failure MinerConfig)
  | none => return .ok .standard
  | some path => do
    match ← readFile storage path with
    | .error failure => return .error failure
    | .ok text => return (MinerConfig.parse text).mapError .config

def analyzerOf (config : MinerConfig) (request : Request) : Except Failure Analyzer :=
  let config := match request.cacheRoot with
    | none => config
    | some root => config.withCacheRoot root
  (Analyzer.ofConfig config).mapError .setup

def decodeDiff (text : String) : Except Failure Diff :=
  match Json.decodeText Document.diff text with
  | .error cause => .error (.document cause)
  | .ok contents => contents.check.mapError .stray

/-- Carries out a request and gives the text of the report. The configuration is checked before the
difference is read. -/
def perform (storage : Storage m) (request : Request) : m (Except Failure String) := do
  match (← readConfig storage request.config).bind fun config => analyzerOf config request with
  | .error failure => return .error failure
  | .ok analyzer =>
    match (← readFile storage request.diff).bind decodeDiff with
    | .error failure => return .error failure
    | .ok diff =>
      match ← analyzer.analyze storage diff request.pools with
      | .error cause => return .error (.mining cause)
      | .ok analysis => return .ok (analysis.report.pretty ++ "\n")

structure Ending where
  status : Nat
  output : String
  complaint : String
  deriving DecidableEq, Repr

def run (storage : Storage m) (args : List String) : m Ending :=
  match parse args with
  | .unusable => return ⟨2, "", "bad arguments, try --help\n"⟩
  | .help => return ⟨0, helpText, ""⟩
  | .run request => do
    match ← perform storage request with
    | .error failure => return ⟨1, "", "Error: " ++ failure.message ++ "\n"⟩
    | .ok text => return ⟨0, text, ""⟩

end RepairMining.CommandLine
