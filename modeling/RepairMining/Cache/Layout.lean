import RepairMining.Diff.Basic
import RepairMining.Pool.Name

namespace RepairMining

def isControl (c : Char) : Bool := c.toNat < 32 || (127 ≤ c.toNat && c.toNat < 160)

def plainChar (c : Char) : Char :=
  if c = '/' ∨ c = '\\' ∨ c = ':' ∨ isControl c = true then '_' else c

/-- Name of the file, all directories included, as one word. -/
def DiffId.stem (id : DiffId) : String :=
  String.ofList ((id.file.toList.dropWhile fun c => c == '/' || c == '\\').map plainChar)

structure CacheLayout where
  root : String
  deriving DecidableEq, Repr

namespace CacheLayout

def join (path component : String) : String :=
  if path = "" ∨ path.endsWith "/" then path ++ component else path ++ "/" ++ component

/-- A name as a single component that leads nowhere else. -/
def component (name : String) : String :=
  let plain := String.ofList (name.toList.map plainChar)
  if plain = "" ∨ plain = "." ∨ plain = ".." then "_" ++ plain else plain

def directory (layout : CacheLayout) (id : DiffId) : String :=
  join (join (join layout.root "artefacts") (component id.repository)) (component id.fix)

def trunk (layout : CacheLayout) (id : DiffId) (purpose : String) : String :=
  join (layout.directory id) (id.stem ++ "." ++ purpose)

def actionsPurpose : String := "actions"

def poolPurpose (variant : PoolVariant) : String := variant.name ++ ".pool"

def actionsPath (layout : CacheLayout) (id : DiffId) : String :=
  layout.trunk id actionsPurpose ++ ".json"

def poolPath (layout : CacheLayout) (id : DiffId) (variant : PoolVariant) : String :=
  layout.trunk id (poolPurpose variant) ++ ".json"

end CacheLayout

end RepairMining
