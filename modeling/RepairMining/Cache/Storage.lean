import RepairMining.Cache.Disk
import RepairMining.Cache.Layout

namespace RepairMining

structure CacheFile where
  trunk : String
  deriving DecidableEq, Repr

namespace CacheFile

def path (file : CacheFile) : String := file.trunk ++ ".json"

def temporary (file : CacheFile) : String := file.trunk ++ ".tmp"

def directory (file : CacheFile) : String :=
  String.ofList ((file.trunk.toList.reverse.dropWhile (· != '/')).drop 1).reverse

def actions (layout : CacheLayout) (id : DiffId) : CacheFile :=
  ⟨layout.trunk id CacheLayout.actionsPurpose⟩

def pools (layout : CacheLayout) (id : DiffId) (variant : PoolVariant) : CacheFile :=
  ⟨layout.trunk id (CacheLayout.poolPurpose variant)⟩

end CacheFile

/-- How files are read and replaced. A file that is missing reads as nothing. -/
structure Storage (m : Type → Type) where
  read : String → m (Except DiskFault (Option ByteArray))
  replace : CacheFile → ByteArray → m (Option DiskFault)

def Disk.storage : Storage (StateM Disk) where
  read path disk := (disk.read (.ofText path), disk)
  replace file bytes disk := disk.replace (.ofText file.path) (.ofText file.temporary) bytes

end RepairMining
