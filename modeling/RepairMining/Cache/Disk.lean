/-!
A disk as a value: which files and directories there are below one directory. What is missing, what
cannot be named and what lies in the way are told apart.
-/

namespace RepairMining

abbrev DiskPath := List String

namespace DiskPath

def walk (above : DiskPath) (name : String) : DiskPath :=
  if name = "" ∨ name = "." then above
  else if name = ".." then
    match above.reverse with
    | [] => [".."]
    | ".." :: _ => above ++ [".."]
    | _ :: rest => rest.reverse
  else above ++ [name]

/-- Names of a written path. What starts at the very top hangs below a name that no
file can have. -/
def ofText (text : String) : DiskPath :=
  ((text.toList.splitOn '/').map String.ofList).foldl walk
    (if text.startsWith "/" then ["/"] else [])

def toText (path : DiskPath) : String := "/".intercalate path

end DiskPath

inductive DiskFault where
  | belowFile
  | badName
  | isDirectory
  | noDirectory
  deriving DecidableEq, Repr

inductive DiskItem where
  | file (bytes : ByteArray)
  | directory

structure Disk where
  items : List (DiskPath × DiskItem)

namespace Disk

def empty : Disk := ⟨[]⟩

def nameable (name : String) : Bool := name.utf8ByteSize ≤ 255 && !name.toList.contains '\x00'

/-- What stands at exactly this path. The outermost directory is always there. -/
def item? (disk : Disk) (path : DiskPath) : Option DiskItem :=
  match path with
  | [] => some .directory
  | path => disk.items.lookup path

def erase (disk : Disk) (path : DiskPath) : Disk := ⟨disk.items.filter (·.1 != path)⟩

def put (disk : Disk) (path : DiskPath) (item : DiskItem) : Disk :=
  ⟨(path, item) :: (disk.erase path).items⟩

/-- What is found by following names from a directory on. -/
def findFrom (disk : Disk) (above : DiskPath) : DiskPath → Except DiskFault (Option DiskItem)
  | [] => .ok (disk.item? above)
  | name :: rest =>
    match disk.item? above with
    | none => .ok none
    | some (.file _) => .error .belowFile
    | some .directory =>
      if nameable name then findFrom disk (above ++ [name]) rest else .error .badName

def find (disk : Disk) (path : DiskPath) : Except DiskFault (Option DiskItem) :=
  disk.findFrom [] path

def read (disk : Disk) (path : DiskPath) : Except DiskFault (Option ByteArray) :=
  match disk.find path with
  | .error fault => .error fault
  | .ok none => .ok none
  | .ok (some (.file bytes)) => .ok (some bytes)
  | .ok (some .directory) => .error .isDirectory

/-- Creates what is missing of a chain of directories, outermost first, and stays with what it has
when it gets stuck. -/
def makeDirectoriesFrom (disk : Disk) (above : DiskPath) : DiskPath → Option DiskFault × Disk
  | [] => (none, disk)
  | name :: rest =>
    if nameable name then
      match disk.item? (above ++ [name]) with
      | some .directory => makeDirectoriesFrom disk (above ++ [name]) rest
      | some (.file _) => (some .belowFile, disk)
      | none => makeDirectoriesFrom (disk.put (above ++ [name]) .directory) (above ++ [name]) rest
    else (some .badName, disk)

def makeDirectories (disk : Disk) (path : DiskPath) : Option DiskFault × Disk :=
  disk.makeDirectoriesFrom [] path

def write (disk : Disk) (path : DiskPath) (bytes : ByteArray) : Except DiskFault Disk :=
  match disk.find path, disk.item? path.dropLast with
  | .error fault, _ => .error fault
  | .ok (some .directory), _ => .error .isDirectory
  | .ok (some (.file _)), _ | .ok none, some .directory => .ok (disk.put path (.file bytes))
  | .ok none, _ => .error .noDirectory

def rename (disk : Disk) (source target : DiskPath) : Except DiskFault Disk :=
  match disk.read source, disk.find target with
  | .ok (some bytes), .ok none | .ok (some bytes), .ok (some (.file _)) =>
    .ok ((disk.erase source).put target (.file bytes))
  | .error fault, _ => .error fault
  | _, .error fault => .error fault
  | _, _ => .error .isDirectory

def removeFile (disk : Disk) (path : DiskPath) : Disk :=
  match disk.find path with
  | .ok (some (.file _)) => disk.erase path
  | _ => disk

def remove (disk : Disk) (path : DiskPath) : Bool × Disk :=
  match disk.find path with
  | .ok (some _) => (true, ⟨disk.items.filter fun entry => !path.isPrefixOf entry.1⟩)
  | _ => (false, disk)

/-- Writes a file by way of a temporary one, so that no reader ever meets half a file. If that
fails, no temporary file is left. -/
def replace (disk : Disk) (path temporary : DiskPath) (bytes : ByteArray) :
    Option DiskFault × Disk :=
  match disk.makeDirectories path.dropLast with
  | (some fault, disk) => (some fault, disk)
  | (none, disk) =>
    match disk.write temporary bytes with
    | .error fault => (some fault, disk.removeFile temporary)
    | .ok written =>
      match written.rename temporary path with
      | .error fault => (some fault, written.removeFile temporary)
      | .ok renamed => (none, renamed)

def listed (entry : DiskPath × DiskItem) : String :=
  match entry.2 with
  | .file _ => entry.1.toText
  | .directory => entry.1.toText ++ "/"

def list (disk : Disk) (path : DiskPath) : List String :=
  let below := disk.items.filterMap fun entry =>
    if path.isPrefixOf entry.1 && entry.1 != path then
      some (listed (entry.1.drop path.length, entry.2))
    else none
  below.mergeSort fun first second => decide (first ≤ second)

end Disk

end RepairMining
