import RepairMining.CommandLine

open RepairMining

def readFrom (path : String) : IO (Except DiskFault (Option ByteArray)) :=
  try
    return .ok (some (← IO.FS.readBinFile path))
  catch
    | .noFileOrDirectory .. => return .ok none
    | _ => return .error .isDirectory

def writeTemporary (file : CacheFile) (bytes : ByteArray) : IO Unit := do
  if file.directory != "" then IO.FS.createDirAll file.directory
  IO.FS.writeBinFile file.temporary bytes

def removeTemporary (file : CacheFile) : IO Unit :=
  try IO.FS.removeFile file.temporary catch _ => return

def replaceIn (file : CacheFile) (bytes : ByteArray) : IO (Option DiskFault) :=
  try
    writeTemporary file bytes
    IO.FS.rename file.temporary file.path
    return none
  catch _ =>
    removeTemporary file
    return some .noDirectory

def main (args : List String) : IO UInt32 := do
  let ending ← CommandLine.run { read := readFrom, replace := replaceIn } args
  IO.print ending.output
  IO.eprint ending.complaint
  return .ofNat ending.status
