import RepairMining.Proofs.Cache.Location

namespace RepairMining

/-- What a failed replacement leaves of the temporary file. It is removed after most failures, but
not if no directory can be made, nor if removing it fails too. -/
inductive Leftover where
  | asBefore
  | removed
  | content (bytes : ByteArray)

structure Mishap where
  fault : DiskFault
  directories : Nat
  leftover : Leftover

/-- What goes wrong with the storage during a call. A call reads and replaces one file at most. -/
structure Trouble where
  reading : Option DiskFault
  replacing : Option Mishap

namespace Disk

variable {disk : Disk} {path temporary other : DiskPath} {bytes content : ByteArray}

/-- The disk after a replacement that did not get as far as the renaming. -/
def interrupted (disk : Disk) (path temporary : DiskPath) (mishap : Mishap) : Disk :=
  let prepared := (disk.makeDirectories (path.dropLast.take mishap.directories)).2
  match mishap.leftover with
  | .asBefore => prepared
  | .removed => prepared.removeFile temporary
  | .content bytes =>
    match prepared.write temporary bytes with
    | .error _ => prepared
    | .ok written => written

def troubled (trouble : Trouble) : Storage (StateM Disk) where
  read path disk :=
    match trouble.reading with
    | some fault => (.error fault, disk)
    | none => (disk.read (.ofText path), disk)
  replace file bytes disk :=
    match trouble.replacing with
    | some mishap =>
      (some mishap.fault, disk.interrupted (.ofText file.path) (.ofText file.temporary) mishap)
    | none => disk.replace (.ofText file.path) (.ofText file.temporary) bytes

example : troubled ⟨none, none⟩ = storage := rfl

theorem file_of_interrupted {mishap : Mishap}
    (there : (disk.interrupted path temporary mishap).item? other = some (.file content))
    (apart : other ≠ temporary) : disk.item? other = some (.file content) := by
  rw [interrupted] at there
  rcases made : disk.makeDirectories (path.dropLast.take mishap.directories) with ⟨fault, prepared⟩
  have kept (file : prepared.item? other = some (.file content)) :
      disk.item? other = some (.file content) := by
    apply file_of_makeDirectoriesFrom [] (path.dropLast.take mishap.directories)
    rw [show disk.makeDirectoriesFrom [] _ = (fault, prepared) from made]
    exact file
  rw [made] at there
  cases left : mishap.leftover with
  | asBefore =>
    simp only [left] at there
    exact kept there
  | removed =>
    simp only [left] at there
    exact kept (file_of_removeFile there apart)
  | content bytes =>
    simp only [left] at there
    split at there
    · exact kept there
    · rename_i written stored
      obtain ⟨_, rfl⟩ := write_ok stored
      rw [item?_put_ne apart] at there
      exact kept there

/-- Whatever goes wrong, a file has its old content or the new one, temporary files apart. -/
theorem file_of_troubled {trouble : Trouble} {file : CacheFile}
    (there : (((troubled trouble).replace file bytes).run disk).2.item? other =
      some (.file content)) (apart : other ≠ .ofText file.temporary) :
    disk.item? other = some (.file content) ∨
      trouble.replacing = none ∧ other = .ofText file.path ∧ content = bytes := by
  obtain ⟨reading, replacing⟩ := trouble
  cases replacing with
  | some mishap => exact .inl (file_of_interrupted there apart)
  | none =>
    rcases file_of_replace file.temporary_ne_nil there apart with before | renamed
    · exact .inl before
    · exact .inr ⟨rfl, renamed⟩

theorem read_troubled (trouble : Trouble) (path : String) (disk : Disk) :
    ∃ answer, ((troubled trouble).read path).run disk = (answer, disk) ∧
      ∀ bytes, answer = .ok (some bytes) → disk.item? (.ofText path) = some (.file bytes) := by
  obtain ⟨reading, replacing⟩ := trouble
  cases reading with
  | some fault => exact ⟨.error fault, rfl, by simp⟩
  | none => exact ⟨disk.read (.ofText path), rfl, fun _ => item?_of_read⟩

end Disk

end RepairMining
