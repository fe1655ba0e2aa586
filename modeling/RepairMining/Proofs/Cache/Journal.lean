import RepairMining.Proofs.Cache.Location

namespace RepairMining

namespace Disk

variable {disk : Disk} {path temporary other : DiskPath} {bytes content : ByteArray}

theorem item?_removeFile_ne (apart : other ≠ path) :
    (disk.removeFile path).item? other = disk.item? other := by
  rw [removeFile]
  split
  · exact item?_erase_ne apart
  · rfl

theorem file_makeDirectoriesFrom (above path : DiskPath) :
    (disk.makeDirectoriesFrom above path).2.item? other = some (.file content) ↔
      disk.item? other = some (.file content) := by
  refine ⟨file_of_makeDirectoriesFrom above path, fun there => ?_⟩
  induction path generalizing disk above with
  | nil => exact there
  | cons name rest ih =>
    rw [makeDirectoriesFrom]
    split
    · split
      · exact ih _ there
      · exact there
      · rename_i vacant
        have apart : other ≠ above ++ [name] := by
          rintro rfl
          rw [vacant] at there
          cases there
        exact ih _ ((item?_put_ne apart).trans there)
    · exact there

theorem file_replace (apart : other ≠ temporary)
    (kept : other = path → (disk.replace path temporary bytes).1 ≠ none) :
    (disk.replace path temporary bytes).2.item? other = some (.file content) ↔
      disk.item? other = some (.file content) := by
  rw [replace] at kept ⊢
  rcases made : disk.makeDirectories path.dropLast with ⟨fault, prepared⟩
  have directories : prepared.item? other = some (.file content) ↔
      disk.item? other = some (.file content) := by
    have prepares := @file_makeDirectoriesFrom disk other content [] path.dropLast
    rwa [show disk.makeDirectoriesFrom [] path.dropLast = (fault, prepared) from made] at prepares
  rw [made] at kept
  cases fault with
  | some fault => exact directories
  | none =>
    cases stored : prepared.write temporary bytes with
    | error fault =>
      simp only [stored]
      rw [item?_removeFile_ne apart, directories]
    | ok written =>
      obtain ⟨_, rfl⟩ := write_ok stored
      cases moved : (prepared.put temporary (.file bytes)).rename temporary path with
      | error fault =>
        simp only [stored, moved]
        rw [item?_removeFile_ne apart, item?_put_ne apart, directories]
      | ok renamed =>
        obtain ⟨moving, _, _, rfl⟩ := rename_ok moved
        simp only [stored, moved] at kept ⊢
        have target : other ≠ path := fun same => kept same rfl
        rw [item?_put_ne target, item?_erase_ne apart, item?_put_ne apart, directories]

end Disk

structure Journal where
  disk : Disk
  /-- Files and their new contents, in the order in which they were asked for. -/
  writes : List (CacheFile × ByteArray)

namespace Journal

def storage : Storage (StateM Journal) where
  read path journal := (journal.disk.read (.ofText path), journal)
  replace file bytes journal :=
    let replaced := journal.disk.replace (.ofText file.path) (.ofText file.temporary) bytes
    (replaced.1, ⟨replaced.2, journal.writes ++ [(file, bytes)]⟩)

variable {α β : Type}

/-- The program does the same on a disk without a journal. -/
def Records (recorded : StateM Journal α) (plain : StateM Disk α) : Prop :=
  ∀ journal : Journal,
    plain.run journal.disk = ((recorded.run journal).1, (recorded.run journal).2.disk)

theorem Records.pure (value : α) : Records (pure value) (pure value) := fun _ => rfl

theorem Records.bind {recorded : StateM Journal α} {plain : StateM Disk α}
    (first : Records recorded plain) {next : α → StateM Journal β} {plainNext : α → StateM Disk β}
    (later : ∀ value, Records (next value) (plainNext value)) :
    Records (recorded >>= next) (plain >>= plainNext) := by
  intro journal
  have start := first journal
  simp only [StateT.run, Bind.bind, StateT.bind] at start ⊢
  rw [start]
  exact later _ _

theorem read_storage (path : String) (journal : Journal) :
    (storage.read path).run journal = (journal.disk.read (.ofText path), journal) := rfl

theorem replace_storage (file : CacheFile) (bytes : ByteArray) (journal : Journal) :
    (storage.replace file bytes).run journal =
      ((journal.disk.replace (.ofText file.path) (.ofText file.temporary) bytes).1,
        ⟨(journal.disk.replace (.ofText file.path) (.ofText file.temporary) bytes).2,
          journal.writes ++ [(file, bytes)]⟩) := rfl

theorem records_read (path : String) : Records (storage.read path) (Disk.storage.read path) :=
  fun _ => rfl

theorem records_replace (file : CacheFile) (bytes : ByteArray) :
    Records (storage.replace file bytes) (Disk.storage.replace file bytes) := by
  intro journal
  rw [Disk.replace_storage, replace_storage]

/-- One replacement of a file lies between two journals. -/
structure Replaces (before after : Journal) (file : CacheFile) (bytes : ByteArray) (succeeded : Bool) :
    Prop where
  writes : after.writes = before.writes ++ [(file, bytes)]
  holds : succeeded = true → after.disk.read (.ofText file.path) = .ok (some bytes)
  others : ∀ place : DiskPath, place ≠ .ofText file.temporary →
    (place = .ofText file.path → succeeded = false) → ∀ content,
      after.disk.item? place = some (.file content) ↔ before.disk.item? place = some (.file content)

theorem replaces_replace (journal : Journal) (file : CacheFile) (bytes : ByteArray) :
    journal.Replaces ((storage.replace file bytes).run journal).2 file bytes
      ((storage.replace file bytes).run journal).1.isNone := by
  rw [replace_storage]
  constructor
  · rfl
  · intro succeeded
    exact (file.replace_again (Option.isNone_iff_eq_none.mp succeeded)).1
  · intro place apart kept content
    exact Disk.file_replace apart fun same =>
      Option.isSome_iff_ne_none.mp (Option.isNone_eq_false_iff.mp (kept same))

end Journal

end RepairMining
