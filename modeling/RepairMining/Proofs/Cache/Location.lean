import RepairMining.Proofs.Cache.Disk
import RepairMining.Cache.Storage

namespace RepairMining

namespace DiskPath

theorem splitOn_last (text : List Char) : ∃ front last, ∀ ending : List Char, '/' ∉ ending →
    (text ++ ending).splitOn '/' = front ++ [last ++ ending] := by
  induction text with
  | nil =>
    refine ⟨[], [], fun ending plain => ?_⟩
    rw [List.nil_append, List.splitOn_eq_singleton plain]
    rfl
  | cons c text ih =>
    obtain ⟨front, last, split⟩ := ih
    by_cases slash : c = '/'
    · refine ⟨[] :: front, last, fun ending plain => ?_⟩
      rw [List.cons_append, List.splitOn_cons_eq_if_modifyHead, if_pos (by simp [slash]),
        split ending plain, List.cons_append]
    · cases front with
      | nil =>
        refine ⟨[], c :: last, fun ending plain => ?_⟩
        rw [List.cons_append, List.splitOn_cons_eq_if_modifyHead, if_neg (by simp [slash]),
          split ending plain]
        rfl
      | cons first front =>
        refine ⟨(c :: first) :: front, last, fun ending plain => ?_⟩
        rw [List.cons_append, List.splitOn_cons_eq_if_modifyHead, if_neg (by simp [slash]),
          split ending plain]
        rfl

theorem walk_long {above : DiskPath} {name : String} (long : 3 ≤ name.length) :
    walk above name = above ++ [name] := by
  have apart (short : String) (less : short.length < 3) : name ≠ short := by
    rintro rfl
    omega
  rw [walk, if_neg, if_neg (apart ".." (by decide))]
  rintro (same | same)
  · exact apart "" (by decide) same
  · exact apart "." (by decide) same

theorem startsWith_slash {text ending : String} (plain : '/' ∉ ending.toList) :
    (text ++ ending).startsWith "/" = text.startsWith "/" := by
  rw [Bool.eq_iff_iff, String.startsWith_string_iff, String.startsWith_string_iff,
    String.toList_append]
  cases text.toList with
  | nil =>
    cases shape : ending.toList with
    | nil => rfl
    | cons c rest =>
      rw [shape] at plain
      have apart : '/' ≠ c := fun same => plain (same ▸ List.mem_cons_self)
      simp [apart]
  | cons c rest => simp

theorem exists_ofText_append (text : String) : ∃ directory name, ∀ ending : String,
    '/' ∉ ending.toList → 3 ≤ ending.length →
      ofText (text ++ ending) = directory ++ [name ++ ending] := by
  obtain ⟨front, last, split⟩ := splitOn_last text.toList
  refine ⟨(front.map String.ofList).foldl walk (if text.startsWith "/" then ["/"] else []),
    String.ofList last, fun ending plain long => ?_⟩
  have named : String.ofList (last ++ ending.toList) = String.ofList last ++ ending := by
    rw [String.ofList_append, String.ofList_toList]
  rw [ofText, startsWith_slash plain, String.toList_append, split ending.toList plain,
    List.map_append, List.foldl_append, List.map_singleton, named]
  apply walk_long
  rw [String.length_append]
  omega

end DiskPath

theorem Disk.replace_storage (file : CacheFile) (bytes : ByteArray) (disk : Disk) :
    (Disk.storage.replace file bytes).run disk =
      disk.replace (.ofText file.path) (.ofText file.temporary) bytes := rfl

namespace CacheFile

theorem exists_location (file : CacheFile) : ∃ directory name,
    DiskPath.ofText file.path = directory ++ [name ++ ".json"] ∧
      DiskPath.ofText file.temporary = directory ++ [name ++ ".tmp"] := by
  obtain ⟨directory, name, located⟩ := DiskPath.exists_ofText_append file.trunk
  refine ⟨directory, name, ?_, ?_⟩
  · exact located ".json" (by decide) (by decide)
  · exact located ".tmp" (by decide) (by decide)

theorem json_ne_tmp (first second : String) : first ++ ".json" ≠ second ++ ".tmp" := by
  intro same
  have lists := congrArg (fun text => text.toList.getLast?) same
  simp [String.toList_append] at lists

theorem path_ne_temporary (file other : CacheFile) :
    DiskPath.ofText file.path ≠ DiskPath.ofText other.temporary := by
  obtain ⟨directory, name, path, _⟩ := file.exists_location
  obtain ⟨directory', name', _, temporary⟩ := other.exists_location
  intro same
  rw [path, temporary] at same
  exact json_ne_tmp name name' (List.singleton_inj.mp (List.append_inj' same rfl).2)

theorem temporary_ne_nil (file : CacheFile) : DiskPath.ofText file.temporary ≠ [] := by
  obtain ⟨directory, name, _, temporary⟩ := file.exists_location
  rw [temporary]
  simp

theorem replace_again (file : CacheFile) {disk : Disk} {bytes : ByteArray}
    (done : (disk.replace (.ofText file.path) (.ofText file.temporary) bytes).1 = none) :
    (disk.replace (.ofText file.path) (.ofText file.temporary) bytes).2.read (.ofText file.path) =
        .ok (some bytes) ∧
      ∀ next, ((disk.replace (.ofText file.path) (.ofText file.temporary) bytes).2.replace
        (.ofText file.path) (.ofText file.temporary) next).1 = none := by
  obtain ⟨directory, name, path, temporary⟩ := file.exists_location
  have apart := json_ne_tmp name name
  rw [path, temporary] at done ⊢
  obtain ⟨prepared, _, writable, replaced⟩ := Disk.writable_of_replace done apart
  obtain ⟨content, again⟩ := writable.replaced bytes apart
  rw [replaced]
  refine ⟨content, fun next => ?_⟩
  rw [Disk.replace_of_writable again next apart]

theorem removeFile_of_read (file : CacheFile) {disk : Disk} {content : ByteArray}
    (held : disk.read (.ofText file.path) = .ok (some content)) :
    (disk.removeFile (.ofText file.path)).read (.ofText file.path) = .ok none ∧
      ∀ next, ((disk.removeFile (.ofText file.path)).replace (.ofText file.path)
          (.ofText file.temporary) next).1 = none ↔
        (disk.replace (.ofText file.path) (.ofText file.temporary) next).1 = none := by
  obtain ⟨directory, name, path, temporary⟩ := file.exists_location
  rw [path] at held ⊢
  rw [temporary]
  refine ⟨Disk.read_removeFile held, fun next => ?_⟩
  exact Disk.replace_removeFile held (json_ne_tmp name name)

end CacheFile

namespace CacheLayout

def poolsPlace (layout : CacheLayout) (id : DiffId) (variant : PoolVariant) : DiskPath :=
  .ofText (CacheFile.pools layout id variant).path

def poolsTemporary (layout : CacheLayout) (id : DiffId) (variant : PoolVariant) : DiskPath :=
  .ofText (CacheFile.pools layout id variant).temporary

theorem join_append (path front ending : String) :
    join path (front ++ ending) = join path front ++ ending := by
  unfold join
  split <;> simp only [String.append_assoc]

theorem poolsPlace_variant (layout : CacheLayout) (id : DiffId) : ∃ directory name,
    ∀ variant : PoolVariant,
      layout.poolsPlace id variant = directory ++ [name ++ (variant.name ++ ".pool.json")] := by
  obtain ⟨directory, name, located⟩ :=
    DiskPath.exists_ofText_append (join (layout.directory id) (id.stem ++ "."))
  refine ⟨directory, name, fun variant => ?_⟩
  have written : (CacheFile.pools layout id variant).path =
      join (layout.directory id) (id.stem ++ ".") ++ (variant.name ++ ".pool.json") := by
    rw [CacheFile.path, CacheFile.pools, trunk, poolPurpose, join_append, String.append_assoc,
      String.append_assoc]
    rfl
  rw [poolsPlace, written]
  apply located
  · cases variant <;> decide
  · cases variant <;> decide

theorem variant_eq_of_poolsPlace {layout : CacheLayout} {id other : DiffId}
    {variant second : PoolVariant}
    (shared : layout.poolsPlace id variant = layout.poolsPlace other second) :
    variant = second := by
  obtain ⟨directory, name, place⟩ := layout.poolsPlace_variant id
  obtain ⟨directory', name', place'⟩ := layout.poolsPlace_variant other
  rw [place, place'] at shared
  have names := List.singleton_inj.mp (List.append_inj' shared rfl).2
  rw [← String.append_assoc, ← String.append_assoc, String.append_left_inj] at names
  have letters := congrArg String.toList names
  rw [String.toList_append, String.toList_append] at letters
  have length (variant : PoolVariant) : variant.name.toList.length = 8 := by
    cases variant <;> decide
  have endings := (List.append_inj' letters ((length variant).trans (length second).symm)).2
  exact Vocabulary.name_injective variant second (String.toList_inj.mp endings)

end CacheLayout

end RepairMining
