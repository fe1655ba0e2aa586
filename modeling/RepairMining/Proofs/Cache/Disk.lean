import RepairMining.Cache.Disk

namespace RepairMining.Disk

variable {disk : Disk} {path other : DiskPath} {item : DiskItem} {bytes : ByteArray}

theorem lookup_filter_ne (items : List (DiskPath × DiskItem)) (apart : other ≠ path) :
    (items.filter (·.1 != path)).lookup other = items.lookup other := by
  induction items with
  | nil => rfl
  | cons entry items ih =>
    by_cases same : entry.1 = path
    · have different : (other == entry.1) = false := by simpa [same] using apart
      rw [List.filter_cons_of_neg (by simp [same]), List.lookup_cons, different]
      exact ih
    · rw [List.filter_cons_of_pos (by simp [same]), List.lookup_cons, List.lookup_cons, ih]

theorem item?_cons (disk : Disk) (name : String) (rest : DiskPath) :
    disk.item? (name :: rest) = disk.items.lookup (name :: rest) := rfl

theorem item?_empty_ne_file (path : DiskPath) (bytes : ByteArray) :
    Disk.empty.item? path ≠ some (.file bytes) := by
  intro there
  cases path with
  | nil => cases there
  | cons name rest => cases there

theorem item?_erase_ne (apart : other ≠ path) :
    (disk.erase path).item? other = disk.item? other := by
  cases other with
  | nil => rfl
  | cons name rest => exact lookup_filter_ne disk.items apart

theorem item?_put_self (nonempty : path ≠ []) : (disk.put path item).item? path = some item := by
  cases path with
  | nil => exact absurd rfl nonempty
  | cons name rest =>
    rw [item?_cons, put, List.lookup_cons, beq_self_eq_true]

theorem lookup_filter_self (items : List (DiskPath × DiskItem)) :
    (items.filter (·.1 != path)).lookup path = none := by
  rw [List.lookup_eq_none_iff]
  intro entry member
  have kept := (List.mem_filter.mp member).2
  rw [bne_iff_ne] at kept ⊢
  exact kept.symm

theorem item?_erase_self (nonempty : path ≠ []) : (disk.erase path).item? path = none := by
  cases path with
  | nil => exact absurd rfl nonempty
  | cons name rest => exact lookup_filter_self disk.items

theorem item?_put_ne (apart : other ≠ path) :
    (disk.put path item).item? other = disk.item? other := by
  cases other with
  | nil => rfl
  | cons name rest =>
    have different : (name :: rest == path) = false := by simpa using apart
    rw [item?_cons, put, List.lookup_cons, different]
    exact lookup_filter_ne disk.items apart

theorem item?_of_findFrom {above : DiskPath} (found : disk.findFrom above path = .ok (some item)) :
    disk.item? (above ++ path) = some item := by
  induction path generalizing above with
  | nil =>
    rw [List.append_nil]
    exact Except.ok.inj found
  | cons name rest ih =>
    rw [findFrom] at found
    split at found
    · cases found
    · cases found
    · split at found
      · have next := ih found
        rwa [List.append_assoc, List.singleton_append] at next
      · cases found

theorem item?_of_read (content : disk.read path = .ok (some bytes)) :
    disk.item? path = some (.file bytes) := by
  rw [read] at content
  split at content
  · cases content
  · cases content
  · rename_i written found
    obtain rfl := Option.some.inj (Except.ok.inj content)
    exact item?_of_findFrom found
  · cases content

theorem file_of_makeDirectoriesFrom (above path : DiskPath)
    (there : (disk.makeDirectoriesFrom above path).2.item? other = some (.file bytes)) :
    disk.item? other = some (.file bytes) := by
  induction path generalizing disk above with
  | nil => exact there
  | cons name rest ih =>
    rw [makeDirectoriesFrom] at there
    split at there
    · split at there
      · exact ih _ there
      · exact there
      · have before := ih _ there
        by_cases same : other = above ++ [name]
        · subst same
          rw [item?_put_self (by simp)] at before
          cases before
        · rwa [item?_put_ne same] at before
    · exact there

theorem file_of_erase (there : (disk.erase path).item? other = some (.file bytes)) :
    other ≠ path → disk.item? other = some (.file bytes) := by
  intro apart
  rwa [item?_erase_ne apart] at there

theorem file_of_removeFile (there : (disk.removeFile path).item? other = some (.file bytes))
    (apart : other ≠ path) : disk.item? other = some (.file bytes) := by
  rw [removeFile] at there
  split at there
  · exact file_of_erase there apart
  · exact there

def Free (disk : Disk) (path : DiskPath) : Prop :=
  ∃ found, disk.find path = .ok found ∧ found ≠ some .directory

theorem write_ok {written : Disk} (done : disk.write path bytes = .ok written) :
    disk.Free path ∧ written = disk.put path (.file bytes) := by
  rw [write] at done
  split at done
  · cases done
  · cases done
  · rename_i found
    exact ⟨⟨_, found, by simp⟩, (Except.ok.inj done).symm⟩
  · rename_i found _
    exact ⟨⟨_, found, by simp⟩, (Except.ok.inj done).symm⟩
  · cases done

theorem rename_ok {source target : DiskPath} {renamed : Disk}
    (done : disk.rename source target = .ok renamed) :
    ∃ bytes, disk.read source = .ok (some bytes) ∧ disk.Free target ∧
      renamed = (disk.erase source).put target (.file bytes) := by
  rw [rename] at done
  split at done
  · rename_i content found
    exact ⟨_, content, ⟨_, found, by simp⟩, (Except.ok.inj done).symm⟩
  · rename_i content found
    exact ⟨_, content, ⟨_, found, by simp⟩, (Except.ok.inj done).symm⟩
  · cases done
  · cases done
  · cases done

/-- No file but the replaced one and the temporary one gets a new content, whatever happens. -/
theorem file_of_replace {temporary : DiskPath} {content : ByteArray} (nonempty : temporary ≠ [])
    (there : (disk.replace path temporary bytes).2.item? other = some (.file content))
    (apart : other ≠ temporary) :
    disk.item? other = some (.file content) ∨ other = path ∧ content = bytes := by
  rw [replace] at there
  rcases made : disk.makeDirectories path.dropLast with ⟨fault, prepared⟩
  have kept {bytes : ByteArray} (file : prepared.item? other = some (.file bytes)) :
      disk.item? other = some (.file bytes) := by
    apply file_of_makeDirectoriesFrom [] path.dropLast
    rw [show disk.makeDirectoriesFrom [] path.dropLast = (fault, prepared) from made]
    exact file
  rw [made] at there
  cases fault with
  | some fault => exact .inl (kept there)
  | none =>
    cases stored : prepared.write temporary bytes with
    | error fault =>
      simp only [stored] at there
      exact .inl (kept (file_of_removeFile there apart))
    | ok written =>
      obtain ⟨_, rfl⟩ := write_ok stored
      cases moved : (prepared.put temporary (.file bytes)).rename temporary path with
      | error fault =>
        simp only [stored, moved] at there
        have before := file_of_removeFile there apart
        rw [item?_put_ne apart] at before
        exact .inl (kept before)
      | ok renamed =>
        obtain ⟨moving, source, _, rfl⟩ := rename_ok moved
        have same := item?_of_read source
        rw [item?_put_self nonempty] at same
        obtain rfl := DiskItem.file.inj (Option.some.inj same)
        simp only [stored, moved] at there
        -- What has been renamed is what was written just before.
        by_cases target : other = path
        · subst target
          have named : other ≠ [] := by
            rintro rfl
            cases there
          rw [item?_put_self named] at there
          exact .inr ⟨rfl, (DiskItem.file.inj (Option.some.inj there)).symm⟩
        · rw [item?_put_ne target, item?_erase_ne apart, item?_put_ne apart] at there
          exact .inl (kept there)

def Leads (disk : Disk) (path : DiskPath) : Prop :=
  ∀ front name back, path = front ++ name :: back →
    disk.item? front = some .directory ∧ nameable name = true

theorem Leads.nil : disk.Leads [] := by
  intro front name back split
  simp at split

theorem Leads.concat (leads : disk.Leads path) (home : disk.item? path = some .directory)
    {name : String} (named : nameable name = true) : disk.Leads (path ++ [name]) := by
  intro front inner back split
  rcases List.eq_nil_or_concat back with rfl | ⟨back, last, rfl⟩
  · obtain ⟨rfl, same⟩ := List.append_inj' split rfl
    obtain rfl := List.singleton_inj.mp same
    exact ⟨home, named⟩
  · rw [List.concat_eq_append, ← List.cons_append, ← List.append_assoc] at split
    exact leads front inner back (List.append_inj' split rfl).1

theorem Leads.congr (leads : disk.Leads path) {next : Disk}
    (same : ∀ front : DiskPath, front.length < path.length → next.item? front = disk.item? front) :
    next.Leads path := by
  intro front name back split
  obtain ⟨above, named⟩ := leads front name back split
  have shorter : front.length < path.length := by
    rw [split, List.length_append, List.length_cons]
    omega
  exact ⟨(same front shorter).trans above, named⟩

theorem findFrom_append (above rest : DiskPath) (leads : disk.Leads (above ++ path)) :
    disk.findFrom above (path ++ rest) = disk.findFrom (above ++ path) rest := by
  induction path generalizing above with
  | nil => rw [List.nil_append, List.append_nil]
  | cons name path ih =>
    obtain ⟨home, named⟩ := leads above name path rfl
    rw [List.cons_append, findFrom, home]
    simp only [named, if_true]
    rw [ih _ (by rw [List.append_assoc]; exact leads), List.append_assoc]
    rfl

theorem find_of_leads (leads : disk.Leads path) : disk.find path = .ok (disk.item? path) := by
  have followed := findFrom_append [] [] leads
  rw [List.append_nil, List.nil_append] at followed
  rw [find, followed, findFrom]

theorem leads_of_findFrom {above : DiskPath} (leads : disk.Leads above)
    (found : disk.findFrom above path = .ok (some item)) : disk.Leads (above ++ path) := by
  induction path generalizing above with
  | nil =>
    rw [List.append_nil]
    exact leads
  | cons name rest ih =>
    rw [show above ++ name :: rest = above ++ [name] ++ rest by simp]
    rw [findFrom] at found
    split at found
    · cases found
    · cases found
    · rename_i home
      split at found
      · rename_i named
        exact ih (leads.concat home named) found
      · cases found

theorem leads_of_read (content : disk.read path = .ok (some bytes)) : disk.Leads path := by
  rw [read] at content
  split at content
  · cases content
  · cases content
  · rename_i found
    exact leads_of_findFrom Leads.nil found
  · cases content

theorem Free.entry {name : String} (free : disk.Free (path ++ [name])) (leads : disk.Leads path)
    (home : disk.item? path = some .directory) :
    nameable name = true ∧ disk.item? (path ++ [name]) ≠ some .directory := by
  obtain ⟨found, done, noDirectory⟩ := free
  rw [find, findFrom_append [] _ leads, List.nil_append, findFrom, home] at done
  by_cases named : nameable name = true
  · simp only [named, if_true] at done
    rw [findFrom] at done
    exact ⟨named, Except.ok.inj done ▸ noDirectory⟩
  · simp only [named] at done
    cases done

theorem makeDirectoriesFrom_ok (above : DiskPath) {made : Disk} (leads : disk.Leads above)
    (home : disk.item? above = some .directory)
    (done : disk.makeDirectoriesFrom above path = (none, made)) :
    made.Leads (above ++ path) ∧ made.item? (above ++ path) = some .directory := by
  induction path generalizing disk above with
  | nil =>
    obtain rfl := (Prod.mk.inj done).2
    rw [List.append_nil]
    exact ⟨leads, home⟩
  | cons name rest ih =>
    rw [show above ++ name :: rest = above ++ [name] ++ rest by simp]
    rw [makeDirectoriesFrom] at done
    split at done
    · rename_i named
      split at done
      · rename_i there
        exact ih _ (leads.concat home named) there done
      · cases (Prod.mk.inj done).1
      · have unchanged : ∀ front : DiskPath, front.length < (above ++ [name]).length →
            (disk.put (above ++ [name]) .directory).item? front = disk.item? front := by
          intro front shorter
          refine item?_put_ne ?_
          rintro rfl
          exact Nat.lt_irrefl _ shorter
        exact ih _ ((leads.concat home named).congr unchanged) (item?_put_self (by simp)) done
    · cases (Prod.mk.inj done).1

theorem makeDirectoriesFrom_of_leads (above : DiskPath) (leads : disk.Leads (above ++ path))
    (home : disk.item? (above ++ path) = some .directory) :
    disk.makeDirectoriesFrom above path = (none, disk) := by
  induction path generalizing above with
  | nil => rfl
  | cons name rest ih =>
    have split : above ++ name :: rest = above ++ [name] ++ rest := by simp
    obtain ⟨_, named⟩ := leads above name rest rfl
    have there : disk.item? (above ++ [name]) = some .directory := by
      cases rest with
      | nil => exact home
      | cons next rest => exact (leads (above ++ [name]) next rest split).1
    rw [makeDirectoriesFrom, if_pos named]
    simp only [there]
    exact ih _ (split ▸ leads) (split ▸ home)

/-- In the directory there may be files of both names, and no directories. -/
structure Writable (disk : Disk) (directory : DiskPath) (name temporary : String) : Prop where
  leads : disk.Leads directory
  home : disk.item? directory = some .directory
  named : nameable name = true
  temporaryNamed : nameable temporary = true
  noDirectory : disk.item? (directory ++ [name]) ≠ some .directory
  noTemporary : disk.item? (directory ++ [temporary]) ≠ some .directory

def replaced (disk : Disk) (path temporary : DiskPath) (bytes : ByteArray) : Disk :=
  ((disk.put temporary (.file bytes)).erase temporary).put path (.file bytes)

variable {directory : DiskPath} {name temporary : String}

theorem write_of_leads (bytes : ByteArray) (leads : disk.Leads (path ++ [name]))
    (noDirectory : disk.item? (path ++ [name]) ≠ some .directory) :
    disk.write (path ++ [name]) bytes = .ok (disk.put (path ++ [name]) (.file bytes)) := by
  have home := (leads path name [] rfl).1
  rw [write, find_of_leads leads, List.dropLast_concat, home]
  cases there : disk.item? (path ++ [name]) with
  | none => rfl
  | some item =>
    cases item with
    | file content => rfl
    | directory => exact absurd there noDirectory

theorem rename_of_leads {source : DiskPath} (content : disk.read source = .ok (some bytes))
    (leads : disk.Leads path) (noDirectory : disk.item? path ≠ some .directory) :
    disk.rename source path = .ok ((disk.erase source).put path (.file bytes)) := by
  rw [rename, content, find_of_leads leads]
  cases there : disk.item? path with
  | none => rfl
  | some item =>
    cases item with
    | file content => rfl
    | directory => exact absurd there noDirectory

theorem read_of_leads (leads : disk.Leads path) (there : disk.item? path = some (.file bytes)) :
    disk.read path = .ok (some bytes) := by
  rw [read, find_of_leads leads, there]

theorem length_lt_concat {front : DiskPath} {last : String}
    (shorter : front.length < (directory ++ [last]).length) (inner : String) :
    front ≠ directory ++ [inner] := by
  rintro rfl
  simp at shorter

theorem replace_of_writable (writable : disk.Writable directory name temporary) (bytes : ByteArray)
    (apart : name ≠ temporary) :
    disk.replace (directory ++ [name]) (directory ++ [temporary]) bytes =
      (none, disk.replaced (directory ++ [name]) (directory ++ [temporary]) bytes) := by
  have made : disk.makeDirectories directory = (none, disk) :=
    makeDirectoriesFrom_of_leads [] writable.leads writable.home
  have leadsTemporary := writable.leads.concat writable.home writable.temporaryNamed
  have written := write_of_leads bytes leadsTemporary writable.noTemporary
  have below (front : DiskPath) (shorter : front.length < (directory ++ [name]).length) :
      (disk.put (directory ++ [temporary]) (.file bytes)).item? front = disk.item? front :=
    item?_put_ne (length_lt_concat shorter temporary)
  have content : (disk.put (directory ++ [temporary]) (.file bytes)).read
      (directory ++ [temporary]) = .ok (some bytes) := by
    refine read_of_leads (leadsTemporary.congr fun front shorter => ?_) (item?_put_self (by simp))
    exact item?_put_ne (length_lt_concat shorter temporary)
  have different : directory ++ [name] ≠ directory ++ [temporary] := by
    intro same
    exact apart (List.singleton_inj.mp (List.append_cancel_left same))
  have renamed := rename_of_leads content
    ((writable.leads.concat writable.home writable.named).congr below)
    (by rw [item?_put_ne different]; exact writable.noDirectory)
  rw [replace, List.dropLast_concat, made]
  simp only [written, renamed]
  rfl

theorem Writable.replaced (writable : disk.Writable directory name temporary) (bytes : ByteArray)
    (apart : name ≠ temporary) :
    (disk.replaced (directory ++ [name]) (directory ++ [temporary]) bytes).read
        (directory ++ [name]) = .ok (some bytes) ∧
      (disk.replaced (directory ++ [name]) (directory ++ [temporary]) bytes).Writable directory name
        temporary := by
  have different : directory ++ [temporary] ≠ directory ++ [name] := by
    intro same
    exact apart (List.singleton_inj.mp (List.append_cancel_left same)).symm
  have below (front : DiskPath) (shorter : front.length < (directory ++ [name]).length) :
      (disk.replaced (directory ++ [name]) (directory ++ [temporary]) bytes).item? front =
        disk.item? front := by
    rw [Disk.replaced, item?_put_ne (length_lt_concat shorter name),
      item?_erase_ne (length_lt_concat shorter temporary),
      item?_put_ne (length_lt_concat shorter temporary)]
  have there : (disk.replaced (directory ++ [name]) (directory ++ [temporary]) bytes).item?
      (directory ++ [name]) = some (.file bytes) := item?_put_self (by simp)
  have gone : (disk.replaced (directory ++ [name]) (directory ++ [temporary]) bytes).item?
      (directory ++ [temporary]) = none := by
    rw [Disk.replaced, item?_put_ne different]
    exact item?_erase_self (by simp)
  have leads := (writable.leads.concat writable.home writable.named).congr below
  refine ⟨read_of_leads leads there, ?_, ?_, writable.named, writable.temporaryNamed, ?_, ?_⟩
  · exact writable.leads.congr fun front shorter => below front (by simp; omega)
  · rw [below directory (by simp), writable.home]
  · simp [there]
  · simp [gone]

theorem writable_of_replace
    (done : (disk.replace (directory ++ [name]) (directory ++ [temporary]) bytes).1 = none)
    (apart : name ≠ temporary) :
    ∃ prepared : Disk, disk.makeDirectories directory = (none, prepared) ∧
      prepared.Writable directory name temporary ∧
      (disk.replace (directory ++ [name]) (directory ++ [temporary]) bytes).2 =
        prepared.replaced (directory ++ [name]) (directory ++ [temporary]) bytes := by
  rw [replace, List.dropLast_concat] at done ⊢
  rcases made : disk.makeDirectories directory with ⟨fault, prepared⟩
  rw [made] at done
  cases fault with
  | some fault => cases done
  | none =>
    obtain ⟨leads, home⟩ := makeDirectoriesFrom_ok [] Leads.nil rfl made
    rw [List.nil_append] at leads home
    cases stored : prepared.write (directory ++ [temporary]) bytes with
    | error fault =>
      simp only [stored] at done
      cases done
    | ok written =>
      obtain ⟨freeTemporary, rfl⟩ := write_ok stored
      cases moved : (prepared.put (directory ++ [temporary]) (.file bytes)).rename
          (directory ++ [temporary]) (directory ++ [name]) with
      | error fault =>
        simp only [stored, moved] at done
        cases done
      | ok renamed =>
        obtain ⟨moving, source, free, rfl⟩ := rename_ok moved
        have same := item?_of_read source
        rw [item?_put_self (by simp)] at same
        obtain rfl := DiskItem.file.inj (Option.some.inj same)
        -- The temporary file lies too deep to be on the way to the file.
        have shallow (front : DiskPath) (shorter : front.length < (directory ++ [name]).length) :
            (prepared.put (directory ++ [temporary]) (.file bytes)).item? front =
              prepared.item? front :=
          item?_put_ne (length_lt_concat shorter temporary)
        have different : directory ++ [name] ≠ directory ++ [temporary] := by
          intro same
          exact apart (List.singleton_inj.mp (List.append_cancel_left same))
        obtain ⟨named, noDirectory⟩ := free.entry
          (leads.congr fun front shorter => shallow front (by simp; omega))
          ((shallow directory (by simp)).trans home)
        rw [item?_put_ne different] at noDirectory
        obtain ⟨temporaryNamed, noTemporary⟩ := freeTemporary.entry leads home
        refine ⟨prepared, rfl,
          ⟨leads, home, named, temporaryNamed, noDirectory, noTemporary⟩, ?_⟩
        simp only [stored, moved]
        rfl

theorem replace_ok_iff (leads : disk.Leads directory)
    (home : disk.item? directory = some .directory) (bytes : ByteArray) (apart : name ≠ temporary) :
    (disk.replace (directory ++ [name]) (directory ++ [temporary]) bytes).1 = none ↔
      disk.Writable directory name temporary := by
  constructor
  · intro done
    obtain ⟨prepared, made, writable, _⟩ := writable_of_replace done apart
    have there : disk.makeDirectories directory = (none, disk) :=
      makeDirectoriesFrom_of_leads [] leads home
    rw [there] at made
    obtain rfl := (Prod.mk.inj made).2
    exact writable
  · intro writable
    rw [replace_of_writable writable bytes apart]

theorem removeFile_of_read (content : disk.read path = .ok (some bytes)) :
    disk.removeFile path = disk.erase path := by
  rw [removeFile, find_of_leads (leads_of_read content), item?_of_read content]

theorem read_removeFile {last : String}
    (content : disk.read (directory ++ [last]) = .ok (some bytes)) :
    (disk.removeFile (directory ++ [last])).read (directory ++ [last]) = .ok none := by
  rw [removeFile_of_read content]
  have leads : (disk.erase (directory ++ [last])).Leads (directory ++ [last]) := by
    refine (leads_of_read content).congr fun front shorter => ?_
    exact item?_erase_ne (length_lt_concat shorter last)
  rw [read, find_of_leads leads, item?_erase_self (by simp)]

theorem replace_removeFile {content next : ByteArray}
    (held : disk.read (directory ++ [name]) = .ok (some content)) (apart : name ≠ temporary) :
    ((disk.removeFile (directory ++ [name])).replace (directory ++ [name])
        (directory ++ [temporary]) next).1 = none ↔
      (disk.replace (directory ++ [name]) (directory ++ [temporary]) next).1 = none := by
  rw [removeFile_of_read held]
  -- Nothing that a replacement looks at on its way is the file itself.
  have unchanged {other : DiskPath} (different : other ≠ directory ++ [name]) :
      (disk.erase (directory ++ [name])).item? other = disk.item? other :=
    item?_erase_ne different
  have shallow (front : DiskPath) (shorter : front.length < (directory ++ [name]).length) :
      (disk.erase (directory ++ [name])).item? front = disk.item? front :=
    unchanged (length_lt_concat shorter name)
  have aside : (disk.erase (directory ++ [name])).item? (directory ++ [temporary]) =
      disk.item? (directory ++ [temporary]) := by
    apply unchanged
    intro same
    exact apart (List.singleton_inj.mp (List.append_cancel_left same)).symm
  have whole := leads_of_read held
  have home := (whole directory name [] rfl).1
  have alsoHome := (shallow directory (by simp)).trans home
  have leads : disk.Leads directory := by
    intro front inner back split
    exact whole front inner (back ++ [name]) (by rw [split]; simp)
  have alsoLeads : (disk.erase (directory ++ [name])).Leads directory :=
    leads.congr fun front shorter => shallow front (by simp; omega)
  have file := item?_of_read held
  rw [replace_ok_iff leads home next apart, replace_ok_iff alsoLeads alsoHome next apart]
  constructor
  · intro writable
    refine ⟨leads, home, writable.named, writable.temporaryNamed, by simp [file], ?_⟩
    rw [← aside]
    exact writable.noTemporary
  · intro writable
    refine ⟨alsoLeads, alsoHome, writable.named, writable.temporaryNamed, ?_, ?_⟩
    · rw [item?_erase_self (by simp)]
      simp
    · rw [aside]
      exact writable.noTemporary

end RepairMining.Disk
