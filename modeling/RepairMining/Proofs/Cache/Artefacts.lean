import RepairMining.Proofs.Cache.Location

namespace RepairMining

namespace DiskPath

def PlainLetter (c : Char) : Prop := c ≠ '/' ∧ c ≠ '\\' ∧ c ≠ ':' ∧ isControl c = false

instance (c : Char) : Decidable (PlainLetter c) := inferInstanceAs (Decidable (_ ∧ _))

theorem plainLetters_of_all {letters : List Char}
    (all : letters.all (fun c => decide (PlainLetter c)) = true) : ∀ c ∈ letters, PlainLetter c :=
  fun c member => of_decide_eq_true (List.all_eq_true.mp all c member)

/-- A name that leads one step down, whatever path it is added to. -/
structure Plain (name : String) : Prop where
  nonempty : name ≠ ""
  notHere : name ≠ "."
  notAbove : name ≠ ".."
  letters : ∀ c ∈ name.toList, PlainLetter c

theorem Plain.flat {name : String} (plain : Plain name) : '/' ∉ name.toList :=
  fun slash => (plain.letters '/' slash).1 rfl

theorem Plain.walk {name : String} (plain : Plain name) (above : DiskPath) :
    walk above name = above ++ [name] := by
  rw [DiskPath.walk, if_neg (by simp [plain.nonempty, plain.notHere]), if_neg plain.notAbove]

theorem walk_nothing (above : DiskPath) : walk above "" = above := by
  rw [DiskPath.walk, if_pos (.inl rfl)]

theorem endsWith_slash {text : String} :
    text.endsWith "/" = true ↔ ∃ front, text.toList = front ++ ['/'] := by
  rw [String.endsWith_eq_endsWith_toSlice, String.Slice.endsWith_string_iff, String.copy_toSlice]
  exact exists_congr fun front => eq_comm

theorem ofText_last {text name : String} {front : List Char} (flat : '/' ∉ name.toList)
    (written : text.toList = front ++ '/' :: name.toList) :
    ofText text =
      walk (((front.splitOn '/').map String.ofList).foldl walk
        (if text.startsWith "/" then ["/"] else [])) name := by
  rw [ofText, written, List.splitOn_append_cons_self, List.splitOn_eq_singleton flat,
    List.map_append, List.foldl_append, List.map_singleton, String.ofList_toList]
  rfl

theorem ofText_join {name : String} (flat : '/' ∉ name.toList) (path : String) :
    ofText (CacheLayout.join path name) = walk (ofText path) name := by
  by_cases empty : path = ""
  · subst empty
    have relative : name.startsWith "/" = false := by
      have alone := @startsWith_slash "" name flat
      rw [String.empty_append] at alone
      exact alone.trans (by decide +kernel)
    rw [CacheLayout.join, if_pos (.inl rfl), String.empty_append, ofText, relative,
      List.splitOn_eq_singleton flat, List.map_singleton, String.ofList_toList]
    rfl
  · by_cases closed : path.endsWith "/" = true
    · obtain ⟨front, ended⟩ := endsWith_slash.mp closed
      have written : (path ++ name).toList = front ++ '/' :: name.toList := by
        rw [String.toList_append, ended, List.append_assoc, List.singleton_append]
      have alone : path.toList = front ++ '/' :: "".toList := ended
      rw [CacheLayout.join, if_pos (.inr closed), ofText_last flat written,
        startsWith_slash flat, ofText_last (by decide) alone, walk_nothing]
    · have written : (path ++ "/" ++ name).toList = path.toList ++ '/' :: name.toList := by
        rw [String.toList_append, String.toList_append, List.append_assoc]
        rfl
      have begun : (path ++ "/").startsWith "/" = path.startsWith "/" := by
        rw [Bool.eq_iff_iff, String.startsWith_string_iff, String.startsWith_string_iff,
          String.toList_append]
        cases letters : path.toList with
        | nil => exact absurd (String.toList_eq_nil_iff.mp letters) empty
        | cons c rest => simp
      rw [CacheLayout.join, if_neg (by simp [empty, closed]), ofText_last flat written,
        startsWith_slash flat, begun]
      rfl

theorem Plain.ofText_join {name : String} (plain : Plain name) (path : String) :
    ofText (CacheLayout.join path name) = ofText path ++ [name] := by
  rw [DiskPath.ofText_join plain.flat, plain.walk]

theorem Plain.not_closed {name : String} (plain : Plain name) (front : String) :
    ¬ (front ++ name).endsWith "/" = true := by
  rw [endsWith_slash]
  rintro ⟨above, ended⟩
  rcases List.eq_nil_or_concat name.toList with none | ⟨rest, last, split⟩
  · exact plain.nonempty (String.toList_eq_nil_iff.mp none)
  · rw [String.toList_append, split, List.concat_eq_append, ← List.append_assoc] at ended
    obtain rfl := List.singleton_inj.mp (List.append_inj' ended rfl).2
    exact plain.flat (by simp [split])

theorem Plain.join_append {name : String} (plain : Plain name) (front next : String) :
    CacheLayout.join (front ++ name) next = front ++ name ++ "/" ++ next := by
  rw [CacheLayout.join, if_neg]
  rintro (empty | closed)
  · exact plain.nonempty (String.append_eq_empty_iff.mp empty).2
  · exact plain.not_closed front closed

theorem Plain.join_join {name : String} (plain : Plain name) (path next : String) :
    CacheLayout.join (CacheLayout.join path name) next =
      CacheLayout.join path (name ++ "/" ++ next) := by
  have written : ∃ front, ∀ last, CacheLayout.join path last = front ++ last := by
    unfold CacheLayout.join
    split
    · exact ⟨path, fun last => rfl⟩
    · exact ⟨path ++ "/", fun last => rfl⟩
  obtain ⟨front, written⟩ := written
  rw [written, written, plain.join_append, String.append_assoc, String.append_assoc,
    String.append_assoc]

def withExtension (path extension : String) : String :=
  let letters := path.toList.reverse
  let name := letters.takeWhile (· ≠ '/')
  let above := letters.dropWhile (· ≠ '/')
  let stem := match name.dropWhile (· ≠ '.') with
    | '.' :: last :: stem => last :: stem
    | _ => name
  String.ofList (stem ++ above).reverse ++ "." ++ extension

theorem withExtension_append {text old : String} {front : List Char} {last : Char}
    (written : text.toList = front ++ [last]) (inside : last ≠ '/') (flat : '/' ∉ old.toList)
    (dotless : '.' ∉ old.toList) (new : String) :
    withExtension (text ++ "." ++ old) new = text ++ "." ++ new := by
  have letters : (text ++ "." ++ old).toList.reverse =
      old.toList.reverse ++ '.' :: last :: front.reverse := by
    simp [String.toList_append, written]
  have inName : ∀ c ∈ old.toList.reverse, decide (c ≠ '/') = true := by
    intro c member
    rw [decide_eq_true_eq]
    rintro rfl
    exact flat (List.mem_reverse.mp member)
  have inOld : ∀ c ∈ old.toList.reverse, decide (c ≠ '.') = true := by
    intro c member
    rw [decide_eq_true_eq]
    rintro rfl
    exact dotless (List.mem_reverse.mp member)
  have named : (old.toList.reverse ++ '.' :: last :: front.reverse).takeWhile (· ≠ '/') =
      old.toList.reverse ++ '.' :: last :: front.reverse.takeWhile (· ≠ '/') := by
    rw [List.takeWhile_append_of_pos inName]
    simp [inside]
  have above : (old.toList.reverse ++ '.' :: last :: front.reverse).dropWhile (· ≠ '/') =
      front.reverse.dropWhile (· ≠ '/') := by
    rw [List.dropWhile_append_of_pos inName]
    simp [inside]
  have stem : (old.toList.reverse ++ '.' :: last :: front.reverse.takeWhile (· ≠ '/')).dropWhile
      (· ≠ '.') = '.' :: last :: front.reverse.takeWhile (· ≠ '/') := by
    rw [List.dropWhile_append_of_pos inOld]
    simp
  simp only [withExtension, letters, named, above, stem]
  rw [List.cons_append, List.takeWhile_append_dropWhile, List.reverse_cons, List.reverse_reverse,
    ← written, String.ofList_toList]

end DiskPath

namespace CacheLayout

open DiskPath

theorem plainLetter_plainChar (c : Char) : PlainLetter (plainChar c) := by
  rw [plainChar]
  split
  · decide
  · rename_i plain
    simp only [not_or, Bool.not_eq_true] at plain
    exact plain

theorem plainLetter_of_mem {letters : List Char} {c : Char}
    (member : c ∈ (String.ofList (letters.map plainChar)).toList) : PlainLetter c := by
  rw [String.toList_ofList] at member
  obtain ⟨raw, _, rfl⟩ := List.mem_map.mp member
  exact plainLetter_plainChar raw

theorem map_plainChar {letters : List Char} (plain : ∀ c ∈ letters, PlainLetter c) :
    letters.map plainChar = letters := by
  have kept : ∀ c ∈ letters, plainChar c = id c := by
    intro c member
    obtain ⟨slash, backslash, colon, control⟩ := plain c member
    rw [plainChar, if_neg (by simp [slash, backslash, colon, control]), id]
  rw [List.map_congr_left kept, List.map_id]

theorem component_of_plain {name : String} (plain : Plain name) : component name = name := by
  have same : String.ofList (name.toList.map plainChar) = name := by
    rw [map_plainChar plain.letters, String.ofList_toList]
  rw [component]
  simp only [same, plain.nonempty, plain.notHere, plain.notAbove, or_self, if_false]

theorem component_plain (name : String) : Plain (component name) := by
  rw [component]
  split
  · rename_i special
    rcases special with same | same | same <;> rw [same] <;>
      exact ⟨by decide, by decide, by decide, plainLetters_of_all (by decide)⟩
  · rename_i ordinary
    simp only [not_or] at ordinary
    exact ⟨ordinary.1, ordinary.2.1, ordinary.2.2, fun c => plainLetter_of_mem⟩

end CacheLayout

structure DiskPath.Ending (ending : String) : Prop where
  long : 3 ≤ ending.length
  letters : ∀ c ∈ ending.toList, DiskPath.PlainLetter c

theorem DiskPath.ending_json : Ending ".json" := ⟨by decide, plainLetters_of_all (by decide)⟩

theorem DiskPath.ending_tmp : Ending ".tmp" := ⟨by decide, plainLetters_of_all (by decide)⟩

theorem CacheLayout.plain_artefacts : DiskPath.Plain "artefacts" :=
  ⟨by decide, by decide, by decide, DiskPath.plainLetters_of_all (by decide)⟩

/-- The names of two differences are the same once they have been made plain. -/
structure DiffId.LooksLike (id other : DiffId) : Prop where
  repository : CacheLayout.component id.repository = CacheLayout.component other.repository
  fix : CacheLayout.component id.fix = CacheLayout.component other.fix
  stem : id.stem = other.stem

structure DiffId.Ordinary (id : DiffId) : Prop where
  repository : DiskPath.Plain id.repository
  fix : DiskPath.Plain id.fix
  file : ∀ c ∈ id.file.toList, DiskPath.PlainLetter c

theorem DiffId.Ordinary.stem_eq {id : DiffId} (ordinary : id.Ordinary) : id.stem = id.file := by
  have kept : (id.file.toList.dropWhile fun c => c == '/' || c == '\\') = id.file.toList := by
    cases letters : id.file.toList with
    | nil => rfl
    | cons c rest =>
      obtain ⟨slash, backslash, _⟩ := ordinary.file c (by simp [letters])
      rw [List.dropWhile_cons_of_neg (by simp [slash, backslash])]
  rw [DiffId.stem, kept, CacheLayout.map_plainChar ordinary.file, String.ofList_toList]

theorem DiffId.LooksLike.eq {id other : DiffId} (alike : id.LooksLike other)
    (ordinary : id.Ordinary) (otherOrdinary : other.Ordinary) : id = other := by
  obtain ⟨repository, fix, stem⟩ := alike
  rw [CacheLayout.component_of_plain ordinary.repository,
    CacheLayout.component_of_plain otherOrdinary.repository] at repository
  rw [CacheLayout.component_of_plain ordinary.fix,
    CacheLayout.component_of_plain otherOrdinary.fix] at fix
  rw [ordinary.stem_eq, otherOrdinary.stem_eq] at stem
  cases id
  cases other
  rw [mk.injEq]
  exact ⟨repository, fix, stem⟩

inductive Artefact where
  | actions
  | pools (variant : PoolVariant)
  deriving DecidableEq, Repr

namespace Artefact

open DiskPath CacheLayout

def purpose : Artefact → String
  | actions => actionsPurpose
  | pools variant => poolPurpose variant

def file (artefact : Artefact) (layout : CacheLayout) (id : DiffId) : CacheFile :=
  ⟨layout.trunk id artefact.purpose⟩

def fileName (artefact : Artefact) (id : DiffId) (ending : String) : String :=
  id.stem ++ ("." ++ artefact.purpose ++ ending)

/-- The four steps from the root to the file. -/
def steps (artefact : Artefact) (id : DiffId) (ending : String) : DiskPath :=
  ["artefacts", component id.repository, component id.fix, artefact.fileName id ending]

variable {artefact : Artefact} {layout : CacheLayout} {id : DiffId}

theorem plainLetter_purpose (artefact : Artefact) :
    ∀ c ∈ ("." ++ artefact.purpose).toList, PlainLetter c := by
  rcases artefact with _ | _ | _ <;> exact plainLetters_of_all (by decide)

theorem fileName_plain (artefact : Artefact) (id : DiffId) {ending : String}
    (ends : Ending ending) : Plain (artefact.fileName id ending) := by
  have longer : 3 ≤ (artefact.fileName id ending).length := by
    have long := ends.long
    rw [fileName, String.length_append, String.length_append]
    omega
  have apart (short : String) (less : short.length < 3) : artefact.fileName id ending ≠ short := by
    rintro same
    rw [same] at longer
    omega
  refine ⟨apart "" (by decide), apart "." (by decide), apart ".." (by decide), ?_⟩
  intro c member
  rw [fileName, String.toList_append, String.toList_append, List.mem_append, List.mem_append]
    at member
  rcases member with member | member | member
  · exact plainLetter_of_mem member
  · exact plainLetter_purpose artefact c member
  · exact ends.letters c member

theorem path_eq (artefact : Artefact) (layout : CacheLayout) (id : DiffId) (ending : String) :
    (artefact.file layout id).trunk ++ ending =
      join (layout.directory id) (artefact.fileName id ending) := by
  rw [file, trunk, fileName, ← join_append, String.append_assoc, String.append_assoc,
    String.append_assoc]

theorem ofText_eq (artefact : Artefact) (layout : CacheLayout) (id : DiffId) {ending : String}
    (ends : Ending ending) :
    ofText ((artefact.file layout id).trunk ++ ending) =
      ofText layout.root ++ artefact.steps id ending := by
  rw [path_eq, (artefact.fileName_plain id ends).ofText_join, directory,
    (component_plain id.fix).ofText_join, (component_plain id.repository).ofText_join,
    plain_artefacts.ofText_join]
  simp [steps]

theorem text_eq (artefact : Artefact) (layout : CacheLayout) (id : DiffId) (ending : String) :
    (artefact.file layout id).trunk ++ ending =
      join layout.root (toText (artefact.steps id ending)) := by
  have written (first second third last : String) :
      toText [first, second, third, last] =
        first ++ "/" ++ (second ++ "/" ++ (third ++ "/" ++ last)) := by
    rw [toText, String.intercalate_cons_cons, String.intercalate_cons_cons,
      String.intercalate_cons_cons, String.intercalate_singleton]
  rw [path_eq, directory, (component_plain id.fix).join_join,
    (component_plain id.repository).join_join, plain_artefacts.join_join, steps, written]

theorem temporary_eq (artefact : Artefact) (layout : CacheLayout) (id : DiffId) :
    (artefact.file layout id).temporary =
      withExtension (artefact.file layout id).path "tmp" := by
  have purpose : ∃ front last, artefact.purpose.toList = front ++ [last] ∧ last ≠ '/' := by
    rcases artefact with _ | _ | _
    · exact ⟨"action".toList, 's', by decide, by decide⟩
    · exact ⟨"abstract.poo".toList, 'l', by decide, by decide⟩
    · exact ⟨"concrete.poo".toList, 'l', by decide, by decide⟩
  obtain ⟨front, last, ended, inside⟩ := purpose
  have trunk : (artefact.file layout id).trunk.toList =
      (join (layout.directory id) (id.stem ++ ".")).toList ++ front ++ [last] := by
    rw [file, CacheLayout.trunk, join_append, String.toList_append, ended, List.append_assoc]
  have exchanged :=
    @withExtension_append _ "json" _ _ trunk inside (by decide) (by decide) "tmp"
  rw [String.append_assoc, String.append_assoc] at exchanged
  exact exchanged.symm

theorem eq_of_suffix {first second : Artefact}
    (suffix : ("." ++ first.purpose).toList <:+ ("." ++ second.purpose).toList) :
    first = second := by
  rcases first with _ | _ | _ <;> rcases second with _ | _ | _ <;>
    first | rfl | exact absurd suffix (by decide)

theorem stem_eq_of_fileName {first second : Artefact} {id other : DiffId} {ending : String}
    (same : first.fileName id ending = second.fileName other ending) :
    first = second ∧ id.stem = other.stem := by
  have split (artefact : Artefact) (id : DiffId) : artefact.fileName id ending =
      id.stem ++ ("." ++ artefact.purpose) ++ ending := String.append_assoc.symm
  rw [split, split, String.append_left_inj] at same
  have ends : ("." ++ first.purpose).toList <:+ (id.stem ++ ("." ++ first.purpose)).toList :=
    ⟨id.stem.toList, String.toList_append.symm⟩
  have endsToo : ("." ++ second.purpose).toList <:+ (id.stem ++ ("." ++ first.purpose)).toList :=
    by
    rw [same]
    exact ⟨other.stem.toList, String.toList_append.symm⟩
  have shared : first = second := by
    rcases List.suffix_or_suffix_of_suffix ends endsToo with shorter | shorter
    · exact eq_of_suffix shorter
    · exact (eq_of_suffix shorter).symm
  subst shared
  exact ⟨rfl, (String.append_left_inj _).mp same⟩

theorem looksLike_of_steps {first second : Artefact} {id other : DiffId} {ending : String}
    (same : first.steps id ending = second.steps other ending) :
    first = second ∧ id.LooksLike other := by
  simp only [steps, List.cons.injEq, true_and, and_true] at same
  obtain ⟨repository, fix, name⟩ := same
  obtain ⟨shared, stem⟩ := stem_eq_of_fileName name
  exact ⟨shared, repository, fix, stem⟩

theorem steps_eq_of_looksLike {id other : DiffId} (alike : id.LooksLike other)
    (artefact : Artefact) (ending : String) :
    artefact.steps id ending = artefact.steps other ending := by
  rw [steps, steps, fileName, fileName, alike.repository, alike.fix, alike.stem]

/-- Two artefacts of one cache are one file exactly if they are of one kind and the differences look
alike, no matter whether paths are compared as they are written or by where they lead. -/
theorem path_eq_iff_looksLike (layout : CacheLayout) (first second : Artefact)
    (id other : DiffId) :
    ((first.file layout id).path = (second.file layout other).path ↔
        first = second ∧ id.LooksLike other) ∧
      (ofText (first.file layout id).path = ofText (second.file layout other).path ↔
        first = second ∧ id.LooksLike other) := by
  have led : ofText (first.file layout id).path = ofText (second.file layout other).path →
      first = second ∧ id.LooksLike other := by
    intro same
    rw [CacheFile.path, CacheFile.path, first.ofText_eq layout id ending_json,
      second.ofText_eq layout other ending_json] at same
    exact looksLike_of_steps (List.append_cancel_left same)
  have written : first = second ∧ id.LooksLike other →
      (first.file layout id).path = (second.file layout other).path := by
    rintro ⟨rfl, alike⟩
    rw [CacheFile.path, CacheFile.path, text_eq, text_eq, steps_eq_of_looksLike alike]
  exact ⟨⟨fun same => led (congrArg ofText same), written⟩,
    ⟨led, fun alike => congrArg ofText (written alike)⟩⟩

/-- Separators become underscores, so a file in a directory looks like one beside the directory. -/
theorem path_eq_of_flattened :
    DiffId.mk "r" "f" "a/b.c" ≠ DiffId.mk "r" "f" "a_b.c" ∧
      ∀ artefact : Artefact, (artefact.file ⟨"cache"⟩ ⟨"r", "f", "a/b.c"⟩).path =
        (artefact.file ⟨"cache"⟩ ⟨"r", "f", "a_b.c"⟩).path := by
  refine ⟨by decide, fun artefact => ?_⟩
  rcases artefact with _ | _ | _ <;> decide +kernel

/-- Every artefact lies exactly four plain steps below the root. Its temporary file, which is the
same file with another extension, is a neighbour; no artefact lies where a temporary file lies, and
different artefacts have different ones. -/
theorem lies_below_root (artefact : Artefact) (layout : CacheLayout) (id : DiffId) :
    ∃ repository fix name temporary : String,
      (∀ step ∈ ["artefacts", repository, fix, name, temporary], Plain step) ∧
      (artefact.file layout id).path =
        join layout.root (toText ["artefacts", repository, fix, name]) ∧
      ofText (artefact.file layout id).path =
        ofText layout.root ++ ["artefacts", repository, fix, name] ∧
      (artefact.file layout id).temporary = withExtension (artefact.file layout id).path "tmp" ∧
      ofText (artefact.file layout id).temporary =
        ofText layout.root ++ ["artefacts", repository, fix, temporary] ∧
      (∀ (other : Artefact) (elsewhere : CacheLayout) (second : DiffId),
        ofText (artefact.file layout id).temporary ≠
          ofText (other.file elsewhere second).path) ∧
      ∀ (other : Artefact) (second : DiffId),
        (artefact.file layout id).path ≠ (other.file layout second).path →
          ofText (artefact.file layout id).temporary ≠
            ofText (other.file layout second).temporary := by
  refine ⟨component id.repository, component id.fix, artefact.fileName id ".json",
    artefact.fileName id ".tmp", ?_, artefact.text_eq layout id ".json",
    artefact.ofText_eq layout id ending_json, artefact.temporary_eq layout id,
    artefact.ofText_eq layout id ending_tmp, ?_, ?_⟩
  · simp only [List.forall_mem_cons, List.not_mem_nil, false_implies, implies_true, and_true]
    exact ⟨plain_artefacts, component_plain id.repository, component_plain id.fix,
      artefact.fileName_plain id ending_json, artefact.fileName_plain id ending_tmp⟩
  · intro other elsewhere second same
    exact (other.file elsewhere second).path_ne_temporary (artefact.file layout id) same.symm
  · intro other second apart same
    apply apart
    rw [CacheFile.temporary, CacheFile.temporary, artefact.ofText_eq layout id ending_tmp,
      other.ofText_eq layout second ending_tmp] at same
    obtain ⟨rfl, alike⟩ := looksLike_of_steps (List.append_cancel_left same)
    rw [CacheFile.path, CacheFile.path, text_eq, text_eq, steps_eq_of_looksLike alike]

end Artefact

end RepairMining
