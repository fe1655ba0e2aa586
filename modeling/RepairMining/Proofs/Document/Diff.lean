import RepairMining.CommandLine
import RepairMining.Proofs.Cache.Codec
import RepairMining.Proofs.Document.Tree

namespace RepairMining

namespace Correspondence

variable {pairs : List (Nat × Nat)} {before after : Nat}

theorem place_last (largest : ∀ other ∈ pairs, other.1 < before) :
    place (before, after) pairs = pairs ++ [(before, after)] := by
  induction pairs with
  | nil => rfl
  | cons next rest ih =>
    have smaller := largest next List.mem_cons_self
    rw [place, if_neg (Nat.not_lt_of_lt smaller),
      ih fun other member => largest other (List.mem_cons_of_mem next member), List.cons_append]

theorem insert_last {correspondence : Correspondence}
    (largest : ∀ other ∈ correspondence.pairs, other.1 < before)
    (fresh : ∀ other ∈ correspondence.pairs, other.2 ≠ after) :
    ∃ extended, correspondence.insert before after = .ok extended ∧
      extended.pairs = correspondence.pairs ++ [(before, after)] := by
  have unmappedBefore : correspondence.after? before = none := by
    rw [after?, Option.map_eq_none_iff, List.find?_eq_none]
    intro other member same
    exact absurd (largest other member) (Nat.not_lt_of_le (Nat.le_of_eq (beq_iff_eq.mp same).symm))
  have unmappedAfter : correspondence.before? after = none := by
    rw [before?, Option.map_eq_none_iff, List.find?_eq_none]
    intro other member same
    exact fresh other member (beq_iff_eq.mp same)
  unfold insert
  split
  · rename_i mapped
    rw [unmappedBefore] at mapped
    cases mapped
  · split
    · rename_i mapped
      rw [unmappedAfter] at mapped
      cases mapped
    · exact ⟨_, rfl, place_last largest⟩

theorem insertAll_append {start whole : Correspondence} {rest : List (Nat × Nat)}
    (split : whole.pairs = start.pairs ++ rest) : start.insertAll rest = .ok whole := by
  induction rest generalizing start with
  | nil =>
    rw [List.append_nil] at split
    obtain ⟨kept, _, _⟩ := whole
    obtain rfl : kept = start.pairs := split
    rfl
  | cons pair rest ih =>
    obtain ⟨before, after⟩ := pair
    have increasing := whole.increasing
    have injective := whole.injective
    rw [split, List.pairwise_append] at increasing injective
    obtain ⟨extended, inserted, pairs⟩ := insert_last
      (fun other member => increasing.2.2 other member (before, after) List.mem_cons_self)
      (fun other member => injective.2.2 other member (before, after) List.mem_cons_self)
    rw [insertAll, inserted]
    exact ih (by rw [split, pairs, List.append_assoc, List.singleton_append])

theorem ofPairs_pairs (correspondence : Correspondence) :
    ofPairs correspondence.pairs = .ok correspondence :=
  insertAll_append rfl

end Correspondence

namespace Diff

theorem check_toDiffDraft (diff : Diff) :
    check diff.toDiffDraft = .ok (diff.withFixFiles [diff.id.file]) := by
  unfold check
  split
  · rename_i stray
    have outside := List.find?_some stray
    have inside := diff.in_trees _ (List.mem_of_find?_eq_some stray)
    simp [inside] at outside
  · rfl

theorem Small.mentions {diff : Diff} (small : diff.Small) :
    ∀ mention ∈ diff.toDiffDraft.mentions, mention.2.2 < 4294967296 := by
  intro mention mentioned
  have inside : mention.2.2 < (diff.tree mention.2.1).size :=
    Arena.contains_iff.mp (diff.in_trees mention mentioned)
  exact Nat.lt_of_lt_of_le inside (small mention.2.1)

theorem Small.pairs {diff : Diff} (small : diff.Small) :
    ∀ pair ∈ diff.correspondence.pairs, pair.1 < 4294967296 ∧ pair.2 < 4294967296 := by
  intro pair member
  have mentioned (mention : String × Side × Nat)
      (either : mention ∈ [("correspondence", Side.before, pair.1),
        ("correspondence", Side.after, pair.2)]) : mention ∈ diff.toDiffDraft.mentions :=
    List.mem_append_left _ (List.mem_flatMap.mpr ⟨pair, member, either⟩)
  exact ⟨small.mentions _ (mentioned _ List.mem_cons_self),
    small.mentions _ (mentioned _ (List.mem_cons_of_mem _ List.mem_cons_self))⟩

theorem Small.script {diff : Diff} (small : diff.Small) {script : List EditOp}
    (scripted : diff.edits = some script) : ∀ op ∈ script, Numbered op.mentions := by
  intro op member mention mentioned
  refine small.mentions (op.name, mention) (List.mem_append_right _ ?_)
  rw [scripted]
  exact List.mem_flatMap.mpr ⟨op, member, List.mem_map.mpr ⟨mention, mentioned, rfl⟩⟩

end Diff

open Json

namespace Document

theorem diffId_restores (id : DiffId) : Restores diffId idValue 1 id := by
  intro supply room
  obtain ⟨inner, entered, holds⟩ := room.enter
  have filled : idShape.fillMembers inner (Value.toMembers [("repository", .text id.repository),
      ("fix", .text id.fix), ("file", .text id.file)]) ⟨none, none, none⟩ =
      .ok ⟨some id.repository, some id.fix, some id.file⟩ := rfl
  rw [idValue, Value.toReading, diffId, Shape.complete_object entered filled]
  rfl

theorem correspondence_restores {written : Correspondence}
    (small : ∀ pair ∈ written.pairs, pair.1 < 4294967296 ∧ pair.2 < 4294967296) :
    Restores correspondence correspondenceValue 2 written := by
  intro supply room
  have pairs := Decode.list_restores (fun pair member =>
    Decode.pair_restores (Decode.nat32_restores (small pair member).1)
      (Decode.nat32_restores (small pair member).2)) supply room
  rw [correspondence, correspondenceValue, pairs]
  simp only [Correspondence.ofPairs_pairs]

theorem script_restores {script : Option (List EditOp)}
    (numbered : ∀ ops, script = some ops → ∀ op ∈ ops, Numbered op.mentions) :
    Restores (Decode.optional (Decode.list edit))
      (Value.orNull fun ops => .array (ops.map editValue)) 2 script := by
  refine Decode.optional_restores ?_ (by simp [Value.toReading])
  intro ops some
  exact Decode.list_restores fun op member => edit_restores (numbered ops some op member)

theorem fixFiles_restores (files : FixFiles) :
    Restores Document.fixFiles (fun files => .array (files.map .text)) 1 files :=
  Decode.list_restores fun file _ => Decode.string_restores file

theorem correspondenceValue_depth (written : Correspondence) :
    (correspondenceValue written).depth ≤ 2 := by
  rw [correspondenceValue, Value.depth]
  refine Nat.succ_le_succ (Value.itemsDepth_le ?_)
  rw [List.forall_mem_map]
  exact fun pair _ => Nat.le_refl 1

theorem scriptValue_depth (script : Option (List EditOp)) :
    (Value.orNull (fun ops => .array (ops.map editValue)) script).depth ≤ 2 := by
  cases script with
  | none => exact Nat.zero_le 2
  | some ops =>
    rw [Value.orNull, Value.depth]
    refine Nat.succ_le_succ (Value.itemsDepth_le ?_)
    rw [List.forall_mem_map]
    intro op _
    rw [editValue, Value.depth, Value.membersDepth, editMembers_shallow]
    exact Nat.le_refl 1

theorem fixFilesValue_depth (files : FixFiles) : (Value.array (files.map .text)).depth ≤ 1 := by
  rw [Value.depth]
  refine Nat.succ_le_succ (Value.itemsDepth_le ?_)
  rw [List.forall_mem_map]
  exact fun file _ => Nat.le_refl 0

theorem diffValue_depth (diff : Diff) :
    (diffValue diff).depth ≤ 127 ↔
      diff.before.toTree.levels ≤ 63 ∧ diff.after.toTree.levels ≤ 63 := by
  have mappings := correspondenceValue_depth diff.correspondence
  have script := scriptValue_depth diff.edits
  have files := fixFilesValue_depth diff.fixFiles
  have id : (idValue diff.id).depth = 1 := rfl
  have before := treeValue_depth diff.before.toTree
  have after := treeValue_depth diff.after.toTree
  rw [diffValue, Value.depth]
  simp only [arenaValue, Value.membersDepth]
  omega

variable {written : Diff}

theorem diff_gauges (small : written.Small) (before : written.before.toTree.SmallSpans)
    (after : written.after.toTree.SmallSpans) :
    Gauges diff (diffValue written) ⟨written.toDiffDraft, written.fixFiles⟩ 127 := by
  have filled (members : List (String × Value)) (same : diffValue written = .object members) :
      diffShape.fillMembers (.stream 126) (Value.toMembers members)
          ⟨none, none, none, none, none, none⟩ =
        confined (Value.membersDepth members) 126
          (.ok ⟨some written.id, some written.before, some written.after,
            some written.correspondence, some written.edits, some written.fixFiles⟩) := by
    obtain rfl := Value.object.inj same
    have ids := (diffId_restores written.id).gauges (Nat.le_refl 1) (by decide : 1 ≤ 126)
    have befores := arena_gauges before (by decide : 126 ≤ 128)
    have afters := arena_gauges after (by decide : 126 ≤ 128)
    have mappings := (correspondence_restores small.pairs).gauges
      (correspondenceValue_depth written.correspondence) (by decide : 2 ≤ 126)
    have scripts := (script_restores fun ops => small.script).gauges
      (scriptValue_depth written.edits) (by decide : 2 ≤ 126)
    have files := (fixFiles_restores written.fixFiles).gauges
      (fixFilesValue_depth written.fixFiles) (by decide : 1 ≤ 126)
    simp only [Value.toMembers, Value.membersDepth, Nat.max_zero]
    rw [Shape.fillMembers_gauged _ rfl rfl (RecordField.fill_gauged ids),
      Shape.fillMembers_gauged _ rfl rfl (RecordField.fill_gauged befores),
      Shape.fillMembers_gauged _ rfl rfl (RecordField.fill_gauged afters),
      Shape.fillMembers_gauged _ rfl rfl (RecordField.fill_gauged mappings),
      Shape.fillMembers_gauged _ rfl rfl (RecordField.fill_gauged scripts),
      Shape.fillMembers_gauged _ rfl rfl (RecordField.fill_gauged files)]
    simp only [confined_confined]
    rfl
  have finished : finishDiff ⟨some written.id, some written.before, some written.after,
      some written.correspondence, some written.edits, some written.fixFiles⟩ =
        .ok ⟨written.toDiffDraft, written.fixFiles⟩ := rfl
  refine Shape.complete_gauges (fun inner entered => ?_) finished
  obtain rfl : inner = 126 := (Nat.succ.inj entered).symm
  exact filled _ rfl

theorem correspondenceValue_fits {written : Correspondence}
    (small : ∀ pair ∈ written.pairs, pair.1 < 4294967296 ∧ pair.2 < 4294967296) :
    (correspondenceValue written).Fits := by
  have wide {n : Nat} (bound : n < 4294967296) : n < Numeral.bound :=
    Nat.lt_trans bound (by decide)
  apply Value.itemsFit_iff.mpr
  rw [List.forall_mem_map]
  intro pair member
  obtain ⟨first, second⟩ := small pair member
  exact ⟨wide first, wide second, trivial⟩

theorem diffValue_fits (small : written.Small) (before : written.before.toTree.SmallSpans)
    (after : written.after.toTree.SmallSpans) : (diffValue written).Fits := by
  refine ⟨⟨trivial, trivial, trivial, trivial⟩, treeValue_fits before, treeValue_fits after,
    correspondenceValue_fits small.pairs, ?_, ?_, trivial⟩
  · cases scripted : written.edits with
    | none => exact trivial
    | some script =>
      apply Value.itemsFit_iff.mpr
      rw [List.forall_mem_map]
      exact fun op member => editValue_fits (small.script scripted op member)
  · apply Value.itemsFit_iff.mpr
    rw [List.forall_mem_map]
    exact fun file _ => trivial

end Document

namespace CommandLine

open Document

theorem check_contents {diff : Diff} (named : diff.fixFiles ≠ []) :
    DiffContents.check ⟨diff.toDiffDraft, diff.fixFiles⟩ = .ok diff := by
  have listed : diff.fixFiles.isEmpty = false := by simpa using named
  rw [DiffContents.check, Diff.check_toDiffDraft]
  simp only [Except.map, Diff.withFixFiles, listed, List.isEmpty_cons, Bool.false_eq_true, if_false]

theorem decodeDiff_compact {diff : Diff} (small : diff.Small)
    (before : diff.before.toTree.SmallSpans) (after : diff.after.toTree.SmallSpans)
    (named : diff.fixFiles ≠ []) :
    decodeDiff (diffValue diff).compact =
      if diff.before.toTree.levels ≤ 63 ∧ diff.after.toTree.levels ≤ 63 then .ok diff
      else .error (.document .malformed) := by
  have gauged := diff_gauges small before after
  rw [Gauges] at gauged
  rw [decodeDiff, decodeText_eq (diffValue_fits small before after), Supply.whole, gauged]
  by_cases shallow : diff.before.toTree.levels ≤ 63 ∧ diff.after.toTree.levels ≤ 63
  · rw [if_pos shallow, confined_of_le ((diffValue_depth diff).mpr shallow)]
    simp only [check_contents named]
    rfl
  · rw [if_neg shallow, confined_of_lt (Nat.not_le.mp (mt (diffValue_depth diff).mp shallow))]

/-- The document of a difference can be read back exactly if neither tree has more than 63 levels,
and then it says again what it said. -/
theorem decodeDiff_ok_iff (diff : Diff) (small : diff.Small)
    (before : diff.before.toTree.SmallSpans) (after : diff.after.toTree.SmallSpans)
    (named : diff.fixFiles ≠ []) :
    ((∃ back, decodeDiff (diffValue diff).compact = .ok back) ↔
        diff.before.toTree.levels ≤ 63 ∧ diff.after.toTree.levels ≤ 63) ∧
      (∀ back, decodeDiff (diffValue diff).compact = .ok back →
        back = diff ∧ (diffValue back).compact = (diffValue diff).compact) ∧
      ∀ failure, decodeDiff (diffValue diff).compact = .error failure →
        failure = .document .malformed := by
  have decoded := decodeDiff_compact small before after named
  generalize decodeDiff (diffValue diff).compact = result at decoded ⊢
  by_cases shallow : diff.before.toTree.levels ≤ 63 ∧ diff.after.toTree.levels ≤ 63
  · rw [if_pos shallow] at decoded
    subst decoded
    refine ⟨iff_of_true ⟨diff, rfl⟩ shallow, ?_, ?_⟩
    · intro back same
      obtain rfl := Except.ok.inj same
      exact ⟨rfl, rfl⟩
    · intro failure impossible
      cases impossible
  · rw [if_neg shallow] at decoded
    subst decoded
    refine ⟨iff_of_false ?_ shallow, ?_, ?_⟩
    · rintro ⟨back, impossible⟩
      cases impossible
    · intro back impossible
      cases impossible
    · intro failure same
      exact (Except.error.inj same).symm

end CommandLine

def Attributes.full : Attributes :=
  ⟨.block, some "é\"\n", some .body, some ⟨1, 2, 3, 4⟩⟩

theorem Attributes.full_small : full.Small := by
  intro span written
  obtain rfl := Option.some.inj written
  constructor <;> decide

theorem Correspondence.roots_increasing :
    [(0, 0)].Pairwise fun (first second : Nat × Nat) => first.1 < second.1 :=
  List.pairwise_singleton _ _

theorem Correspondence.roots_injective :
    [(0, 0)].Pairwise fun (first second : Nat × Nat) => first.2 ≠ second.2 :=
  List.pairwise_singleton _ _

def Correspondence.roots : Correspondence := ⟨[(0, 0)], roots_increasing, roots_injective⟩

def DiffDraft.towers (below : Nat) : DiffDraft where
  id := ⟨"r", "f", "a.c"⟩
  before := .ofTree (.tower .full below)
  after := .ofTree (.tower .full below)
  correspondence := .roots
  edits := some [.update 0 0]

theorem DiffDraft.towers_inTree (below : Nat) :
    ∀ mention ∈ (towers below).mentions, (towers below).InTree mention := by
  have inside : (Arena.ofTree (.tower .full below)).contains 0 = true :=
    Arena.contains_iff.mpr (Arena.size_pos _)
  have mentions : (towers below).mentions =
      [("correspondence", .before, 0), ("correspondence", .after, 0), ("update", .before, 0),
        ("update", .after, 0)] := rfl
  rw [mentions]
  simp only [List.forall_mem_cons, List.not_mem_nil, false_implies, implies_true, and_true]
  exact ⟨inside, inside, inside, inside⟩

def Diff.towers (below : Nat) : Diff where
  toDiffDraft := .towers below
  fixFiles := ["a.c", "b.h"]
  in_trees := DiffDraft.towers_inTree below

namespace Diff

theorem towers_small {below : Nat} (few : below < 4294967296) : (towers below).Small := by
  intro side
  have sized : ((towers below).tree side).size = below + 1 := by
    cases side <;> exact (Arena.size_ofTree _).trans (Tree.size_tower _ _)
  rw [sized]
  exact few

theorem towers_before (below : Nat) : (towers below).before.toTree = .tower .full below :=
  Arena.toTree_ofTree _

theorem towers_after (below : Nat) : (towers below).after.toTree = .tower .full below :=
  Arena.toTree_ofTree _

end Diff

/-- With 63 levels the document can be read back, with 64 it cannot. -/
theorem CommandLine.decodeDiff_towers :
    (∃ back, decodeDiff (Document.diffValue (.towers 62)).compact = .ok back) ∧
      ¬ ∃ back, decodeDiff (Document.diffValue (.towers 63)).compact = .ok back := by
  have spans (below : Nat) : (Tree.tower .full below).SmallSpans :=
    Tree.smallSpans_tower Attributes.full_small below
  have accepted := (decodeDiff_ok_iff (.towers 62) (Diff.towers_small (by decide))
    (by rw [Diff.towers_before]; exact spans 62) (by rw [Diff.towers_after]; exact spans 62)
    (by decide)).1
  have refused := (decodeDiff_ok_iff (.towers 63) (Diff.towers_small (by decide))
    (by rw [Diff.towers_before]; exact spans 63) (by rw [Diff.towers_after]; exact spans 63)
    (by decide)).1
  rw [Diff.towers_before, Diff.towers_after, Tree.levels_tower] at accepted refused
  exact ⟨accepted.mpr (by decide), fun back => absurd (refused.mp back) (by decide)⟩

end RepairMining
