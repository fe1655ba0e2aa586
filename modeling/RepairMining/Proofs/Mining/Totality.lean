import RepairMining.Proofs.Mining.Run
import RepairMining.Proofs.Table

namespace RepairMining

open Detection

namespace ActionCache

variable {diff : Diff} {fingerprint : Fingerprint}

theorem objection?_eq_none {kind : ActionKind} {action : RepairAction}
    (unobjected : objection? diff kind action = none) :
    action.kind = kind ∧ diff.Covers action := by
  rw [objection?] at unobjected
  split at unobjected
  · rename_i ofKind
    rw [Option.map_eq_none_iff, List.find?_eq_none] at unobjected
    refine ⟨ofKind, ?_⟩
    intro mention member
    have contained := unobjected mention member
    rwa [Bool.not_eq_true, Bool.not_eq_false'] at contained
  · cases unobjected

theorem objection?_of_covers {action : RepairAction} (covered : diff.Covers action) :
    objection? diff action.kind action = none := by
  rw [objection?, if_pos rfl, Option.map_eq_none_iff, List.find?_eq_none]
  intro mention member
  have inside : (diff.tree mention.1).contains mention.2 = true := covered mention member
  simp [inside]

/-- The checks of a file ask for exactly what the detectors rely on. -/
theorem firstObjection?_eq_none {set : ActionSet} :
    firstObjection? diff set = none ↔ set.Sound diff := by
  rw [firstObjection?, List.findSome?_eq_none_iff]
  constructor
  · intro unobjected kind found present action member
    have entry := unobjected (kind, found) (Table.mem_entries.mpr present)
    exact objection?_eq_none (List.findSome?_eq_none_iff.mp entry action member)
  · rintro sound ⟨kind, found⟩ member
    rw [List.findSome?_eq_none_iff]
    intro action listed
    obtain ⟨rfl, covered⟩ := sound kind found (Table.mem_entries.mp member) action listed
    exact objection?_of_covers covered

theorem accept_eq_ok {contents : Contents} {set : ActionSet} :
    accept diff fingerprint contents = .ok set ↔
      contents = ⟨version, fingerprint, set⟩ ∧ set.Sound diff := by
  obtain ⟨number, trees, actions⟩ := contents
  constructor
  · intro accepted
    rw [accept] at accepted
    split at accepted
    · cases accepted
    · rename_i supported
      split at accepted
      · cases accepted
      · rename_i same
        split at accepted
        · cases accepted
        · rename_i unobjected
          obtain rfl := Except.ok.inj accepted
          rw [Decidable.not_not] at supported same
          dsimp only at supported same
          rw [supported, same]
          exact ⟨rfl, firstObjection?_eq_none.mp unobjected⟩
  · rintro ⟨same, sound⟩
    obtain ⟨rfl, rfl, rfl⟩ := Contents.mk.inj same
    simp only [accept, firstObjection?_eq_none.mpr sound, ne_eq, not_true_eq_false, if_false]

theorem decode_sound {bytes : ByteArray} {set : ActionSet}
    (decoded : decode diff fingerprint bytes = .ok set) : set.Sound diff := by
  rw [decode] at decoded
  split at decoded
  · cases decoded
  · exact (accept_eq_ok.mp decoded).2

end ActionCache

def Diff.blank (id : DiffId) : Diff where
  id := id
  before := .ofTree (.node ⟨.translationUnit, none, none, none⟩ [])
  after := .ofTree (.node ⟨.translationUnit, none, none, none⟩ [])
  correspondence := .empty
  edits := some []
  fixFiles := [id.file]
  in_trees := by
    intro mention member
    simp [DiffDraft.mentions, Correspondence.empty] at member

def Arena.lone : Arena :=
  .ofTree (.node ⟨.translationUnit, none, none, none⟩ [.node ⟨.empty, none, none, none⟩ []])

def Diff.kept : Diff where
  id := ⟨"r", "f", "a.c"⟩
  before := .lone
  after := .lone
  correspondence := ⟨[(0, 0), (1, 1)], by decide, by decide⟩
  edits := some []
  fixFiles := ["a.c"]
  in_trees := by decide

def Diff.exchanged : Diff where
  id := ⟨"r", "f", "a.c"⟩
  before := .lone
  after := .lone
  correspondence := ⟨[(0, 0)], by decide, by decide⟩
  edits := some []
  fixFiles := ["a.c"]
  in_trees := by decide

namespace Miner

variable {σ : Type} {storage : Storage (StateM σ)} {diff : Diff} {state : σ}

def offered (diff : Diff) : Except DiskFault (Option ByteArray) → ActionSet
  | .ok (some bytes) =>
    match ActionCache.decode diff diff.fingerprint bytes with
    | .ok set => set
    | .error _ => .empty
  | _ => .empty

theorem offered_sound (answer : Except DiskFault (Option ByteArray)) :
    (offered diff answer).Sound diff := by
  unfold offered
  split
  · split
    · rename_i decoded
      exact ActionCache.decode_sound decoded
    · exact ActionSet.sound_empty diff
  · exact ActionSet.sound_empty diff

theorem loadCached_eq (registry : Registry) (layout : CacheLayout) :
    (loadCached ⟨registry, some layout⟩ storage diff).run state =
      (offered diff ((storage.read (CacheFile.actions layout diff.id).path).run state).1,
        ((storage.read (CacheFile.actions layout diff.id).path).run state).2) := by
  simp only [loadCached, ActionCache.load, bind, StateT.bind, StateT.run, pure]
  rcases storage.read (CacheFile.actions layout diff.id).path state with ⟨answer, next⟩
  cases answer with
  | error fault => rfl
  | ok content =>
    cases content with
    | none => rfl
    | some bytes =>
      simp only [offered]
      cases ActionCache.decode diff diff.fingerprint bytes with
      | error fault => rfl
      | ok set => rfl

theorem loadCached_sound (miner : Miner) (storage : Storage (StateM σ)) (diff : Diff) (state : σ) :
    ((miner.loadCached storage diff).run state).1.Sound diff := by
  obtain ⟨registry, cache⟩ := miner
  cases cache with
  | none => exact ActionSet.sound_empty diff
  | some layout =>
    rw [loadCached_eq]
    exact offered_sound _

theorem mine_eq (miner : Miner) (storage : Storage (StateM σ)) (state : σ)
    {edits : List EditOp} (scripted : diff.edits = some edits)
    {result : ActionSet} {fresh : Nat}
    (ran : miner.registry.run (.make diff edits) ((miner.loadCached storage diff).run state).1 =
      .ok (result, fresh)) :
    (miner.mine storage diff).run state =
      (.ok (.analyzed (result.restrict miner.registry.kinds)
        { detectorsRun := fresh
          loadedFromCache := miner.registry.covered ((miner.loadCached storage diff).run state).1
          cacheWritten := ((miner.storeMined storage diff result fresh).run
            ((miner.loadCached storage diff).run state).2).1 }),
        ((miner.storeMined storage diff result fresh).run
          ((miner.loadCached storage diff).run state).2).2) := by
  simp only [StateT.run] at ran ⊢
  simp only [mine, scripted, bind, StateT.bind]
  rcases loaded : miner.loadCached storage diff state with ⟨cached, next⟩
  rw [loaded] at ran
  simp only [ran, bind, StateT.bind]
  rcases miner.storeMined storage diff result fresh next with ⟨written, last⟩
  rfl

theorem mine_of_fault (miner : Miner) (storage : Storage (StateM σ)) (state : σ)
    {edits : List EditOp} (scripted : diff.edits = some edits) {fault : MiningError}
    (ran : miner.registry.run (.make diff edits) ((miner.loadCached storage diff).run state).1 =
      .error fault) :
    (miner.mine storage diff).run state =
      (.error fault, ((miner.loadCached storage diff).run state).2) := by
  simp only [StateT.run] at ran ⊢
  simp only [mine, scripted, bind, StateT.bind]
  rcases loaded : miner.loadCached storage diff state with ⟨cached, next⟩
  rw [loaded] at ran
  simp only [ran]
  rfl

section

variable {kinds : List ActionKind} {edits : List EditOp}

theorem mine_completes (closed : Pipeline.Closed kinds) (scripted : diff.edits = some edits)
    (cache : Option CacheLayout)
    {cached : ActionSet} {next : σ}
    (loaded : ((loadCached ⟨.builtin kinds, cache⟩ storage diff).run state) = (cached, next)) :
    ∃ result, result.Completes cached (.make diff edits) kinds ∧
      ((Miner.mk (.builtin kinds) cache).mine storage diff).run state =
        (.ok (.analyzed (result.restrict (Pipeline.order kinds))
          { detectorsRun := cached.lacks (Pipeline.order kinds)
            loadedFromCache := (Registry.builtin kinds).covered cached
            cacheWritten := ((storeMined ⟨.builtin kinds, cache⟩ storage diff result
              (cached.lacks (Pipeline.order kinds))).run next).1 }),
          ((storeMined ⟨.builtin kinds, cache⟩ storage diff result
            (cached.lacks (Pipeline.order kinds))).run next).2) := by
  have sound : cached.Sound diff := by
    have offered := loadCached_sound ⟨.builtin kinds, cache⟩ storage diff state
    rwa [loaded] at offered
  obtain ⟨result, ran, completes⟩ := Registry.run_completes closed
    (Context.grounded_make scripted) sound
  refine ⟨result, completes, ?_⟩
  have mined := mine_eq ⟨.builtin kinds, cache⟩ storage state scripted (by rw [loaded]; exact ran)
  rwa [loaded, Registry.kinds_builtin] at mined

theorem loadCached_none (registry : Registry) (storage : Storage (StateM σ)) (diff : Diff)
    (state : σ) :
    (loadCached ⟨registry, none⟩ storage diff).run state = (.empty, state) := rfl

/-- What a miner of the categories finds if nothing is there to start from. -/
def Finds (diff : Diff) (edits : List EditOp) (kinds : List ActionKind) (set : ActionSet) : Prop :=
  set.Genuine (.make diff edits) ∧ ∀ kind, set.contains kind = true ↔ kind ∈ kinds

theorem Finds.unique {first second : ActionSet} (one : Finds diff edits kinds first)
    (other : Finds diff edits kinds second) : first = second :=
  one.1.eq other.1 fun kind => (one.2 kind).trans (other.2 kind).symm

theorem Finds.get?_eq {set : ActionSet} (finds : Finds diff edits kinds set) {kind : ActionKind}
    (listed : kind ∈ kinds) :
    set.get? kind = some ((Detection.rule kind).finds (.make diff edits) set) := by
  obtain ⟨found, there⟩ := ActionSet.contains_iff.mp ((finds.2 kind).mpr listed)
  rw [there, finds.1.finds kind found there]

theorem Finds.get?_needed {set : ActionSet} (finds : Finds diff edits kinds set)
    {kind needed : ActionKind} (listed : kind ∈ kinds)
    (reads : needed ∈ (Detection.rule kind).needs) :
    set.get? needed = some ((Detection.rule needed).finds (.make diff edits) set) := by
  have present := finds.1.needs kind ((finds.2 kind).mpr listed) needed reads
  exact finds.get?_eq ((finds.2 needed).mp present)

/-- Only what is offered of the categories themselves has to be right. -/
theorem finds_of_completes {result cached : ActionSet} (closed : Pipeline.Closed kinds)
    (completes : result.Completes cached (.make diff edits) kinds)
    (genuine : ActionSet.Genuine (cached.restrict kinds) (.make diff edits)) :
    Finds diff edits kinds (result.restrict (Pipeline.order kinds)) := by
  have listed {kind : ActionKind} : kind ∈ Pipeline.order kinds ↔ kind ∈ kinds := Pipeline.mem_order
  have same : Table.restrict result (Pipeline.order kinds) = result.restrict kinds := by
    refine Table.ext fun kind => ?_
    simp only [Table.get?_restrict, listed]
  refine ⟨same ▸ completes.part kinds closed genuine, fun kind => ?_⟩
  rw [ActionSet.contains_restrict, completes.contains, listed]
  exact ⟨fun there => there.1, fun member => ⟨member, .inr member⟩⟩

end

theorem mine_of_unscripted {miner : Miner} (unscripted : diff.edits = none) :
    (miner.mine storage diff).run state = (.ok (.notAnalyzable .noEditScript), state) := by
  simp only [mine, unscripted]
  rfl

/-- Every read gives bytes that are no text, and every write fails. -/
def broken : Storage (StateM Unit) where
  read _ := pure (.ok (some ⟨#[0xff]⟩))
  replace _ _ := pure (some .noDirectory)

end Miner

end RepairMining
