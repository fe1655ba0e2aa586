import RepairMining.Proofs.Diff.Correspondence
import RepairMining.Proofs.Document.Diff
import Std.Data.HashMap.Lemmas

namespace RepairMining

/-- Both directions of a correspondence, each in a map of its own. -/
structure NodeMaps where
  forward : Std.HashMap Nat Nat
  backward : Std.HashMap Nat Nat

namespace NodeMaps

open Correspondence

def empty : NodeMaps := ⟨∅, ∅⟩

def after? (maps : NodeMaps) (before : Nat) : Option Nat := maps.forward[before]?

def before? (maps : NodeMaps) (after : Nat) : Option Nat := maps.backward[after]?

def size (maps : NodeMaps) : Nat := maps.forward.size

def precedes (first second : Nat × Nat) : Bool :=
  first.1 < second.1 || (first.1 == second.1 && first.2 ≤ second.2)

def pairs (maps : NodeMaps) : List (Nat × Nat) := maps.forward.toList.mergeSort precedes

def insert (maps : NodeMaps) (before after : Nat) : Except Conflict NodeMaps :=
  match maps.forward[before]? with
  | some existing =>
    if existing ≠ after then .error (.beforeMappedTwice before existing after) else .ok maps
  | none =>
    match maps.backward[after]? with
    | some existing => .error (.notInjective after existing before)
    | none => .ok ⟨maps.forward.insert before after, maps.backward.insert after before⟩

def insertAll (maps : NodeMaps) : List (Nat × Nat) → Except Conflict NodeMaps
  | [] => .ok maps
  | (before, after) :: rest =>
    match maps.insert before after with
    | .error conflict => .error conflict
    | .ok grown => grown.insertAll rest

def ofPairs (pairs : List (Nat × Nat)) : Except Conflict NodeMaps := empty.insertAll pairs

/-- Either map has the pairs of the correspondence and no others. -/
structure Represents (maps : NodeMaps) (correspondence : Correspondence) : Prop where
  forward : ∀ before after,
    maps.forward[before]? = some after ↔ (before, after) ∈ correspondence.pairs
  backward : ∀ before after,
    maps.backward[after]? = some before ↔ (before, after) ∈ correspondence.pairs

inductive Matches : Except Conflict NodeMaps → Except Conflict Correspondence → Prop
  | error (conflict : Conflict) : Matches (.error conflict) (.error conflict)
  | ok {maps : NodeMaps} {correspondence : Correspondence}
      (represents : maps.Represents correspondence) : Matches (.ok maps) (.ok correspondence)

theorem Matches.error_iff {stored : Except Conflict NodeMaps}
    {built : Except Conflict Correspondence} (same : Matches stored built) {conflict : Conflict} :
    stored = .error conflict ↔ built = .error conflict := by
  cases same with
  | error other => rw [Except.error.injEq, Except.error.injEq]
  | ok represents => exact iff_of_false (by simp) (by simp)

theorem Matches.exists_of_ok {stored : Except Conflict NodeMaps}
    {built : Except Conflict Correspondence} (same : Matches stored built)
    {correspondence : Correspondence} (made : built = .ok correspondence) :
    ∃ maps, stored = .ok maps ∧ maps.Represents correspondence := by
  cases same with
  | error other => cases made
  | ok represents =>
    obtain rfl := Except.ok.inj made
    exact ⟨_, rfl, represents⟩

variable {maps : NodeMaps} {correspondence : Correspondence}

theorem empty_represents : empty.Represents .empty := by
  constructor <;> simp [empty, Correspondence.empty]

theorem Represents.after?_eq (represents : maps.Represents correspondence) (before : Nat) :
    maps.after? before = correspondence.after? before := by
  ext after
  rw [after?, represents.forward, after?_eq_some_iff]

theorem Represents.before?_eq (represents : maps.Represents correspondence) (after : Nat) :
    maps.before? after = correspondence.before? after := by
  ext before
  rw [before?, represents.backward, before?_eq_some_iff]

theorem Represents.keep (represents : maps.Represents correspondence) {extended : Correspondence}
    (same : ∀ pair, pair ∈ extended.pairs ↔ pair ∈ correspondence.pairs) :
    maps.Represents extended where
  forward before after := (represents.forward before after).trans (same _).symm
  backward before after := (represents.backward before after).trans (same _).symm

theorem getElem?_insert_fresh {map : Std.HashMap Nat Nat} {key value : Nat}
    (fresh : map[key]? = none) (other found : Nat) :
    (map.insert key value)[other]? = some found ↔
      map[other]? = some found ∨ other = key ∧ found = value := by
  rw [Std.HashMap.getElem?_insert]
  split
  · rename_i same
    obtain rfl := eq_of_beq same
    simp [fresh, eq_comm]
  · rename_i apart
    rw [beq_iff_eq] at apart
    simp [Ne.symm apart]

/-- A pair whose nodes have no entry yet gets one in either map. -/
theorem Represents.grow (represents : maps.Represents correspondence) {extended : Correspondence}
    {before after : Nat} (unmapped : correspondence.after? before = none)
    (unreached : correspondence.before? after = none)
    (grown : ∀ pair, pair ∈ extended.pairs ↔ pair ∈ correspondence.pairs ∨ pair = (before, after)) :
    Represents ⟨maps.forward.insert before after, maps.backward.insert after before⟩ extended where
  forward first second := by
    have fresh : maps.forward[before]? = none := (represents.after?_eq before).trans unmapped
    rw [getElem?_insert_fresh fresh, grown, represents.forward, Prod.mk.injEq]
  backward first second := by
    have fresh : maps.backward[after]? = none := (represents.before?_eq after).trans unreached
    rw [getElem?_insert_fresh fresh, grown, represents.backward, Prod.mk.injEq,
      and_comm (a := first = before)]

theorem Represents.insert (represents : maps.Represents correspondence) (before after : Nat) :
    Matches (maps.insert before after) (correspondence.insert before after) := by
  have ahead : maps.forward[before]? = correspondence.after? before :=
    represents.after?_eq before
  have back : maps.backward[after]? = correspondence.before? after := represents.before?_eq after
  rw [NodeMaps.insert, ahead, back]
  cases added : correspondence.insert before after with
  | error conflict =>
    cases insert_error_iff.mp added with
    | beforeMappedTwice there other =>
      rw [after?_eq_some_iff.mpr there]
      simp only [ne_eq, other, not_false_eq_true, if_true]
      exact .error _
    | notInjective unmapped there =>
      rw [after?_eq_none_iff.mpr unmapped, before?_eq_some_iff.mpr there]
      exact .error _
  | ok extended =>
    -- The pair is there already, or neither of its nodes has an entry.
    have accepted (conflict : Conflict) : ¬ conflict.Arises correspondence.pairs before after := by
      rw [← insert_error_iff, added]
      simp
    cases mapped : correspondence.after? before with
    | some existing =>
      have there := after?_eq_some_iff.mp mapped
      obtain rfl : existing = after :=
        Decidable.by_contra fun other => accepted _ (.beforeMappedTwice there other)
      simp only [ne_eq, not_true_eq_false, if_false]
      refine .ok (represents.keep fun pair => (mem_of_insert added).trans ?_)
      exact or_iff_left_of_imp fun same => same ▸ there
    | none =>
      cases reached : correspondence.before? after with
      | some existing =>
        exact absurd (.notInjective (after?_eq_none_iff.mp mapped) (before?_eq_some_iff.mp reached))
          (accepted _)
      | none => exact .ok (represents.grow mapped reached fun pair => mem_of_insert added)

theorem Represents.insertAll (represents : maps.Represents correspondence)
    (pairs : List (Nat × Nat)) :
    Matches (maps.insertAll pairs) (correspondence.insertAll pairs) := by
  induction pairs generalizing maps correspondence with
  | nil => exact .ok represents
  | cons head tail ih =>
    obtain ⟨before, after⟩ := head
    have step := represents.insert before after
    rw [NodeMaps.insertAll, Correspondence.insertAll]
    generalize maps.insert before after = grown at step
    generalize correspondence.insert before after = extended at step
    cases step with
    | error conflict => exact .error conflict
    | ok next => exact ih next

/-- Two maps that are filled pair by pair are a correspondence that is filled pair by pair. -/
theorem ofPairs_matches (pairs : List (Nat × Nat)) :
    Matches (ofPairs pairs) (Correspondence.ofPairs pairs) :=
  empty_represents.insertAll pairs

theorem Represents.mem_pairs (represents : maps.Represents correspondence) {pair : Nat × Nat} :
    pair ∈ maps.pairs ↔ pair ∈ correspondence.pairs := by
  rw [pairs, List.mem_mergeSort, Std.HashMap.mem_toList_iff_getElem?_eq_some, represents.forward]

theorem pairs_increasing (maps : NodeMaps) :
    maps.pairs.Pairwise fun first second => first.1 < second.1 := by
  have sorted : maps.pairs.Pairwise fun first second => precedes first second = true := by
    apply List.pairwise_mergeSort
    · intro first second third
      simp only [precedes, Bool.or_eq_true, Bool.and_eq_true, decide_eq_true_eq, beq_iff_eq]
      omega
    · intro first second
      simp only [precedes, Bool.or_eq_true, Bool.and_eq_true, decide_eq_true_eq, beq_iff_eq]
      omega
  have distinct : maps.pairs.Pairwise fun first second => first.1 ≠ second.1 := by
    have keys := Std.HashMap.distinct_keys_toList (m := maps.forward)
    simp only [beq_eq_false_iff_ne] at keys
    exact keys.perm (List.mergeSort_perm _ _).symm fun apart => apart.symm
  refine (sorted.and distinct).imp ?_
  rintro first second ⟨ordered, apart⟩
  simp only [precedes, Bool.or_eq_true, Bool.and_eq_true, decide_eq_true_eq, beq_iff_eq] at ordered
  omega

theorem Represents.pairs_eq (represents : maps.Represents correspondence) :
    maps.pairs = correspondence.pairs :=
  maps.pairs_increasing.eq_of_mem_iff correspondence.increasing fun _ => represents.mem_pairs

theorem Represents.size_eq (represents : maps.Represents correspondence) :
    maps.size = correspondence.size := by
  rw [size, Correspondence.size, ← represents.pairs_eq, pairs, List.length_mergeSort,
    Std.HashMap.length_toList]

end NodeMaps

namespace Correspondence

variable {correspondence : Correspondence}

theorem decodeText_compact (small : ∀ pair ∈ correspondence.pairs,
      pair.1 < 4294967296 ∧ pair.2 < 4294967296) :
    Json.decodeText Document.correspondence (Document.correspondenceValue correspondence).compact =
      .ok correspondence :=
  Json.decodeText_compact (Document.correspondenceValue_fits small)
    (Document.correspondence_restores small .whole (show 2 ≤ 127 by decide))

/-- A list of pairs gives a correspondence exactly if no node has two counterparts in it. The
correspondence finds in both directions the pairs of the list and no others. It has them once each,
sorted, however the list repeats or orders them, and its document gives it back. Otherwise the
first pair in conflict with those in front of it is named. Two maps that are filled from the list
give the same answers and the same conflicts. -/
theorem ofPairs_bijective (pairs : List (Nat × Nat)) :
    ((∃ built, ofPairs pairs = .ok built) ↔ OneToOne pairs) ∧
      (∀ built, ofPairs pairs = .ok built →
        (∀ before after, built.after? before = some after ↔ (before, after) ∈ pairs) ∧
        (∀ before after, built.before? after = some before ↔ (before, after) ∈ pairs) ∧
        built.size = pairs.toFinset.card ∧
        (∀ pair, pair ∈ built.pairs ↔ pair ∈ pairs) ∧
        (built.pairs.Pairwise fun first second => first.1 < second.1) ∧
        (∀ others, (∀ pair, pair ∈ others ↔ pair ∈ pairs) → ofPairs others = .ok built) ∧
        ((∀ pair ∈ pairs, pair.1 < 4294967296 ∧ pair.2 < 4294967296) →
          Json.decodeText Document.correspondence (Document.correspondenceValue built).compact =
            .ok built) ∧
        ∃ maps, NodeMaps.ofPairs pairs = .ok maps ∧
          (∀ before, maps.after? before = built.after? before) ∧
          (∀ after, maps.before? after = built.before? after) ∧
          maps.size = built.size ∧ maps.pairs = built.pairs) ∧
      ∀ conflict, (ofPairs pairs = .error conflict ↔
          ∃ front before after back, pairs = front ++ (before, after) :: back ∧ OneToOne front ∧
            conflict.Arises front before after) ∧
        (NodeMaps.ofPairs pairs = .error conflict ↔ ofPairs pairs = .error conflict) := by
  have filled := NodeMaps.ofPairs_matches pairs
  refine ⟨exists_ofPairs_iff, ?_, fun conflict => ⟨ofPairs_error_iff, filled.error_iff⟩⟩
  intro built made
  obtain ⟨maps, stored, represents⟩ := filled.exists_of_ok made
  refine ⟨?_, ?_, size_of_ofPairs made, fun pair => mem_of_ofPairs made, built.increasing,
    fun others same => ofPairs_congr same made, ?_, maps, stored, represents.after?_eq,
    represents.before?_eq, represents.size_eq, represents.pairs_eq⟩
  · intro before after
    rw [after?_eq_some_iff, mem_of_ofPairs made]
  · intro before after
    rw [before?_eq_some_iff, mem_of_ofPairs made]
  · intro small
    apply decodeText_compact
    intro pair member
    exact small pair ((mem_of_ofPairs made).mp member)

end Correspondence

end RepairMining
