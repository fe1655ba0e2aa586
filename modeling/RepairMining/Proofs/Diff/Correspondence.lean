import Mathlib.Data.Finset.Card
import Mathlib.Data.List.Sort
import RepairMining.Proofs.Detection.Range

namespace RepairMining.Correspondence

variable {correspondence extended whole : Correspondence} {pairs : List (Nat × Nat)}
  {pair : Nat × Nat} {before after : Nat} {conflict : Conflict}

/-- No node has two counterparts. -/
def OneToOne (pairs : List (Nat × Nat)) : Prop :=
  ∀ first ∈ pairs, ∀ second ∈ pairs, first.1 = second.1 ↔ first.2 = second.2

/-- What is wrong with a pair after those that were listed earlier. The node before is looked at
first: only if it has no counterpart yet does it count that the node after has one. -/
inductive Conflict.Arises (listed : List (Nat × Nat)) (before after : Nat) : Conflict → Prop
  | beforeMappedTwice {earlier : Nat} (there : (before, earlier) ∈ listed)
      (other : earlier ≠ after) :
      Arises listed before after (.beforeMappedTwice before earlier after)
  | notInjective {earlier : Nat} (unmapped : ∀ counterpart, (before, counterpart) ∉ listed)
      (there : (earlier, after) ∈ listed) :
      Arises listed before after (.notInjective after earlier before)

theorem OneToOne.subset {fewer : List (Nat × Nat)} (oneToOne : OneToOne pairs)
    (subset : fewer ⊆ pairs) : OneToOne fewer := by
  intro first listed second also
  exact oneToOne first (subset listed) second (subset also)

theorem Conflict.Arises.congr {others : List (Nat × Nat)}
    (same : ∀ pair, pair ∈ others ↔ pair ∈ pairs) (arises : conflict.Arises pairs before after) :
    conflict.Arises others before after := by
  cases arises with
  | beforeMappedTwice there other => exact .beforeMappedTwice ((same _).mpr there) other
  | notInjective unmapped there =>
    exact .notInjective (fun counterpart => mt (same _).mp (unmapped counterpart))
      ((same _).mpr there)

theorem Conflict.Arises.not_oneToOne (arises : conflict.Arises pairs before after)
    {whole : List (Nat × Nat)} (subset : pairs ⊆ whole) (listed : (before, after) ∈ whole) :
    ¬ OneToOne whole := by
  intro oneToOne
  cases arises with
  | beforeMappedTwice there other =>
    exact other ((oneToOne _ (subset there) _ listed).mp rfl)
  | notInjective unmapped there =>
    have same := (oneToOne _ (subset there) _ listed).mpr rfl
    dsimp only at same
    subst same
    exact unmapped after there

theorem nodup_before (correspondence : Correspondence) : (correspondence.pairs.map (·.1)).Nodup :=
  List.pairwise_map.mpr (correspondence.increasing.imp Nat.ne_of_lt)

theorem nodup_after (correspondence : Correspondence) : (correspondence.pairs.map (·.2)).Nodup :=
  List.pairwise_map.mpr correspondence.injective

theorem oneToOne_pairs (correspondence : Correspondence) : OneToOne correspondence.pairs := by
  intro first listed second also
  constructor
  · intro same
    exact congrArg Prod.snd
      (List.inj_on_of_nodup_map correspondence.nodup_before listed also same)
  · intro same
    exact congrArg Prod.fst (List.inj_on_of_nodup_map correspondence.nodup_after listed also same)

theorem eq_of_meet {first second : Nat × Nat} (listed : first ∈ correspondence.pairs)
    (also : second ∈ correspondence.pairs) (meet : first.1 = second.1 ∨ first.2 = second.2) :
    first = second := by
  have oneToOne := correspondence.oneToOne_pairs _ listed _ also
  rcases meet with same | same
  · exact Prod.ext same (oneToOne.mp same)
  · exact Prod.ext (oneToOne.mpr same) same

theorem after?_eq_some_iff :
    correspondence.after? before = some after ↔ (before, after) ∈ correspondence.pairs := by
  constructor
  · exact mem_of_after?
  · intro member
    cases found : correspondence.after? before with
    | none => exact absurd rfl (fresh_before found _ member)
    | some other =>
      have same := (correspondence.oneToOne_pairs _ member _ (mem_of_after? found)).mp rfl
      exact congrArg some same.symm

theorem before?_eq_some_iff :
    correspondence.before? after = some before ↔ (before, after) ∈ correspondence.pairs := by
  constructor
  · exact mem_of_before?
  · intro member
    cases found : correspondence.before? after with
    | none => exact absurd rfl (fresh_after found _ member)
    | some other =>
      have same := (correspondence.oneToOne_pairs _ member _ (mem_of_before? found)).mpr rfl
      exact congrArg some same.symm

theorem after?_eq_none_iff : correspondence.after? before = none ↔
    ∀ counterpart, (before, counterpart) ∉ correspondence.pairs := by
  rw [Option.eq_none_iff_forall_ne_some]
  simp only [ne_eq, after?_eq_some_iff]

theorem before?_eq_none_iff : correspondence.before? after = none ↔
    ∀ counterpart, (counterpart, after) ∉ correspondence.pairs := by
  rw [Option.eq_none_iff_forall_ne_some]
  simp only [ne_eq, before?_eq_some_iff]

theorem eq_of_mem_iff {first second : Correspondence}
    (same : ∀ pair, pair ∈ first.pairs ↔ pair ∈ second.pairs) : first = second := by
  have listed := first.increasing.eq_of_mem_iff second.increasing same
  cases first
  cases second
  obtain rfl := listed
  rfl

theorem insert_error_iff : correspondence.insert before after = .error conflict ↔
    conflict.Arises correspondence.pairs before after := by
  unfold insert
  split
  · rename_i earlier mapped
    have there := after?_eq_some_iff.mp mapped
    by_cases same : earlier = after
    · subst same
      rw [if_pos rfl]
      refine iff_of_false (by simp) ?_
      intro arises
      exact arises.not_oneToOne (List.Subset.refl _) there correspondence.oneToOne_pairs
    · rw [if_neg same]
      constructor
      · intro refused
        obtain rfl := Except.error.inj refused
        exact .beforeMappedTwice there same
      · intro arises
        cases arises with
        | beforeMappedTwice also other =>
          obtain rfl := (correspondence.oneToOne_pairs _ there _ also).mp rfl
          rfl
        | notInjective unmapped => exact absurd there (unmapped earlier)
  · rename_i unmapped
    have fresh := after?_eq_none_iff.mp unmapped
    split
    · rename_i earlier mapped
      have there := before?_eq_some_iff.mp mapped
      constructor
      · intro refused
        obtain rfl := Except.error.inj refused
        exact .notInjective fresh there
      · intro arises
        cases arises with
        | beforeMappedTwice also => exact absurd also (fresh _)
        | notInjective _ also =>
          obtain rfl := (correspondence.oneToOne_pairs _ there _ also).mpr rfl
          rfl
    · rename_i unreached
      refine iff_of_false (by simp) ?_
      intro arises
      cases arises with
      | beforeMappedTwice also => exact fresh _ also
      | notInjective _ also => exact before?_eq_none_iff.mp unreached _ also

theorem mem_of_insert (inserted : correspondence.insert before after = .ok extended) :
    pair ∈ extended.pairs ↔ pair ∈ correspondence.pairs ∨ pair = (before, after) := by
  unfold insert at inserted
  split at inserted
  · rename_i earlier mapped
    split at inserted
    · rename_i same
      obtain rfl := Except.ok.inj inserted
      subst same
      have there := after?_eq_some_iff.mp mapped
      constructor
      · exact .inl
      · rintro (member | rfl)
        · exact member
        · exact there
    · cases inserted
  · split at inserted
    · cases inserted
    · obtain rfl := Except.ok.inj inserted
      exact mem_place.trans or_comm

theorem mem_of_insertAll (inserted : correspondence.insertAll pairs = .ok whole) :
    pair ∈ whole.pairs ↔ pair ∈ correspondence.pairs ∨ pair ∈ pairs := by
  induction pairs generalizing correspondence with
  | nil =>
    obtain rfl := Except.ok.inj inserted
    simp
  | cons head tail ih =>
    obtain ⟨before, after⟩ := head
    rw [insertAll] at inserted
    split at inserted
    · cases inserted
    · rename_i extended added
      rw [ih inserted, mem_of_insert added, List.mem_cons, or_assoc]

theorem insertAll_append_bind (front back : List (Nat × Nat)) :
    correspondence.insertAll (front ++ back) =
      (correspondence.insertAll front).bind fun extended => extended.insertAll back := by
  induction front generalizing correspondence with
  | nil => rfl
  | cons head front ih =>
    obtain ⟨before, after⟩ := head
    rw [List.cons_append, insertAll, insertAll]
    cases correspondence.insert before after with
    | error conflict => rfl
    | ok extended => exact ih

theorem insertAll_error_iff : correspondence.insertAll pairs = .error conflict ↔
    ∃ front before after back extended, pairs = front ++ (before, after) :: back ∧
      correspondence.insertAll front = .ok extended ∧
      conflict.Arises extended.pairs before after := by
  constructor
  · intro refused
    induction pairs generalizing correspondence with
    | nil => cases refused
    | cons head tail ih =>
      obtain ⟨before, after⟩ := head
      rw [insertAll] at refused
      split at refused
      · rename_i earliest stopped
        obtain rfl := Except.error.inj refused
        exact ⟨[], before, after, tail, correspondence, rfl, rfl, insert_error_iff.mp stopped⟩
      · rename_i grown added
        obtain ⟨front, first, second, back, extended, rfl, also, arises⟩ := ih refused
        refine ⟨(before, after) :: front, first, second, back, extended, rfl, ?_, arises⟩
        rw [insertAll, added]
        exact also
  · rintro ⟨front, before, after, back, extended, rfl, added, arises⟩
    rw [insertAll_append_bind, added]
    change extended.insertAll ((before, after) :: back) = .error conflict
    rw [insertAll, insert_error_iff.mpr arises]

theorem mem_of_ofPairs (built : ofPairs pairs = .ok correspondence) :
    pair ∈ correspondence.pairs ↔ pair ∈ pairs := by
  rw [mem_of_insertAll built]
  simp [empty]

theorem exists_ofPairs_iff : (∃ built, ofPairs pairs = .ok built) ↔ OneToOne pairs := by
  constructor
  · rintro ⟨built, made⟩
    exact built.oneToOne_pairs.subset fun pair => (mem_of_ofPairs made).mpr
  · intro oneToOne
    cases made : ofPairs pairs with
    | ok built => exact ⟨built, rfl⟩
    | error conflict =>
      obtain ⟨front, before, after, back, extended, rfl, added, arises⟩ :=
        insertAll_error_iff.mp made
      have subset : extended.pairs ⊆ front ++ (before, after) :: back := by
        intro pair member
        exact List.mem_append_left _ ((mem_of_ofPairs added).mp member)
      exact absurd oneToOne (arises.not_oneToOne subset (by simp))

theorem ofPairs_congr {others : List (Nat × Nat)} (same : ∀ pair, pair ∈ others ↔ pair ∈ pairs)
    (built : ofPairs pairs = .ok correspondence) : ofPairs others = .ok correspondence := by
  have oneToOne := exists_ofPairs_iff.mp ⟨correspondence, built⟩
  obtain ⟨other, made⟩ := exists_ofPairs_iff.mpr (oneToOne.subset fun pair => (same pair).mp)
  rw [made]
  congr 1
  apply eq_of_mem_iff
  intro pair
  rw [mem_of_ofPairs made, mem_of_ofPairs built, same]

theorem size_of_ofPairs (built : ofPairs pairs = .ok correspondence) :
    correspondence.size = pairs.toFinset.card := by
  have distinct : correspondence.pairs.Nodup := List.Nodup.of_map _ correspondence.nodup_before
  rw [size, ← List.toFinset_card_of_nodup distinct]
  congr 1
  ext pair
  rw [List.mem_toFinset, List.mem_toFinset, mem_of_ofPairs built]

theorem ofPairs_error_iff : ofPairs pairs = .error conflict ↔
    ∃ front before after back, pairs = front ++ (before, after) :: back ∧ OneToOne front ∧
      conflict.Arises front before after := by
  rw [ofPairs, insertAll_error_iff]
  constructor
  · rintro ⟨front, before, after, back, extended, split, added, arises⟩
    exact ⟨front, before, after, back, split, exists_ofPairs_iff.mp ⟨extended, added⟩,
      arises.congr fun pair => (mem_of_ofPairs added).symm⟩
  · rintro ⟨front, before, after, back, split, oneToOne, arises⟩
    obtain ⟨extended, added⟩ := exists_ofPairs_iff.mpr oneToOne
    exact ⟨front, before, after, back, extended, split, added,
      arises.congr fun pair => mem_of_ofPairs added⟩

end RepairMining.Correspondence

namespace RepairMining.Diff

variable {diff : Diff} {node : Nat}

/-- A node before the fix that has a counterpart after it. -/
def Survives (diff : Diff) (node : Nat) : Prop :=
  ∃ after, (node, after) ∈ diff.correspondence.pairs

/-- A node after the fix that has a counterpart before it. -/
def Inherited (diff : Diff) (node : Nat) : Prop :=
  ∃ before, (before, node) ∈ diff.correspondence.pairs

theorem mapsBefore_iff : diff.correspondence.mapsBefore node = true ↔ diff.Survives node := by
  simp only [Correspondence.mapsBefore, Option.isSome_iff_exists,
    Correspondence.after?_eq_some_iff, Survives]

theorem mapsAfter_iff : diff.correspondence.mapsAfter node = true ↔ diff.Inherited node := by
  simp only [Correspondence.mapsAfter, Option.isSome_iff_exists,
    Correspondence.before?_eq_some_iff, Inherited]

end RepairMining.Diff
