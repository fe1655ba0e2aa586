namespace RepairMining

inductive Side where
  | before
  | after
  deriving DecidableEq, Repr

def Side.name : Side → String
  | before => "before"
  | after => "after"

/-- Pairs of a node before and a node after, sorted by the node before. -/
structure Correspondence where
  pairs : List (Nat × Nat)
  increasing : pairs.Pairwise fun first second => first.1 < second.1
  injective : pairs.Pairwise fun first second => first.2 ≠ second.2
  deriving DecidableEq

namespace Correspondence

inductive Conflict where
  | beforeMappedTwice (before first second : Nat)
  | notInjective (after first second : Nat)
  deriving DecidableEq, Repr

def Conflict.message : Conflict → String
  | beforeMappedTwice before first second =>
    s!"before node #{before} is mapped to both #{first} and #{second}"
  | notInjective after first second =>
    s!"after node #{after} is mapped from both #{first} and #{second}"

def empty : Correspondence := ⟨[], List.Pairwise.nil, List.Pairwise.nil⟩

def after? (correspondence : Correspondence) (before : Nat) : Option Nat :=
  (correspondence.pairs.find? (·.1 == before)).map (·.2)

def before? (correspondence : Correspondence) (after : Nat) : Option Nat :=
  (correspondence.pairs.find? (·.2 == after)).map (·.1)

def mapsBefore (correspondence : Correspondence) (before : Nat) : Bool :=
  (correspondence.after? before).isSome

def mapsAfter (correspondence : Correspondence) (after : Nat) : Bool :=
  (correspondence.before? after).isSome

def size (correspondence : Correspondence) : Nat := correspondence.pairs.length

def place (pair : Nat × Nat) : List (Nat × Nat) → List (Nat × Nat)
  | [] => [pair]
  | next :: rest => if pair.1 < next.1 then pair :: next :: rest else next :: place pair rest

theorem mem_place {pair other : Nat × Nat} {pairs : List (Nat × Nat)} :
    other ∈ place pair pairs ↔ other = pair ∨ other ∈ pairs := by
  induction pairs with
  | nil => simp [place]
  | cons next rest ih =>
    unfold place
    split
    · simp
    · simp only [List.mem_cons, ih]
      constructor
      · rintro (here | here | here) <;> simp [here]
      · rintro (here | here | here) <;> simp [here]

theorem place_increasing {pair : Nat × Nat} {pairs : List (Nat × Nat)}
    (fresh : ∀ other ∈ pairs, other.1 ≠ pair.1)
    (sorted : pairs.Pairwise fun first second => first.1 < second.1) :
    (place pair pairs).Pairwise fun first second => first.1 < second.1 := by
  induction pairs with
  | nil => simp [place]
  | cons next rest ih =>
    rw [List.pairwise_cons] at sorted
    have apart := fresh next List.mem_cons_self
    unfold place
    split
    · rename_i smaller
      refine List.pairwise_cons.mpr ⟨?_, List.pairwise_cons.mpr sorted⟩
      intro other member
      rcases List.mem_cons.mp member with rfl | member
      · exact smaller
      · exact Nat.lt_trans smaller (sorted.1 other member)
    · rename_i larger
      refine List.pairwise_cons.mpr
        ⟨?_, ih (fun other member => fresh other (List.mem_cons_of_mem _ member)) sorted.2⟩
      intro other member
      rcases mem_place.mp member with rfl | member
      · omega
      · exact sorted.1 other member

theorem place_injective {pair : Nat × Nat} {pairs : List (Nat × Nat)}
    (fresh : ∀ other ∈ pairs, other.2 ≠ pair.2)
    (distinct : pairs.Pairwise fun first second => first.2 ≠ second.2) :
    (place pair pairs).Pairwise fun first second => first.2 ≠ second.2 := by
  induction pairs with
  | nil => simp [place]
  | cons next rest ih =>
    rw [List.pairwise_cons] at distinct
    have apart := fresh next List.mem_cons_self
    unfold place
    split
    · refine List.pairwise_cons.mpr ⟨?_, List.pairwise_cons.mpr distinct⟩
      intro other member
      exact (fresh other member).symm
    · refine List.pairwise_cons.mpr
        ⟨?_, ih (fun other member => fresh other (List.mem_cons_of_mem _ member)) distinct.2⟩
      intro other member
      rcases mem_place.mp member with rfl | member
      · exact apart
      · exact distinct.1 other member

theorem fresh_before {correspondence : Correspondence} {before : Nat}
    (unmapped : correspondence.after? before = none) :
    ∀ other ∈ correspondence.pairs, other.1 ≠ before := by
  intro other member same
  rw [after?, Option.map_eq_none_iff, List.find?_eq_none] at unmapped
  exact unmapped other member (by simp [same])

theorem fresh_after {correspondence : Correspondence} {after : Nat}
    (unmapped : correspondence.before? after = none) :
    ∀ other ∈ correspondence.pairs, other.2 ≠ after := by
  intro other member same
  rw [before?, Option.map_eq_none_iff, List.find?_eq_none] at unmapped
  exact unmapped other member (by simp [same])

/-- Adds a pair. A pair that is already there changes nothing; the node before is looked at
first. -/
def insert (correspondence : Correspondence) (before after : Nat) :
    Except Conflict Correspondence :=
  match unmappedBefore : correspondence.after? before with
  | some existing =>
    if existing = after then .ok correspondence
    else .error (.beforeMappedTwice before existing after)
  | none =>
    match unmappedAfter : correspondence.before? after with
    | some existing => .error (.notInjective after existing before)
    | none =>
      .ok {
        pairs := place (before, after) correspondence.pairs
        increasing := place_increasing (fresh_before unmappedBefore) correspondence.increasing
        injective := place_injective (fresh_after unmappedAfter) correspondence.injective }

def insertAll (correspondence : Correspondence) : List (Nat × Nat) → Except Conflict Correspondence
  | [] => .ok correspondence
  | (before, after) :: rest =>
    match correspondence.insert before after with
    | .error conflict => .error conflict
    | .ok extended => extended.insertAll rest

def ofPairs (pairs : List (Nat × Nat)) : Except Conflict Correspondence := empty.insertAll pairs

end Correspondence

end RepairMining
