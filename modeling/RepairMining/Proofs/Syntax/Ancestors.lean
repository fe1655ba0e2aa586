import Mathlib.Data.Nat.Find
import RepairMining.Proofs.Syntax.Intervals

namespace RepairMining.Arena

variable {arena : Arena} {node ancestor parent : Nat} {fits : Nat → Prop}

def ProperAncestor (arena : Arena) (ancestor node : Nat) : Prop :=
  ancestor ∈ arena.chain node ∧ ancestor ≠ node

/-- The first node that fits on the way up: all others that fit lie above it. -/
structure Nearest (arena : Arena) (fits : Nat → Prop) (node found : Nat) : Prop where
  above : found ∈ arena.chain node
  holds : fits found
  deepest : ∀ other ∈ arena.chain node, fits other → other ∈ arena.chain found

/-- The last node that fits on the way up: it lies above all others that fit. -/
structure Furthest (arena : Arena) (fits : Nat → Prop) (node found : Nat) : Prop where
  above : found ∈ arena.chain node
  holds : fits found
  highest : ∀ other ∈ arena.chain node, fits other → found ∈ arena.chain other

theorem mem_chain_self (inside : arena.contains node = true) : node ∈ arena.chain node := by
  rw [chain_eq inside]
  exact List.mem_cons_self

theorem contains_of_mem_chain (member : ancestor ∈ arena.chain node) :
    arena.contains node = true := by
  by_contra outside
  rw [chain_of_outside outside] at member
  cases member

theorem le_of_mem_chain (member : ancestor ∈ arena.chain node) : ancestor ≤ node := by
  obtain ⟨_, _, first, _⟩ := inside_of_mem_chain member
  exact first

theorem mem_chain_iff (known : arena.parent? node = some parent) :
    ancestor ∈ arena.chain node ↔ ancestor = node ∨ ancestor ∈ arena.chain parent := by
  rw [chain_eq (contains_of_parent? known), known, Option.map_some, Option.getD_some,
    List.mem_cons]

theorem eq_of_mem_chain_root (root : arena.parent? node = none)
    (member : ancestor ∈ arena.chain node) : ancestor = node := by
  rw [chain_eq (contains_of_mem_chain member), root] at member
  exact List.mem_singleton.mp member

theorem parent_mem_chain (known : arena.parent? node = some parent) :
    parent ∈ arena.chain node :=
  (mem_chain_iff known).mpr (.inr (mem_chain_self (contains_parent known)))

theorem mem_chain_trans {middle : Nat} (upper : ancestor ∈ arena.chain middle)
    (lower : middle ∈ arena.chain node) : ancestor ∈ arena.chain node := by
  obtain ⟨outer, there, first, last⟩ := inside_of_mem_chain upper
  obtain ⟨inner, present, second, stop⟩ := inside_of_mem_chain lower
  obtain ⟨same, alsoPresent, fits, _⟩ := entry_inside there first last
  rw [present] at alsoPresent
  obtain rfl := Option.some.inj alsoPresent
  exact mem_chain_of_inside there (Nat.le_trans first second) (Nat.lt_of_lt_of_le stop fits)

theorem mem_chain_of_le {first second : Nat} (one : first ∈ arena.chain node)
    (other : second ∈ arena.chain node) (le : first ≤ second) : first ∈ arena.chain second := by
  obtain ⟨outer, there, _, last⟩ := inside_of_mem_chain one
  exact mem_chain_of_inside there le (Nat.lt_of_le_of_lt (le_of_mem_chain other) last)

theorem eq_of_mem_chain {first second : Nat} (one : first ∈ arena.chain second)
    (other : second ∈ arena.chain first) : first = second :=
  Nat.le_antisymm (le_of_mem_chain one) (le_of_mem_chain other)

theorem properAncestor_iff : arena.ProperAncestor ancestor node ↔
    ∃ parent, arena.parent? node = some parent ∧ ancestor ∈ arena.chain parent := by
  constructor
  · rintro ⟨member, differ⟩
    cases known : arena.parent? node with
    | none => exact absurd (eq_of_mem_chain_root known member) differ
    | some parent => exact ⟨parent, rfl, ((mem_chain_iff known).mp member).resolve_left differ⟩
  · rintro ⟨parent, known, member⟩
    have lower := parent?_lt known
    have least := le_of_mem_chain member
    exact ⟨(mem_chain_iff known).mpr (.inr member), by omega⟩

theorem eq_of_siblings {first second : Nat} (one : arena.parent? first = some parent)
    (other : arena.parent? second = some parent) (above : first ∈ arena.chain node)
    (alsoAbove : second ∈ arena.chain node) : first = second := by
  by_contra differ
  -- The upper one of the two would lie on the way up from their parent.
  rcases Nat.le_total first second with le | le
  · have member := ((mem_chain_iff other).mp (mem_chain_of_le above alsoAbove le)).resolve_left
      differ
    exact absurd (le_of_mem_chain member) (Nat.not_le.mpr (parent?_lt one))
  · have member := ((mem_chain_iff one).mp (mem_chain_of_le alsoAbove above le)).resolve_left
      (Ne.symm differ)
    exact absurd (le_of_mem_chain member) (Nat.not_le.mpr (parent?_lt other))

theorem Nearest.unique {first second : Nat} (one : arena.Nearest fits node first)
    (other : arena.Nearest fits node second) : first = second :=
  eq_of_mem_chain (other.deepest first one.above one.holds)
    (one.deepest second other.above other.holds)

theorem Nearest.self (inside : arena.contains node = true) (here : fits node) :
    arena.Nearest fits node node :=
  ⟨mem_chain_self inside, here, fun _ member _ => member⟩

theorem nearest_of_not_fits {found : Nat} (known : arena.parent? node = some parent)
    (misses : ¬ fits node) : arena.Nearest fits node found ↔ arena.Nearest fits parent found := by
  constructor
  · rintro ⟨above, holds, deepest⟩
    refine ⟨((mem_chain_iff known).mp above).resolve_left ?_, holds, ?_⟩
    · rintro rfl
      exact misses holds
    · intro other member
      exact deepest other ((mem_chain_iff known).mpr (.inr member))
  · rintro ⟨above, holds, deepest⟩
    refine ⟨(mem_chain_iff known).mpr (.inr above), holds, ?_⟩
    intro other member alsoFits
    rcases (mem_chain_iff known).mp member with rfl | higher
    · exact absurd alsoFits misses
    · exact deepest other higher alsoFits

theorem nearest?_eq {test : Nat → Bool} (inside : arena.contains node = true) :
    arena.nearest? node test = if test node then some node
      else (arena.parent? node).bind fun parent => arena.nearest? parent test := by
  rw [nearest?, chain_eq inside, List.find?_cons]
  cases test node with
  | true => rfl
  | false => cases arena.parent? node <;> rfl

theorem nearest?_eq_some_iff {test : Nat → Bool} {found : Nat} :
    arena.nearest? node test = some found ↔
      arena.Nearest (fun other => test other = true) node found := by
  -- By induction on the number of the node, since a parent has a smaller one.
  induction node using Nat.strongRecOn with
  | ind node ih =>
    by_cases inside : arena.contains node = true
    · rw [nearest?_eq inside]
      by_cases here : test node = true
      · have nearest : arena.Nearest (fun other => test other = true) node node :=
          .self inside here
        rw [if_pos here, Option.some_inj]
        constructor
        · rintro rfl
          exact nearest
        · exact nearest.unique
      · rw [if_neg here]
        cases known : arena.parent? node with
        | none =>
          refine iff_of_false (by simp) ?_
          intro nearest
          obtain rfl := eq_of_mem_chain_root known nearest.above
          exact here nearest.holds
        | some parent =>
          rw [Option.bind_some, ih parent (parent?_lt known)]
          exact (nearest_of_not_fits known here).symm
    · rw [nearest?, chain_of_outside inside]
      refine iff_of_false (by simp) ?_
      intro nearest
      exact inside (contains_of_mem_chain nearest.above)

theorem enclosingStatementWhere?_eq_some_iff {mapped : Nat → Bool} {found : Nat}
    (same : ∀ above, mapped above = true ↔ fits above) :
    arena.enclosingStatementWhere? node mapped = some found ↔
      arena.Nearest (fun above => arena.isStatement above = true ∧ fits above) node found := by
  have test : (fun above => (arena.isStatement above && mapped above) = true) =
      fun above => arena.isStatement above = true ∧ fits above := by
    funext above
    rw [Bool.and_eq_true, same]
  rw [enclosingStatementWhere?, nearest?_eq_some_iff, test]

theorem exists_nearest (there : ∃ other ∈ arena.chain node, fits other) :
    ∃ found, arena.Nearest fits node found := by
  classical
  obtain ⟨other, member, here⟩ := there
  cases searched : arena.nearest? node fun other => decide (fits other) with
  | none =>
    have missed := List.find?_eq_none.mp searched other member
    exact absurd (decide_eq_true here) missed
  | some found =>
    have nearest := nearest?_eq_some_iff.mp searched
    simp only [decide_eq_true_eq] at nearest
    exact ⟨found, nearest⟩

theorem nearest_properAncestor {found : Nat} :
    arena.Nearest (fun other => arena.ProperAncestor other node ∧ fits other) node found ↔
      ∃ parent, arena.parent? node = some parent ∧ arena.Nearest fits parent found := by
  constructor
  · rintro ⟨above, ⟨proper, holds⟩, deepest⟩
    obtain ⟨parent, known, member⟩ := properAncestor_iff.mp proper
    refine ⟨parent, known, member, holds, ?_⟩
    intro other higher alsoFits
    have alsoProper := properAncestor_iff.mpr ⟨parent, known, higher⟩
    exact deepest other alsoProper.1 ⟨alsoProper, alsoFits⟩
  · rintro ⟨parent, known, above, holds, deepest⟩
    have proper := properAncestor_iff.mpr ⟨parent, known, above⟩
    refine ⟨proper.1, ⟨proper, holds⟩, ?_⟩
    rintro other - ⟨alsoProper, alsoFits⟩
    obtain ⟨same, alsoKnown, higher⟩ := properAncestor_iff.mp alsoProper
    rw [known] at alsoKnown
    obtain rfl := Option.some.inj alsoKnown
    exact deepest other higher alsoFits

theorem exists_furthest (there : ∃ other ∈ arena.chain node, fits other) :
    ∃ found, arena.Furthest fits node found := by
  obtain ⟨other, member, here⟩ := there
  -- On one way up the furthest node is the one with the smallest number.
  have least : ∃ found, found ∈ arena.chain node ∧ fits found ∧
      ∀ next ∈ arena.chain node, fits next → found ≤ next := by
    classical
    have inhabited : ∃ number, number ∈ arena.chain node ∧ fits number := ⟨other, member, here⟩
    refine ⟨Nat.find inhabited, (Nat.find_spec inhabited).1, (Nat.find_spec inhabited).2, ?_⟩
    intro next alsoMember alsoFits
    exact Nat.find_min' inhabited ⟨alsoMember, alsoFits⟩
  obtain ⟨found, above, holds, smallest⟩ := least
  refine ⟨found, above, holds, ?_⟩
  intro next alsoMember alsoFits
  exact mem_chain_of_le above alsoMember (smallest next alsoMember alsoFits)

theorem Furthest.parent? {kept top : Nat}
    (furthest : arena.Furthest (fun other => ¬ fits other ∧ arena.ProperAncestor kept other)
      node top)
    (nearest : arena.Nearest fits node kept) : arena.parent? top = some kept := by
  obtain ⟨parent, known, above⟩ := properAncestor_iff.mp furthest.holds.2
  by_cases same : kept = parent
  · rw [known, same]
  · -- Otherwise the parent would not fit either, and it lies higher.
    have onWay := mem_chain_trans (parent_mem_chain known) furthest.above
    have misses : ¬ fits parent := fun here =>
      same (eq_of_mem_chain above (nearest.deepest parent onWay here))
    have lower := le_of_mem_chain (furthest.highest parent onWay ⟨misses, above, same⟩)
    exact absurd (parent?_lt known) (Nat.not_lt.mpr lower)

theorem exists_furthest_below {kept : Nat} (misses : ¬ fits node)
    (nearest : arena.Nearest fits node kept) :
    ∃ top, arena.Furthest (fun other => ¬ fits other ∧ arena.ProperAncestor kept other)
      node top := by
  have apart : kept ≠ node := by
    rintro rfl
    exact misses nearest.holds
  have inside := contains_of_mem_chain nearest.above
  exact exists_furthest ⟨node, mem_chain_self inside, misses, nearest.above, apart⟩

theorem nearest_of_parent {root : Nat} (known : arena.parent? root = some parent)
    (here : fits parent) (misses : ∀ other ∈ arena.subtree root, ¬ fits other)
    (inside : node ∈ arena.subtree root) : arena.Nearest fits node parent := by
  have onWay := mem_subtree.mp inside
  refine ⟨mem_chain_trans (parent_mem_chain known) onWay, here, ?_⟩
  intro other member alsoFits
  rcases Nat.le_total root other with below | above
  · have within := mem_subtree.mpr (mem_chain_of_le onWay member below)
    exact absurd alsoFits (misses other within)
  · apply ((mem_chain_iff known).mp (mem_chain_of_le member onWay above)).resolve_left
    rintro rfl
    exact misses other (mem_subtree.mpr (mem_chain_self (contains_of_parent? known))) alsoFits

/-- The nodes with a property hang together: all but the topmost have a parent that has it too. -/
structure Piece (arena : Arena) (fits : Nat → Prop) (parent root : Nat) : Prop where
  top : fits root
  known : arena.parent? root = some parent
  outside : ¬ fits parent
  inside : ∀ node upper, fits node → arena.parent? node = some upper → node ≠ root → fits upper

theorem Piece.eq_root {root upper : Nat} (piece : arena.Piece fits parent root) (here : fits node)
    (known : arena.parent? node = some upper) (misses : ¬ fits upper) : node = root := by
  by_contra apart
  exact misses (piece.inside node upper here known apart)

theorem piece_of_chain {root : Nat} (spared : Nat → Prop) (known : arena.parent? root = some parent)
    (top : ¬ spared root)
    (down : ∀ node upper, arena.parent? node = some upper → spared upper → spared node)
    (fits_iff : ∀ node, arena.contains node = true →
      (fits node ↔ root ∈ arena.chain node ∧ ¬ spared node)) :
    arena.Piece fits parent root where
  top := by
    have inside := contains_of_parent? known
    exact (fits_iff root inside).mpr ⟨mem_chain_self inside, top⟩
  known := known
  outside := by
    intro here
    have above := ((fits_iff parent (contains_parent known)).mp here).1
    exact absurd (le_of_mem_chain above) (Nat.not_le.mpr (parent?_lt known))
  inside := by
    intro node upper here upward apart
    obtain ⟨above, left⟩ := (fits_iff node (contains_of_parent? upward)).mp here
    refine (fits_iff upper (contains_parent upward)).mpr ⟨?_, mt (down node upper upward) left⟩
    exact ((mem_chain_iff upward).mp above).resolve_left (Ne.symm apart)

end RepairMining.Arena
