import Mathlib.Algebra.Group.Nat.Defs
import Mathlib.Data.List.Induction
import Mathlib.Data.List.Nodup
import Mathlib.Data.List.Perm.Subperm
import RepairMining.Syntax.Path
import RepairMining.Proofs.Syntax.Ancestors

namespace RepairMining

namespace NodePath

variable {step : Nat} {steps : List Nat} {path : NodePath} {text : List Char}

def AllDigits (text : List Char) : Prop := ∀ c ∈ text, c.isDigit = true

theorem digit?_eq {c : Char} (decimal : c.isDigit = true) :
    digit? c = some (c.toNat - '0'.toNat) := by
  have between : '0' ≤ c ∧ c ≤ '9' := by
    simpa [Char.isDigit, Char.le_def] using decimal
  rw [digit?, if_pos between]

theorem le_ofDigitChars (value : Nat) (text : List Char) :
    value ≤ Nat.ofDigitChars 10 text value := by
  rw [Nat.ofDigitChars_eq_ofDigitChars_zero]
  have positive : 0 < 10 ^ text.length := Nat.pow_pos (by decide)
  have grows := Nat.le_mul_of_pos_left value positive
  omega

theorem readDigits_eq {value : Nat} (digits : AllDigits text)
    (small : Nat.ofDigitChars 10 text value < stepBound) :
    readDigits value text = .ok (Nat.ofDigitChars 10 text value) := by
  induction text generalizing value with
  | nil => rfl
  | cons c rest ih =>
    obtain ⟨here, later⟩ := List.forall_mem_cons.mp digits
    rw [Nat.ofDigitChars_cons] at small ⊢
    have next : value * 10 + (c.toNat - '0'.toNat) < stepBound := by
      have grown := le_ofDigitChars (10 * value + (c.toNat - '0'.toNat)) rest
      omega
    rw [readDigits, digit?_eq here]
    simp only [if_pos next]
    rw [Nat.mul_comm value 10]
    exact ih later small

theorem readStep_eq (digits : AllDigits text) (nonempty : text ≠ []) :
    readStep text = readDigits 0 text := by
  unfold readStep
  split
  · exact absurd rfl nonempty
  · exact absurd (digits '+' List.mem_cons_self) (by decide)
  · exact absurd (digits '+' List.mem_cons_self) (by decide)
  · rfl

theorem allDigits_toDigits (step : Nat) : AllDigits (Nat.toDigits 10 step) := fun _ member =>
  Nat.isDigit_of_mem_toDigits (by decide) (by decide) member

theorem readStep_toDigits (small : step < stepBound) :
    readStep (Nat.toDigits 10 step) = .ok step := by
  have value : Nat.ofDigitChars 10 (Nat.toDigits 10 step) 0 = step := Nat.ofDigitChars_ten_toDigits
  rw [readStep_eq (allDigits_toDigits step) Nat.toDigits_ne_nil,
    readDigits_eq (allDigits_toDigits step) (by rwa [value]), value]

theorem readSteps_toDigits (small : ∀ step ∈ steps, step < stepBound) :
    readSteps (steps.map (Nat.toDigits 10)) = .ok steps := by
  induction steps with
  | nil => rfl
  | cons step steps ih =>
    obtain ⟨here, later⟩ := List.forall_mem_cons.mp small
    rw [List.map_cons, readSteps, readStep_toDigits here]
    simp only [ih later]

structure Bare (text : List Char) : Prop where
  first : ∃ c rest, text = c :: rest ∧ c ≠ '/'
  last : ∃ front c, text = front ++ [c] ∧ c ≠ '/'

theorem ne_slash_of_isDigit {c : Char} (decimal : c.isDigit = true) : c ≠ '/' := by
  rintro rfl
  cases decimal

theorem bare_of_digits (digits : AllDigits text) (nonempty : text ≠ []) : Bare text where
  first := by
    obtain ⟨c, rest, rfl⟩ := List.exists_cons_of_ne_nil nonempty
    exact ⟨c, rest, rfl, ne_slash_of_isDigit (digits c List.mem_cons_self)⟩
  last := by
    have member := List.getLast_mem nonempty
    exact ⟨text.dropLast, text.getLast nonempty, (List.dropLast_append_getLast nonempty).symm,
      ne_slash_of_isDigit (digits _ member)⟩

theorem Bare.append {front back : List Char} (bare : Bare front) (also : Bare back)
    (between : List Char) : Bare (front ++ between ++ back) where
  first := by
    obtain ⟨c, rest, rfl, apart⟩ := bare.first
    exact ⟨c, rest ++ between ++ back, by simp, apart⟩
  last := by
    obtain ⟨early, c, rfl, apart⟩ := also.last
    exact ⟨front ++ between ++ early, c, by simp, apart⟩

theorem bare_intercalate {parts : List (List Char)} (bare : ∀ part ∈ parts, Bare part)
    (nonempty : parts ≠ []) : Bare (['/'].intercalate parts) := by
  induction parts with
  | nil => exact absurd rfl nonempty
  | cons part parts ih =>
    obtain ⟨here, later⟩ := List.forall_mem_cons.mp bare
    by_cases ended : parts = []
    · subst ended
      rwa [List.intercalate_singleton]
    · rw [List.intercalate_cons_of_ne_nil ended]
      exact here.append (ih later ended) ['/']

theorem dropWhile_slashes (count : Nat) (text : List Char) :
    (List.replicate count '/' ++ text).dropWhile (· == '/') = text.dropWhile (· == '/') := by
  apply List.dropWhile_append_of_pos
  intro c member
  rw [List.eq_of_mem_replicate member]
  rfl

theorem trimSlashes_eq (bare : Bare text) (front back : Nat) :
    trimSlashes (List.replicate front '/' ++ text ++ List.replicate back '/') = text := by
  have start : (text ++ List.replicate back '/').dropWhile (· == '/') =
      text ++ List.replicate back '/' := by
    obtain ⟨c, rest, rfl, apart⟩ := bare.first
    rw [List.cons_append, List.dropWhile_cons_of_neg (by simpa using apart)]
  have stop : text.reverse.dropWhile (· == '/') = text.reverse := by
    obtain ⟨early, c, rfl, apart⟩ := bare.last
    rw [List.reverse_append, List.reverse_singleton, List.singleton_append,
      List.dropWhile_cons_of_neg (by simpa using apart)]
  rw [trimSlashes, List.append_assoc, dropWhile_slashes, start, List.reverse_append,
    List.reverse_replicate, dropWhile_slashes, stop, List.reverse_reverse]

theorem trimSlashes_slashes (count : Nat) : trimSlashes (List.replicate count '/') = [] := by
  have gone : (List.replicate count '/').dropWhile (· == '/') = [] := by
    rw [← List.append_nil (List.replicate count '/'), dropWhile_slashes]
    rfl
  rw [trimSlashes, gone]
  rfl

def slashes (count : Nat) : String := String.ofList (List.replicate count '/')

theorem toList_toText (nonempty : path.steps ≠ []) :
    path.toText.toList = ['/'].intercalate (path.steps.map (Nat.toDigits 10)) := by
  obtain ⟨step, steps, split⟩ := List.exists_cons_of_ne_nil nonempty
  rw [toText, split]
  simp only [String.toList_intercalate, List.map_map]
  congr 2
  funext step
  exact Nat.toList_repr

theorem bare_toText (nonempty : path.steps ≠ []) : Bare path.toText.toList := by
  rw [toList_toText nonempty]
  apply bare_intercalate
  · intro part member
    obtain ⟨step, _, rfl⟩ := List.mem_map.mp member
    exact bare_of_digits (allDigits_toDigits step) Nat.toDigits_ne_nil
  · simpa using nonempty

theorem splitOn_toText (nonempty : path.steps ≠ []) :
    path.toText.toList.splitOn '/' = path.steps.map (Nat.toDigits 10) := by
  rw [toList_toText nonempty]
  apply List.splitOn_intercalate
  · intro part member slash
    obtain ⟨step, _, rfl⟩ := List.mem_map.mp member
    exact ne_slash_of_isDigit (allDigits_toDigits step _ slash) rfl
  · simpa using nonempty

theorem parse_toText (small : ∀ step ∈ path.steps, step < stepBound) (front back : Nat) :
    parse (slashes front ++ path.toText ++ slashes back) = .ok path := by
  by_cases root : path.steps = []
  · have written : (slashes front ++ path.toText ++ slashes back).toList =
        List.replicate (front + 1 + back) '/' := by
      rw [toText, root]
      simp [slashes, List.replicate_add]
    rw [parse, written, trimSlashes_slashes]
    exact congrArg (fun steps => Except.ok (NodePath.mk steps)) root.symm
  · have trimmed : trimSlashes (slashes front ++ path.toText ++ slashes back).toList =
        path.toText.toList := by
      rw [String.toList_append, String.toList_append, slashes, slashes, String.toList_ofList,
        String.toList_ofList, trimSlashes_eq (bare_toText root)]
    rw [parse, trimmed]
    split
    · rename_i blank
      obtain ⟨c, rest, filled, _⟩ := (bare_toText root).first
      rw [blank] at filled
      cases filled
    · rw [splitOn_toText root, readSteps_toDigits small]
      rfl

end NodePath

namespace Arena

variable {arena : Arena} {node parent : Nat} {front back : List Nat} {step : Nat}

theorem pathOf_root (root : arena.parent? node = none) : arena.pathOf node = ⟨[]⟩ := by
  rw [pathOf]
  by_cases inside : arena.contains node = true
  · rw [chain_eq inside, root]
    rfl
  · rw [chain_of_outside inside]
    rfl

theorem pathOf_child (known : arena.parent? node = some parent) :
    (arena.pathOf node).steps =
      (arena.pathOf parent).steps ++ [(arena.children parent).idxOf node] := by
  rw [pathOf, pathOf, chain_eq (contains_of_parent? known), known, Option.map_some,
    Option.getD_some, chain_eq (contains_parent known), positions, List.reverse_cons]

theorem follow_append : arena.follow node (front ++ back) =
    (arena.follow node front).bind fun middle => arena.follow middle back := by
  induction front generalizing node with
  | nil => rfl
  | cons step front ih =>
    rw [List.cons_append, follow, follow]
    cases (arena.children node)[step]? with
    | none => rfl
    | some child => exact ih

theorem follow_concat : arena.follow node (front ++ [step]) =
    (arena.follow node front).bind fun middle => (arena.children middle)[step]? := by
  rw [follow_append]
  congr 1
  funext middle
  rw [follow]
  cases (arena.children middle)[step]? <;> rfl

theorem contains_root (arena : Arena) : arena.contains 0 = true :=
  contains_iff.mpr arena.size_pos

theorem contains_follow {found : Nat} (inside : arena.contains node = true)
    (followed : arena.follow node front = some found) : arena.contains found = true := by
  induction front generalizing node with
  | nil =>
    obtain rfl := Option.some.inj followed
    exact inside
  | cons step front ih =>
    rw [follow] at followed
    cases taken : (arena.children node)[step]? with
    | none => simp [taken] at followed
    | some child =>
      rw [taken] at followed
      exact ih (contains_child (List.mem_of_getElem? taken)) followed

theorem parent?_root (arena : Arena) : arena.parent? 0 = none := by
  by_contra parented
  obtain ⟨parent, known⟩ := Option.ne_none_iff_exists'.mp parented
  exact absurd (parent?_lt known) (Nat.not_lt_zero _)

theorem eq_root_of_parent? (inside : arena.contains node = true)
    (root : arena.parent? node = none) : node = 0 := by
  by_contra later
  obtain ⟨entry, present⟩ := exists_entry inside
  obtain ⟨parent, known⟩ := exists_parent present (Nat.pos_of_ne_zero later)
  rw [parent?, present, Option.bind_some, known] at root
  cases root

/-- The path of a node leads to it. The induction is on its number, as its parent has a smaller one.
-/
theorem follow_pathOf (inside : arena.contains node = true) :
    arena.follow 0 (arena.pathOf node).steps = some node := by
  induction node using Nat.strongRecOn with
  | ind node ih =>
    cases known : arena.parent? node with
    | none =>
      rw [pathOf_root known, eq_root_of_parent? inside known]
      rfl
    | some parent =>
      rw [pathOf_child known, follow_concat, ih parent (parent?_lt known) (contains_parent known),
        Option.bind_some]
      exact List.getElem?_idxOf (mem_children_iff.mpr known)

theorem nodup_children (arena : Arena) (node : Nat) : (arena.children node).Nodup :=
  (children_increasing node).nodup

/-- Steps that lead to a node are its path. The induction is on the steps, from the last one. -/
theorem pathOf_of_follow {steps : List Nat} (followed : arena.follow 0 steps = some node) :
    (arena.pathOf node).steps = steps := by
  induction steps using List.reverseRecOn generalizing node with
  | nil =>
    obtain rfl := Option.some.inj followed
    rw [pathOf_root arena.parent?_root]
  | append_singleton front step ih =>
    rw [follow_concat] at followed
    obtain ⟨middle, led, taken⟩ := Option.bind_eq_some_iff.mp followed
    obtain ⟨within, rfl⟩ := List.getElem?_eq_some_iff.mp taken
    have known := parent?_child (List.getElem_mem within)
    rw [pathOf_child known, ih led, (arena.nodup_children middle).idxOf_getElem step within]

theorem pathOf_of_resolve? {path : NodePath} (led : arena.resolve? path = some node) :
    arena.pathOf node = path := by
  cases path
  exact congrArg NodePath.mk (pathOf_of_follow led)

theorem at?_toText {path : NodePath} (small : ∀ step ∈ path.steps, step < NodePath.stepBound) :
    arena.at? path.toText = arena.resolve? path := by
  have read := NodePath.parse_toText small 0 0
  rw [show NodePath.slashes 0 = "" from rfl, String.empty_append, String.append_empty] at read
  rw [at?, read]

theorem follow_eq_none_iff {steps : List Nat} : arena.follow node steps = none ↔
    ∃ front step back middle, steps = front ++ step :: back ∧
      arena.follow node front = some middle ∧ (arena.children middle).length ≤ step := by
  constructor
  · intro lost
    induction steps generalizing node with
    | nil => cases lost
    | cons step steps ih =>
      rw [follow] at lost
      cases taken : (arena.children node)[step]? with
      | none => exact ⟨[], step, steps, node, rfl, rfl, List.getElem?_eq_none_iff.mp taken⟩
      | some child =>
        rw [taken] at lost
        obtain ⟨front, last, back, middle, rfl, led, beyond⟩ := ih lost
        refine ⟨step :: front, last, back, middle, rfl, ?_, beyond⟩
        rw [follow, taken]
        exact led
  · rintro ⟨front, step, back, middle, rfl, led, beyond⟩
    rw [follow_append, led, Option.bind_some, follow, List.getElem?_eq_none_iff.mpr beyond]

theorem steps_lt_size (inside : arena.contains node = true) :
    ∀ step ∈ (arena.pathOf node).steps, step < arena.size := by
  induction node using Nat.strongRecOn with
  | ind node ih =>
    cases known : arena.parent? node with
    | none => simp [pathOf_root known]
    | some parent =>
      rw [pathOf_child known]
      intro step member
      rcases List.mem_append.mp member with upper | last
      · exact ih parent (parent?_lt known) (contains_parent known) step upper
      · obtain rfl := List.mem_singleton.mp last
        -- Children are different nodes of the tree, so there are no more of them than nodes.
        have within : arena.children parent ⊆ arena.nodes := fun child listed =>
          List.mem_range.mpr (contains_iff.mp (contains_child listed))
        have few := ((arena.nodup_children parent).subperm within).length_le
        have early := List.idxOf_lt_length_of_mem (mem_children_iff.mpr known)
        rw [nodes, List.length_range] at few
        omega

/-- Paths are faithful names. A node is found by its path, and also by what is written for it if the
tree has less than 2^32 nodes, which leaves room for every step. A path that leads to a node is the
path of this node, so that different nodes have different paths, and a path leads nowhere exactly if
a node on it has no child at the next step. A path of steps below 2^32 is read back from its written
form, whatever number of slashes stands at either end. -/
theorem paths_faithful (arena : Arena) :
    (∀ node, arena.contains node = true →
      arena.resolve? (arena.pathOf node) = some node ∧
      (arena.size < 2 ^ 32 → (∀ step ∈ (arena.pathOf node).steps, step < 2 ^ 32) ∧
        arena.at? (arena.pathOf node).toText = some node)) ∧
      (∀ path node, arena.resolve? path = some node →
        arena.contains node = true ∧ arena.pathOf node = path) ∧
      (∀ node other, arena.contains node = true → arena.contains other = true →
        arena.pathOf node = arena.pathOf other → node = other) ∧
      (∀ path, arena.resolve? path = none ↔ ∃ front step back node,
        path.steps = front ++ step :: back ∧ arena.resolve? ⟨front⟩ = some node ∧
        arena.contains node = true ∧ (arena.children node).length ≤ step) ∧
      ∀ path : NodePath, (∀ step ∈ path.steps, step < 2 ^ 32) → ∀ front back,
        NodePath.parse (NodePath.slashes front ++ path.toText ++ NodePath.slashes back) =
          .ok path := by
  refine ⟨?_, ?_, ?_, ?_, fun path => NodePath.parse_toText⟩
  · intro node inside
    refine ⟨follow_pathOf inside, fun few => ?_⟩
    have small : ∀ step ∈ (arena.pathOf node).steps, step < NodePath.stepBound := fun step member =>
      Nat.lt_trans (steps_lt_size inside step member) few
    exact ⟨small, by rw [at?_toText small, resolve?, follow_pathOf inside]⟩
  · intro path node led
    exact ⟨contains_follow arena.contains_root led, pathOf_of_resolve? led⟩
  · intro node other inside alsoInside same
    have led := follow_pathOf inside
    rw [same, follow_pathOf alsoInside] at led
    exact (Option.some.inj led).symm
  · intro path
    rw [resolve?, follow_eq_none_iff]
    constructor
    · rintro ⟨front, step, back, node, split, led, beyond⟩
      exact ⟨front, step, back, node, split, led, contains_follow arena.contains_root led, beyond⟩
    · rintro ⟨front, step, back, node, split, led, _, beyond⟩
      exact ⟨front, step, back, node, split, led, beyond⟩

end Arena

end RepairMining
