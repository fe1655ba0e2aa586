import RepairMining.Json.Value

namespace RepairMining.Json

namespace Numeral

theorem isDigit_eq (c : Char) : isDigit c = c.isDigit := by
  simp [isDigit, Char.isDigit, Char.le_def]

theorem digit_digitChar {n : Nat} (small : n < 10) : digit n.digitChar = n :=
  Nat.toNat_digitChar_sub_48_of_lt_ten small

theorem isDigit_of_mem {n : Nat} {c : Char} (member : c ∈ Nat.toDigits 10 n) :
    isDigit c = true := by
  rw [isDigit_eq]
  exact Nat.isDigit_of_mem_toDigits (by decide) (by decide) member

theorem absorb_toDigits {n : Nat} (small : n < bound) :
    (Nat.toDigits 10 n).foldl absorb (0, 0) = (n, 0) := by
  induction n using Nat.strongRecOn with
  | _ n ih =>
    by_cases single : n < 10
    · rw [Nat.toDigits_of_lt_base single]
      simp [absorb, digit_digitChar single, small]
    · have rest := ih (n / 10) (by omega) (by omega)
      have last : n % 10 < 10 := Nat.mod_lt n (by decide)
      rw [Nat.toDigits_of_base_le (by decide) (by omega), List.foldl_append, rest]
      simp only [List.foldl_cons, List.foldl_nil, absorb, digit_digitChar last]
      rw [if_pos ⟨trivial, by omega⟩]
      congr 1
      omega

theorem toDigits_head {n : Nat} (positive : 0 < n) :
    ∃ c rest, Nat.toDigits 10 n = c :: rest ∧ c ≠ '0' := by
  induction n using Nat.strongRecOn with
  | _ n ih =>
    by_cases single : n < 10
    · refine ⟨n.digitChar, [], Nat.toDigits_of_lt_base single, ?_⟩
      intro zero
      rw [Nat.digitChar_eq_zero] at zero
      omega
    · obtain ⟨c, rest, split, apart⟩ := ih (n / 10) (by omega) (by omega)
      refine ⟨c, rest ++ [(n % 10).digitChar], ?_, apart⟩
      rw [Nat.toDigits_of_base_le (by decide) (by omega), split]
      rfl

end Numeral

namespace Scan

def Stops : List Char → Prop
  | [] => True
  | c :: _ => Numeral.isDigit c = false ∧ c ≠ '.' ∧ c ≠ 'e' ∧ c ≠ 'E'

theorem takeWhile_digits {digits rest : List Char}
    (all : ∀ c ∈ digits, Numeral.isDigit c = true) (stops : Stops rest) :
    (digits ++ rest).takeWhile Numeral.isDigit = digits := by
  rw [List.takeWhile_append_of_pos all]
  cases rest with
  | nil => simp
  | cons c rest => simp [stops.1]

theorem dropWhile_digits {digits rest : List Char}
    (all : ∀ c ∈ digits, Numeral.isDigit c = true) (stops : Stops rest) :
    (digits ++ rest).dropWhile Numeral.isDigit = rest := by
  rw [List.dropWhile_append_of_pos all]
  cases rest with
  | nil => rfl
  | cons c rest => simp [stops.1]

theorem afterDigits_stops {rest : List Char} (stops : Stops rest) (n : Nat) :
    afterDigits false n 0 rest = (.number (.natural n), some rest) := by
  unfold afterDigits
  split
  · exact absurd rfl stops.2.1
  · exact absurd rfl stops.2.2.1
  · exact absurd rfl stops.2.2.2
  · rfl

theorem number_toDigits {n : Nat} (small : n < Numeral.bound) {rest : List Char}
    (stops : Stops rest) :
    number false (Nat.toDigits 10 n ++ rest) = (.number (.natural n), some rest) := by
  by_cases zero : n = 0
  · subst zero
    have ended : (rest.head?.map Numeral.isDigit).getD false = false := by
      cases rest with
      | nil => rfl
      | cons c rest => exact stops.1
    rw [Nat.toDigits_zero, List.singleton_append, number, if_neg (by simp [ended])]
    exact afterDigits_stops stops 0
  · have all : ∀ c ∈ Nat.toDigits 10 n, Numeral.isDigit c = true :=
      fun c member => Numeral.isDigit_of_mem member
    obtain ⟨first, digits, split, apart⟩ := Numeral.toDigits_head (Nat.pos_of_ne_zero zero)
    have taken := takeWhile_digits all stops
    have dropped := dropWhile_digits all stops
    have absorbed := Numeral.absorb_toDigits small
    rw [split, List.cons_append] at taken dropped
    rw [split] at absorbed
    rw [split, List.cons_append]
    unfold number
    split
    · rename_i same
      exact absurd (List.cons.inj same).1 apart
    · simp only [taken, dropped, absorbed]
      exact afterDigits_stops stops n

end Scan

end RepairMining.Json
