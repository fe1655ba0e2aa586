import RepairMining.Proofs.Json.Numbers

namespace RepairMining.Json

namespace Scan

theorem hexValue?_hexDigit {n : Nat} (small : n < 16) : hexValue? (Value.hexDigit n) = some n := by
  have every : ∀ n < 16, hexValue? (Value.hexDigit n) = some n := by decide
  exact every n small

theorem length_utf8_pos (c : Char) : 0 < (String.utf8EncodeChar c).length := by
  rw [String.length_utf8EncodeChar]
  exact Char.utf8Size_pos c

theorem codeUnit_control {n : Nat} (small : n < 32) (rest : List Char) :
    codeUnit ('0' :: '0' :: Value.hexDigit (n / 16) :: Value.hexDigit (n % 16) :: rest) =
      .ok (n, rest) := by
  have enough : ¬ ((('0' :: '0' :: Value.hexDigit (n / 16) :: Value.hexDigit (n % 16) ::
      rest).take 4).flatMap String.utf8EncodeChar).length < 4 := by
    have first := length_utf8_pos '0'
    have third := length_utf8_pos (Value.hexDigit (n / 16))
    have fourth := length_utf8_pos (Value.hexDigit (n % 16))
    simp only [List.take_succ_cons, List.take_zero, List.flatMap_cons, List.flatMap_nil,
      List.length_append, List.length_nil]
    omega
  have zero : hexValue? '0' = some 0 := rfl
  rw [codeUnit, if_neg enough]
  simp only [zero, hexValue?_hexDigit (show n / 16 < 16 by omega),
    hexValue?_hexDigit (show n % 16 < 16 by omega)]
  congr 2
  omega

theorem surrogate_control {n : Nat} (small : n < 32) (rest : List Char) :
    surrogate n rest = .char (Char.ofNat n) rest := by
  unfold surrogate
  rw [if_pos (.inl (by omega))]

theorem escape_cases (c : Char) :
    (∃ short, Value.escape c = ['\\', short] ∧ short ≠ 'u' ∧ simpleEscape? short = some c) ∨
      (c.toNat < 32 ∧ Value.escape c =
        ['\\', 'u', '0', '0', Value.hexDigit (c.toNat / 16), Value.hexDigit (c.toNat % 16)]) ∨
      (c ≠ '"' ∧ c ≠ '\\' ∧ ¬ c.toNat < 32 ∧ Value.escape c = [c]) := by
  by_cases listed : c ∈ ['"', '\\', '\x08', '\x0c', '\n', '\r', '\t']
  · left
    simp only [List.mem_cons, List.not_mem_nil, or_false] at listed
    rcases listed with rfl | rfl | rfl | rfl | rfl | rfl | rfl <;> exact ⟨_, rfl, by decide, rfl⟩
  · right
    simp only [List.mem_cons, List.not_mem_nil, or_false, not_or] at listed
    obtain ⟨quote, backslash, backspace, feed, line, carriage, tab⟩ := listed
    by_cases control : c.toNat < 32
    · left
      refine ⟨control, ?_⟩
      simp only [Value.escape, quote, backslash, backspace, feed, line, carriage, tab, control,
        if_true, if_false]
    · right
      refine ⟨quote, backslash, control, ?_⟩
      simp only [Value.escape, quote, backslash, backspace, feed, line, carriage, tab, control,
        if_false]

theorem stringFrom_escape (fuel : Nat) (chars : List Char) (whole : Bool) (c : Char)
    (rest : List Char) :
    stringFrom (fuel + 1) chars whole (Value.escape c ++ rest) =
      stringFrom fuel (c :: chars) whole rest := by
  rcases escape_cases c with ⟨short, escaped, apart, known⟩ | ⟨control, escaped⟩ |
    ⟨quote, backslash, visible, escaped⟩
  · rw [escaped, List.cons_append, List.singleton_append, stringFrom]
    · simp only [known]
    · exact apart
  · simp only [escaped, List.cons_append, List.nil_append, stringFrom, codeUnit_control control,
      surrogate_control control, Char.ofNat_toNat]
  · rw [escaped, List.singleton_append, stringFrom]
    · rw [if_neg visible]
    · exact quote
    · intro same
      exact absurd same backslash
    · intro tail same
      exact absurd same backslash
    · intro next tail same
      exact absurd same backslash

theorem stringFrom_escapes {fuel : Nat} {chars : List Char} {text : List Char} (rest : List Char)
    (enough : text.length < fuel) :
    stringFrom fuel chars true (text.flatMap Value.escape ++ '"' :: rest) =
      .closed (.ok (String.ofList (chars.reverse ++ text))) rest := by
  induction text generalizing fuel chars with
  | nil =>
    cases fuel with
    | zero => cases enough
    | succ fuel => simp [stringFrom]
  | cons c text ih =>
    cases fuel with
    | zero => cases enough
    | succ fuel =>
      rw [List.flatMap_cons, List.append_assoc, stringFrom_escape,
        ih (by simp only [List.length_cons] at enough; omega)]
      simp

end Scan

namespace Value

mutual

def Fits : Value → Prop
  | natural value => value < Numeral.bound
  | array items => ItemsFit items
  | object members => MembersFit members
  | _ => True

def ItemsFit : List Value → Prop
  | [] => True
  | item :: items => Fits item ∧ ItemsFit items

def MembersFit : List (String × Value) → Prop
  | [] => True
  | (_, value) :: members => Fits value ∧ MembersFit members

end

theorem length_le_flatMap_escape (text : List Char) :
    text.length ≤ (text.flatMap escape).length := by
  induction text with
  | nil => exact Nat.le_refl 0
  | cons c text ih =>
    have positive : 0 < (escape c).length := by
      rcases Scan.escape_cases c with ⟨_, escaped, _⟩ | ⟨_, escaped⟩ | ⟨_, _, _, escaped⟩ <;>
        simp [escaped]
    rw [List.flatMap_cons, List.length_append, List.length_cons]
    omega

theorem write_head (value : Value) :
    ∃ c rest, value.write = c :: rest ∧ Scan.isBlank c = false ∧ c ≠ ']' := by
  cases value with
  | null => exact ⟨_, _, rfl, by decide, by decide⟩
  | bool value => cases value <;> exact ⟨_, _, rfl, by decide, by decide⟩
  | natural value =>
    cases digits : Nat.toDigits 10 value with
    | nil => exact absurd digits Nat.toDigits_ne_nil
    | cons c rest =>
      have digit : Numeral.isDigit c = true := by
        apply Numeral.isDigit_of_mem (n := value)
        rw [digits]
        exact List.mem_cons_self
      refine ⟨c, rest, digits, ?_, ?_⟩
      · cases blank : Scan.isBlank c with
        | false => rfl
        | true =>
          simp only [Scan.isBlank, Bool.or_eq_true, beq_iff_eq] at blank
          rcases blank with ((rfl | rfl) | rfl) | rfl <;> cases digit
      · rintro rfl
        cases digit
  | text value => exact ⟨_, _, rfl, by decide, by decide⟩
  | array items => exact ⟨_, _, rfl, by decide, by decide⟩
  | object members => exact ⟨_, _, rfl, by decide, by decide⟩

theorem writeItems_head (item : Value) (items : List Value) :
    ∃ c rest, writeItems (item :: items) = c :: rest ∧ Scan.isBlank c = false ∧ c ≠ ']' := by
  obtain ⟨c, rest, split, visible, opening⟩ := write_head item
  cases items with
  | nil => exact ⟨c, rest, split, visible, opening⟩
  | cons next items =>
    refine ⟨c, rest ++ ',' :: writeItems (next :: items), ?_, visible, opening⟩
    rw [writeItems, split, List.cons_append]
    simp

theorem writeMembers_head (member : String × Value) (members : List (String × Value)) :
    ∃ rest, writeMembers (member :: members) = '"' :: rest := by
  obtain ⟨key, value⟩ := member
  cases members with
  | nil => exact ⟨_, rfl⟩
  | cons next members => exact ⟨_, rfl⟩

end Value

namespace Scan

theorem blanks_cons {c : Char} (visible : isBlank c = false) (rest : List Char) :
    blanks (c :: rest) = c :: rest := by
  simp [blanks, visible]

theorem stops_of {c : Char} (stop : c ∈ [',', ']', '\x7d']) (rest : List Char) :
    Stops (c :: rest) := by
  simp only [List.mem_cons, List.not_mem_nil, or_false] at stop
  rcases stop with rfl | rfl | rfl <;> exact ⟨by decide, by decide, by decide, by decide⟩

theorem string_closed (fuel : Nat) (text : String) (rest : List Char)
    (enough : (Value.string text).length ≤ fuel) :
    string fuel (text.toList.flatMap Value.escape ++ '"' :: rest) = .closed (.ok text) rest := by
  have longer := Value.length_le_flatMap_escape text.toList
  rw [Value.string, List.length_cons, List.length_append, List.length_singleton] at enough
  rw [string, stringFrom_escapes rest (by omega)]
  simp

theorem value_quoted {fuel : Nat} (text : String) (rest : List Char)
    (enough : (Value.string text).length ≤ fuel) :
    Scan.value (fuel + 1) (Value.string text ++ rest) = (.text (.ok text), some rest) := by
  have closed := string_closed _ _ rest enough
  rw [Value.string, List.cons_append, List.append_assoc, List.singleton_append, Scan.value,
    blanks_cons (by decide)]
  simp only [closed]

theorem value_natural {fuel n : Nat} (small : n < Numeral.bound) {rest : List Char}
    (stops : Stops rest) :
    Scan.value (fuel + 1) (Nat.toDigits 10 n ++ rest) = (.number (.natural n), some rest) := by
  have number := number_toDigits small stops
  obtain ⟨c, digits, split, visible, _⟩ := Value.write_head (.natural n)
  have digit : Numeral.isDigit c = true := by
    apply Numeral.isDigit_of_mem (n := n)
    rw [show Nat.toDigits 10 n = c :: digits from split]
    exact List.mem_cons_self
  rw [show Nat.toDigits 10 n = c :: digits from split, List.cons_append] at number ⊢
  have apart (other : Char) (letter : Numeral.isDigit other = false) : c ≠ other := by
    rintro rfl
    rw [digit] at letter
    cases letter
  rw [Scan.value, blanks_cons visible]
  split
  · rename_i nothing
    cases nothing
  all_goals rename_i same
  case _ => exact absurd (List.cons.inj same).1 (apart 'n' rfl)
  case _ => exact absurd (List.cons.inj same).1 (apart 't' rfl)
  case _ => exact absurd (List.cons.inj same).1 (apart 'f' rfl)
  case _ => exact absurd (List.cons.inj same).1 (apart '-' rfl)
  case _ => exact absurd (List.cons.inj same).1 (apart '"' rfl)
  case _ => exact absurd (List.cons.inj same).1 (apart '[' rfl)
  case _ => exact absurd (List.cons.inj same).1 (apart '\x7b' rfl)
  case _ =>
    obtain ⟨rfl, rfl⟩ := List.cons.inj same
    rw [if_pos digit]
    exact number

mutual

theorem value_write (value : Value) (fits : value.Fits) (fuel : Nat) (rest : List Char)
    (enough : value.write.length < fuel) (stops : Stops rest) :
    Scan.value fuel (value.write ++ rest) = (value.toReading, some rest) := by
  match fuel with
  | 0 => cases enough
  | fuel + 1 =>
    match value with
    | .null => rfl
    | .bool true => rfl
    | .bool false => rfl
    | .natural value => exact value_natural fits stops
    | .text text => exact value_quoted text rest (Nat.le_of_lt_succ enough)
    | .array [] => rfl
    | .array (item :: items) =>
      rw [Value.write, List.length_cons, List.length_append, List.length_singleton] at enough
      have inner := items_write item items fits fuel rest (by omega)
      -- The first item opens with a character that closes no array, so the scan goes on to items.
      obtain ⟨c, text, starts, visible, opening⟩ := Value.writeItems_head item items
      rw [Value.write, List.cons_append, List.append_assoc, List.singleton_append, Scan.value,
        blanks_cons (by decide)]
      rw [starts, List.cons_append] at inner ⊢
      simp only [blanks_cons visible]
      split
      · rename_i same
        exact absurd (List.cons.inj same).1 opening
      · rename_i nothing
        cases nothing
      · rw [inner]
        rfl
    | .object [] => rfl
    | .object (member :: members) =>
      rw [Value.write, List.length_cons, List.length_append, List.length_singleton] at enough
      have inner := members_write member members fits fuel rest (by omega)
      obtain ⟨text, starts⟩ := Value.writeMembers_head member members
      rw [Value.write, List.cons_append, List.append_assoc, List.singleton_append, Scan.value,
        blanks_cons (by decide)]
      rw [starts, List.cons_append] at inner ⊢
      simp only [blanks_cons (show isBlank '"' = false by decide)]
      split
      · rename_i same
        exact absurd (List.cons.inj same).1 (by decide)
      · rename_i nothing
        cases nothing
      · rw [inner]
        rfl

theorem items_write (item : Value) (items : List Value) (fits : Value.ItemsFit (item :: items))
    (fuel : Nat) (rest : List Char)
    (enough : (Value.writeItems (item :: items)).length + 1 < fuel) :
    Scan.items fuel (Value.writeItems (item :: items) ++ ']' :: rest) =
      (Value.toReadings (item :: items), none, some rest) := by
  match fuel with
  | 0 => cases enough
  | fuel + 1 =>
    match items with
    | [] =>
      rw [Value.writeItems] at enough ⊢
      rw [Scan.items, value_write item fits.1 fuel _ (by omega) (stops_of (by decide) rest)]
      simp only [blanks_cons (show isBlank ']' = false by decide)]
      rfl
    | next :: items =>
      obtain ⟨c, text, starts, visible, opening⟩ := Value.writeItems_head next items
      rw [Value.writeItems, List.length_append, List.length_cons] at enough
      · have later := items_write next items fits.2 fuel rest (by omega)
        rw [Value.writeItems, List.append_assoc, List.cons_append, Scan.items,
          value_write item fits.1 fuel _ (by omega) (stops_of (by decide) _)]
        · rw [starts, List.cons_append] at later ⊢
          simp only [blanks_cons (show isBlank ',' = false by decide), blanks_cons visible]
          split
          · rename_i same
            exact absurd (List.cons.inj same).1 opening
          · rw [later]
            rfl
        · simp
      · simp

theorem members_write (member : String × Value) (members : List (String × Value))
    (fits : Value.MembersFit (member :: members)) (fuel : Nat) (rest : List Char)
    (enough : (Value.writeMembers (member :: members)).length + 1 < fuel) :
    Scan.members fuel (Value.writeMembers (member :: members) ++ '\x7d' :: rest) =
      (Value.toMembers (member :: members), none, some rest) := by
  match fuel, member with
  | 0, _ => cases enough
  | fuel + 1, (key, value) =>
    match members with
    | [] =>
      rw [Value.writeMembers, List.length_append, List.length_cons] at enough
      have closed := string_closed fuel key
        (':' :: (value.write ++ '\x7d' :: rest)) (by omega)
      have one := value_write value fits.1 fuel ('\x7d' :: rest) (by omega)
        (stops_of (by decide) rest)
      rw [Value.writeMembers, Value.string, List.cons_append, List.cons_append, Scan.members,
        blanks_cons (by decide)]
      simp only [List.append_assoc, List.cons_append, List.nil_append, closed, one,
        blanks_cons (show isBlank ':' = false by decide),
        blanks_cons (show isBlank '\x7d' = false by decide)]
      rfl
    | next :: members =>
      rw [Value.writeMembers, List.length_append, List.length_cons, List.length_append,
        List.length_cons] at enough
      · have later := members_write next members fits.2 fuel rest (by omega)
        have closed := string_closed fuel key
          (':' :: (value.write ++ ',' :: (Value.writeMembers (next :: members) ++ '\x7d' :: rest)))
          (by omega)
        have one := value_write value fits.1 fuel
          (',' :: (Value.writeMembers (next :: members) ++ '\x7d' :: rest)) (by omega)
          (stops_of (by decide) _)
        rw [Value.writeMembers, Value.string, List.cons_append, List.cons_append, Scan.members,
          blanks_cons (by decide)]
        · simp only [List.append_assoc, List.cons_append, List.nil_append, closed, one, later,
            blanks_cons (show isBlank ':' = false by decide),
            blanks_cons (show isBlank ',' = false by decide)]
          rfl
        · simp
      · simp

end

end Scan

theorem scan_compact {value : Value} (fits : value.Fits) :
    scan value.compact = (value.toReading, false) := by
  have whole := Scan.value_write value fits (value.write.length + 1) [] (by omega) trivial
  rw [List.append_nil] at whole
  rw [scan, Value.compact, String.toList_ofList, whole]
  rfl

end RepairMining.Json
