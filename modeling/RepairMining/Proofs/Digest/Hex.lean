import Mathlib.Data.String.Basic
import RepairMining.Digest.Basic

namespace RepairMining

namespace Hex

/-- A hexadecimal digit in either case. -/
def IsDigit (c : Char) : Prop := c.toLower ∈ "0123456789abcdef".toList

theorem isDigit_iff {c : Char} : IsDigit c ↔ ∃ n < 16, c.toLower = digit n := by
  have digits : "0123456789abcdef".toList = (List.range 16).map digit := by decide
  rw [IsDigit, digits, List.mem_map]
  simp only [List.mem_range, eq_comm]

theorem toLower_digit {n : Nat} (small : n < 16) : (digit n).toLower = digit n := by
  have every : ∀ n < 16, (digit n).toLower = digit n := by decide
  exact every n small

theorem digit_lt_iff {first second : Nat} (small : first < 16) (alsoSmall : second < 16) :
    digit first < digit second ↔ first < second := by
  have every : ∀ first < 16, ∀ second < 16, digit first < digit second ↔ first < second := by
    decide
  exact every first small second alsoSmall

theorem digit_inj {first second : Nat} (small : first < 16) (alsoSmall : second < 16) :
    digit first = digit second ↔ first = second := by
  have every : ∀ first < 16, ∀ second < 16, digit first = digit second ↔ first = second := by
    decide
  exact every first small second alsoSmall

theorem value?_lt {code : UInt8} {n : Nat} (read : value? code = some n) : n < 16 := by
  simp only [value?] at read
  split at read
  · cases read
    omega
  · split at read
    · cases read
      omega
    · split at read
      · cases read
        omega
      · cases read

theorem value?_iff {c : Char} (ascii : c.toNat < 128) {n : Nat} (small : n < 16) :
    value? (UInt8.ofNat c.toNat) = some n ↔ c.toLower = digit n := by
  have every : ∀ m < 128, ∀ n < 16,
      value? (UInt8.ofNat m) = some n ↔ (Char.ofNat m).toLower = digit n := by
    decide +kernel
  have one := every c.toNat ascii n small
  rwa [Char.ofNat_toNat] at one

theorem utf8_ascii {c : Char} (ascii : c.toNat < 128) :
    String.utf8EncodeChar c = [UInt8.ofNat c.toNat] :=
  if_pos (Nat.le_of_lt_succ ascii)

theorem utf8_wide {c : Char} (wide : 128 ≤ c.toNat) : ∃ lead more,
    String.utf8EncodeChar c = lead :: more ∧ value? lead = none := by
  have high {n : Nat} (above : 192 ≤ n) (byte : n < 256) : value? (UInt8.ofNat n) = none := by
    have kept : (UInt8.ofNat n).toNat = n := Nat.mod_eq_of_lt byte
    rw [value?]
    simp only [kept]
    rw [if_neg (by omega), if_neg (by omega), if_neg (by omega)]
  have several : ¬ c.val.toNat ≤ 127 := Nat.not_le.mpr wide
  simp only [String.utf8EncodeChar, if_neg several]
  split
  · exact ⟨_, _, rfl, high (by omega) (by omega)⟩
  · split
    · exact ⟨_, _, rfl, high (by omega) (by omega)⟩
    · exact ⟨_, _, rfl, high (by omega) (by omega)⟩

theorem utf8_of_toLower {c : Char} {n : Nat} (small : n < 16) (lower : c.toLower = digit n) :
    ∃ code, String.utf8EncodeChar c = [code] ∧ value? code = some n := by
  have ascii : c.toNat < 128 := by
    have below : ∀ n < 16, (digit n).toNat < 128 := by decide
    by_cases upper : c.val ≥ 'A'.val ∧ c.val ≤ 'Z'.val
    · have last : c.toNat ≤ 90 := upper.2
      omega
    · have same : c.toLower = c := dif_neg upper
      rw [← same, lower]
      exact below n small
  exact ⟨_, utf8_ascii ascii, (value?_iff ascii small).mpr lower⟩

theorem utf8_cases (c : Char) :
    (∃ code n, String.utf8EncodeChar c = [code] ∧ value? code = some n ∧ c.toLower = digit n) ∨
      ∃ lead more, String.utf8EncodeChar c = lead :: more ∧ value? lead = none := by
  by_cases ascii : c.toNat < 128
  · cases read : value? (UInt8.ofNat c.toNat) with
    | none => exact .inr ⟨_, _, utf8_ascii ascii, read⟩
    | some n =>
      exact .inl ⟨_, n, utf8_ascii ascii, read, (value?_iff ascii (value?_lt read)).mp read⟩
  · exact .inr (utf8_wide (Nat.not_lt.mp ascii))

theorem toBytes_pair {high low : UInt8} {upper lower : Nat} (first : value? high = some upper)
    (second : value? low = some lower) (rest : List UInt8) :
    toBytes (high :: low :: rest) =
      (toBytes rest).map (UInt8.ofNat (16 * upper + lower) :: ·) := by
  rw [toBytes]
  simp only [first, second]
  cases toBytes rest <;> rfl

theorem toBytes_stray {lead next : UInt8} (stray : value? lead = none) (rest : List UInt8) :
    toBytes (lead :: next :: rest) = .error lead := by
  rw [toBytes]
  simp only [stray]

theorem toBytes_straySecond {high lead : UInt8} {upper : Nat} (first : value? high = some upper)
    (stray : value? lead = none) (rest : List UInt8) :
    toBytes (high :: lead :: rest) = .error lead := by
  rw [toBytes]
  simp only [first, stray]

theorem ofBytes_ofNat {upper lower : Nat} (first : upper < 16) (second : lower < 16)
    (bytes : List UInt8) :
    ofBytes (UInt8.ofNat (16 * upper + lower) :: bytes) =
      digit upper :: digit lower :: ofBytes bytes := by
  have kept : (UInt8.ofNat (16 * upper + lower)).toNat = 16 * upper + lower :=
    Nat.mod_eq_of_lt (show 16 * upper + lower < 256 by omega)
  rw [ofBytes, kept, show (16 * upper + lower) / 16 = upper by omega,
    show (16 * upper + lower) % 16 = lower by omega]

theorem length_ofBytes (bytes : List UInt8) : (ofBytes bytes).length = 2 * bytes.length := by
  induction bytes with
  | nil => rfl
  | cons byte bytes ih =>
    rw [ofBytes, List.length_cons, List.length_cons, ih, List.length_cons]
    omega

theorem exists_digit {c : Char} {bytes : List UInt8} (member : c ∈ ofBytes bytes) :
    ∃ n < 16, c = digit n := by
  induction bytes with
  | nil => cases member
  | cons byte bytes ih =>
    have bounded := byte.toNat_lt
    rw [ofBytes, List.mem_cons, List.mem_cons] at member
    rcases member with rfl | rfl | member
    · exact ⟨byte.toNat / 16, by omega, rfl⟩
    · exact ⟨byte.toNat % 16, by omega, rfl⟩
    · exact ih member

theorem map_toLower_ofBytes (bytes : List UInt8) :
    (ofBytes bytes).map Char.toLower = ofBytes bytes := by
  induction bytes with
  | nil => rfl
  | cons byte bytes ih =>
    have bounded := byte.toNat_lt
    rw [ofBytes, List.map_cons, List.map_cons, toLower_digit (by omega), toLower_digit (by omega),
      ih]

theorem toBytes_of_toLower {chars : List Char} {bytes : List UInt8}
    (lower : chars.map Char.toLower = ofBytes bytes) :
    toBytes (chars.flatMap String.utf8EncodeChar) = .ok bytes ∧
      (chars.flatMap String.utf8EncodeChar).length = 2 * bytes.length := by
  induction bytes generalizing chars with
  | nil =>
    obtain rfl := List.map_eq_nil_iff.mp lower
    exact ⟨rfl, rfl⟩
  | cons byte bytes ih =>
    have bounded := byte.toNat_lt
    obtain ⟨high, others, rfl, first, lower⟩ := List.map_eq_cons_iff.mp lower
    obtain ⟨low, rest, rfl, second, lower⟩ := List.map_eq_cons_iff.mp lower
    obtain ⟨code, alone, upperHalf⟩ := utf8_of_toLower (by omega) first
    obtain ⟨next, alsoAlone, lowerHalf⟩ := utf8_of_toLower (by omega) second
    obtain ⟨read, counted⟩ := ih lower
    have halves : 16 * (byte.toNat / 16) + byte.toNat % 16 = byte.toNat := by omega
    rw [List.flatMap_cons, List.flatMap_cons, alone, alsoAlone, List.singleton_append,
      List.singleton_append, toBytes_pair upperHalf lowerHalf, read, halves, UInt8.ofNat_toNat,
      List.length_cons, List.length_cons, counted, List.length_cons]
    exact ⟨rfl, by omega⟩

/-- Nothing but digits is read. The induction takes two characters at a time. -/
theorem toLower_of_toBytes {count : Nat} {bytes : List UInt8} (chars : List Char)
    (even : (chars.flatMap String.utf8EncodeChar).length = 2 * count)
    (read : toBytes (chars.flatMap String.utf8EncodeChar) = .ok bytes) :
    chars.map Char.toLower = ofBytes bytes := by
  match chars with
  | [] =>
    cases read
    rfl
  | [c] =>
    rw [List.flatMap_singleton] at even read
    obtain ⟨code, _, alone, _⟩ | ⟨lead, more, several, stray⟩ := utf8_cases c
    · rw [alone, List.length_singleton] at even
      omega
    · rw [several] at even read
      cases more with
      | nil =>
        rw [List.length_singleton] at even
        omega
      | cons next more =>
        rw [toBytes_stray stray] at read
        cases read
  | high :: low :: rest =>
    rw [List.flatMap_cons, List.flatMap_cons] at even read
    obtain ⟨code, upper, alone, upperHalf, first⟩ | ⟨lead, more, several, stray⟩ := utf8_cases high
    · rw [alone, List.singleton_append] at even read
      obtain ⟨next, lower, alsoAlone, lowerHalf, second⟩ | ⟨lead, more, several, stray⟩ :=
        utf8_cases low
      · rw [alsoAlone, List.singleton_append] at even read
        rw [toBytes_pair upperHalf lowerHalf] at read
        cases inner : toBytes (rest.flatMap String.utf8EncodeChar) with
        | error stray =>
          rw [inner] at read
          cases read
        | ok later =>
          rw [inner] at read
          have shorter : (rest.flatMap String.utf8EncodeChar).length = 2 * (count - 1) := by
            rw [List.length_cons, List.length_cons] at even
            omega
          rw [List.map_cons, List.map_cons, toLower_of_toBytes rest shorter inner, first, second,
            ← ofBytes_ofNat (value?_lt upperHalf) (value?_lt lowerHalf)]
          exact congrArg ofBytes (Except.ok.inj read)
      · rw [several, List.cons_append, toBytes_straySecond upperHalf stray] at read
        cases read
    · obtain ⟨next, others, follows⟩ : ∃ next others, more ++ (String.utf8EncodeChar low ++
          rest.flatMap String.utf8EncodeChar) = next :: others := by
        apply List.exists_cons_of_ne_nil
        obtain ⟨_, _, alone, _⟩ | ⟨_, _, several, _⟩ := utf8_cases low <;> simp [*]
      rw [several, List.cons_append, follows, toBytes_stray stray] at read
      cases read

theorem exists_ofBytes {count : Nat} {chars : List Char} (digits : ∀ c ∈ chars, IsDigit c)
    (even : chars.length = 2 * count) :
    ∃ bytes : List UInt8, bytes.length = count ∧ chars.map Char.toLower = ofBytes bytes := by
  induction count generalizing chars with
  | zero =>
    obtain rfl := List.length_eq_zero_iff.mp even
    exact ⟨[], rfl, rfl⟩
  | succ count ih =>
    match chars with
    | [] | [_] =>
      simp only [List.length_nil, List.length_cons] at even
      omega
    | high :: low :: rest =>
      simp only [List.forall_mem_cons] at digits
      obtain ⟨first, second, digits⟩ := digits
      obtain ⟨upper, upperSmall, upperHalf⟩ := isDigit_iff.mp first
      obtain ⟨lower, lowerSmall, lowerHalf⟩ := isDigit_iff.mp second
      have fewer : rest.length = 2 * count := by
        rw [List.length_cons, List.length_cons] at even
        omega
      obtain ⟨bytes, counted, written⟩ := ih digits fewer
      refine ⟨UInt8.ofNat (16 * upper + lower) :: bytes, by rw [List.length_cons, counted], ?_⟩
      rw [List.map_cons, List.map_cons, written, upperHalf, lowerHalf,
        ofBytes_ofNat upperSmall lowerSmall]

theorem ofBytes_lt_iff {first second : List UInt8} :
    ofBytes first < ofBytes second ↔ first < second := by
  induction first generalizing second with
  | nil =>
    cases second with
    | nil => simp [ofBytes]
    | cons byte bytes => simp [ofBytes]
  | cons byte bytes ih =>
    cases second with
    | nil => simp [ofBytes]
    | cons other others =>
      have bounded := byte.toNat_lt
      have alsoBounded := other.toNat_lt
      have lower : byte < other ↔ byte.toNat / 16 < other.toNat / 16 ∨
          byte.toNat / 16 = other.toNat / 16 ∧ byte.toNat % 16 < other.toNat % 16 := by
        rw [UInt8.lt_iff_toNat_lt]
        omega
      have same : byte = other ↔
          byte.toNat / 16 = other.toNat / 16 ∧ byte.toNat % 16 = other.toNat % 16 := by
        rw [← UInt8.toNat_inj]
        omega
      rw [ofBytes, ofBytes, List.cons_lt_cons_iff, List.cons_lt_cons_iff, List.cons_lt_cons_iff,
        digit_lt_iff (by omega) (by omega), digit_lt_iff (by omega) (by omega),
        digit_inj (by omega) (by omega), digit_inj (by omega) (by omega), ih, lower, same,
        and_or_left, or_assoc, and_assoc]

end Hex

namespace Digest

variable {text : String} {digest first second : Digest}

def Written (text : String) : Prop := text.length = 64 ∧ ∀ c ∈ text.toList, Hex.IsDigit c

theorem toLower_eq_toHex : text.toLower = digest.toHex ↔
    text.toList.map Char.toLower = Hex.ofBytes digest.bytes := by
  have lower : text.toLower.toList = text.toList.map Char.toLower := String.toList_map
  rw [← String.toList_inj, lower, toHex, String.toList_ofList]

theorem toLower_toHex (digest : Digest) : digest.toHex.toLower = digest.toHex := by
  rw [toLower_eq_toHex, toHex, String.toList_ofList, Hex.map_toLower_ofBytes]

theorem ofHex_eq_ok : ofHex text = .ok digest ↔ text.toLower = digest.toHex := by
  obtain ⟨bytes, sized⟩ := digest
  rw [toLower_eq_toHex, ofHex]
  constructor
  · intro read
    split at read
    · rename_i counted
      cases inner : Hex.toBytes (utf8 text) with
      | error stray =>
        simp only [inner] at read
        cases read
      | ok found =>
        simp only [inner] at read
        split at read
        · obtain rfl := congrArg Digest.bytes (Except.ok.inj read)
          have even : (text.toList.flatMap String.utf8EncodeChar).length = 2 * 32 := counted
          exact Hex.toLower_of_toBytes text.toList even inner
        · cases read
    · cases read
  · intro lower
    obtain ⟨read, counted⟩ := Hex.toBytes_of_toLower lower
    rw [sized] at counted
    rw [utf8, if_pos counted, read]
    simp only [sized, dite_true]

theorem ofHex_toHex (digest : Digest) : ofHex digest.toHex = .ok digest :=
  ofHex_eq_ok.mpr digest.toLower_toHex

theorem exists_ofHex_iff : (∃ digest, ofHex text = .ok digest) ↔ Written text := by
  simp only [ofHex_eq_ok, toLower_eq_toHex]
  constructor
  · rintro ⟨digest, lower⟩
    constructor
    · rw [← String.length_toList, ← List.length_map Char.toLower, lower, Hex.length_ofBytes,
        digest.length_eq]
    · intro c member
      have written := List.mem_map_of_mem member (f := Char.toLower)
      rw [lower] at written
      exact Hex.isDigit_iff.mpr (Hex.exists_digit written)
  · rintro ⟨counted, digits⟩
    have even : text.toList.length = 2 * 32 := by rw [String.length_toList, counted]
    obtain ⟨bytes, sized, lower⟩ := Hex.exists_ofBytes digits even
    exact ⟨⟨bytes, sized⟩, lower⟩

theorem written_toHex (digest : Digest) : Written digest.toHex :=
  exists_ofHex_iff.mp ⟨digest, digest.ofHex_toHex⟩

theorem toHex_lt_iff : first.toHex < second.toHex ↔ first.Before second := by
  rw [String.lt_iff_toList_lt, toHex, toHex, String.toList_ofList, String.toList_ofList,
    Hex.ofBytes_lt_iff, Before]

end Digest

end RepairMining
