import RepairMining.Digest.Blake3
import RepairMining.Digest.Hex

namespace RepairMining

structure Digest where
  bytes : List UInt8
  length_eq : bytes.length = 32
  deriving DecidableEq

namespace Digest

def wordBytes (word : UInt32) : List UInt8 :=
  [word.toUInt8, (word >>> 8).toUInt8, (word >>> 16).toUInt8, (word >>> 24).toUInt8]

def ofChaining (value : Blake3.Chaining) : Digest where
  bytes := value.words.flatMap wordBytes
  length_eq := rfl

def zero : Digest := ⟨List.replicate 32 0, rfl⟩

def toHex (digest : Digest) : String := String.ofList (Hex.ofBytes digest.bytes)

instance : Repr Digest := ⟨fun digest _ => digest.toHex⟩

def Before (first second : Digest) : Prop := first.bytes < second.bytes

instance (first second : Digest) : Decidable (first.Before second) :=
  inferInstanceAs (Decidable (_ < _))

theorem eq_of_bytes {first second : Digest} (same : first.bytes = second.bytes) :
    first = second := by
  cases first
  cases second
  simp_all

theorem Before.trans {first second third : Digest} (lower : first.Before second)
    (upper : second.Before third) : first.Before third :=
  List.lt_trans lower upper

theorem Before.ne {first second : Digest} (lower : first.Before second) : first ≠ second := by
  rintro rfl
  exact List.lt_irrefl first.bytes lower

theorem before_or_eq_or_after (first second : Digest) :
    first.Before second ∨ first = second ∨ second.Before first := by
  by_cases lower : first.Before second
  · exact .inl lower
  · by_cases upper : second.Before first
    · exact .inr (.inr upper)
    · exact .inr (.inl (eq_of_bytes
        (List.le_antisymm (List.not_lt.mp upper) (List.not_lt.mp lower))))

inductive HexError where
  | wrongLength (bytes : Nat)
  | strayByte (byte : UInt8)
  deriving DecidableEq, Repr

def quoteChar (byte : UInt8) : String :=
  let n := byte.toNat
  if 128 ≤ n then "0x" ++ String.ofList (Hex.ofBytes [byte])
  else if n = 0 then "'\\0'"
  else if n = 9 then "'\\t'"
  else if n = 10 then "'\\n'"
  else if n = 13 then "'\\r'"
  else if n = 34 then "'\"'"
  else if n = 39 then "'\\''"
  else if n = 92 then "'\\\\'"
  else if n < 32 ∨ n = 127 then
    "'\\u\x7b" ++ String.ofList (Nat.toDigits 16 n) ++ "\x7d'"
  else "'" ++ String.singleton (Char.ofNat n) ++ "'"

def HexError.message : HexError → String
  | wrongLength bytes => "expected 64 hex bytes, received " ++ toString bytes
  | strayByte byte => "invalid hex character: " ++ quoteChar byte

def utf8 (text : String) : List UInt8 := text.toList.flatMap String.utf8EncodeChar

/-- The length is looked at before the digits. -/
def ofHex (text : String) : Except HexError Digest :=
  let codes := utf8 text
  if codes.length = 64 then
    match Hex.toBytes codes with
    | .error stray => .error (.strayByte stray)
    | .ok bytes =>
      if sized : bytes.length = 32 then .ok ⟨bytes, sized⟩ else .error (.wrongLength codes.length)
  else .error (.wrongLength codes.length)

end Digest

end RepairMining
