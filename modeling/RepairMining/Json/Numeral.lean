import RepairMining.Json.Shortest

namespace RepairMining.Json

structure Decimal where
  negative : Bool
  significand : Nat
  exponent : Int
  deriving DecidableEq, Repr

inductive Numeral where
  | natural (value : Nat)
  | negative (magnitude : Nat)
  | decimal (value : Decimal)
  deriving DecidableEq, Repr

namespace Decimal

def powerOfTen (exponent : Nat) : Float := Float.ofScientific 1 false exponent

/-- Scales by powers of ten that floating point numbers can hold; too large a number is none. -/
def scale : Nat → Float → Int → Option Float
  | 0, _, _ => some 0.0
  | fuel + 1, value, exponent =>
    if exponent < -308 then
      if value == 0.0 then some value else scale fuel (value / powerOfTen 308) (exponent + 308)
    else if exponent < 0 then some (value / powerOfTen (-exponent).toNat)
    else if exponent ≤ 308 then
      let scaled := value * powerOfTen exponent.toNat
      if scaled.isInf then none else some scaled
    else if value == 0.0 then some value
    else none

def magnitude? (decimal : Decimal) : Option Float :=
  scale 4 (Float.ofNat decimal.significand) decimal.exponent

def text (decimal : Decimal) : String :=
  let digits :=
    match decimal.magnitude? with
    | none => "inf"
    | some magnitude =>
      if magnitude == 0.0 then "0.0"
      else ((Shortest.ofBits magnitude.toBits).map Shortest.Digits.text).getD "0.0"
  if decimal.negative then "-" ++ digits else digits

end Decimal

namespace Numeral

def inRange : Numeral → Bool
  | decimal value => value.magnitude?.isSome
  | _ => true

def bound : Nat := 18446744073709551616

def isDigit (c : Char) : Bool := '0' ≤ c && c ≤ '9'

def digit (c : Char) : Nat := c.toNat - '0'.toNat

def absorb (state : Nat × Nat) (c : Char) : Nat × Nat :=
  let next := state.1 * 10 + digit c
  if state.2 = 0 ∧ next < bound then (next, 0) else (state.1, state.2 + 1)

/-- Digits after the point: the significand, how many of them it took, and whether it is full. -/
def absorbFraction (state : Nat × Nat × Bool) (c : Char) : Nat × Nat × Bool :=
  let next := state.1 * 10 + digit c
  if state.2.2 = false ∧ next < bound then (next, state.2.1 + 1, false)
  else (state.1, state.2.1, true)

def exponentOf (digits : List Char) : Nat := digits.foldl (fun value c => value * 10 + digit c) 0

/-- The value of an integer literal. Minus zero and numbers beyond 64 bits are floating point. -/
def ofInteger (negative : Bool) (significand dropped : Nat) : Numeral :=
  if dropped ≠ 0 then .decimal ⟨negative, significand, dropped⟩
  else if !negative then .natural significand
  else if significand ≠ 0 ∧ significand ≤ 9223372036854775808 then .negative significand
  else .decimal ⟨true, significand, 0⟩

end Numeral

end RepairMining.Json
