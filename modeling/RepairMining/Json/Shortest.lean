namespace RepairMining.Shortest

/-- The numbers strictly between `low` and `high`, or between them with the ends, that are rounded
to `value`. All three are counted in units of one fraction `numerator / denominator`. -/
structure Interval where
  low : Nat
  value : Nat
  high : Nat
  closed : Bool
  numerator : Nat
  denominator : Nat

/-- Interval of a positive finite number given by its bits. -/
def Interval.ofBits (bits : UInt64) : Interval :=
  let field := (bits >>> 52).toNat % 2048
  let fraction := bits.toNat % Nat.pow 2 52
  let mantissa := if field = 0 then fraction else fraction + Nat.pow 2 52
  let exponent : Int := (if field = 0 then 1 else (field : Int)) - 1077
  let narrow := fraction = 0 ∧ 1 < field
  { low := 4 * mantissa - (if narrow then 1 else 2)
    value := 4 * mantissa
    high := 4 * mantissa + 2
    closed := mantissa % 2 = 0
    numerator := if 0 ≤ exponent then Nat.pow 2 exponent.toNat else 1
    denominator := if 0 ≤ exponent then 1 else Nat.pow 2 (-exponent).toNat }

structure Digits where
  digits : Nat
  power : Int

def Interval.holds (interval : Interval) (candidate : Nat) (power : Int) : Bool :=
  let up := if 0 ≤ power then Nat.pow 10 power.toNat else 1
  let down := if 0 ≤ power then 1 else Nat.pow 10 (-power).toNat
  let place := candidate * up * interval.denominator
  let low := interval.low * interval.numerator * down
  let high := interval.high * interval.numerator * down
  if interval.closed then low ≤ place && place ≤ high else low < place && place < high

/-- Neighbours of the value on the grid of a power of ten, the nearer one first. -/
def Interval.neighbours (interval : Interval) (power : Int) : List Nat :=
  let up := if 0 ≤ power then Nat.pow 10 power.toNat else 1
  let down := if 0 ≤ power then 1 else Nat.pow 10 (-power).toNat
  let dividend := interval.value * interval.numerator * down
  let divisor := up * interval.denominator
  let below := dividend / divisor
  let rest := 2 * (dividend % divisor)
  if rest < divisor ∨ (rest = divisor ∧ below % 2 = 0) then [below, below + 1]
  else [below + 1, below]

/-- Tries the grids from the coarsest to the finest. -/
def search (interval : Interval) : Nat → Int → Option Digits
  | 0, _ => none
  | fuel + 1, power =>
    match (interval.neighbours power).find? fun candidate =>
        candidate ≠ 0 && interval.holds candidate power with
    | some candidate => some ⟨candidate, power⟩
    | none => search interval fuel (power - 1)

def strip : Nat → Digits → Digits
  | 0, digits => digits
  | fuel + 1, digits =>
    if digits.digits ≠ 0 ∧ digits.digits % 10 = 0 then
      strip fuel ⟨digits.digits / 10, digits.power + 1⟩
    else digits

def ofBits (bits : UInt64) : Option Digits :=
  (search (.ofBits bits) 660 309).map (strip 400)

/-- Positional from 1e-5 up to 1e16, with an exponent outside; a whole number keeps `.0`. -/
def Digits.text (number : Digits) : String :=
  let digits := toString number.digits
  let length : Int := digits.length
  let point := length + number.power
  let cut (place : Nat) : String :=
    String.ofList (digits.toList.take place) ++ "." ++ String.ofList (digits.toList.drop place)
  let zeros (count : Int) : String := String.ofList (List.replicate count.toNat '0')
  if 0 ≤ number.power ∧ point ≤ 16 then digits ++ zeros number.power ++ ".0"
  else if 0 < point ∧ point ≤ 16 then cut point.toNat
  else if -5 < point ∧ point ≤ 0 then "0." ++ zeros (-point) ++ digits
  else (if length = 1 then digits else cut 1) ++ "e" ++ toString (point - 1)

end RepairMining.Shortest
