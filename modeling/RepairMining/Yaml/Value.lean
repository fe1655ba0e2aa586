import RepairMining.Json.Numeral
import RepairMining.Yaml.Token

namespace RepairMining.Yaml

inductive Value where
  | null
  | bool (value : Bool)
  | number (value : Json.Numeral)
  /-- An infinite number or one that is none. -/
  | special (name : String)
  | text (value : String)
  | list (items : List Value)
  | mapping (members : List (Value × Value))
  /-- A value under a tag of the document's own. -/
  | tagged (tag : String) (value : Value)
  deriving BEq, Repr

namespace Value

def untag : Value → Value
  | tagged _ value => untag value
  | value => value

mutual

def depth : Value → Nat
  | list items => depthOfItems items + 1
  | mapping members => depthOfMembers members + 1
  | tagged _ value => depth value
  | _ => 0

def depthOfItems : List Value → Nat
  | [] => 0
  | item :: items => max (depth item) (depthOfItems items)

def depthOfMembers : List (Value × Value) → Nat
  | [] => 0
  | (key, value) :: members => max (max (depth key) (depth value)) (depthOfMembers members)

end

end Value

namespace Plain

def null? (text : String) : Bool := ["null", "Null", "NULL", "~"].contains text

def bool? (text : String) : Option Bool :=
  if ["true", "True", "TRUE"].contains text then some true
  else if ["false", "False", "FALSE"].contains text then some false
  else none

def digitIn? (radix : Nat) (c : Char) : Option Nat :=
  match Quoted.hexValue? c with
  | some value => if value < radix then some value else none
  | none => none

def natural? (radix : Nat) (digits : List Char) : Option Nat :=
  match digits with
  | [] => none
  | digits => digits.foldlM (fun value c => (digitIn? radix c).map (value * radix + ·)) 0

def marked? (text : List Char) : Option Nat :=
  match text with
  | '0' :: 'x' :: digits => natural? 16 digits
  | '0' :: 'o' :: digits => natural? 8 digits
  | '0' :: 'b' :: digits => natural? 2 digits
  | digits => natural? 10 digits

def unsigned : List Char → List Char
  | '+' :: text | '-' :: text => text
  | text => text

/-- A number that starts with a zero and goes on with digits only is a text. -/
def isPadded (text : List Char) : Bool :=
  match unsigned text with
  | '0' :: c :: rest => (c :: rest).all Json.Numeral.isDigit
  | _ => false

def integer? (text : List Char) : Option Int :=
  if isPadded text then none
  else
    match text with
    | '-' :: digits => (marked? digits).map fun value => -(value : Int)
    | '+' :: digits => (marked? digits).map Int.ofNat
    | digits => (marked? digits).map Int.ofNat

def decimal? (text : List Char) : Option Json.Decimal := do
  let negative := text.head? == some '-'
  let text := unsigned text
  let whole := text.takeWhile Json.Numeral.isDigit
  let rest := text.dropWhile Json.Numeral.isDigit
  let (fraction, rest) := match rest with
    | '.' :: rest => (rest.takeWhile Json.Numeral.isDigit, rest.dropWhile Json.Numeral.isDigit)
    | rest => ([], rest)
  if whole.isEmpty && fraction.isEmpty then none
  let exponent : Int ← match rest with
    | [] => some 0
    | c :: rest =>
      if c != 'e' && c != 'E' then none
      else
        let digits := unsigned rest
        if digits.isEmpty || !digits.all Json.Numeral.isDigit then none
        else
          let size : Int := Json.Numeral.exponentOf digits
          some (if rest.head? == some '-' then -size else size)
  let (significand, dropped) := whole.foldl Json.Numeral.absorb (0, 0)
  let (significand, taken, _) :=
    fraction.foldl Json.Numeral.absorbFraction (significand, 0, dropped != 0)
  return ⟨negative, significand, exponent + dropped - taken⟩

def special? (text : String) : Option String :=
  if [".inf", ".Inf", ".INF", "+.inf", "+.Inf", "+.INF"].contains text then some ".inf"
  else if ["-.inf", "-.Inf", "-.INF"].contains text then some "-.inf"
  else if [".nan", ".NaN", ".NAN"].contains text then some ".nan"
  else none

/-- A number, none if the text is not one. A value can hold integers of 64 bits only, and larger
ones of up to 128 bits make the document unusable. -/
def number? (text : String) : Option (Option Value) :=
  match integer? text.toList with
  | some value =>
    if 0 ≤ value ∧ value < Int.pow 2 64 then some (some (.number (.natural value.toNat)))
    else if -(Int.pow 2 63) ≤ value ∧ value < 0 then some (some (.number (.negative value.natAbs)))
    else if -(Int.pow 2 127) ≤ value ∧ value < Int.pow 2 128 then some none
    else floating?
  | none => floating?
where
  floating? : Option (Option Value) :=
    match special? text with
    | some name => some (some (.special name))
    | none =>
      if isPadded text.toList then none
      else
        match decimal? text.toList with
        | none => none
        | some value =>
          if (Json.Numeral.decimal value).inRange then some (some (.number (.decimal value)))
          else none

/-- What a plain text stands for, none if it makes the document unusable. -/
def resolve? (text : String) : Option Value :=
  if text.isEmpty || null? text then some .null
  else
    match bool? text with
    | some value => some (.bool value)
    | none =>
      match number? text with
      | some value => value
      | none => some (.text text)

end Plain

end RepairMining.Yaml
