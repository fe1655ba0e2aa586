import RepairMining.Json.Numeral

/-!
Documents as they are read: a tree of values in which every fault of the text sits at its place, so
that whoever walks the tree in order meets the first fault first.
-/

namespace RepairMining.Json

inductive Fault where
  | malformed
  | truncated
  deriving DecidableEq, Repr

inductive Found where
  | null
  | bool (value : Bool)
  | number (value : Numeral)
  | text (value : String)
  | sequence
  | map
  deriving DecidableEq, Repr

/-- The end of an array or object that is not closed properly: the fault met by a reader, the fault
met by whoever skips the value, and, where a key should stand, what is there instead. -/
structure Break where
  read : Fault
  skip : Fault
  instead : Option (Except Fault Found)

/-- Characters of a string. Half a surrogate pair is a fault for a reader but may be skipped. -/
abbrev Text := Except Fault String

inductive Reading where
  | null
  | bool (value : Bool)
  | number (value : Numeral)
  | text (value : Text)
  | array (items : List Reading) (ending : Option Break)
  | object (members : List (Text × Reading)) (ending : Option Break)
  /-- The text ends where a value should start. -/
  | missing
  /-- A string that is not closed or holds a bad character or escape. -/
  | torn (read skip : Fault)
  /-- Any other value that is none. -/
  | broken (read skip : Fault)

namespace Scan

def isBlank (c : Char) : Bool := c == ' ' || c == '\n' || c == '\t' || c == '\r'

def blanks (text : List Char) : List Char := text.dropWhile isBlank

abbrev Step := Reading × Option (List Char)

def literal (reading : Reading) : List Char → List Char → Step
  | [], rest => (reading, some rest)
  | _ :: _, [] => (.broken .truncated .truncated, none)
  | expected :: more, c :: rest =>
    if c = expected then literal reading more rest else (.broken .malformed .malformed, none)

/-- Fault of a number that stops before a digit. A reader tells the end of the text apart. -/
def digitMissing (rest : List Char) : Step :=
  (.broken (if rest.isEmpty then .truncated else .malformed) .malformed, none)

def exponent (negative : Bool) (significand : Nat) (shift : Int) (text : List Char) : Step :=
  let signed (down : Bool) (text : List Char) : Step :=
    match text.takeWhile Numeral.isDigit with
    | [] => digitMissing text
    | digits =>
      let size : Int := Numeral.exponentOf digits
      (.number (.decimal ⟨negative, significand, if down then shift - size else shift + size⟩),
        some (text.dropWhile Numeral.isDigit))
  match text with
  | '+' :: rest => signed false rest
  | '-' :: rest => signed true rest
  | rest => signed false rest

def afterDigits (negative : Bool) (significand dropped : Nat) : List Char → Step
  | '.' :: rest =>
    match rest.takeWhile Numeral.isDigit with
    | [] => digitMissing rest
    | digits =>
      let state := digits.foldl Numeral.absorbFraction (significand, 0, false)
      let shift : Int := (dropped : Int) - (state.2.1 : Int)
      match rest.dropWhile Numeral.isDigit with
      | 'e' :: more => exponent negative state.1 shift more
      | 'E' :: more => exponent negative state.1 shift more
      | more => (.number (.decimal ⟨negative, state.1, shift⟩), some more)
  | 'e' :: rest => exponent negative significand dropped rest
  | 'E' :: rest => exponent negative significand dropped rest
  | rest => (.number (.ofInteger negative significand dropped), some rest)

def number (negative : Bool) (text : List Char) : Step :=
  match text with
  | '0' :: rest =>
    if (rest.head?.map Numeral.isDigit).getD false then (.broken .malformed .malformed, none)
    else afterDigits negative 0 0 rest
  | _ =>
    match text.takeWhile Numeral.isDigit with
    | [] => digitMissing text
    | digits =>
      let state := digits.foldl Numeral.absorb (0, 0)
      afterDigits negative state.1 state.2 (text.dropWhile Numeral.isDigit)

inductive StringStep where
  | closed (text : Text) (rest : List Char)
  | torn (read skip : Fault)

def hexValue? (c : Char) : Option Nat :=
  if '0' ≤ c ∧ c ≤ '9' then some (c.toNat - 48)
  else if 'a' ≤ c ∧ c ≤ 'f' then some (c.toNat - 87)
  else if 'A' ≤ c ∧ c ≤ 'F' then some (c.toNat - 55)
  else none

/-- The code unit behind a backslash and a `u`: four hexadecimal digits, or a fault if there are
fewer than four bytes left or one of them is no digit. -/
def codeUnit (text : List Char) : Except Fault (Nat × List Char) :=
  if ((text.take 4).flatMap String.utf8EncodeChar).length < 4 then .error .truncated
  else
    match text with
    | a :: b :: c :: d :: rest =>
      match hexValue? a, hexValue? b, hexValue? c, hexValue? d with
      | some a, some b, some c, some d => .ok (((a * 16 + b) * 16 + c) * 16 + d, rest)
      | _, _, _, _ => .error .malformed
    | _ => .error .malformed

def simpleEscape? : Char → Option Char
  | '"' => some '"'
  | '\\' => some '\\'
  | '/' => some '/'
  | 'b' => some '\x08'
  | 'f' => some '\x0c'
  | 'n' => some '\n'
  | 'r' => some '\r'
  | 't' => some '\t'
  | _ => none

inductive UnitStep where
  | char (c : Char) (rest : List Char)
  /-- Half a surrogate pair. -/
  | lone (rest : List Char)
  | torn (fault : Fault)

def surrogate (first : Nat) (rest : List Char) : UnitStep :=
  if first < 0xD800 ∨ 0xDFFF < first then .char (Char.ofNat first) rest
  else if 0xDC00 ≤ first then .lone rest
  else
    match rest with
    | [] => .torn .truncated
    | ['\\'] => .torn .truncated
    | '\\' :: 'u' :: more =>
      match codeUnit more with
      | .error fault => .torn fault
      | .ok (second, more) =>
        if 0xDC00 ≤ second ∧ second ≤ 0xDFFF then
          .char (Char.ofNat (0x10000 + (first - 0xD800) * 0x400 + (second - 0xDC00))) more
        else .lone rest
    | _ => .lone rest

/-- The rest of a string behind its opening quote. `chars` holds what has been read, last character
first, and `whole` says that no half of a pair has been met. `fuel` exceeds the length of the
text. -/
def stringFrom : Nat → List Char → Bool → List Char → StringStep
  | 0, _, _, _ => .torn .truncated .truncated
  | fuel + 1, chars, whole, text =>
    let torn (fault : Fault) : StringStep := .torn (if whole then fault else .malformed) fault
    match text with
    | [] => torn .truncated
    | '"' :: rest =>
      .closed (if whole then .ok (String.ofList chars.reverse) else .error .malformed) rest
    | ['\\'] => torn .truncated
    | '\\' :: 'u' :: rest =>
      match codeUnit rest with
      | .error fault => torn fault
      | .ok (first, rest) =>
        match surrogate first rest with
        | .char c rest => stringFrom fuel (c :: chars) whole rest
        | .lone rest => stringFrom fuel chars false rest
        | .torn fault => torn fault
    | '\\' :: c :: rest =>
      match simpleEscape? c with
      | none => torn .malformed
      | some c => stringFrom fuel (c :: chars) whole rest
    | c :: rest => if c.toNat < 32 then torn .malformed else stringFrom fuel (c :: chars) whole rest

def string (fuel : Nat) (text : List Char) : StringStep := stringFrom fuel [] true text

def foundAt (text : List Char) : Except Fault Found :=
  let read (step : Step) (found : Found) : Except Fault Found :=
    match step.1 with
    | .broken fault _ => .error fault
    | .number value => if value.inRange then .ok (.number value) else .error .malformed
    | _ => .ok found
  match text with
  | '[' :: _ => .ok .sequence
  | '{' :: _ => .ok .map
  | 'n' :: rest => read (literal .null ['u', 'l', 'l'] rest) .null
  | 't' :: rest => read (literal (.bool true) ['r', 'u', 'e'] rest) (.bool true)
  | 'f' :: rest => read (literal (.bool false) ['a', 'l', 's', 'e'] rest) (.bool false)
  | '-' :: rest => read (number true rest) .null
  | c :: _ => if Numeral.isDigit c then read (number false text) .null else .error .malformed
  | [] => .error .truncated

def keyMissing (text : List Char) : Break :=
  ⟨.malformed, .malformed, some (foundAt text)⟩

mutual

/-- One value. `fuel` exceeds the length of the text. -/
def value : Nat → List Char → Step
  | 0, _ => (.missing, none)
  | fuel + 1, text =>
    match blanks text with
    | [] => (.missing, none)
    | 'n' :: rest => literal .null ['u', 'l', 'l'] rest
    | 't' :: rest => literal (.bool true) ['r', 'u', 'e'] rest
    | 'f' :: rest => literal (.bool false) ['a', 'l', 's', 'e'] rest
    | '-' :: rest => number true rest
    | '"' :: rest =>
      match string fuel rest with
      | .closed content rest => (.text content, some rest)
      | .torn read skip => (.torn read skip, none)
    | '[' :: rest =>
      match blanks rest with
      | ']' :: rest => (.array [] none, some rest)
      | [] => (.array [] (some ⟨.truncated, .truncated, none⟩), none)
      | rest =>
        match items fuel rest with
        | (items, ending, rest) => (.array items ending, rest)
    | '{' :: rest =>
      match blanks rest with
      | '}' :: rest => (.object [] none, some rest)
      | [] => (.object [] (some ⟨.truncated, .truncated, none⟩), none)
      | rest =>
        match members fuel rest with
        | (members, ending, rest) => (.object members ending, rest)
    | c :: rest =>
      if Numeral.isDigit c then number false (c :: rest) else (.broken .malformed .malformed, none)

def items : Nat → List Char → List Reading × Option Break × Option (List Char)
  | 0, _ => ([], none, none)
  | fuel + 1, text =>
    match value fuel text with
    | (item, none) => ([item], none, none)
    | (item, some rest) =>
      match blanks rest with
      | ']' :: rest => ([item], none, some rest)
      | ',' :: rest =>
        match blanks rest with
        | ']' :: _ => ([item], some ⟨.malformed, .malformed, none⟩, none)
        | rest =>
          match items fuel rest with
          | (items, ending, rest) => (item :: items, ending, rest)
      | [] => ([item], some ⟨.truncated, .truncated, none⟩, none)
      | _ => ([item], some ⟨.malformed, .malformed, none⟩, none)

def members : Nat → List Char → List (Text × Reading) × Option Break × Option (List Char)
  | 0, _ => ([], none, none)
  | fuel + 1, text =>
    match blanks text with
    | [] => ([], some ⟨.truncated, .truncated, none⟩, none)
    | '"' :: rest =>
      match string fuel rest with
      | .torn read skip => ([], some ⟨read, skip, none⟩, none)
      | .closed key rest =>
        match blanks rest with
        | [] => ([(key, .missing)], none, none)
        | ':' :: rest =>
          match value fuel rest with
          | (item, none) => ([(key, item)], none, none)
          | (item, some rest) =>
            match blanks rest with
            | '}' :: rest => ([(key, item)], none, some rest)
            | ',' :: rest =>
              match members fuel rest with
              | (members, ending, rest) => ((key, item) :: members, ending, rest)
            | [] => ([(key, item)], some ⟨.truncated, .truncated, none⟩, none)
            | _ => ([(key, item)], some ⟨.malformed, .malformed, none⟩, none)
        | _ => ([(key, .broken .malformed .malformed)], none, none)
    | rest => ([], some (keyMissing rest), none)

end

end Scan

def scan (text : String) : Reading × Bool :=
  match Scan.value (text.toList.length + 1) text.toList with
  | (reading, none) => (reading, false)
  | (reading, some rest) => (reading, !(Scan.blanks rest).isEmpty)

end RepairMining.Json
