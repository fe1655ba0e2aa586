import RepairMining.Json.Reading

namespace RepairMining.Json

inductive Value where
  | null
  | bool (value : Bool)
  | natural (value : Nat)
  | text (value : String)
  | array (items : List Value)
  | object (members : List (String × Value))

namespace Value

def hexDigit (value : Nat) : Char :=
  if value < 10 then Char.ofNat (48 + value) else Char.ofNat (87 + value)

/-- A character inside a string. Only quotes, backslashes and characters below blank are escaped. -/
def escape (c : Char) : List Char :=
  if c = '"' then ['\\', '"']
  else if c = '\\' then ['\\', '\\']
  else if c = '\x08' then ['\\', 'b']
  else if c = '\x0c' then ['\\', 'f']
  else if c = '\n' then ['\\', 'n']
  else if c = '\r' then ['\\', 'r']
  else if c = '\t' then ['\\', 't']
  else if c.toNat < 32 then
    ['\\', 'u', '0', '0', hexDigit (c.toNat / 16), hexDigit (c.toNat % 16)]
  else [c]

def string (text : String) : List Char := '"' :: (text.toList.flatMap escape ++ ['"'])

mutual

def write : Value → List Char
  | null => ['n', 'u', 'l', 'l']
  | bool true => ['t', 'r', 'u', 'e']
  | bool false => ['f', 'a', 'l', 's', 'e']
  | natural value => Nat.toDigits 10 value
  | text value => string value
  | array items => '[' :: (writeItems items ++ [']'])
  | object members => '\x7b' :: (writeMembers members ++ ['\x7d'])

def writeItems : List Value → List Char
  | [] => []
  | [item] => write item
  | item :: items => write item ++ ',' :: writeItems items

def writeMembers : List (String × Value) → List Char
  | [] => []
  | [(key, value)] => string key ++ ':' :: write value
  | (key, value) :: members => string key ++ ':' :: (write value ++ ',' :: writeMembers members)

end

def compact (value : Value) : String := String.ofList value.write

def indent (level : Nat) : List Char := '\n' :: List.replicate (2 * level) ' '

mutual

def layOut (level : Nat) : Value → List Char
  | array [] => ['[', ']']
  | object [] => ['\x7b', '\x7d']
  | array items => '[' :: (layOutItems (level + 1) items ++ indent level ++ [']'])
  | object members => '\x7b' :: (layOutMembers (level + 1) members ++ indent level ++ ['\x7d'])
  | value => write value

def layOutItems (level : Nat) : List Value → List Char
  | [] => []
  | [item] => indent level ++ layOut level item
  | item :: items => indent level ++ (layOut level item ++ ',' :: layOutItems level items)

def layOutMembers (level : Nat) : List (String × Value) → List Char
  | [] => []
  | [(key, value)] => indent level ++ (string key ++ ':' :: ' ' :: layOut level value)
  | (key, value) :: members =>
    indent level ++
      (string key ++ ':' :: ' ' :: (layOut level value ++ ',' :: layOutMembers level members))

end

def pretty (value : Value) : String := String.ofList (value.layOut 0)

mutual

def toReading : Value → Reading
  | null => .null
  | bool value => .bool value
  | natural value => .number (.natural value)
  | text value => .text (.ok value)
  | array items => .array (toReadings items) none
  | object members => .object (toMembers members) none

def toReadings : List Value → List Reading
  | [] => []
  | item :: items => toReading item :: toReadings items

def toMembers : List (String × Value) → List (Text × Reading)
  | [] => []
  | (key, value) :: members => (.ok key, toReading value) :: toMembers members

end

def memberOf {α : Type} (name : String) (encode : α → Value) : Option α → List (String × Value)
  | none => []
  | some value => [(name, encode value)]

def orNull {α : Type} (encode : α → Value) : Option α → Value
  | none => null
  | some value => encode value

end Value

end RepairMining.Json
