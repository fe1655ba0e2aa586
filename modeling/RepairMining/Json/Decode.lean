import RepairMining.Json.Reading
import RepairMining.Table
import RepairMining.Text.Hidden

/-!
Typed values from documents. The first fault in the order of the text decides; a missing field is
noticed where its object ends.
-/

namespace RepairMining.Json

inductive Mismatch where
  | wrongType (found : Found) (expected : String)
  | wrongValue (found : Found) (expected : String)
  | wrongLength (length : Nat) (expected : String)
  | unknownVariant (name : String) (allowed : List String)
  | unknownField (name : String) (allowed : List String)
  | missingField (name : String)
  | duplicateField (name : String)
  | refused (reason : String)
  deriving DecidableEq, Repr

inductive Error where
  | text (fault : Fault)
  | data (mismatch : Mismatch)
  deriving DecidableEq, Repr

namespace Error

def malformed : Error := text .malformed

def category : Error → String
  | text .malformed => "syntax"
  | text .truncated => "eof"
  | data _ => "data"

end Error

namespace Mismatch

def quoteChar (c : Char) : String :=
  if c = '\x00' then "\\0"
  else if c = '\t' then "\\t"
  else if c = '\n' then "\\n"
  else if c = '\r' then "\\r"
  else if c = '"' then "\\\""
  else if c = '\\' then "\\\\"
  else if isHidden c then
    "\\u\x7b" ++ String.ofList (Nat.toDigits 16 c.toNat) ++ "\x7d"
  else c.toString

def quote (text : String) : String := "\"" ++ String.join (text.toList.map quoteChar) ++ "\""

def describe : Found → String
  | .null => "null"
  | .bool value => "boolean `" ++ (if value then "true" else "false") ++ "`"
  | .number (.natural value) => "integer `" ++ toString value ++ "`"
  | .number (.negative magnitude) => "integer `-" ++ toString magnitude ++ "`"
  | .number (.decimal value) => "floating point `" ++ value.text ++ "`"
  | .text value => "string " ++ quote value
  | .sequence => "sequence"
  | .map => "map"

def ticked (name : String) : String := "`" ++ name ++ "`"

def oneOf : List String → String
  | [] => "nothing"
  | [only] => ticked only
  | [first, second] => ticked first ++ " or " ++ ticked second
  | names => "one of " ++ ", ".intercalate (names.map ticked)

def message : Mismatch → String
  | wrongType found expected => "invalid type: " ++ describe found ++ ", expected " ++ expected
  | wrongValue found expected => "invalid value: " ++ describe found ++ ", expected " ++ expected
  | wrongLength length expected => "invalid length " ++ toString length ++ ", expected " ++ expected
  | unknownVariant name allowed =>
    "unknown variant " ++ ticked name ++ ", expected " ++ oneOf allowed
  | unknownField name allowed => "unknown field " ++ ticked name ++ ", expected " ++ oneOf allowed
  | missingField name => "missing field " ++ ticked name
  | duplicateField name => "duplicate field " ++ ticked name
  | refused reason => reason

end Mismatch

/-- Where a value comes from. A text that is being read has room for so many more arrays and objects
inside one another; a value that has been read whole has no such limit. -/
inductive Supply where
  | stream (room : Nat)
  | buffer
  deriving DecidableEq, Repr

namespace Supply

def whole : Supply := stream 127

def enter : Supply → Except Error Supply
  | stream 0 => .error .malformed
  | stream (room + 1) => .ok (stream room)
  | buffer => .ok buffer

def isBuffer : Supply → Bool
  | stream _ => false
  | buffer => true

end Supply

abbrev Decoder (α : Type) := Supply → Reading → Except Error α

namespace Reading

def unexpected (reading : Reading) (expected : String) : Error :=
  let found (found : Found) : Error := .data (.wrongType found expected)
  match reading with
  | null => found .null
  | bool value => found (.bool value)
  | number value => if value.inRange then found (.number value) else .malformed
  | text (.ok value) => found (.text value)
  | text (.error fault) => .text fault
  | array _ _ => found .sequence
  | object _ _ => found .map
  | missing => .text .truncated
  | torn read _ => .text read
  | broken read _ => .text read

mutual

/-- Passes over a value without reading it. Nesting has no limit here. -/
def skip : Reading → Except Error Unit
  | array items ending =>
    match skipItems items with
    | .error error => .error error
    | .ok _ => skipEnding ending
  | object members ending =>
    match skipMembers members with
    | .error error => .error error
    | .ok _ => skipEnding ending
  | missing => .error (.text .truncated)
  | torn _ skip => .error (.text skip)
  | broken _ skip => .error (.text skip)
  | _ => .ok ()

def skipItems : List Reading → Except Error Unit
  | [] => .ok ()
  | item :: items =>
    match skip item with
    | .error error => .error error
    | .ok _ => skipItems items

def skipMembers : List (Text × Reading) → Except Error Unit
  | [] => .ok ()
  | (_, value) :: members =>
    match skip value with
    | .error error => .error error
    | .ok _ => skipMembers members

def skipEnding : Option Break → Except Error Unit
  | none => .ok ()
  | some ending => .error (.text ending.skip)

end

def readEnding : Option Break → Except Error Unit
  | none => .ok ()
  | some ending => .error (.text ending.read)

mutual

def settle (supply : Supply) : Reading → Except Error Unit
  | array items ending =>
    match supply.enter with
    | .error error => .error error
    | .ok inner =>
      match settleItems inner items with
      | .error error => .error error
      | .ok _ => readEnding ending
  | object members ending =>
    match supply.enter with
    | .error error => .error error
    | .ok inner =>
      match settleMembers inner members with
      | .error error => .error error
      | .ok _ => readEnding ending
  | number value => if value.inRange then .ok () else .error .malformed
  | text (.error fault) => .error (.text fault)
  | missing => .error (.text .truncated)
  | torn read _ => .error (.text read)
  | broken read _ => .error (.text read)
  | _ => .ok ()

def settleItems (supply : Supply) : List Reading → Except Error Unit
  | [] => .ok ()
  | item :: items =>
    match settle supply item with
    | .error error => .error error
    | .ok _ => settleItems supply items

def settleMembers (supply : Supply) : List (Text × Reading) → Except Error Unit
  | [] => .ok ()
  | (.error fault, _) :: _ => .error (.text fault)
  | (.ok _, value) :: members =>
    match settle supply value with
    | .error error => .error error
    | .ok _ => settleMembers supply members

end

end Reading

namespace Decode

def nat32 : Decoder Nat := fun _ reading =>
  match reading with
  | .number (.natural value) =>
    if value < 4294967296 then .ok value
    else .error (.data (.wrongValue (.number (.natural value)) "u32"))
  | .number (.negative magnitude) =>
    .error (.data (.wrongValue (.number (.negative magnitude)) "u32"))
  | _ => .error (reading.unexpected "u32")

def text (expected : String) : Decoder String := fun _ reading =>
  match reading with
  | .text (.ok value) => .ok value
  | _ => .error (reading.unexpected expected)

def string : Decoder String := text "a string"

def bool : Decoder Bool := fun _ reading =>
  match reading with
  | .bool value => .ok value
  | _ => .error (reading.unexpected "a boolean")

def unit : Decoder Unit := fun _ reading =>
  match reading with
  | .null => .ok ()
  | _ => .error (reading.unexpected "unit")

def optional {α : Type} (decode : Decoder α) : Decoder (Option α) := fun supply reading =>
  match reading with
  | .null => .ok none
  | _ => (decode supply reading).map some

def itemsWith {α : Type} (decode : Reading → Except Error α) : List Reading → Except Error (List α)
  | [] => .ok []
  | item :: items =>
    match decode item with
    | .error error => .error error
    | .ok value => (itemsWith decode items).map (value :: ·)

def list {α : Type} (decode : Decoder α) : Decoder (List α) := fun supply reading =>
  match reading with
  | .array items ending =>
    match supply.enter with
    | .error error => .error error
    | .ok inner =>
      match itemsWith (decode inner) items with
      | .error error => .error error
      | .ok values => (Reading.readEnding ending).map fun _ => values
  | _ => .error (reading.unexpected "a sequence")

def finishItems (supply : Supply) (count : Nat) (rest : List Reading) (ending : Option Break) :
    Except Error Unit :=
  match rest, supply with
  | [], _ => Reading.readEnding ending
  | _ :: _, .stream _ => .error .malformed
  | _ :: _, .buffer =>
    .error (.data (.wrongLength (count + rest.length)
      (if count = 1 then "1 element in sequence" else toString count ++ " elements in sequence")))

def tooShort (length : Nat) (expected : String) (ending : Option Break) : Error :=
  match ending with
  | some ending => .text ending.read
  | none => .data (.wrongLength length expected)

def pair {α β : Type} (first : Decoder α) (second : Decoder β) : Decoder (α × β) :=
  fun supply reading =>
    let expected := "a tuple of size 2"
    match reading with
    | .array items ending =>
      match supply.enter with
      | .error error => .error error
      | .ok inner =>
        match items with
        | [] => .error (tooShort 0 expected ending)
        | x :: items =>
          match first inner x with
          | .error error => .error error
          | .ok a =>
            match items with
            | [] => .error (tooShort 1 expected ending)
            | y :: items =>
              match second inner y with
              | .error error => .error error
              | .ok b => (finishItems supply 2 items ending).map fun _ => (a, b)
    | _ => .error (reading.unexpected expected)

def variant (α : Type) [Vocabulary α] (name : String) : Except Error α :=
  match Vocabulary.ofName? name with
  | some value => .ok value
  | none => .error (.data (.unknownVariant name (Vocabulary.names α)))

/-- A name of a vocabulary, either alone or as the only key of an object that holds null. -/
def named (α : Type) [Vocabulary α] : Decoder α := fun supply reading =>
  match reading with
  | .text (.ok name) => variant α name
  | .text (.error fault) => .error (.text fault)
  | .torn read _ => .error (.text read)
  | .missing => .error (.text .truncated)
  | .object members ending =>
    match supply.enter with
    | .error error => .error error
    | .ok inner =>
      match members, ending with
      | [], none => .error .malformed
      | [], some ending =>
        match ending.instead with
        | some (.ok found) => .error (.data (.wrongType found "variant identifier"))
        | some (.error fault) => .error (.text fault)
        | none => .error (.text ending.read)
      | (.error fault, _) :: _, _ => .error (.text fault)
      | (.ok name, content) :: rest, ending =>
        match variant α name with
        | .error error => .error error
        | .ok value =>
          match unit inner content with
          | .error error => .error error
          | .ok _ =>
            match rest with
            | [] => (Reading.readEnding ending).map fun _ => value
            | _ :: _ => .error .malformed
  | _ => .error .malformed

/-- An object whose keys are names of a vocabulary. A later member with the same key wins. -/
def tableMembers {κ α : Type} [Vocabulary κ] [DecidableEq κ] (decode : Reading → Except Error α) :
    Table κ α → List (Text × Reading) → Except Error (Table κ α)
  | table, [] => .ok table
  | _, (.error fault, _) :: _ => .error (.text fault)
  | table, (.ok name, content) :: members =>
    match variant κ name with
    | .error error => .error error
    | .ok key =>
      match decode content with
      | .error error => .error error
      | .ok value => tableMembers decode (table.insert key value) members

def table {κ α : Type} [Vocabulary κ] [DecidableEq κ] (decode : Decoder α) : Decoder (Table κ α) :=
  fun supply reading =>
    match reading with
    | .object members ending =>
      match supply.enter with
      | .error error => .error error
      | .ok inner =>
        match tableMembers (decode inner) Table.empty members with
        | .error error => .error error
        | .ok table => (Reading.readEnding ending).map fun _ => table
    | _ => .error (reading.unexpected "a map")

end Decode

structure RecordField (σ : Type) where
  name : String
  given : σ → Bool
  fill : Supply → Reading → σ → Except Error σ
  /-- Whether an array may end before this field. -/
  mayLack : Bool

namespace RecordField

def of {σ α : Type} (name : String) (decode : Decoder α) (get : σ → Option α) (set : σ → α → σ)
    (mayLack : Bool) : RecordField σ where
  name := name
  given record := (get record).isSome
  fill supply reading record := (decode supply reading).map (set record)
  mayLack := mayLack

end RecordField

/-- The shape of a record: an object by field names, or an array in the order of the fields. -/
structure Shape (σ : Type) where
  label : String
  fields : List (RecordField σ)
  /-- Whether other fields are refused. -/
  strict : Bool

namespace Shape

variable {σ : Type}

def expectation (shape : Shape σ) : String :=
  shape.label ++ " with " ++
    if shape.fields.length = 1 then "1 element" else toString shape.fields.length ++ " elements"

def fillMembers (shape : Shape σ) (supply : Supply) :
    List (Text × Reading) → σ → Except Error σ
  | [], record => .ok record
  | (.error fault, _) :: _, _ => .error (.text fault)
  | (.ok name, content) :: members, record =>
    match shape.fields.find? (·.name == name) with
    | none =>
      if shape.strict then
        .error (.data (.unknownField name (shape.fields.map (·.name))))
      else
        match content.skip with
        | .error error => .error error
        | .ok _ => fillMembers shape supply members record
    | some field =>
      if field.given record then .error (.data (.duplicateField name))
      else
        match field.fill supply content record with
        | .error error => .error error
        | .ok filled => fillMembers shape supply members filled

def fillItems (shape : Shape σ) (supply : Supply) (ending : Option Break) :
    Nat → List (RecordField σ) → List Reading → σ → Except Error (σ × List Reading)
  | _, [], items, record => .ok (record, items)
  | place, field :: fields, [], record =>
    match ending with
    | some ending => .error (.text ending.read)
    | none =>
      if field.mayLack then fillItems shape supply ending (place + 1) fields [] record
      else .error (.data (.wrongLength place shape.expectation))
  | place, field :: fields, item :: items, record =>
    match field.fill supply item record with
    | .error error => .error error
    | .ok filled => fillItems shape supply ending (place + 1) fields items filled

def decode (shape : Shape σ) (start : σ) : Decoder σ := fun supply reading =>
  match reading with
  | .object members ending =>
    match supply.enter with
    | .error error => .error error
    | .ok inner =>
      match shape.fillMembers inner members start with
      | .error error => .error error
      | .ok record => (Reading.readEnding ending).map fun _ => record
  | .array items ending =>
    match supply.enter with
    | .error error => .error error
    | .ok inner =>
      match shape.fillItems inner ending 0 shape.fields items start with
      | .error error => .error error
      | .ok (record, rest) =>
        (Decode.finishItems supply shape.fields.length rest ending).map fun _ => record
  | _ => .error (reading.unexpected shape.label)

def complete {α : Type} (shape : Shape σ) (start : σ) (finish : σ → Except Error α) : Decoder α :=
  fun supply reading =>
    match shape.decode start supply reading with
    | .error error => .error error
    | .ok record => finish record

end Shape

def require {α : Type} (name : String) : Option α → Except Error α
  | some value => .ok value
  | none => .error (.data (.missingField name))

structure Tagged where
  label : String
  tag : String
  variants : List String

namespace Tagged

/-- Number of the variant. In a value that has been read whole a number may stand for the name. -/
def variant (tagged : Tagged) : Decoder Nat := fun supply reading =>
  let expected := "variant identifier"
  match reading with
  | .text (.ok name) =>
    match tagged.variants.findIdx? (· == name) with
    | some place => .ok place
    | none => .error (.data (.unknownVariant name tagged.variants))
  | .number (.natural place) =>
    if supply.isBuffer then
      if place < tagged.variants.length then .ok place
      else
        .error (.data (.wrongValue (.number (.natural place))
          ("variant index 0 <= i < " ++ toString tagged.variants.length)))
    else .error (reading.unexpected expected)
  | _ => .error (reading.unexpected expected)

/-- Finds the tag among the members and settles all others, in order. -/
def splitMembers (tagged : Tagged) (supply : Supply) :
    Option Nat → List (Text × Reading) → Except Error (Option Nat × List (Text × Reading))
  | found, [] => .ok (found, [])
  | _, (.error fault, _) :: _ => .error (.text fault)
  | found, (.ok name, content) :: members =>
    if name = tagged.tag then
      if found.isSome then .error (.data (.duplicateField tagged.tag))
      else
        match tagged.variant supply content with
        | .error error => .error error
        | .ok place => splitMembers tagged supply (some place) members
    else
      match content.settle supply with
      | .error error => .error error
      | .ok _ =>
        (splitMembers tagged supply found members).map fun (found, others) =>
          (found, (.ok name, content) :: others)

def split (tagged : Tagged) : Decoder (Nat × Reading) := fun supply reading =>
  match reading with
  | .object members ending =>
    match supply.enter with
    | .error error => .error error
    | .ok inner =>
      match tagged.splitMembers inner none members with
      | .error error => .error error
      | .ok (found, others) =>
        match Reading.readEnding ending with
        | .error error => .error error
        | .ok _ => (require tagged.tag found).map fun place => (place, .object others none)
  | .array items ending =>
    match supply.enter with
    | .error error => .error error
    | .ok inner =>
      match items with
      | [] =>
        match Reading.readEnding ending with
        | .error error => .error error
        | .ok _ => .error (.data (.missingField tagged.tag))
      | item :: items =>
        match tagged.variant inner item with
        | .error error => .error error
        | .ok place =>
          match Reading.settleItems inner items with
          | .error error => .error error
          | .ok _ => (Reading.readEnding ending).map fun _ => (place, .array items none)
  | _ => .error (reading.unexpected tagged.label)

end Tagged

/-- A document as a whole: a value with nothing but blanks behind it. -/
def decodeText {α : Type} (decode : Decoder α) (source : String) : Except Error α :=
  match scan source with
  | (reading, trailing) =>
    match decode .whole reading with
    | .error error => .error error
    | .ok value => if trailing then .error .malformed else .ok value

def decodeBytes {α : Type} (decode : Decoder α) (bytes : ByteArray) : Except Error α :=
  match String.fromUTF8? bytes with
  | none => .error .malformed
  | some source => decodeText decode source

end RepairMining.Json
