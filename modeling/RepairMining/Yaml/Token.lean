import RepairMining.Yaml.Scalar

/-!
Tokens of a document. Indentation becomes visible as starts and ends of blocks, and a colon turns
what stands before it on the line into a key.
-/

namespace RepairMining.Yaml

inductive Token where
  | version (major minor : Nat)
  | tagHandle (handle expansion : String)
  | documentStart
  | documentEnd
  | blockSequenceStart
  | blockMappingStart
  | blockEnd
  | flowSequenceStart
  | flowSequenceEnd
  | flowMappingStart
  | flowMappingEnd
  | blockEntry
  | flowEntry
  | key
  | value
  | alias (name : String)
  | anchor (name : String)
  | tag (handle suffix : String)
  | scalar (plain : Bool) (text : String)
  deriving DecidableEq, Repr

/-- A place where a key may have started. It has to be one if it opens a line of a mapping. -/
structure KeyStart where
  place : Nat
  required : Bool
  index : Nat
  line : Nat
  column : Nat
  deriving Repr

/-- How far the tokens of a text have been found. The columns of the open blocks are listed
innermost first; `keys` has an entry for every open bracket and one for the outside, innermost
first. -/
structure Scanner where
  cursor : Cursor
  columns : List Nat
  flow : Nat
  keyAllowed : Bool
  keys : List (Option KeyStart)
  tokens : Array Token

namespace Scanner

def start (text : List Char) : Scanner := ⟨.start text, [], 0, true, [none], #[]⟩

def push (scanner : Scanner) (token : Token) : Scanner :=
  { scanner with tokens := scanner.tokens.push token }

def inFlow (scanner : Scanner) : Bool := scanner.flow != 0

def isDeeper (scanner : Scanner) (column : Nat) : Bool :=
  match scanner.columns with
  | [] => true
  | inner :: _ => inner < column

def unroll (scanner : Scanner) (column : Option Nat) : Scanner :=
  if scanner.inFlow then scanner
  else
    let closes (inner : Nat) : Bool := column.all (· < inner)
    { scanner with
      columns := scanner.columns.dropWhile closes
      tokens := scanner.tokens ++
        ((scanner.columns.takeWhile closes).map fun _ => Token.blockEnd).toArray }

def insertAt (scanner : Scanner) (place : Nat) (token : Token) : Scanner :=
  { scanner with
    tokens :=
      (scanner.tokens.toList.take place ++ token :: scanner.tokens.toList.drop place).toArray }

def roll (scanner : Scanner) (column place : Nat) (token : Token) : Scanner :=
  if scanner.inFlow || !scanner.isDeeper column then scanner
  else { scanner.insertAt place token with columns := column :: scanner.columns }

def rollHere (scanner : Scanner) (token : Token) : Scanner :=
  scanner.roll scanner.cursor.column scanner.tokens.size token

def dropKey? (scanner : Scanner) : Option Scanner :=
  match scanner.keys with
  | some key :: keys => if key.required then none else some { scanner with keys := none :: keys }
  | _ => some scanner

def setKey (scanner : Scanner) (key : Option KeyStart) : Scanner :=
  { scanner with keys := key :: scanner.keys.drop 1 }

def saveKey? (scanner : Scanner) : Option Scanner :=
  if scanner.keyAllowed then do
    let column := scanner.cursor.column
    let required := !scanner.inFlow && scanner.columns.head? == some column
    let dropped ← scanner.dropKey?
    return dropped.setKey
      (some ⟨scanner.tokens.size, required, scanner.cursor.index, scanner.cursor.line, column⟩)
  else some scanner

def dropStaleKeys? (scanner : Scanner) : Option Scanner := do
  let keys ← scanner.keys.mapM fun key =>
    match key with
    | none => some none
    | some key =>
      if key.line < scanner.cursor.line || key.index + 1024 < scanner.cursor.index then
        if key.required then none else some none
      else some (some key)
  return { scanner with keys }

def skipBlanks : Nat → Scanner → Scanner
  | 0, scanner => scanner
  | fuel + 1, scanner =>
    let cursor := scanner.cursor
    let cursor :=
      if cursor.column = 0 && cursor.seesChar byteOrderMark then cursor.advance else cursor
    let cursor := cursor.skipWhile fun c =>
      c == ' ' || (c == '\t' && (scanner.inFlow || !scanner.keyAllowed))
    let cursor := if cursor.seesChar '#' then cursor.skipWhile (!isBreak ·) else cursor
    if cursor.sees isBreak then
      skipBlanks fuel
        { scanner with
          cursor := cursor.readBreak.2
          keyAllowed := scanner.keyAllowed || !scanner.inFlow }
    else { scanner with cursor }

def advance (scanner : Scanner) : Scanner := { scanner with cursor := scanner.cursor.advance }

def allowKey (scanner : Scanner) (keyAllowed : Bool) : Scanner := { scanner with keyAllowed }

def documentMark? (scanner : Scanner) (token : Token) : Option Scanner := do
  let scanner ← (scanner.unroll none).dropKey?
  return { scanner.allowKey false with cursor := scanner.cursor.skip 3 }.push token

def openBracket? (scanner : Scanner) (token : Token) : Option Scanner := do
  let scanner ← scanner.saveKey?
  return { scanner with flow := scanner.flow + 1, keys := none :: scanner.keys, keyAllowed := true }
    |>.advance.push token

def closeBracket? (scanner : Scanner) (token : Token) : Option Scanner := do
  let scanner ← scanner.dropKey?
  let keys := if scanner.inFlow then scanner.keys.drop 1 else scanner.keys
  return { scanner with flow := scanner.flow - 1, keys, keyAllowed := false }.advance.push token

def flowEntry? (scanner : Scanner) : Option Scanner := do
  let scanner ← scanner.dropKey?
  return (scanner.allowKey true).advance.push .flowEntry

def blockEntry? (scanner : Scanner) : Option Scanner := do
  if !scanner.inFlow && !scanner.keyAllowed then none
  let scanner ← (scanner.rollHere .blockSequenceStart).dropKey?
  return (scanner.allowKey true).advance.push .blockEntry

def explicitKey? (scanner : Scanner) : Option Scanner := do
  if !scanner.inFlow && !scanner.keyAllowed then none
  let scanner ← (scanner.rollHere .blockMappingStart).dropKey?
  return (scanner.allowKey !scanner.inFlow).advance.push .key

/-- A colon. The key token is put where the key started. -/
def mappingValue? (scanner : Scanner) : Option Scanner :=
  match scanner.keys with
  | some key :: _ =>
    let keyed := (scanner.insertAt key.place .key).roll key.column key.place .blockMappingStart
    some (((keyed.setKey none).allowKey false).advance.push .value)
  | _ =>
    if !scanner.inFlow && !scanner.keyAllowed then none
    else
      let rolled := scanner.rollHere .blockMappingStart
      some ((rolled.allowKey !scanner.inFlow).advance.push .value)

def isNameChar (c : Char) : Bool :=
  ('a' ≤ c && c ≤ 'z') || ('A' ≤ c && c ≤ 'Z') || ('0' ≤ c && c ≤ '9') || c == '_' || c == '-'

def name? (cursor : Cursor) : Option (String × Cursor) :=
  let (name, cursor) := cursor.advance.takeWhile isNameChar
  let ends (c : Char) : Bool :=
    isBlank c || isBreak c || "?:,]\x7d%@".toList.contains c || c.toNat == 96
  if name.isEmpty || !cursor.peek?.all ends then none else some (String.ofList name, cursor)

def reference? (scanner : Scanner) (make : String → Token) : Option Scanner := do
  let scanner ← scanner.saveKey?
  let (name, cursor) ← name? scanner.cursor
  return { scanner.allowKey false with cursor }.push (make name)

def tagText? (verbatim : Bool) : Nat → List Char → Cursor → Option (List Char × Cursor)
  | 0, _, _ => none
  | fuel + 1, taken, cursor =>
    match cursor.rest with
    | '%' :: high :: low :: _ => do
      let code := (← Quoted.hexValue? high) * 16 + (← Quoted.hexValue? low)
      if code < 128 then tagText? verbatim fuel (Char.ofNat code :: taken) (cursor.skip 3) else none
    | c :: _ =>
      let fits := isNameChar c || ";/?:@&=+$.!~*'()".toList.contains c ||
        (verbatim && (c == ',' || c == '[' || c == ']'))
      if fits then tagText? verbatim fuel (c :: taken) cursor.advance
      else some (taken.reverse, cursor)
    | [] => some (taken.reverse, cursor)

def verbatimTag? (cursor : Cursor) : Option (String × String × Cursor) := do
  let (text, cursor) ← tagText? true (cursor.rest.length + 1) [] (cursor.skip 2)
  if text.isEmpty || !cursor.seesChar '>' then none
  return ("", String.ofList text, cursor.advance)

def shorthandTag? (cursor : Cursor) : Option (String × String × Cursor) := do
  let (name, behind) := cursor.advance.takeWhile isNameChar
  let suffix? (taken : List Char) (cursor : Cursor) :=
    tagText? false (cursor.rest.length + 1) taken cursor
  if behind.seesChar '!' then
    let (suffix, cursor) ← suffix? [] behind.advance
    if suffix.isEmpty then none
    return ("!" ++ String.ofList name ++ "!", String.ofList suffix, cursor)
  let (suffix, cursor) ← suffix? name.reverse behind
  if suffix.isEmpty then return ("", "!", cursor)
  return ("!", String.ofList suffix, cursor)

def tag? (scanner : Scanner) : Option Scanner := do
  let scanner ← scanner.saveKey?
  let (handle, suffix, cursor) ←
    match scanner.cursor.rest with
    | _ :: '<' :: _ => verbatimTag? scanner.cursor
    | _ => shorthandTag? scanner.cursor
  if !(cursor.atWordEnd || (scanner.inFlow && cursor.seesChar ',')) then none
  return { scanner.allowKey false with cursor }.push (.tag handle suffix)

def block? (scanner : Scanner) (folded : Bool) : Option Scanner := do
  let scanner ← scanner.dropKey?
  let (text, cursor) ← Block.read? folded scanner.columns.head? scanner.cursor
  return { scanner.allowKey true with cursor }.push (.scalar false text)

def quoted? (scanner : Scanner) (double : Bool) : Option Scanner := do
  let scanner ← scanner.saveKey?
  let (text, cursor) ← Quoted.read? double scanner.cursor
  return { scanner.allowKey false with cursor }.push (.scalar false text)

def plain? (scanner : Scanner) : Option Scanner := do
  let scanner ← scanner.saveKey?
  let indent := (scanner.columns.head?.map (· + 1)).getD 0
  let (text, broken, cursor) ← Plain.read? scanner.inFlow indent scanner.cursor
  return { scanner.allowKey broken with cursor }.push (.scalar true text)

def number? (cursor : Cursor) : Option (Nat × Cursor) :=
  let (digits, cursor) := cursor.takeWhile fun c => '0' ≤ c && c ≤ '9'
  if digits.isEmpty || 9 < digits.length then none
  else some (digits.foldl (fun value c => value * 10 + (c.toNat - 48)) 0, cursor)

def versionDirective? (cursor : Cursor) : Option (Token × Cursor) := do
  let (major, cursor) ← number? (cursor.skipWhile isBlank)
  if !cursor.seesChar '.' then none
  let (minor, cursor) ← number? cursor.advance
  return (.version major minor, cursor)

def tagDirective? (cursor : Cursor) : Option (Token × Cursor) := do
  let cursor := cursor.skipWhile isBlank
  if !cursor.seesChar '!' then none
  let (name, cursor) := cursor.advance.takeWhile isNameChar
  let closed := cursor.seesChar '!'
  if !closed && !name.isEmpty then none
  let handle := "!" ++ String.ofList name ++ if closed then "!" else ""
  let cursor := if closed then cursor.advance else cursor
  if !cursor.sees isBlank then none
  let cursor := cursor.skipWhile isBlank
  let (expansion, cursor) ← tagText? true (cursor.rest.length + 1) [] cursor
  if expansion.isEmpty || !cursor.atWordEnd then none
  return (.tagHandle handle (String.ofList expansion), cursor)

def directive? (scanner : Scanner) : Option Scanner := do
  let scanner ← (scanner.unroll none).dropKey?
  let (name, cursor) := scanner.cursor.advance.takeWhile isNameChar
  if !cursor.atWordEnd then none
  let (token, cursor) ←
    if name == ['Y', 'A', 'M', 'L'] then versionDirective? cursor
    else if name == ['T', 'A', 'G'] then tagDirective? cursor
    else none
  return { scanner.allowKey false with cursor := ← cursor.finishLine? }.push token

def startsPlain (scanner : Scanner) (c : Char) (rest : List Char) : Bool :=
  let indicators := "-?:,[]\x7b\x7d#&*!|>'\"%@".toList
  if c == '-' then !rest.head?.any isBlank
  else if c == '?' || c == ':' then !scanner.inFlow && !Cursor.endsWord rest
  else !indicators.contains c && c.toNat != 96 && !isBlank c && !isBreak c

def step? (scanner : Scanner) (c : Char) (rest : List Char) : Option Scanner :=
  let column := scanner.cursor.column
  if column = 0 && c == '%' then scanner.directive?
  else if scanner.cursor.marks '-' then scanner.documentMark? .documentStart
  else if scanner.cursor.marks '.' then scanner.documentMark? .documentEnd
  else if c == '[' then scanner.openBracket? .flowSequenceStart
  else if c == '\x7b' then scanner.openBracket? .flowMappingStart
  else if c == ']' then scanner.closeBracket? .flowSequenceEnd
  else if c == '\x7d' then scanner.closeBracket? .flowMappingEnd
  else if c == ',' then scanner.flowEntry?
  else if c == '-' && Cursor.endsWord rest then scanner.blockEntry?
  else if c == '?' && (scanner.inFlow || Cursor.endsWord rest) then scanner.explicitKey?
  else if c == ':' && (scanner.inFlow || Cursor.endsWord rest) then scanner.mappingValue?
  else if c == '*' then scanner.reference? .alias
  else if c == '&' then scanner.reference? .anchor
  else if c == '!' then scanner.tag?
  else if c == '|' && !scanner.inFlow then scanner.block? false
  else if c == '>' && !scanner.inFlow then scanner.block? true
  else if c == '\'' then scanner.quoted? false
  else if c == '"' then scanner.quoted? true
  else if scanner.startsPlain c rest then scanner.plain?
  else none

def finish? (scanner : Scanner) : Option (List Token) := do
  let scanner ← (scanner.unroll none).dropKey?
  return scanner.tokens.toList

def run? : Nat → Scanner → Option (List Token)
  | 0, _ => none
  | fuel + 1, scanner => do
    let scanner := skipBlanks (scanner.cursor.rest.length + 1) scanner
    let scanner ← scanner.dropStaleKeys?
    let scanner := scanner.unroll (some scanner.cursor.column)
    match scanner.cursor.rest with
    | [] => scanner.finish?
    | c :: rest => run? fuel (← scanner.step? c rest)

end Scanner

/-- All tokens of a text, none if the text is not well formed. A byte order mark in front is no part
of the text. -/
def tokens? (text : String) : Option (List Token) :=
  let chars := text.toList
  let chars := if chars.head? == some byteOrderMark then chars.drop 1 else chars
  if chars.all isAllowed then (Scanner.start chars).run? (chars.length + 1) else none

end RepairMining.Yaml
