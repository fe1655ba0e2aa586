import RepairMining.Yaml.Cursor

namespace RepairMining.Yaml

structure Gap where
  blanks : List Char
  first : Option (List Char)
  others : List Char

namespace Gap

def empty : Gap := ⟨[], none, []⟩

def isBroken (gap : Gap) : Bool := gap.first.isSome

/-- One line break counts as a blank, and of several the first does not count. -/
def text (gap : Gap) : List Char :=
  match gap.first with
  | none => gap.blanks
  | some ['\n'] => if gap.others.isEmpty then [' '] else gap.others
  | some first => first ++ gap.others

def addBlank (gap : Gap) (c : Char) : Gap :=
  if gap.isBroken then gap else { gap with blanks := gap.blanks ++ [c] }

def addBreak (gap : Gap) (text : List Char) : Gap :=
  if gap.isBroken then { gap with others := gap.others ++ text } else ⟨[], some text, []⟩

end Gap

def readGap? (indent : Nat) : Nat → Gap → Cursor → Option (Gap × Cursor)
  | 0, _, _ => none
  | fuel + 1, gap, cursor =>
    match cursor.peek? with
    | none => some (gap, cursor)
    | some c =>
      if isBlank c then
        if gap.isBroken && cursor.column < indent && c == '\t' then none
        else readGap? indent fuel (gap.addBlank c) cursor.advance
      else if isBreak c then
        let (text, cursor) := cursor.readBreak
        readGap? indent fuel (gap.addBreak text) cursor
      else some (gap, cursor)

namespace Plain

def isFlowIndicator (c : Char) : Bool :=
  c == ',' || c == '[' || c == ']' || c == '\x7b' || c == '\x7d'

def word? (flow : Bool) : Nat → List Char → Cursor → Option (List Char × Cursor)
  | 0, _, _ => none
  | fuel + 1, taken, cursor =>
    match cursor.rest with
    | [] => some (taken.reverse, cursor)
    | c :: rest =>
      if isBlank c || isBreak c then some (taken.reverse, cursor)
      else if flow && c == ':' &&
          rest.head?.any (fun next => isFlowIndicator next || next == '?') then
        none
      else if (c == ':' && Cursor.endsWord rest) || (flow && isFlowIndicator c) then
        some (taken.reverse, cursor)
      else word? flow fuel (c :: taken) cursor.advance

/-- Words and the gaps between them. Also says whether a line break was passed after the last
word. -/
def words? (flow : Bool) (indent : Nat) :
    Nat → List Char → Gap → Cursor → Option (List Char × Bool × Cursor)
  | 0, _, _, _ => none
  | fuel + 1, text, gap, cursor =>
    if cursor.atDocumentMark || cursor.seesChar '#' then some (text, gap.isBroken, cursor)
    else do
      let (word, cursor) ← word? flow (cursor.rest.length + 1) [] cursor
      let (text, gap) := if word.isEmpty then (text, gap) else (text ++ gap.text ++ word, .empty)
      if !cursor.sees fun c => isBlank c || isBreak c then return (text, gap.isBroken, cursor)
      let (gap, cursor) ← readGap? indent (cursor.rest.length + 1) gap cursor
      if !flow && cursor.column < indent then return (text, gap.isBroken, cursor)
      words? flow indent fuel text gap cursor

def read? (flow : Bool) (indent : Nat) (cursor : Cursor) : Option (String × Bool × Cursor) := do
  let (text, broken, cursor) ← words? flow indent (cursor.rest.length + 1) [] .empty cursor
  return (String.ofList text, broken, cursor)

end Plain

namespace Quoted

def hexValue? (c : Char) : Option Nat :=
  if '0' ≤ c ∧ c ≤ '9' then some (c.toNat - 48)
  else if 'a' ≤ c ∧ c ≤ 'f' then some (c.toNat - 87)
  else if 'A' ≤ c ∧ c ≤ 'F' then some (c.toNat - 55)
  else none

def codePoint? : Nat → Nat → List Char → Option Nat
  | 0, value, _ => some value
  | _ + 1, _, [] => none
  | count + 1, value, c :: rest => do codePoint? count (value * 16 + (← hexValue? c)) rest

def character? (code : Nat) : Option Char :=
  if code.isValidChar then some (Char.ofNat code) else none

/-- What a backslash and the character behind it stand for, and how long the rest of the escape
is. -/
def escape? (c : Char) (rest : List Char) : Option (Char × Nat) :=
  let coded (count : Nat) : Option (Char × Nat) := do
    let code ← codePoint? count 0 rest
    return (← character? code, count)
  match c with
  | '0' => some ('\x00', 0)
  | 'a' => some ('\x07', 0)
  | 'b' => some ('\x08', 0)
  | 't' | '\t' => some ('\t', 0)
  | 'n' => some ('\n', 0)
  | 'v' => some ('\x0b', 0)
  | 'f' => some ('\x0c', 0)
  | 'r' => some ('\r', 0)
  | 'e' => some ('\x1b', 0)
  | ' ' | '"' | '/' | '\\' => some (c, 0)
  | 'N' => some (Char.ofNat 0x85, 0)
  | '_' => some (Char.ofNat 0xA0, 0)
  | 'L' => some (Char.ofNat 0x2028, 0)
  | 'P' => some (Char.ofNat 0x2029, 0)
  | 'x' => coded 2
  | 'u' => coded 4
  | 'U' => coded 8
  | _ => none

def word? (double : Bool) : Nat → List Char → Cursor → Option (List Char × Gap × Cursor)
  | 0, _, _ => none
  | fuel + 1, taken, cursor =>
    match cursor.rest with
    | [] => none
    | c :: rest =>
      if isBlank c || isBreak c then some (taken.reverse, .empty, cursor)
      else if !double && c == '\'' then
        if rest.head? == some '\'' then word? double fuel ('\'' :: taken) (cursor.skip 2)
        else some (taken.reverse, .empty, cursor)
      else if double && c == '"' then some (taken.reverse, .empty, cursor)
      else if double && c == '\\' then
        if rest.head?.any isBreak then
          some (taken.reverse, ⟨[], some [], []⟩, cursor.advance.readBreak.2)
        else
          match rest with
          | [] => none
          | escaped :: rest =>
            match escape? escaped rest with
            | none => none
            | some (value, count) => word? double fuel (value :: taken) (cursor.skip (count + 2))
      else word? double fuel (c :: taken) cursor.advance

def words? (double : Bool) : Nat → List Char → Cursor → Option (List Char × Cursor)
  | 0, _, _ => none
  | fuel + 1, text, cursor =>
    if cursor.atDocumentMark then none
    else do
      let (word, gap, cursor) ← word? double (cursor.rest.length + 1) [] cursor
      let text := text ++ word
      if cursor.seesChar (if double then '"' else '\'') then return (text, cursor.advance)
      let (gap, cursor) ← readGap? 0 (cursor.rest.length + 1) gap cursor
      words? double fuel (text ++ gap.text) cursor

def read? (double : Bool) (cursor : Cursor) : Option (String × Cursor) := do
  let (text, cursor) ← words? double (cursor.rest.length + 1) [] cursor.advance
  return (String.ofList text, cursor)

end Quoted

namespace Block

inductive Chomping where
  | strip
  | clip
  | keep
  deriving DecidableEq, Repr

def chomping? (cursor : Cursor) : Option (Chomping × Cursor) :=
  if cursor.seesChar '+' then some (.keep, cursor.advance)
  else if cursor.seesChar '-' then some (.strip, cursor.advance)
  else none

/-- An indentation of its own: none, a digit other than zero, or zero, which is refused. -/
def increment? (cursor : Cursor) : Option (Option Nat × Cursor) :=
  match cursor.peek? with
  | some '0' => none
  | some c =>
    if '1' ≤ c ∧ c ≤ '9' then some (some (c.toNat - 48), cursor.advance) else some (none, cursor)
  | none => some (none, cursor)

def header? (cursor : Cursor) : Option (Chomping × Option Nat × Cursor) := do
  match chomping? cursor with
  | some (chomping, cursor) =>
    let (increment, cursor) ← increment? cursor
    return (chomping, increment, cursor)
  | none =>
    let (increment, cursor) ← increment? cursor
    match increment, chomping? cursor with
    | some _, some (chomping, cursor) => return (chomping, increment, cursor)
    | _, _ => return (.clip, increment, cursor)

/-- Empty lines up to the next line of the block: their breaks, and the deepest indentation met.
With no indentation given yet any number of blanks is passed over. -/
def emptyLines? (indent : Option Nat) :
    Nat → Nat → List Char → Cursor → Option (Nat × List Char × Cursor)
  | 0, _, _, _ => none
  | fuel + 1, deepest, breaks, cursor =>
    let inside (column : Nat) : Bool := indent.all (column < ·)
    let blanks := cursor.rest.takeWhile (· == ' ')
    let count := match indent with
      | none => blanks.length
      | some indent => min blanks.length (indent - cursor.column)
    let cursor := cursor.skip count
    let deepest := max deepest cursor.column
    if inside cursor.column && cursor.seesChar '\t' then none
    else if cursor.sees isBreak then
      let (text, cursor) := cursor.readBreak
      emptyLines? indent fuel deepest (breaks ++ text) cursor
    else some (deepest, breaks, cursor)

structure Lines where
  text : List Char
  lastBreak : List Char
  emptyBreaks : List Char
  lastBlank : Bool

/-- Joins the next line on. When folding, a single break between two lines that do not start with a
blank becomes a blank. -/
def Lines.add (lines : Lines) (folded startsBlank : Bool) (line lastBreak : List Char) : Lines :=
  let folds := folded && lines.lastBreak == ['\n'] && !lines.lastBlank && !startsBlank
  let joint :=
    if folds then if lines.emptyBreaks.isEmpty then [' '] else []
    else lines.lastBreak
  { text := lines.text ++ joint ++ lines.emptyBreaks ++ line
    lastBreak, emptyBreaks := [], lastBlank := startsBlank }

def lines? (folded : Bool) (indent : Nat) : Nat → Lines → Cursor → Option (Lines × Cursor)
  | 0, _, _ => none
  | fuel + 1, lines, cursor =>
    if cursor.column = indent && cursor.peek?.isSome then do
      let startsBlank := cursor.sees isBlank
      let (line, cursor) := cursor.takeWhile (!isBreak ·)
      let (lastBreak, cursor) := cursor.readBreak
      let (_, emptyBreaks, cursor) ← emptyLines? (some indent) (cursor.rest.length + 1) 0 [] cursor
      lines? folded indent fuel
        { lines.add folded startsBlank line lastBreak with emptyBreaks } cursor
    else some (lines, cursor)

def chomp (chomping : Chomping) (lines : Lines) : List Char :=
  match chomping with
  | .strip => lines.text
  | .clip => lines.text ++ lines.lastBreak
  | .keep => lines.text ++ lines.lastBreak ++ lines.emptyBreaks

/-- A block below something that is indented to the column `outer`, or not at all. -/
def read? (folded : Bool) (outer : Option Nat) (cursor : Cursor) : Option (String × Cursor) := do
  let (chomping, increment, cursor) ← header? cursor.advance
  let cursor ← cursor.finishLine?
  let fixed := increment.map (outer.getD 0 + ·)
  let (deepest, emptyBreaks, cursor) ← emptyLines? fixed (cursor.rest.length + 1) 0 [] cursor
  let least := match outer with
    | none => 1
    | some outer => outer + 1
  let indent := fixed.getD (max deepest least)
  let (lines, cursor) ←
    lines? folded indent (cursor.rest.length + 1) ⟨[], [], emptyBreaks, false⟩ cursor
  return (String.ofList (chomp chomping lines), cursor)

end Block

end RepairMining.Yaml
