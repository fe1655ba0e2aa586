namespace RepairMining.Yaml

structure Cursor where
  rest : List Char
  index : Nat
  line : Nat
  column : Nat
  deriving Repr

def byteOrderMark : Char := Char.ofNat 0xFEFF

def isAllowed (c : Char) : Bool :=
  let n := c.toNat
  c == '\t' || c == '\n' || c == '\r' || (32 ≤ n && n ≤ 126) || n == 0x85 ||
    (0xA0 ≤ n && n ≤ 0xFFFD) || 0x10000 ≤ n

def isBreak (c : Char) : Bool :=
  c == '\n' || c == '\r' || c.toNat == 0x85 || c.toNat == 0x2028 || c.toNat == 0x2029

def isBlank (c : Char) : Bool := c == ' ' || c == '\t'

namespace Cursor

def start (text : List Char) : Cursor := ⟨text, 0, 0, 0⟩

def peek? (cursor : Cursor) : Option Char := cursor.rest.head?

def sees (cursor : Cursor) (test : Char → Bool) : Bool := cursor.peek?.any test

def seesChar (cursor : Cursor) (c : Char) : Bool := cursor.peek? == some c

def advance (cursor : Cursor) : Cursor :=
  match cursor.rest with
  | [] => cursor
  | _ :: rest => ⟨rest, cursor.index + 1, cursor.line, cursor.column + 1⟩

def skip (cursor : Cursor) : Nat → Cursor
  | 0 => cursor
  | count + 1 => skip cursor.advance count

def readBreak (cursor : Cursor) : List Char × Cursor :=
  let next (count : Nat) (rest : List Char) : Cursor :=
    ⟨rest, cursor.index + count, cursor.line + 1, 0⟩
  match cursor.rest with
  | '\r' :: '\n' :: rest => (['\n'], next 2 rest)
  | c :: rest =>
    if c.toNat == 0x2028 || c.toNat == 0x2029 then ([c], next 1 rest)
    else if isBreak c then (['\n'], next 1 rest)
    else ([], cursor)
  | [] => ([], cursor)

def endsWord : List Char → Bool
  | [] => true
  | c :: _ => isBlank c || isBreak c

def atWordEnd (cursor : Cursor) : Bool := endsWord cursor.rest

def atLineEnd (cursor : Cursor) : Bool := cursor.peek?.all isBreak

def marks (cursor : Cursor) (c : Char) : Bool :=
  cursor.column == 0 &&
    match cursor.rest with
    | x :: y :: z :: rest => x == c && y == c && z == c && endsWord rest
    | _ => false

def atDocumentMark (cursor : Cursor) : Bool := cursor.marks '-' || cursor.marks '.'

def takeWhile (cursor : Cursor) (test : Char → Bool) : List Char × Cursor :=
  let taken := cursor.rest.takeWhile test
  (taken, ⟨cursor.rest.dropWhile test, cursor.index + taken.length, cursor.line,
    cursor.column + taken.length⟩)

def skipWhile (cursor : Cursor) (test : Char → Bool) : Cursor := (cursor.takeWhile test).2

/-- Passes over blanks and a comment to the end of the line. Anything else there is refused. -/
def finishLine? (cursor : Cursor) : Option Cursor :=
  let cursor := cursor.skipWhile isBlank
  let cursor := if cursor.seesChar '#' then cursor.skipWhile (!isBreak ·) else cursor
  if cursor.atLineEnd then some cursor.readBreak.2 else none

end Cursor

end RepairMining.Yaml
