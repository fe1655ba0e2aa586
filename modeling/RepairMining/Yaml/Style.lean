import RepairMining.Yaml.Value

namespace RepairMining.Yaml

inductive Style where
  | plain
  | single
  | double
  | block
  deriving DecidableEq, Repr

namespace Style

def isPrintable (c : Char) : Bool :=
  let n := c.toNat
  n == 10 || (32 ≤ n && n ≤ 126) || (0xA0 ≤ n && n ≤ 0xD7FF) ||
    (0xE000 ≤ n && n ≤ 0xFFFD && n != 0xFEFF)

def hasIndicator (text : List Char) : Bool :=
  let opening := match text with
    | '-' :: '-' :: '-' :: _ | '.' :: '.' :: '.' :: _ => true
    | '?' :: rest | ':' :: rest | '-' :: rest => Cursor.endsWord rest
    | c :: _ => "#,[]\x7b\x7d&*!|>'\"%@".toList.contains c || c.toNat == 96
    | [] => false
  opening || inside text
where
  inside : List Char → Bool
    | before :: c :: rest =>
      (c == ':' && Cursor.endsWord rest) || (c == '#' && (isBlank before || isBreak before)) ||
        inside (c :: rest)
    | _ => false

def meets (first second : Char → Bool) : List Char → Bool
  | c :: next :: rest => (first c && second next) || meets first second (next :: rest)
  | _ => false

def isSpace (c : Char) : Bool := c == ' '

def looksLikeBool (text : String) : Bool :=
  ["y", "Y", "yes", "Yes", "YES", "n", "N", "no", "No", "NO", "true", "True", "TRUE", "false",
    "False", "FALSE", "on", "On", "ON", "off", "Off", "OFF"].contains text

def isAmbiguous (text : String) : Bool :=
  looksLikeBool text || Plain.isPadded text.toList ||
    match Plain.resolve? text with
    | some (.text _) => false
    | _ => true

/-- The style of a text. A text with characters that cannot be written, or with a blank in front of
a line break, has to be escaped. -/
def of (text : String) : Style :=
  let chars := text.toList
  let unwritable := !chars.all isPrintable || meets isSpace isBreak chars
  let edge (c : Option Char) : Bool := c.any fun c => isSpace c || isBreak c
  if looksLikeBool text then .single
  else if chars.contains '\n' then
    if unwritable || chars.getLast?.any isSpace then .double else .block
  else if unwritable || meets isBreak isSpace chars then .double
  else if isAmbiguous text || edge chars.head? || edge chars.getLast? || chars.any isBreak ||
      hasIndicator chars then
    .single
  else .plain

end Style

namespace Text

def hexDigits (count value : Nat) : List Char :=
  let digits := (Nat.toDigits 16 value).map Char.toUpper
  List.replicate (count - digits.length) '0' ++ digits

def escape (c : Char) : List Char :=
  match c with
  | '\x00' => ['\\', '0']
  | '\x07' => ['\\', 'a']
  | '\x08' => ['\\', 'b']
  | '\t' => ['\\', 't']
  | '\n' => ['\\', 'n']
  | '\x0b' => ['\\', 'v']
  | '\x0c' => ['\\', 'f']
  | '\r' => ['\\', 'r']
  | '\x1b' => ['\\', 'e']
  | '"' => ['\\', '"']
  | '\\' => ['\\', '\\']
  | c =>
    let n := c.toNat
    if n == 0x85 then ['\\', 'N']
    else if n == 0xA0 then ['\\', '_']
    else if n == 0x2028 then ['\\', 'L']
    else if n == 0x2029 then ['\\', 'P']
    else if n ≤ 0xFF then '\\' :: 'x' :: hexDigits 2 n
    else if n ≤ 0xFFFF then '\\' :: 'u' :: hexDigits 4 n
    else '\\' :: 'U' :: hexDigits 8 n

def double (text : List Char) : List Char :=
  '"' :: (text.flatMap fun c =>
    if !Style.isPrintable c || isBreak c || c == '"' || c == '\\' then escape c else [c]) ++ ['"']

def single (text : List Char) : List Char :=
  '\'' :: inside false text
where
  inside : Bool → List Char → List Char
    | fresh, [] => (if fresh then [' ', ' '] else []) ++ ['\'']
    | fresh, c :: rest =>
      if isBreak c then c :: inside true rest
      else
        (if fresh then [' ', ' '] else []) ++ (if c == '\'' then ['\'', '\''] else [c]) ++
          inside false rest

def blockLines : Bool → List Char → List Char
  | _, [] => []
  | fresh, c :: rest =>
    if isBreak c then c :: blockLines true rest
    else (if fresh then [' ', ' '] else []) ++ c :: blockLines false rest

/-- A block with its header: an indentation if the text starts with a blank or a line break, and
what to do with line breaks at the end. -/
def block (text : List Char) : List Char :=
  let indentation := if text.head?.any fun c => Style.isSpace c || isBreak c then ['2'] else []
  let chomping := match text.reverse with
    | last :: rest =>
      if !isBreak last then ['-'] else if rest.head?.all isBreak then ['+'] else []
    | [] => ['-']
  '|' :: (indentation ++ chomping ++ '\n' :: blockLines true text)

/-- A text as the value of a key in the outermost mapping. A line break after it is left out if it
ends with one. -/
def write (text : String) : String :=
  let chars := text.toList
  String.ofList <| match Style.of text with
    | .plain => chars
    | .single => single chars
    | .double => double chars
    | .block => block chars

end Text

end RepairMining.Yaml
