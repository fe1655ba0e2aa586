import RepairMining.Syntax.Ancestors

namespace RepairMining

structure NodePath where
  steps : List Nat
  deriving DecidableEq, Repr

namespace NodePath

inductive StepError where
  | blank
  | strayCharacter
  | tooLarge
  deriving DecidableEq, Repr

def StepError.message : StepError → String
  | blank => "cannot parse integer from empty string"
  | strayCharacter => "invalid digit found in string"
  | tooLarge => "number too large to fit in target type"

def stepBound : Nat := 4294967296

def digit? (c : Char) : Option Nat :=
  if '0' ≤ c ∧ c ≤ '9' then some (c.toNat - '0'.toNat) else none

/-- Reads decimal digits from the left. A character that is no digit is reported before a value that
is too large only if it comes first. -/
def readDigits (value : Nat) : List Char → Except StepError Nat
  | [] => .ok value
  | c :: rest =>
    match digit? c with
    | none => .error .strayCharacter
    | some digit =>
      let next := value * 10 + digit
      if next < stepBound then readDigits next rest else .error .tooLarge

def readStep : List Char → Except StepError Nat
  | [] => .error .blank
  | ['+'] => .error .strayCharacter
  | '+' :: digits => readDigits 0 digits
  | digits => readDigits 0 digits

def trimSlashes (text : List Char) : List Char :=
  ((text.dropWhile (· == '/')).reverse.dropWhile (· == '/')).reverse

def readSteps : List (List Char) → Except StepError (List Nat)
  | [] => .ok []
  | part :: parts =>
    match readStep part with
    | .error fault => .error fault
    | .ok step =>
      match readSteps parts with
      | .error fault => .error fault
      | .ok steps => .ok (step :: steps)

/-- Slashes at either end carry no meaning, and no step at all means the root. -/
def parse (text : String) : Except StepError NodePath :=
  match trimSlashes text.toList with
  | [] => .ok ⟨[]⟩
  | trimmed => (readSteps (trimmed.splitOn '/')).map NodePath.mk

def toText (path : NodePath) : String :=
  match path.steps with
  | [] => "/"
  | steps => "/".intercalate (steps.map fun step => toString step)

end NodePath

namespace Arena

def positions (arena : Arena) : List Nat → List Nat
  | child :: parent :: rest =>
    (arena.children parent).idxOf child :: positions arena (parent :: rest)
  | _ => []

def pathOf (arena : Arena) (node : Nat) : NodePath :=
  ⟨(arena.positions (arena.chain node)).reverse⟩

def follow (arena : Arena) : Nat → List Nat → Option Nat
  | node, [] => some node
  | node, step :: steps =>
    match (arena.children node)[step]? with
    | none => none
    | some child => follow arena child steps

def resolve? (arena : Arena) (path : NodePath) : Option Nat := arena.follow 0 path.steps

def at? (arena : Arena) (text : String) : Option Nat :=
  match NodePath.parse text with
  | .error _ => none
  | .ok path => arena.resolve? path

end Arena

end RepairMining
