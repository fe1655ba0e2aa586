namespace RepairMining.Hex

def digit (value : Nat) : Char :=
  if value < 10 then Char.ofNat ('0'.toNat + value) else Char.ofNat ('a'.toNat + (value - 10))

def ofBytes : List UInt8 → List Char
  | [] => []
  | byte :: bytes => digit (byte.toNat / 16) :: digit (byte.toNat % 16) :: ofBytes bytes

def value? (code : UInt8) : Option Nat :=
  let n := code.toNat
  if 48 ≤ n ∧ n ≤ 57 then some (n - 48)
  else if 97 ≤ n ∧ n ≤ 102 then some (n - 87)
  else if 65 ≤ n ∧ n ≤ 70 then some (n - 55)
  else none

/-- Reads an even number of codes and stops at the first that is no digit. -/
def toBytes : List UInt8 → Except UInt8 (List UInt8)
  | high :: low :: rest =>
    match value? high with
    | none => .error high
    | some h =>
      match value? low with
      | none => .error low
      | some l =>
        match toBytes rest with
        | .error stray => .error stray
        | .ok bytes => .ok (UInt8.ofNat (16 * h + l) :: bytes)
  | _ => .ok []

end RepairMining.Hex
