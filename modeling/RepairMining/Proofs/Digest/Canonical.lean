import Mathlib.Algebra.Group.Nat.Defs
import RepairMining.Digest.Structural

/-!
The bytes that are hashed for a node can be taken apart again: they determine the kind, the label
that counts in the mode, and the roles and digests of the children. Labels may have any length,
because all that follows a label is short.
-/

namespace RepairMining

theorem Digest.utf8_injective {first second : String}
    (same : Digest.utf8 first = Digest.utf8 second) : first = second := by
  rw [← String.toByteArray_inj, ← String.utf8Encode_toList, ← String.utf8Encode_toList,
    List.utf8Encode, List.utf8Encode]
  exact congrArg List.toByteArray same

namespace Canonical

@[simp] theorem length_littleEndian (count value : Nat) :
    (littleEndian count value).length = count := by
  induction count generalizing value with
  | zero => rfl
  | succ count ih => rw [littleEndian, List.length_cons, ih]

theorem littleEndian_mod {count first second : Nat}
    (same : littleEndian count first = littleEndian count second) :
    first % 256 ^ count = second % 256 ^ count := by
  induction count generalizing first second with
  | zero => rw [Nat.pow_zero, Nat.mod_one, Nat.mod_one]
  | succ count ih =>
    rw [littleEndian, littleEndian, List.cons.injEq] at same
    have low : first % 256 = second % 256 := congrArg UInt8.toNat same.1
    have high := ih same.2
    rw [Nat.pow_succ', Nat.mod_mul, Nat.mod_mul, low, high]

theorem littleEndian_injective {first second : Nat} (firstFits : first < 2 ^ 64)
    (secondFits : second < 2 ^ 64) (same : littleEndian 8 first = littleEndian 8 second) :
    first = second := by
  have congruent := littleEndian_mod same
  omega

@[simp] theorem length_field (bytes : List UInt8) : (field bytes).length = 8 + bytes.length := by
  rw [field, List.length_append, length_littleEndian]

variable {first second firstRest secondRest : List UInt8}

theorem field_append_of_length (same : field first ++ firstRest = field second ++ secondRest)
    (measured : first.length % 2 ^ 64 = second.length % 2 ^ 64 → first.length = second.length) :
    first = second ∧ firstRest = secondRest := by
  rw [field, field, List.append_assoc, List.append_assoc] at same
  obtain ⟨lengths, same⟩ := List.append_inj same
    (by rw [length_littleEndian, length_littleEndian])
  exact List.append_inj same (measured (littleEndian_mod lengths))

theorem field_append_of_short (firstShort : first.length < 2 ^ 64)
    (secondShort : second.length < 2 ^ 64)
    (same : field first ++ firstRest = field second ++ secondRest) :
    first = second ∧ firstRest = secondRest :=
  field_append_of_length same (by omega)

/-- The field itself may be too long for its length to be written. -/
theorem field_append_of_short_rest (firstShort : firstRest.length < 2 ^ 64)
    (secondShort : secondRest.length < 2 ^ 64)
    (same : field first ++ firstRest = field second ++ secondRest) :
    first = second ∧ firstRest = secondRest := by
  have total := congrArg List.length same
  rw [List.length_append, List.length_append, length_field, length_field] at total
  exact field_append_of_length same (by omega)

theorem label_append {text other : Option String} (firstShort : firstRest.length < 2 ^ 64)
    (secondShort : secondRest.length < 2 ^ 64)
    (same : label text ++ firstRest = label other ++ secondRest) :
    text = other ∧ firstRest = secondRest := by
  cases text with
  | none =>
    cases other with
    | none => exact ⟨rfl, List.append_cancel_left same⟩
    | some other => exact absurd (List.cons.inj same).1 (by decide)
  | some text =>
    cases other with
    | none => exact absurd (List.cons.inj same).1 (by decide)
    | some other =>
      obtain ⟨written, rest⟩ :=
        field_append_of_short_rest firstShort secondShort (List.cons.inj same).2
      exact ⟨congrArg some (Digest.utf8_injective written), rest⟩

theorem length_kind_name (kind : NodeKind) : (Digest.utf8 kind.name).length < 2 ^ 64 := by
  cases kind <;> decide

theorem length_roleName (role : Option Role) : (Digest.utf8 (roleName role)).length ≤ 11 := by
  cases role with
  | none => decide
  | some role => cases role <;> decide

theorem roleName_injective {role other : Option Role} (same : roleName role = roleName other) :
    role = other := by
  have named (role : Role) : role.name ≠ "" := by cases role <;> decide
  cases role with
  | none =>
    cases other with
    | none => rfl
    | some other => exact absurd same.symm (named other)
  | some role =>
    cases other with
    | none => exact absurd same (named role)
    | some other => exact congrArg some (Vocabulary.name_injective role other same)

theorem length_child (role : Option Role) (digest : Digest) : (child role digest).length ≤ 51 := by
  have short := length_roleName role
  rw [child, List.length_append, length_field, digest.length_eq]
  omega

theorem child_append {role other : Option Role} {digest further : Digest}
    (same : child role digest ++ firstRest = child other further ++ secondRest) :
    (role, digest) = (other, further) ∧ firstRest = secondRest := by
  have firstShort := length_roleName role
  have secondShort := length_roleName other
  rw [child, child, List.append_assoc, List.append_assoc] at same
  obtain ⟨names, same⟩ := field_append_of_short (by omega) (by omega) same
  obtain ⟨bytes, rest⟩ := List.append_inj same (by rw [digest.length_eq, further.length_eq])
  exact ⟨Prod.ext (roleName_injective (Digest.utf8_injective names)) (Digest.eq_of_bytes bytes),
    rest⟩

def offspring (children : List (Option Role × Digest)) : List UInt8 :=
  children.flatMap fun (role, digest) => child role digest

theorem offspring_cons (entry : Option Role × Digest) (children : List (Option Role × Digest)) :
    offspring (entry :: children) = child entry.1 entry.2 ++ offspring children := rfl

theorem length_offspring (children : List (Option Role × Digest)) :
    (offspring children).length ≤ 51 * children.length := by
  induction children with
  | nil => exact Nat.le_refl 0
  | cons entry children ih =>
    have single := length_child entry.1 entry.2
    rw [offspring_cons, List.length_append, List.length_cons]
    omega

theorem offspring_injective {children others : List (Option Role × Digest)}
    (counted : children.length = others.length) (same : offspring children = offspring others) :
    children = others := by
  induction children generalizing others with
  | nil => rw [List.length_eq_zero_iff.mp counted.symm]
  | cons entry children ih =>
    cases others with
    | nil => cases counted
    | cons other others =>
      rw [offspring_cons, offspring_cons] at same
      obtain ⟨heads, rest⟩ := child_append same
      rw [ih (Nat.succ.inj counted) rest]
      exact congrArg (· :: others) heads

theorem node_injective {mode : HashMode} {attributes further : Attributes}
    {children others : List (Option Role × Digest)} (few : children.length < 2 ^ 32)
    (fewOthers : others.length < 2 ^ 32)
    (same : node mode attributes children = node mode further others) :
    attributes.kind = further.kind ∧ mode.labelOf attributes = mode.labelOf further ∧
      children = others := by
  have bounded (children : List (Option Role × Digest)) (few : children.length < 2 ^ 32) :
      (littleEndian 8 children.length ++ offspring children).length < 2 ^ 64 := by
    have short := length_offspring children
    rw [List.length_append, length_littleEndian]
    omega
  rw [node, node, List.append_assoc, List.append_assoc, List.append_assoc, List.append_assoc]
    at same
  obtain ⟨names, same⟩ := field_append_of_short (length_kind_name _) (length_kind_name _) same
  obtain ⟨labels, same⟩ := label_append (bounded children few) (bounded others fewOthers) same
  obtain ⟨counts, same⟩ := List.append_inj same
    (by rw [length_littleEndian, length_littleEndian])
  have counted := littleEndian_injective (by omega) (by omega) counts
  exact ⟨Vocabulary.name_injective _ _ (Digest.utf8_injective names), labels,
    offspring_injective counted same⟩

end Canonical

end RepairMining
