import RepairMining.Proofs.Json.Decoding

/-!
Decoding with little room. A text that is nested more deeply than there is room for is malformed,
and nothing else can be wrong with a text that has been written.
-/

namespace RepairMining.Json

variable {α : Type}

def confined (depth room : Nat) (result : Except Error α) : Except Error α :=
  if depth ≤ room then result else .error .malformed

theorem confined_of_le {depth room : Nat} {result : Except Error α} (fits : depth ≤ room) :
    confined depth room result = result := if_pos fits

theorem confined_of_lt {depth room : Nat} {result : Except Error α} (deep : room < depth) :
    confined depth room result = .error .malformed := if_neg (Nat.not_le.mpr deep)

theorem confined_succ (depth room : Nat) (result : Except Error α) :
    confined (depth + 1) (room + 1) result = confined depth room result := by
  simp only [confined, Nat.add_le_add_iff_right]

theorem confined_confined (depth deeper room : Nat) (result : Except Error α) :
    confined depth room (confined deeper room result) =
      confined (max depth deeper) room result := by
  by_cases fits : depth ≤ room
  · by_cases fitsToo : deeper ≤ room
    · rw [confined_of_le fits, confined_of_le fitsToo,
        confined_of_le (Nat.max_le.mpr ⟨fits, fitsToo⟩)]
    · rw [Nat.not_le] at fitsToo
      rw [confined_of_le fits, confined_of_lt fitsToo,
        confined_of_lt (Nat.lt_of_lt_of_le fitsToo (Nat.le_max_right _ _))]
  · rw [Nat.not_le] at fits
    rw [confined_of_lt fits, confined_of_lt (Nat.lt_of_lt_of_le fits (Nat.le_max_left _ _))]

theorem confined_map {β : Type} (depth room : Nat) (value : α) (f : α → β) :
    (confined depth room (.ok value)).map f = confined depth room (.ok (f value)) := by
  unfold confined
  split <;> rfl

/-- The decoder gives the value back if the text has room for its nesting, and fails if not. -/
def Gauges (decode : Decoder α) (value : Value) (x : α) (room : Nat) : Prop :=
  decode (.stream room) value.toReading = confined value.depth room (.ok x)

theorem Restores.gauges {decode : Decoder α} {encode : α → Value} {depth room : Nat} {x : α}
    (restores : Restores decode encode depth x) (least : (encode x).depth ≤ depth)
    (most : depth ≤ room) : Gauges decode (encode x) x room := by
  rw [Gauges, restores (.stream room) most, confined_of_le (Nat.le_trans least most)]

theorem gauges_flat {decode : Decoder α} {value : Value} {x : α} {room : Nat}
    (flat : value.depth = 0) (decoded : decode (.stream room) value.toReading = .ok x) :
    Gauges decode value x room := by
  rw [Gauges, decoded, flat, confined_of_le (Nat.zero_le room)]

namespace Value

theorem membersDepth_append (members others : List (String × Value)) :
    membersDepth (members ++ others) = max (membersDepth members) (membersDepth others) := by
  induction members with
  | nil => rw [List.nil_append, membersDepth, Nat.zero_max]
  | cons member members ih =>
    rw [List.cons_append, membersDepth, membersDepth, ih, Nat.max_assoc]

end Value

namespace Decode

variable {decode : Decoder α} {encode : α → Value} {room : Nat}

theorem optional_gauges {value : Value} {x : α} (gauged : Gauges decode value x room)
    (present : value.toReading ≠ .null) : Gauges (optional decode) value (some x) room := by
  rw [Gauges] at gauged ⊢
  rw [← confined_map, ← gauged]
  cases shape : value.toReading with
  | null => exact absurd shape present
  | _ => rfl

theorem named_gauges {κ : Type} [Vocabulary κ] (key : κ) (room : Nat) :
    Gauges (named κ) (.text (Vocabulary.name key)) key room :=
  gauges_flat rfl (variant_name key)

theorem string_gauges (text : String) (room : Nat) : Gauges string (.text text) text room :=
  gauges_flat rfl rfl

theorem itemsWith_gauged {xs : List α} (each : ∀ x ∈ xs, Gauges decode (encode x) x room) :
    itemsWith (decode (.stream room)) (Value.toReadings (xs.map encode)) =
      confined (Value.itemsDepth (xs.map encode)) room (.ok xs) := by
  induction xs with
  | nil => exact (confined_of_le (Nat.zero_le room)).symm
  | cons x xs ih =>
    have first := each x List.mem_cons_self
    have rest := ih fun y member => each y (List.mem_cons_of_mem x member)
    rw [Gauges] at first
    rw [List.map_cons, Value.toReadings, itemsWith, first, Value.itemsDepth, ← confined_confined]
    by_cases fits : (encode x).depth ≤ room
    · simp only [confined_of_le fits, rest, confined_map]
    · rw [Nat.not_le] at fits
      simp only [confined_of_lt fits]

theorem list_gauges {xs : List α}
    (each : ∀ inner, room = inner + 1 → ∀ x ∈ xs, Gauges decode (encode x) x inner) :
    Gauges (list decode) (.array (xs.map encode)) xs room := by
  rw [Gauges, Value.toReading, list, Value.depth]
  cases room with
  | zero => exact (confined_of_lt (Nat.succ_pos _)).symm
  | succ inner =>
    simp only [Supply.enter, itemsWith_gauged (each inner rfl), confined_succ]
    by_cases fits : Value.itemsDepth (xs.map encode) ≤ inner
    · simp only [confined_of_le fits]
      rfl
    · rw [Nat.not_le] at fits
      simp only [confined_of_lt fits]

end Decode

namespace Shape

variable {σ : Type} {shape : Shape σ} {room : Nat}

theorem fillMembers_gauged {name : String} (field : RecordField σ) {content : Value}
    {members : List (Text × Reading)} {record filled : σ}
    (known : shape.fields.find? (·.name == name) = some field)
    (fresh : field.given record = false)
    (filling : field.fill (.stream room) content.toReading record =
      confined content.depth room (.ok filled)) :
    shape.fillMembers (.stream room) ((.ok name, content.toReading) :: members) record =
      confined content.depth room (shape.fillMembers (.stream room) members filled) := by
  by_cases fits : content.depth ≤ room
  · rw [confined_of_le fits] at filling ⊢
    exact fillMembers_cons field known fresh filling
  · rw [Nat.not_le] at fits
    rw [confined_of_lt fits] at filling ⊢
    rw [fillMembers]
    simp only [known, fresh, filling, Bool.false_eq_true, if_false]

theorem fillMembers_memberOf {name : String} (field : RecordField σ) {encode : α → Value}
    {place : Option α} {members : List (String × Value)} {record filled : σ}
    (known : shape.fields.find? (·.name == name) = some field)
    (absent : place = none → filled = record)
    (present : ∀ x, place = some x → field.given record = false ∧
      field.fill (.stream room) (encode x).toReading record =
        confined (encode x).depth room (.ok filled)) :
    shape.fillMembers (.stream room)
        (Value.toMembers (Value.memberOf name encode place ++ members)) record =
      confined (Value.membersDepth (Value.memberOf name encode place)) room
        (shape.fillMembers (.stream room) (Value.toMembers members) filled) := by
  cases place with
  | none =>
    rw [absent rfl, Value.memberOf, List.nil_append, Value.membersDepth,
      confined_of_le (Nat.zero_le room)]
  | some x =>
    obtain ⟨fresh, filling⟩ := present x rfl
    rw [Value.memberOf, List.singleton_append, Value.toMembers,
      fillMembers_gauged field known fresh filling, Value.membersDepth, Value.membersDepth,
      Nat.max_zero]

theorem complete_gauges {start record : σ} {finish : σ → Except Error α}
    {members : List (String × Value)} {x : α}
    (filled : ∀ inner, room = inner + 1 →
      shape.fillMembers (.stream inner) (Value.toMembers members) start =
        confined (Value.membersDepth members) inner (.ok record))
    (finished : finish record = .ok x) :
    Gauges (shape.complete start finish) (.object members) x room := by
  rw [Gauges, Value.toReading, complete, decode, Value.depth]
  cases room with
  | zero => exact (confined_of_lt (Nat.succ_pos _)).symm
  | succ inner =>
    simp only [Supply.enter, filled inner rfl, confined_succ]
    by_cases fits : Value.membersDepth members ≤ inner
    · simp only [confined_of_le fits]
      exact finished
    · rw [Nat.not_le] at fits
      simp only [confined_of_lt fits]

end Shape

theorem RecordField.fill_gauged {σ : Type} {name : String} {decode : Decoder α}
    {get : σ → Option α} {set : σ → α → σ} {mayLack : Bool} {room : Nat} {content : Value}
    {value : α} {record : σ} (gauged : Gauges decode content value room) :
    (RecordField.of name decode get set mayLack).fill (.stream room) content.toReading record =
      confined content.depth room (.ok (set record value)) := by
  rw [Gauges] at gauged
  simp only [RecordField.of, gauged, confined_map]

/-- A document that fits is decoded from its text as it is from its tree, for better or worse. -/
theorem decodeText_eq {decode : Decoder α} {value : Value} (fits : value.Fits) :
    decodeText decode value.compact = decode .whole value.toReading := by
  rw [decodeText, scan_compact fits]
  simp only
  cases decode .whole value.toReading <;> rfl

end RepairMining.Json
