import Mathlib.Data.List.Forall2
import RepairMining.Json.Decode
import RepairMining.Proofs.Json.Scanning
import RepairMining.Proofs.Table

namespace RepairMining.Json

namespace Value

theorem toReadings_eq_map (items : List Value) : toReadings items = items.map toReading := by
  induction items with
  | nil => rfl
  | cons item items ih => rw [toReadings, ih, List.map_cons]

theorem toMembers_eq_map (members : List (String × Value)) :
    toMembers members = members.map fun member => (.ok member.1, member.2.toReading) := by
  induction members with
  | nil => rfl
  | cons member members ih => rw [toMembers, ih, List.map_cons]

theorem itemsFit_iff {items : List Value} : ItemsFit items ↔ ∀ item ∈ items, item.Fits := by
  induction items with
  | nil => simp [ItemsFit]
  | cons item items ih => simp [ItemsFit, ih]

theorem membersFit_iff {members : List (String × Value)} :
    MembersFit members ↔ ∀ member ∈ members, member.2.Fits := by
  induction members with
  | nil => simp [MembersFit]
  | cons member members ih => simp [MembersFit, ih]

mutual

def depth : Value → Nat
  | array items => itemsDepth items + 1
  | object members => membersDepth members + 1
  | _ => 0

def itemsDepth : List Value → Nat
  | [] => 0
  | item :: items => max (depth item) (itemsDepth items)

def membersDepth : List (String × Value) → Nat
  | [] => 0
  | (_, value) :: members => max (depth value) (membersDepth members)

end

theorem itemsDepth_le {items : List Value} {bound : Nat}
    (each : ∀ item ∈ items, item.depth ≤ bound) : itemsDepth items ≤ bound := by
  induction items with
  | nil => exact Nat.zero_le bound
  | cons item items ih =>
    rw [itemsDepth, Nat.max_le]
    exact ⟨each item List.mem_cons_self,
      ih fun other member => each other (List.mem_cons_of_mem item member)⟩

theorem membersDepth_le {members : List (String × Value)} {bound : Nat}
    (each : ∀ member ∈ members, member.2.depth ≤ bound) : membersDepth members ≤ bound := by
  induction members with
  | nil => exact Nat.zero_le bound
  | cons member members ih =>
    rw [membersDepth, Nat.max_le]
    exact ⟨each member List.mem_cons_self,
      ih fun other listed => each other (List.mem_cons_of_mem member listed)⟩

end Value

namespace Supply

/-- There is room for so many more arrays and objects inside one another. -/
def Holds (supply : Supply) (depth : Nat) : Prop :=
  match supply with
  | stream room => depth ≤ room
  | buffer => True

theorem Holds.enter {supply : Supply} {depth : Nat} (room : supply.Holds (depth + 1)) :
    ∃ inner, supply.enter = .ok inner ∧ inner.Holds depth := by
  cases supply with
  | stream count =>
    cases count with
    | zero => exact absurd room (Nat.not_succ_le_zero depth)
    | succ count => exact ⟨stream count, rfl, Nat.le_of_succ_le_succ room⟩
  | buffer => exact ⟨buffer, rfl, trivial⟩

theorem Holds.mono {supply : Supply} {deep shallow : Nat} (room : supply.Holds deep)
    (less : shallow ≤ deep) : supply.Holds shallow := by
  cases supply with
  | stream count => exact Nat.le_trans less room
  | buffer => exact trivial

end Supply

namespace Reading

mutual

theorem settle_toReading (value : Value) {supply : Supply} (room : supply.Holds value.depth) :
    settle supply value.toReading = .ok () := by
  match value with
  | .null => rfl
  | .bool _ => rfl
  | .natural _ => rfl
  | .text _ => rfl
  | .array items =>
    obtain ⟨inner, entered, holds⟩ := Supply.Holds.enter room
    rw [Value.toReading, settle, entered]
    simp only [settleItems_toReadings items holds]
    rfl
  | .object members =>
    obtain ⟨inner, entered, holds⟩ := Supply.Holds.enter room
    rw [Value.toReading, settle, entered]
    simp only [settleMembers_toMembers members holds]
    rfl

theorem settleItems_toReadings (items : List Value) {supply : Supply}
    (room : supply.Holds (Value.itemsDepth items)) :
    settleItems supply (Value.toReadings items) = .ok () := by
  match items with
  | [] => rfl
  | item :: items =>
    rw [Value.itemsDepth] at room
    rw [Value.toReadings, settleItems, settle_toReading item (room.mono (Nat.le_max_left _ _))]
    exact settleItems_toReadings items (room.mono (Nat.le_max_right _ _))

theorem settleMembers_toMembers (members : List (String × Value)) {supply : Supply}
    (room : supply.Holds (Value.membersDepth members)) :
    settleMembers supply (Value.toMembers members) = .ok () := by
  match members with
  | [] => rfl
  | (key, value) :: members =>
    rw [Value.membersDepth] at room
    rw [Value.toMembers, settleMembers, settle_toReading value (room.mono (Nat.le_max_left _ _))]
    exact settleMembers_toMembers members (room.mono (Nat.le_max_right _ _))

end

end Reading

/-- The decoder gives back what was encoded, as long as the supply has room for it. -/
def Restores {α : Type} (decode : Decoder α) (encode : α → Value) (depth : Nat) (x : α) : Prop :=
  ∀ supply : Supply, supply.Holds depth → decode supply (encode x).toReading = .ok x

namespace Decode

variable {α : Type} {decode : Decoder α} {encode : α → Value} {depth : Nat}

theorem nat32_restores {n : Nat} (small : n < 4294967296) :
    Restores nat32 Value.natural 0 n := by
  intro supply _
  rw [Value.toReading, nat32]
  simp only [small, if_true]

theorem optional_restores {place : Option α} (some_restores : ∀ x, place = some x →
      Restores decode encode depth x)
    (present : ∀ x, (encode x).toReading ≠ .null) :
    Restores (optional decode) (Value.orNull encode) depth place := by
  intro supply room
  cases place with
  | none => rfl
  | some x =>
    have restored := some_restores x rfl supply room
    have apart := present x
    rw [Value.orNull]
    cases shape : (encode x).toReading with
    | null => exact absurd shape apart
    | _ =>
      rw [shape] at restored
      simp only [optional, restored]
      rfl

theorem itemsWith_eq_ok {read : Reading → Except Error α} {items : List Reading}
    {values : List α} :
    itemsWith read items = .ok values ↔
      List.Forall₂ (fun item value => read item = .ok value) items values := by
  induction items generalizing values with
  | nil => simp [itemsWith, eq_comm]
  | cons item items ih =>
    rw [List.forall₂_cons_left_iff, itemsWith]
    cases read item with
    | error error => simp
    | ok value => 
      simp only [← ih, Except.ok.injEq]
      cases itemsWith read items <;> simp [Except.map, eq_comm]

theorem list_eq_ok {supply inner : Supply} (entered : supply.enter = .ok inner)
    {reading : Reading} {values : List α} :
    list decode supply reading = .ok values ↔ ∃ items, reading = .array items none ∧
      List.Forall₂ (fun item value => decode inner item = .ok value) items values := by
  simp only [← itemsWith_eq_ok]
  cases reading with
  | array items ending =>
    simp only [list, entered, Reading.array.injEq]
    cases accepted : itemsWith (decode inner) items <;> cases ending <;>
      simp [accepted, Reading.readEnding, Except.map]
  | _ => simp [list]

theorem itemsWith_map (supply : Supply) {xs : List α}
    (each : ∀ x ∈ xs, decode supply (encode x).toReading = .ok x) :
    itemsWith (decode supply) (xs.map fun x => (encode x).toReading) = .ok xs :=
  itemsWith_eq_ok.mpr (List.forall₂_map_left_iff.mpr (List.forall₂_same.mpr each))

theorem list_restores {xs : List α} (each : ∀ x ∈ xs, Restores decode encode depth x) :
    Restores (list decode) (fun xs => .array (xs.map encode)) (depth + 1) xs := by
  intro supply room
  obtain ⟨inner, entered, holds⟩ := room.enter
  have items := itemsWith_map inner fun x member => each x member inner holds
  rw [Value.toReading, Value.toReadings_eq_map, List.map_map, list, entered]
  simp only [Function.comp_def, items]
  rfl

theorem string_restores (text : String) : Restores string .text 0 text := fun _ _ => rfl

theorem pair_restores {β : Type} {decodeOther : Decoder β} {encodeOther : β → Value}
    {pair : α × β}
    (first : Restores decode encode depth pair.1)
    (second : Restores decodeOther encodeOther depth pair.2) :
    Restores (Decode.pair decode decodeOther)
      (fun pair => .array [encode pair.1, encodeOther pair.2]) (depth + 1) pair := by
  intro supply room
  obtain ⟨inner, entered, holds⟩ := room.enter
  simp only [Value.toReading, Value.toReadings, Decode.pair, entered, first inner holds,
    second inner holds]
  rfl

theorem variant_name {κ : Type} [Vocabulary κ] (key : κ) :
    variant κ (Vocabulary.name key) = .ok key := by
  rw [variant, Vocabulary.ofName?_name]

theorem variant_eq_ok {κ : Type} [Vocabulary κ] {name : String} {key : κ} :
    variant κ name = .ok key ↔ name = Vocabulary.name key := by
  constructor
  · intro known
    rw [variant] at known
    split at known
    · rename_i value found
      obtain rfl := Except.ok.inj known
      exact (Vocabulary.name_of_ofName? found).symm
    · cases known
  · rintro rfl
    exact variant_name key

section Table

variable {κ : Type} [Vocabulary κ] [DecidableEq κ]

theorem tableMembers_eq_ok {read : Reading → Except Error α} {members : List (Text × Reading)}
    {start result : Table κ α} :
    tableMembers read start members = .ok result ↔ ∃ entries : List (κ × α),
      List.Forall₂ (fun member entry => member.1 = .ok (Vocabulary.name entry.1) ∧
        read member.2 = .ok entry.2) members entries ∧
      entries.foldl (fun table entry => table.insert entry.1 entry.2) start = result := by
  induction members generalizing start with
  | nil => simp [tableMembers]
  | cons member members ih =>
    obtain ⟨key, content⟩ := member
    constructor
    · intro accepted
      rcases key with fault | name
      · cases accepted
      · rw [tableMembers] at accepted
        split at accepted
        · cases accepted
        · rename_i key known
          split at accepted
          · cases accepted
          · rename_i value decoded
            obtain ⟨entries, related, folded⟩ := ih.mp accepted
            exact ⟨(key, value) :: entries,
              .cons ⟨congrArg Except.ok (variant_eq_ok.mp known), decoded⟩ related, folded⟩
    · rintro ⟨_, _ | ⟨⟨rfl, decoded⟩, related⟩, folded⟩
      rw [tableMembers, variant_name]
      simp only [decoded]
      exact ih.mpr ⟨_, related, folded⟩

theorem table_eq_ok {supply inner : Supply} (entered : supply.enter = .ok inner)
    {reading : Reading} {result : Table κ α} :
    table decode supply reading = .ok result ↔ ∃ members, reading = .object members none ∧
      ∃ entries : List (κ × α),
        List.Forall₂ (fun member entry => member.1 = .ok (Vocabulary.name entry.1) ∧
          decode inner member.2 = .ok entry.2) members entries ∧
        entries.foldl (fun table entry => table.insert entry.1 entry.2) .empty = result := by
  simp only [← tableMembers_eq_ok]
  cases reading with
  | object members ending =>
    simp only [table, entered, Reading.object.injEq]
    cases accepted : tableMembers (decode inner) (Table.empty : Table κ α) members <;>
      cases ending <;> simp [accepted, Reading.readEnding, Except.map]
  | _ => simp [table]

theorem tableMembers_map {supply : Supply} {entries : List (κ × α)}
    (each : ∀ entry ∈ entries, decode supply (encode entry.2).toReading = .ok entry.2)
    (start : Table κ α) :
    tableMembers (decode supply) start
        (entries.map fun entry => (.ok (Vocabulary.name entry.1), (encode entry.2).toReading)) =
      .ok (entries.foldl (fun table entry => table.insert entry.1 entry.2) start) := by
  refine tableMembers_eq_ok.mpr ⟨entries, List.forall₂_map_left_iff.mpr ?_, rfl⟩
  exact List.forall₂_same.mpr fun entry member => ⟨rfl, each entry member⟩

end Table

end Decode

theorem RecordField.fill_of {σ α : Type} {name : String} {decode : Decoder α}
    {get : σ → Option α} {set : σ → α → σ} {mayLack : Bool} {supply : Supply} {reading : Reading}
    {value : α} {record : σ} (restored : decode supply reading = .ok value) :
    (RecordField.of name decode get set mayLack).fill supply reading record =
      .ok (set record value) := by
  simp only [RecordField.of, restored]
  rfl

namespace Shape

variable {σ : Type} {shape : Shape σ}

theorem fillMembers_cons {supply : Supply} {name : String} (field : RecordField σ)
    {content : Reading} {members : List (Text × Reading)} {record filled : σ}
    (known : shape.fields.find? (·.name == name) = some field)
    (fresh : field.given record = false) (filling : field.fill supply content record = .ok filled) :
    shape.fillMembers supply ((.ok name, content) :: members) record =
      shape.fillMembers supply members filled := by
  rw [fillMembers]
  simp only [known, fresh, filling, Bool.false_eq_true, if_false]

theorem complete_object {α : Type} {start : σ} {finish : σ → Except Error α} {supply inner : Supply}
    {members : List (Text × Reading)} {record : σ} (entered : supply.enter = .ok inner)
    (filled : shape.fillMembers inner members start = .ok record) :
    shape.complete start finish supply (.object members none) = finish record := by
  rw [complete, decode]
  simp only [entered, filled]
  rfl

end Shape

namespace Tagged

variable {tagged : Tagged} {supply : Supply} {place : Nat}

theorem splitMembers_toMembers (place : Nat) {members : List (String × Value)}
    (apart : ∀ member ∈ members, member.1 ≠ tagged.tag)
    (room : supply.Holds (Value.membersDepth members)) :
    tagged.splitMembers supply (some place) (Value.toMembers members) =
      .ok (some place, Value.toMembers members) := by
  induction members with
  | nil => rfl
  | cons member members ih =>
    obtain ⟨key, value⟩ := member
    rw [Value.membersDepth] at room
    have settled := Reading.settle_toReading value (room.mono (Nat.le_max_left _ _))
    have rest := ih (fun other listed => apart other (List.mem_cons_of_mem _ listed))
      (room.mono (Nat.le_max_right _ _))
    rw [Value.toMembers, splitMembers, if_neg (apart (key, value) List.mem_cons_self)]
    simp only [settled, rest]
    rfl

theorem split_toReading {name : String} {members : List (String × Value)}
    (listed : tagged.variants.findIdx? (· == name) = some place)
    (apart : ∀ member ∈ members, member.1 ≠ tagged.tag)
    (room : supply.Holds (Value.membersDepth members + 1)) :
    tagged.split supply (Value.object ((tagged.tag, .text name) :: members)).toReading =
      .ok (place, .object (Value.toMembers members) none) := by
  obtain ⟨inner, entered, holds⟩ := room.enter
  have others := splitMembers_toMembers place apart holds
  have first : tagged.splitMembers inner none
      (Value.toMembers ((tagged.tag, .text name) :: members)) =
        .ok (some place, Value.toMembers members) := by
    rw [Value.toMembers, splitMembers, if_pos rfl, Value.toReading, variant]
    simp only [listed, others, Option.isSome_none, Bool.false_eq_true, if_false]
  rw [Value.toReading, split]
  simp only [entered, first]
  rfl

end Tagged

theorem decodeText_eq_ok {α : Type} {decode : Decoder α} {source : String} {x : α} :
    decodeText decode source = .ok x ↔
      ∃ reading, scan source = (reading, false) ∧ decode .whole reading = .ok x := by
  rw [decodeText]
  rcases scan source with ⟨reading, trailing⟩
  cases accepted : decode .whole reading <;> cases trailing <;> simp [accepted]

theorem decodeText_compact {α : Type} {decode : Decoder α} {value : Value} {x : α}
    (fits : value.Fits) (restored : decode .whole value.toReading = .ok x) :
    decodeText decode value.compact = .ok x :=
  decodeText_eq_ok.mpr ⟨value.toReading, scan_compact fits, restored⟩

theorem fromUTF8?_eq_some {bytes : ByteArray} {source : String} :
    String.fromUTF8? bytes = some source ↔ bytes = source.toUTF8 := by
  rw [String.fromUTF8?]
  constructor
  · intro decoded
    split at decoded
    · obtain rfl := Option.some.inj decoded
      rfl
    · cases decoded
  · rintro rfl
    exact dif_pos source.isValidUTF8

theorem decodeBytes_toUTF8 {α : Type} (decode : Decoder α) (source : String) :
    decodeBytes decode source.toUTF8 = decodeText decode source := by
  rw [decodeBytes, fromUTF8?_eq_some.mpr rfl]

theorem decodeBytes_eq_ok {α : Type} {decode : Decoder α} {bytes : ByteArray} {x : α} :
    decodeBytes decode bytes = .ok x ↔
      ∃ source, bytes = source.toUTF8 ∧ decodeText decode source = .ok x := by
  constructor
  · intro accepted
    rw [decodeBytes] at accepted
    split at accepted
    · cases accepted
    · rename_i source decoded
      exact ⟨source, fromUTF8?_eq_some.mp decoded, accepted⟩
  · rintro ⟨source, rfl, accepted⟩
    rw [decodeBytes_toUTF8, accepted]

end RepairMining.Json
