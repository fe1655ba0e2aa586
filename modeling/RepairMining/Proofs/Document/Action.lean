import RepairMining.Document.Action
import RepairMining.Proofs.Json.Decoding

namespace RepairMining

def Numbered (mentions : List (Side × Nat)) : Prop :=
  ∀ mention ∈ mentions, mention.2 < 4294967296

namespace Document

open Json

theorem natural_field {name : String} {n : Nat} {record : EditDraft} (small : n < 4294967296) :
    (EditDraft.field name).fill .buffer (Value.natural n).toReading record =
      .ok { record with first := some n } := by
  simp only [EditDraft.field, RecordField.of, Decode.nat32_restores small .buffer trivial]
  rfl

theorem natural_secondField {name : String} {n : Nat} {record : EditDraft}
    (small : n < 4294967296) :
    (EditDraft.secondField name).fill .buffer (Value.natural n).toReading record =
      .ok { record with second := some n } := by
  simp only [EditDraft.secondField, RecordField.of, Decode.nat32_restores small .buffer trivial]
  rfl

theorem one_decodes {label name : String} {make : Nat → EditOp} {n : Nat}
    (small : n < 4294967296) :
    EditDraft.one label name make .buffer
        (.object (Value.toMembers [(name, .natural n)]) none) = .ok (make n) := by
  have filled : Shape.fillMembers ⟨label, [EditDraft.field name], false⟩ .buffer
      (Value.toMembers [(name, .natural n)]) ⟨none, none⟩ = .ok ⟨some n, none⟩ := by
    rw [Value.toMembers, Shape.fillMembers_cons (EditDraft.field name) _ rfl
      (natural_field small)]
    · rfl
    · simp [EditDraft.field, RecordField.of]
  rw [EditDraft.one, Shape.complete_object rfl filled]
  rfl

theorem two_decodes {label name other : String} {make : Nat → Nat → EditOp} {n m : Nat}
    (apart : name ≠ other) (small : n < 4294967296) (alsoSmall : m < 4294967296) :
    EditDraft.two label name other make .buffer
        (.object (Value.toMembers [(name, .natural n), (other, .natural m)]) none) =
      .ok (make n m) := by
  have filled : Shape.fillMembers
      ⟨label, [EditDraft.field name, EditDraft.secondField other], false⟩ .buffer
        (Value.toMembers [(name, .natural n), (other, .natural m)]) ⟨none, none⟩ =
      .ok ⟨some n, some m⟩ := by
    rw [Value.toMembers, Shape.fillMembers_cons (EditDraft.field name) _ rfl
      (natural_field small), Value.toMembers,
      Shape.fillMembers_cons (EditDraft.secondField other) _ rfl
      (natural_secondField alsoSmall)]
    · rfl
    · simp [EditDraft.field, EditDraft.secondField, RecordField.of, apart]
    · simp [EditDraft.field, RecordField.of]
  rw [EditDraft.two, Shape.complete_object rfl filled]
  rfl

theorem editMembers_shallow (op : EditOp) :
    Value.membersDepth (editMembers op) = 0 := by
  cases op <;> rfl

def editPlace : EditOp → Nat
  | .insert _ => 0
  | .delete _ => 1
  | .update _ _ => 2
  | .move _ _ => 3

theorem split_edit (op : EditOp) {supply : Supply} (room : supply.Holds 1) :
    editTag.split supply (editValue op).toReading =
      .ok (editPlace op, .object (Value.toMembers (editMembers op)) none) := by
  have listed : editTag.variants.findIdx? (· == op.name) = some (editPlace op) := by
    cases op <;> rfl
  have apart : ∀ member ∈ editMembers op, member.1 ≠ editTag.tag := by
    cases op <;> simp [editMembers, editTag]
  apply Tagged.split_toReading listed apart
  rw [editMembers_shallow]
  exact room

theorem edit_restores {op : EditOp} (numbered : Numbered op.mentions) :
    Restores edit editValue 1 op := by
  intro supply room
  rw [edit, split_edit op room]
  cases op with
  | insert inserted =>
    exact one_decodes (numbered (.after, inserted) (by simp [EditOp.mentions, EditOp.after?]))
  | delete deleted =>
    exact one_decodes (numbered (.before, deleted) (by simp [EditOp.mentions, EditOp.before?]))
  | update before after =>
    exact two_decodes (by decide)
      (numbered (.before, before) (by simp [EditOp.mentions, EditOp.before?]))
      (numbered (.after, after) (by simp [EditOp.mentions, EditOp.after?]))
  | move movedFrom movedTo =>
    exact two_decodes (by decide)
      (numbered (.before, movedFrom) (by simp [EditOp.mentions, EditOp.before?]))
      (numbered (.after, movedTo) (by simp [EditOp.mentions, EditOp.after?]))

theorem slot_restores {value : Slot.Value} (numbered : Numbered value.mentions) :
    Restores (slotValue value.slot) fieldValue 2 value := by
  intro supply room
  cases value with
  | node side place =>
    have small : place < 4294967296 := numbered (side, place) List.mem_cons_self
    have restored := Decode.nat32_restores small supply (room.mono (Nat.zero_le 2))
    simp only [fieldValue, Slot.Value.slot, slotValue, restored]
    rfl
  | optional side place =>
    have restores : Restores (Decode.optional Decode.nat32) (Value.orNull .natural) 0 place := by
      refine Decode.optional_restores ?_ (by simp [Value.toReading])
      rintro node rfl
      exact Decode.nat32_restores (numbered (side, node) List.mem_cons_self)
    have restored := restores supply (room.mono (Nat.zero_le 2))
    simp only [fieldValue, Slot.Value.slot, slotValue, restored]
    rfl
  | edits script =>
    have restores (op : EditOp) (member : op ∈ script) : Restores edit editValue 1 op :=
      edit_restores fun mention mentioned =>
        numbered mention (List.mem_flatMap.mpr ⟨op, member, mentioned⟩)
    have restored := Decode.list_restores restores supply room
    simp only [fieldValue, Slot.Value.slot, slotValue, restored]
    rfl

def slots (action : RepairAction) : List ((String × Slot) × Slot.Value) :=
  action.kind.signature.zip action.values

theorem slots_signature (action : RepairAction) :
    (slots action).map (·.1) = action.kind.signature := by
  cases action <;> rfl

theorem slots_values (action : RepairAction) : (slots action).map (·.2) = action.values := by
  cases action <;> rfl

theorem slot_eq {action : RepairAction} :
    ∀ entry ∈ slots action, entry.2.slot = entry.1.2 := by
  rw [← List.map_inj_left]
  calc (slots action).map (fun entry => entry.2.slot)
      = ((slots action).map (·.2)).map Slot.Value.slot := by rw [List.map_map]; rfl
    _ = ((slots action).map (·.1)).map (·.2) := by
        rw [slots_values, slots_signature, RepairAction.slots_values]
    _ = (slots action).map (fun entry => entry.1.2) := by rw [List.map_map]; rfl

theorem fieldMembers_eq (action : RepairAction) :
    fieldMembers action = (slots action).map fun entry => (entry.1.1, fieldValue entry.2) := by
  rw [fieldMembers, RepairAction.fields, ← slots_signature, ← slots_values, List.map_map,
    List.zip_map', List.map_map]
  rfl

theorem signature_nodup (kind : ActionKind) : (kind.signature.map (·.1)).Nodup := by
  cases kind <;> decide

theorem type_notMem_signature (kind : ActionKind) : "type" ∉ kind.signature.map (·.1) := by
  cases kind <;> decide

theorem find?_slotField {signature : List (String × Slot)} {entry : String × Slot}
    (distinct : (signature.map (·.1)).Nodup) (listed : entry ∈ signature) :
    (signature.map slotField).find? (·.name == entry.1) = some (slotField entry) := by
  induction signature with
  | nil => cases listed
  | cons first rest ih =>
    obtain ⟨apart, distinct⟩ := List.nodup_cons.mp distinct
    rw [List.map_cons, List.find?_cons]
    rcases List.mem_cons.mp listed with rfl | listed
    · simp [slotField, RecordField.of]
    · have other : first.1 ≠ entry.1 := by
        intro same
        exact apart (List.mem_map.mpr ⟨entry, listed, same.symm⟩)
      have unequal : ((slotField first).name == entry.1) = false := by
        simpa [slotField, RecordField.of] using other
      rw [unequal]
      exact ih distinct listed

/-- Filling in what has been written for some of the fields. The draft lists the newest first. -/
theorem fillMembers_slots {kind : ActionKind} {entries : List ((String × Slot) × Slot.Value)}
    {draft : ActionDraft} (known : ∀ entry ∈ entries, entry.1 ∈ kind.signature)
    (fit : ∀ entry ∈ entries, entry.2.slot = entry.1.2 ∧ Numbered entry.2.mentions)
    (distinct : (entries.map (·.1.1)).Nodup)
    (fresh : ∀ entry ∈ entries, draft.lookup entry.1.1 = none) :
    (actionShape kind).fillMembers .buffer
        (Value.toMembers (entries.map fun entry => (entry.1.1, fieldValue entry.2))) draft =
      .ok ((entries.map fun entry => (entry.1.1, entry.2)).reverse ++ draft) := by
  induction entries generalizing draft with
  | nil => rfl
  | cons entry entries ih =>
    obtain ⟨⟨name, slot⟩, value⟩ := entry
    obtain ⟨apart, others⟩ := List.nodup_cons.mp distinct
    obtain ⟨fits, numbered⟩ := fit _ List.mem_cons_self
    have fits : value.slot = slot := fits
    subst fits
    have filling : (slotField (name, value.slot)).fill .buffer (fieldValue value).toReading draft =
        .ok ((name, value) :: draft) := by
      simp only [slotField, RecordField.of, slot_restores numbered .buffer trivial]
      rfl
    have unfilled : (slotField (name, value.slot)).given draft = false := by
      have absent := fresh _ List.mem_cons_self
      simp only [slotField, RecordField.of]
      rw [absent]
      rfl
    rw [List.map_cons, Value.toMembers,
      Shape.fillMembers_cons _ (find?_slotField (signature_nodup kind)
        (known _ List.mem_cons_self)) unfilled filling,
      ih (fun other member => known other (List.mem_cons_of_mem _ member))
        (fun other member => fit other (List.mem_cons_of_mem _ member)) others ?_]
    · simp
    · intro other member
      have different : other.1.1 ≠ name := by
        intro same
        exact apart (List.mem_map.mpr ⟨other, member, same⟩)
      rw [List.lookup_cons, show (other.1.1 == name) = false by simpa using different]
      exact fresh other (List.mem_cons_of_mem _ member)

theorem lookup_of_mem {κ β : Type} [BEq κ] [LawfulBEq κ] {entries : List (κ × β)} {key : κ}
    {value : β} (distinct : (entries.map (·.1)).Nodup) (member : (key, value) ∈ entries) :
    entries.lookup key = some value := by
  induction entries with
  | nil => cases member
  | cons entry entries ih =>
    obtain ⟨apart, distinct⟩ := List.nodup_cons.mp distinct
    rw [List.lookup_cons]
    rcases List.mem_cons.mp member with rfl | member
    · simp
    · have different : key ≠ entry.1 := by
        rintro rfl
        exact apart (List.mem_map.mpr ⟨(entry.1, value), member, rfl⟩)
      rw [show (key == entry.1) = false by simpa using different]
      exact ih distinct member

theorem mapM_ok {α β ε : Type} {f : α → Except ε β} {entries : List (α × β)}
    (each : ∀ entry ∈ entries, f entry.1 = .ok entry.2) :
    (entries.map (·.1)).mapM f = .ok (entries.map (·.2)) := by
  induction entries with
  | nil => rfl
  | cons entry entries ih =>
    rw [List.map_cons, List.mapM_cons, each entry List.mem_cons_self,
      ih fun other member => each other (List.mem_cons_of_mem _ member)]
    rfl

theorem finishAction_slots {action : RepairAction} {draft : ActionDraft}
    (held : ∀ entry ∈ slots action, draft.lookup entry.1.1 = some entry.2) :
    finishAction action.kind draft = .ok action := by
  have contents : action.kind.signature.mapM (slotOf draft) = .ok action.values := by
    rw [← slots_signature, ← slots_values]
    apply mapM_ok
    rintro ⟨⟨name, slot⟩, value⟩ member
    have there : draft.lookup name = some value := held _ member
    cases slot with
    | optional side => simp only [slotOf, there, Option.getD_some]
    | node side => simp only [slotOf, there, require]
    | edits => simp only [slotOf, there, require]
  rw [finishAction, contents]
  simp only [bind, Except.bind, RepairAction.ofValues?_values]
  rfl

theorem slots_numbered {action : RepairAction} (numbered : Numbered action.mentions) :
    ∀ entry ∈ slots action, Numbered entry.2.mentions := by
  intro entry member mention mentioned
  have listed : entry.2 ∈ action.values := by
    rw [← slots_values]
    exact List.mem_map.mpr ⟨entry, member, rfl⟩
  exact numbered mention (List.mem_flatMap.mpr ⟨entry.2, listed, mentioned⟩)

theorem actionBody_decodes {action : RepairAction} (numbered : Numbered action.mentions) :
    actionBody action.kind .buffer (.object (Value.toMembers (fieldMembers action)) none) =
      .ok action := by
  have names : (slots action).map (·.1.1) = action.kind.signature.map (·.1) := by
    rw [← slots_signature, List.map_map]
    rfl
  have distinct : ((slots action).map (·.1.1)).Nodup := by
    rw [names]
    exact signature_nodup action.kind
  have filled : (actionShape action.kind).fillMembers .buffer
      (Value.toMembers (fieldMembers action)) [] =
        .ok ((slots action).map fun entry => (entry.1.1, entry.2)).reverse := by
    rw [fieldMembers_eq, fillMembers_slots ?_ ?_ distinct (by simp), List.append_nil]
    · intro entry member
      rw [← slots_signature]
      exact List.mem_map.mpr ⟨entry, member, rfl⟩
    · intro entry member
      exact ⟨slot_eq entry member, slots_numbered numbered entry member⟩
  rw [actionBody, Shape.complete_object rfl filled]
  apply finishAction_slots
  intro entry member
  refine lookup_of_mem ?_ ?_
  · rw [List.map_reverse, List.map_map]
    exact List.pairwise_reverse.mpr (distinct.imp Ne.symm)
  · exact List.mem_reverse.mpr (List.mem_map.mpr ⟨entry, member, rfl⟩)

theorem findIdx?_names {α : Type} [Vocabulary α] (x : α) :
    ∃ place, (Vocabulary.names α).findIdx? (· == Vocabulary.name x) = some place ∧
      (Vocabulary.all : List α)[place]? = some x := by
  cases found : (Vocabulary.names α).findIdx? (· == Vocabulary.name x) with
  | none =>
    have refused := List.findIdx?_eq_none_iff.mp found (Vocabulary.name x)
      (List.mem_map.mpr ⟨x, Vocabulary.mem_all x, rfl⟩)
    simp at refused
  | some place =>
    obtain ⟨inside, same, _⟩ := List.findIdx?_eq_some_iff_getElem.mp found
    refine ⟨place, rfl, ?_⟩
    simp only [Vocabulary.names, List.getElem_map, beq_iff_eq] at same
    rw [← Vocabulary.name_injective _ _ same]
    exact List.getElem?_eq_getElem _

theorem fieldValue_shallow (value : Slot.Value) : (fieldValue value).depth ≤ 2 := by
  cases value with
  | node side place => exact Nat.zero_le 2
  | optional side place => cases place <;> exact Nat.zero_le 2
  | edits script =>
    rw [fieldValue, Value.depth]
    refine Nat.succ_le_succ (Value.itemsDepth_le ?_)
    intro item member
    obtain ⟨op, _, rfl⟩ := List.mem_map.mp member
    cases op <;> exact Nat.le_refl 1

theorem action_restores {action : RepairAction} (numbered : Numbered action.mentions) :
    Restores Document.action actionValue 3 action := by
  intro supply room
  obtain ⟨place, listed, found⟩ := findIdx?_names action.kind
  have split : actionTag.split supply (actionValue action).toReading =
      .ok (place, .object (Value.toMembers (fieldMembers action)) none) := by
    refine Tagged.split_toReading listed ?_ (room.mono (Nat.succ_le_succ ?_))
    · intro member present
      obtain ⟨entry, there, rfl⟩ := List.mem_map.mp (fieldMembers_eq action ▸ present)
      rintro same
      apply type_notMem_signature action.kind
      rw [← slots_signature, List.map_map]
      exact List.mem_map.mpr ⟨entry, there, same⟩
    · rw [fieldMembers_eq]
      apply Value.membersDepth_le
      intro member present
      obtain ⟨entry, _, rfl⟩ := List.mem_map.mp present
      exact fieldValue_shallow entry.2
  rw [Document.action, split]
  simp only [show ActionKind.all[place]? = some action.kind from found]
  exact actionBody_decodes numbered

theorem tableValue_restores {κ α : Type} [Vocabulary κ] [DecidableEq κ] {decode : Decoder α}
    {encode : α → Value} {depth : Nat} {table : Table κ α}
    (each : ∀ key value, table.get? key = some value → Restores decode encode depth value) :
    Restores (Decode.table decode) (tableValue encode) (depth + 1) table := by
  intro supply room
  obtain ⟨inner, entered, holds⟩ := room.enter
  have restored (entry : κ × α) (member : entry ∈ table.entries) :
      decode inner (encode entry.2).toReading = .ok entry.2 :=
    each entry.1 entry.2 (Table.mem_entries.mp member) inner holds
  have members := Decode.tableMembers_map restored .empty
  rw [Table.foldl_entries] at members
  rw [tableValue, Value.toReading, Value.toMembers_eq_map, List.map_map, Decode.table]
  simp only [entered, Function.comp_def, members]
  rfl

theorem actionSet_restores {set : ActionSet}
    (numbered : ∀ kind, ∀ action ∈ set.actions kind, Numbered action.mentions) :
    Restores Document.actionSet actionSetValue 5 set := by
  refine tableValue_restores fun kind found present => Decode.list_restores ?_
  intro action member
  refine action_restores (numbered kind action ?_)
  rw [ActionSet.actions, present]
  exact member

theorem editValue_fits {op : EditOp} (numbered : Numbered op.mentions) :
    (editValue op).Fits := by
  have wide : ∀ mention ∈ op.mentions, mention.2 < Numeral.bound := fun mention mentioned =>
    Nat.lt_trans (numbered mention mentioned) (by decide)
  cases op <;>
    simpa [editValue, editMembers, Value.Fits, Value.MembersFit, EditOp.mentions, EditOp.before?,
      EditOp.after?] using wide

theorem fieldValue_fits {value : Slot.Value} (numbered : Numbered value.mentions) :
    (fieldValue value).Fits := by
  cases value with
  | node side place =>
    exact Nat.lt_trans (numbered (side, place) List.mem_cons_self) (by decide)
  | optional side place =>
    cases place with
    | none => exact trivial
    | some node => exact Nat.lt_trans (numbered (side, node) List.mem_cons_self) (by decide)
  | edits script =>
    apply Value.itemsFit_iff.mpr
    intro item member
    obtain ⟨op, listed, rfl⟩ := List.mem_map.mp member
    exact editValue_fits fun mention mentioned =>
      numbered mention (List.mem_flatMap.mpr ⟨op, listed, mentioned⟩)

theorem actionSetValue_fits {set : ActionSet}
    (numbered : ∀ kind, ∀ action ∈ set.actions kind, Numbered action.mentions) :
    (actionSetValue set).Fits := by
  apply Value.membersFit_iff.mpr
  intro member present
  obtain ⟨⟨kind, found⟩, entry, rfl⟩ := List.mem_map.mp present
  apply Value.itemsFit_iff.mpr
  intro item listed
  obtain ⟨action, there, rfl⟩ := List.mem_map.mp listed
  apply Value.membersFit_iff.mpr
  intro field written
  rcases List.mem_cons.mp written with rfl | written
  · exact trivial
  · rw [fieldMembers_eq] at written
    obtain ⟨slot, inside, rfl⟩ := List.mem_map.mp written
    refine fieldValue_fits (slots_numbered (numbered kind action ?_) slot inside)
    rw [ActionSet.actions, Table.mem_entries.mp entry]
    exact there

end Document

end RepairMining
