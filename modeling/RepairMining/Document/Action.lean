import RepairMining.Action.Set
import RepairMining.Document.Diff

namespace RepairMining.Document

open Json

def actionTag : Tagged where
  label := "internally tagged enum RepairAction"
  tag := "type"
  variants := Vocabulary.names ActionKind

def recordLabel : ActionKind → String
  | .replaceAssignmentRhs => "struct ReplaceAssignmentRhs"
  | .replaceAssignmentLhs => "struct ReplaceAssignmentLhs"
  | kind => "struct " ++ kind.name

abbrev ActionDraft := List (String × Slot.Value)

def slotValue : Slot → Decoder Slot.Value
  | .node side => fun supply reading => (Decode.nat32 supply reading).map (.node side)
  | .optional side => fun supply reading =>
    (Decode.optional Decode.nat32 supply reading).map (.optional side)
  | .edits => fun supply reading => (Decode.list edit supply reading).map .edits

def slotField (entry : String × Slot) : RecordField ActionDraft :=
  .of entry.1 (slotValue entry.2) (·.lookup entry.1)
    (fun draft value => (entry.1, value) :: draft) false

def actionShape (kind : ActionKind) : Shape ActionDraft where
  label := recordLabel kind
  fields := kind.signature.map slotField
  strict := false

/-- Content of a field. A node that may be absent is absent when nothing is said. -/
def slotOf (draft : ActionDraft) : String × Slot → Except Error Slot.Value
  | (name, .optional side) => .ok ((draft.lookup name).getD (.optional side none))
  | (name, _) => require name (draft.lookup name)

def finishAction (kind : ActionKind) (draft : ActionDraft) : Except Error RepairAction := do
  let values ← kind.signature.mapM (slotOf draft)
  match RepairAction.ofValues? kind values with
  | some action => return action
  | none => throw .malformed

def actionBody (kind : ActionKind) : Decoder RepairAction :=
  (actionShape kind).complete [] (finishAction kind)

def action : Decoder RepairAction := fun supply reading =>
  match actionTag.split supply reading with
  | .error error => .error error
  | .ok (place, body) =>
    match ActionKind.all[place]? with
    | none => .error .malformed
    | some kind => actionBody kind .buffer body

def actionList : Decoder (List RepairAction) := Decode.list action

def actionSet : Decoder ActionSet := Decode.table actionList

def fieldValue : Slot.Value → Value
  | .node _ place => .natural place
  | .optional _ place => Value.orNull .natural place
  | .edits script => .array (script.map editValue)

def fieldMembers (action : RepairAction) : List (String × Value) :=
  action.fields.map fun field => (field.1, fieldValue field.2)

def actionValue (action : RepairAction) : Value :=
  .object (("type", .text action.kind.name) :: fieldMembers action)

def actionListValue (actions : List RepairAction) : Value := .array (actions.map actionValue)

def tableValue {κ α : Type} [Vocabulary κ] (encode : α → Value) (table : Table κ α) : Value :=
  .object (table.entries.map fun entry => (Vocabulary.name entry.1, encode entry.2))

def actionSetValue (set : ActionSet) : Value := tableValue actionListValue set

end RepairMining.Document
