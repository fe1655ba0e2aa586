import RepairMining.Diff.Basic
import RepairMining.Document.Tree

namespace RepairMining.Document

open Json

/-- Pairs that contradict each other make the document unusable. -/
def correspondence : Decoder Correspondence := fun supply reading =>
  match Decode.list (Decode.pair Decode.nat32 Decode.nat32) supply reading with
  | .error error => .error error
  | .ok pairs =>
    match Correspondence.ofPairs pairs with
    | .error conflict => .error (.data (.refused conflict.message))
    | .ok correspondence => .ok correspondence

def correspondenceValue (correspondence : Correspondence) : Value :=
  .array (correspondence.pairs.map fun pair => .array [.natural pair.1, .natural pair.2])

structure EditDraft where
  first : Option Nat
  second : Option Nat

namespace EditDraft

def field (name : String) : RecordField EditDraft :=
  .of name Decode.nat32 (·.first) (fun draft value => { draft with first := some value }) false

def secondField (name : String) : RecordField EditDraft :=
  .of name Decode.nat32 (·.second) (fun draft value => { draft with second := some value }) false

def one (label name : String) (make : Nat → EditOp) : Decoder EditOp :=
  Shape.complete ⟨label, [field name], false⟩ ⟨none, none⟩ fun draft => do
    return make (← require name draft.first)

def two (label name other : String) (make : Nat → Nat → EditOp) : Decoder EditOp :=
  Shape.complete ⟨label, [field name, secondField other], false⟩ ⟨none, none⟩ fun draft => do
    let first ← require name draft.first
    let second ← require other draft.second
    return make first second

end EditDraft

def editTag : Tagged where
  label := "internally tagged enum EditOp"
  tag := "op"
  variants := ["insert", "delete", "update", "move"]

def editBody : Nat → Decoder EditOp
  | 0 => EditDraft.one "struct variant EditOp::Insert" "inserted" .insert
  | 1 => EditDraft.one "struct variant EditOp::Delete" "deleted" .delete
  | 2 => EditDraft.two "struct variant EditOp::Update" "before" "after" .update
  | _ => EditDraft.two "struct variant EditOp::Move" "moved_from" "moved_to" .move

def edit : Decoder EditOp := fun supply reading =>
  match editTag.split supply reading with
  | .error error => .error error
  | .ok (place, body) => editBody place .buffer body

def editMembers : EditOp → List (String × Value)
  | .insert inserted => [("inserted", .natural inserted)]
  | .delete deleted => [("deleted", .natural deleted)]
  | .update before after => [("before", .natural before), ("after", .natural after)]
  | .move movedFrom movedTo => [("moved_from", .natural movedFrom), ("moved_to", .natural movedTo)]

def editValue (op : EditOp) : Value := .object (("op", .text op.name) :: editMembers op)

structure IdDraft where
  repository : Option String
  fix : Option String
  file : Option String

def idShape : Shape IdDraft where
  label := "struct DiffId"
  fields := [
    .of "repository" Decode.string (·.repository)
      (fun draft value => { draft with repository := some value }) false,
    .of "fix" Decode.string (·.fix) (fun draft value => { draft with fix := some value }) false,
    .of "file" Decode.string (·.file) (fun draft value => { draft with file := some value }) false]
  strict := false

def finishId (draft : IdDraft) : Except Error DiffId := do
  let repository ← require "repository" draft.repository
  let fix ← require "fix" draft.fix
  let file ← require "file" draft.file
  return { repository, fix, file }

def diffId : Decoder DiffId := idShape.complete ⟨none, none, none⟩ finishId

def idValue (id : DiffId) : Value :=
  .object [("repository", .text id.repository), ("fix", .text id.fix), ("file", .text id.file)]

def fixFiles : Decoder FixFiles := Decode.list Decode.string

structure DiffContents where
  draft : DiffDraft
  fixFiles : FixFiles

namespace DiffContents

def check (contents : DiffContents) : Except Diff.Stray Diff :=
  (Diff.check contents.draft).map (·.withFixFiles contents.fixFiles)

end DiffContents

structure PartialDiff where
  id : Option DiffId
  before : Option Arena
  after : Option Arena
  mappings : Option Correspondence
  edits : Option (Option (List EditOp))
  fixFiles : Option FixFiles

def diffShape : Shape PartialDiff where
  label := "struct DiffDocument"
  fields := [
    .of "id" diffId (·.id) (fun draft value => { draft with id := some value }) false,
    .of "before" arena (·.before) (fun draft value => { draft with before := some value }) false,
    .of "after" arena (·.after) (fun draft value => { draft with after := some value }) false,
    .of "mappings" correspondence (·.mappings)
      (fun draft value => { draft with mappings := some value }) false,
    .of "edits" (Decode.optional (Decode.list edit)) (·.edits)
      (fun draft value => { draft with edits := some value }) false,
    .of "fix_files" Document.fixFiles (·.fixFiles)
      (fun draft value => { draft with fixFiles := some value }) true]
  strict := true

def finishDiff (draft : PartialDiff) : Except Error DiffContents := do
  let id ← require "id" draft.id
  let before ← require "before" draft.before
  let after ← require "after" draft.after
  let correspondence ← require "mappings" draft.mappings
  return {
    draft := { id, before, after, correspondence, edits := draft.edits.getD none }
    fixFiles := draft.fixFiles.getD [] }

def diff : Decoder DiffContents :=
  diffShape.complete ⟨none, none, none, none, none, none⟩ finishDiff

def diffValue (diff : Diff) : Value :=
  .object [
    ("id", idValue diff.id),
    ("before", arenaValue diff.before),
    ("after", arenaValue diff.after),
    ("mappings", correspondenceValue diff.correspondence),
    ("edits", Value.orNull (fun script => .array (script.map editValue)) diff.edits),
    ("fix_files", .array (diff.fixFiles.map .text))]

end RepairMining.Document
