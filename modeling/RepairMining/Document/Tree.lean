import RepairMining.Json.Decode
import RepairMining.Json.Value
import RepairMining.Syntax.Arena

namespace RepairMining.Document

open Json

structure SpanDraft where
  startLine : Option Nat
  startCol : Option Nat
  endLine : Option Nat
  endCol : Option Nat

def spanShape : Shape SpanDraft where
  label := "struct Span"
  fields := [
    .of "start_line" Decode.nat32 (·.startLine)
      (fun draft value => { draft with startLine := some value }) false,
    .of "start_col" Decode.nat32 (·.startCol)
      (fun draft value => { draft with startCol := some value }) false,
    .of "end_line" Decode.nat32 (·.endLine)
      (fun draft value => { draft with endLine := some value }) false,
    .of "end_col" Decode.nat32 (·.endCol)
      (fun draft value => { draft with endCol := some value }) false]
  strict := false

def finishSpan (draft : SpanDraft) : Except Error Span := do
  let startLine ← require "start_line" draft.startLine
  let startCol ← require "start_col" draft.startCol
  let endLine ← require "end_line" draft.endLine
  let endCol ← require "end_col" draft.endCol
  return { startLine, startCol, endLine, endCol }

def span : Decoder Span := spanShape.complete ⟨none, none, none, none⟩ finishSpan

structure NodeDraft where
  kind : Option NodeKind
  label : Option (Option String)
  role : Option (Option Role)
  span : Option (Option Span)
  children : Option (List Tree)

def nodeShape (child : Decoder Tree) : Shape NodeDraft where
  label := "struct TreeNode"
  fields := [
    .of "kind" (Decode.named NodeKind) (·.kind)
      (fun draft value => { draft with kind := some value }) false,
    .of "label" (Decode.optional Decode.string) (·.label)
      (fun draft value => { draft with label := some value }) true,
    .of "role" (Decode.optional (Decode.named Role)) (·.role)
      (fun draft value => { draft with role := some value }) true,
    .of "span" (Decode.optional Document.span) (·.span)
      (fun draft value => { draft with span := some value }) true,
    .of "children" (Decode.list child) (·.children)
      (fun draft value => { draft with children := some value }) true]
  strict := false

def finishNode (draft : NodeDraft) : Except Error Tree := do
  let kind ← require "kind" draft.kind
  let attributes :=
    { kind
      label := draft.label.getD none
      role := draft.role.getD none
      span := draft.span.getD none }
  return .node attributes (draft.children.getD [])

def treeWithin : Nat → Decoder Tree
  | 0 => fun _ _ => .error .malformed
  | levels + 1 =>
    (nodeShape (treeWithin levels)).complete ⟨none, none, none, none, none⟩ finishNode

/-- Each level nests an object and a list, so a text has no room for more than 64 levels. -/
def tree : Decoder Tree := treeWithin 64

def arena : Decoder Arena := fun supply reading => (tree supply reading).map .ofTree

def spanValue (span : Span) : Value :=
  .object [("start_line", .natural span.startLine), ("start_col", .natural span.startCol),
    ("end_line", .natural span.endLine), ("end_col", .natural span.endCol)]

def attributeMembers (attributes : Attributes) : List (String × Value) :=
  ("kind", .text attributes.kind.name) ::
    (Value.memberOf "label" .text attributes.label ++
      (Value.memberOf "role" (fun role => .text role.name) attributes.role ++
        Value.memberOf "span" spanValue attributes.span))

def nodeValue (attributes : Attributes) (children : List Value) : Value :=
  .object (attributeMembers attributes ++
    match children with
    | [] => []
    | children => [("children", .array children)])

def treeValue (tree : Tree) : Value := tree.fold nodeValue

def arenaValue (arena : Arena) : Value := treeValue arena.toTree

end RepairMining.Document
