import RepairMining.Diff.Correspondence
import RepairMining.Syntax.Arena

namespace RepairMining

structure DiffId where
  repository : String
  fix : String
  file : String
  deriving DecidableEq, Repr

def DiffId.toText (id : DiffId) : String := id.repository ++ "@" ++ id.fix ++ ":" ++ id.file

inductive EditOp where
  | insert (inserted : Nat)
  | delete (deleted : Nat)
  | update (before after : Nat)
  | move (movedFrom movedTo : Nat)
  deriving DecidableEq, Repr

namespace EditOp

def name : EditOp → String
  | insert _ => "insert"
  | delete _ => "delete"
  | update _ _ => "update"
  | move _ _ => "move"

def before? : EditOp → Option Nat
  | insert _ => none
  | delete deleted => some deleted
  | update before _ => some before
  | move movedFrom _ => some movedFrom

def after? : EditOp → Option Nat
  | insert inserted => some inserted
  | delete _ => none
  | update _ after => some after
  | move _ movedTo => some movedTo

def mentions (op : EditOp) : List (Side × Nat) :=
  (op.before?.map fun node => (Side.before, node)).toList ++
    (op.after?.map fun node => (Side.after, node)).toList

end EditOp

abbrev FixFiles := List String

namespace FixFiles

def touchesHeader (files : FixFiles) : Bool := files.any (·.endsWith ".h")

def sourceCount (files : FixFiles) : Nat := (files.filter (·.endsWith ".c")).length

end FixFiles

structure DiffDraft where
  id : DiffId
  before : Arena
  after : Arena
  correspondence : Correspondence
  edits : Option (List EditOp)

namespace DiffDraft

def tree (draft : DiffDraft) : Side → Arena
  | .before => draft.before
  | .after => draft.after

/-- Every mention of a node, in the order in which they are checked, with what mentions it. -/
def mentions (draft : DiffDraft) : List (String × Side × Nat) :=
  (draft.correspondence.pairs.flatMap fun pair =>
      [("correspondence", .before, pair.1), ("correspondence", .after, pair.2)]) ++
    ((draft.edits.getD []).flatMap fun op => op.mentions.map fun mention => (op.name, mention))

def InTree (draft : DiffDraft) (mention : String × Side × Nat) : Prop :=
  (draft.tree mention.2.1).contains mention.2.2 = true

instance (draft : DiffDraft) (mention : String × Side × Nat) : Decidable (draft.InTree mention) :=
  inferInstanceAs (Decidable (_ = true))

end DiffDraft

structure Diff extends DiffDraft where
  fixFiles : FixFiles
  in_trees : ∀ mention ∈ toDiffDraft.mentions, toDiffDraft.InTree mention

namespace Diff

structure Stray where
  id : DiffId
  context : String
  side : Side
  node : Nat
  size : Nat
  deriving DecidableEq, Repr

def Stray.message (stray : Stray) : String :=
  s!"{stray.id.toText}: {stray.context} references {stray.side.name} node #{stray.node} " ++
    s!"outside a tree of {stray.size} nodes"

/-- Checks a draft. Until told otherwise the fix touches this one file. -/
def check (draft : DiffDraft) : Except Stray Diff :=
  match found : draft.mentions.find? (fun mention => decide (¬ draft.InTree mention)) with
  | some (context, side, node) =>
    .error { id := draft.id, context, side, node, size := (draft.tree side).size }
  | none =>
    .ok { draft with
      fixFiles := [draft.id.file]
      in_trees := by
        intro mention member
        simpa using List.find?_eq_none.mp found mention member }

/-- An empty list says nothing about the fix and leaves the files as they are. -/
def withFixFiles (diff : Diff) (files : FixFiles) : Diff :=
  if files.isEmpty then diff else { diff with fixFiles := files }

end Diff

end RepairMining
