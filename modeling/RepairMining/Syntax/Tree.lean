import RepairMining.Syntax.Kind

namespace RepairMining

structure Span where
  startLine : Nat
  startCol : Nat
  endLine : Nat
  endCol : Nat
  deriving DecidableEq, Repr

structure Attributes where
  kind : NodeKind
  label : Option String
  role : Option Role
  span : Option Span
  deriving DecidableEq, Repr

inductive Tree where
  | node (attributes : Attributes) (children : List Tree)
  deriving Repr

namespace Tree

def attributes : Tree → Attributes
  | node attributes _ => attributes

def children : Tree → List Tree
  | node _ children => children

mutual

def size : Tree → Nat
  | node _ children => forestSize children + 1

def forestSize : List Tree → Nat
  | [] => 0
  | tree :: trees => size tree + forestSize trees

end

def fold {α : Type} (combine : Attributes → List α → α) : Tree → α
  | node attributes children => combine attributes (foldAll children)
where
  foldAll : List Tree → List α
    | [] => []
    | tree :: trees => fold combine tree :: foldAll trees

end Tree

end RepairMining
