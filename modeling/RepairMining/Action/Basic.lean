import RepairMining.Action.Kind
import RepairMining.Diff.Basic

/-!
Repair actions. A number called `before...` or a deleted statement lies in the tree before the fix,
an `after...` or inserted one in the tree after it; `fields` says so for every field.
-/

namespace RepairMining

inductive RepairAction where
  | deleteStatement (stmt : Nat)
  | insertStatement (stmt parent : Nat)
  | modifyStatement (before after : Nat) (edits : List EditOp)
  | wrapStatement (stmt wrapper guard : Nat)
  | unwrapStatement (stmt after : Nat)
  | replaceIfCondition (before after beforeGuard afterGuard : Nat)
  | replaceThenBranch (before after beforeThen afterThen : Nat)
  | replaceElseBranch (before after beforeElse afterElse : Nat)
  | removeElseBranch (before after beforeElse : Nat)
  | insertElseBranch (before after afterElse : Nat)
  | insertElseIfBranch (before after afterElse : Nat)
  | guardElseBranch (before after guard : Nat)
  | replaceSwitchExpression (before after beforeExpr afterExpr : Nat)
  | replaceLoopGuard (before after : Nat) (beforeGuard afterGuard : Option Nat)
  | replaceLoopBody (before after beforeBody afterBody : Nat)
  | modifyAssignment (before after : Nat)
  | replaceAssignmentRhs (before after : Nat)
  | replaceAssignmentLhs (before after : Nat)
  | replaceAssignmentOp (before after : Nat)
  | modifyCall (before after : Nat)
  | replaceCallTarget (before after : Nat)
  | modifyCallArgs (before after : Nat)
  | insertCallArg (call arg : Nat)
  | removeCallArg (call arg : Nat)
  | replaceCallArg (before after : Nat)
  deriving DecidableEq, Repr

inductive Slot where
  | node (side : Side)
  | optional (side : Side)
  | edits
  deriving DecidableEq, Repr

inductive Slot.Value where
  | node (side : Side) (place : Nat)
  | optional (side : Side) (place : Option Nat)
  | edits (script : List EditOp)
  deriving DecidableEq, Repr

namespace Slot.Value

def slot : Slot.Value → Slot
  | node side _ => .node side
  | optional side _ => .optional side
  | edits _ => .edits

def mentions : Slot.Value → List (Side × Nat)
  | node side place => [(side, place)]
  | optional side place => (place.map fun place => (side, place)).toList
  | edits script => script.flatMap EditOp.mentions

end Slot.Value

namespace ActionKind

def signature : ActionKind → List (String × Slot)
  | deleteStatement => [("stmt", .node .before)]
  | insertStatement => [("stmt", .node .after), ("parent", .node .after)]
  | modifyStatement => [("from", .node .before), ("to", .node .after), ("edits", .edits)]
  | wrapStatement => [("stmt", .node .before), ("wrapper", .node .after), ("guard", .node .after)]
  | unwrapStatement => [("stmt", .node .before), ("to", .node .after)]
  | replaceIfCondition => pair "from_guard" "to_guard"
  | replaceThenBranch => pair "from_then" "to_then"
  | replaceElseBranch => pair "from_else" "to_else"
  | removeElseBranch => statements ++ [("from_else", .node .before)]
  | insertElseBranch => statements ++ [("els", .node .after)]
  | insertElseIfBranch => statements ++ [("else_if", .node .after)]
  | guardElseBranch =>
    [("from_if", .node .before), ("to_if", .node .after), ("guard", .node .after)]
  | replaceSwitchExpression => pair "from_expr" "to_expr"
  | replaceLoopGuard =>
    statements ++ [("from_guard", .optional .before), ("to_guard", .optional .after)]
  | replaceLoopBody => pair "from_body" "to_body"
  | modifyCallArgs => [("from_call", .node .before), ("to_call", .node .after)]
  | insertCallArg => [("call", .node .after), ("arg", .node .after)]
  | removeCallArg => [("call", .node .before), ("arg", .node .before)]
  | modifyAssignment | replaceAssignmentRhs | replaceAssignmentLhs | replaceAssignmentOp
  | modifyCall | replaceCallTarget | replaceCallArg => [("from", .node .before), ("to", .node .after)]
where
  statements : List (String × Slot) := [("from_stmt", .node .before), ("to_stmt", .node .after)]
  pair (before after : String) : List (String × Slot) :=
    statements ++ [(before, .node .before), (after, .node .after)]

end ActionKind

namespace RepairAction

def kind : RepairAction → ActionKind
  | deleteStatement .. => .deleteStatement
  | insertStatement .. => .insertStatement
  | modifyStatement .. => .modifyStatement
  | wrapStatement .. => .wrapStatement
  | unwrapStatement .. => .unwrapStatement
  | replaceIfCondition .. => .replaceIfCondition
  | replaceThenBranch .. => .replaceThenBranch
  | replaceElseBranch .. => .replaceElseBranch
  | removeElseBranch .. => .removeElseBranch
  | insertElseBranch .. => .insertElseBranch
  | insertElseIfBranch .. => .insertElseIfBranch
  | guardElseBranch .. => .guardElseBranch
  | replaceSwitchExpression .. => .replaceSwitchExpression
  | replaceLoopGuard .. => .replaceLoopGuard
  | replaceLoopBody .. => .replaceLoopBody
  | modifyAssignment .. => .modifyAssignment
  | replaceAssignmentRhs .. => .replaceAssignmentRhs
  | replaceAssignmentLhs .. => .replaceAssignmentLhs
  | replaceAssignmentOp .. => .replaceAssignmentOp
  | modifyCall .. => .modifyCall
  | replaceCallTarget .. => .replaceCallTarget
  | modifyCallArgs .. => .modifyCallArgs
  | insertCallArg .. => .insertCallArg
  | removeCallArg .. => .removeCallArg
  | replaceCallArg .. => .replaceCallArg

def values : RepairAction → List Slot.Value
  | deleteStatement stmt => [.node .before stmt]
  | insertStatement stmt parent => [.node .after stmt, .node .after parent]
  | modifyStatement before after edits => [.node .before before, .node .after after, .edits edits]
  | wrapStatement stmt wrapper guard =>
    [.node .before stmt, .node .after wrapper, .node .after guard]
  | unwrapStatement stmt after => [.node .before stmt, .node .after after]
  | replaceIfCondition before after beforePart afterPart
  | replaceThenBranch before after beforePart afterPart
  | replaceElseBranch before after beforePart afterPart
  | replaceSwitchExpression before after beforePart afterPart
  | replaceLoopBody before after beforePart afterPart =>
    [.node .before before, .node .after after, .node .before beforePart, .node .after afterPart]
  | removeElseBranch before after beforeElse =>
    [.node .before before, .node .after after, .node .before beforeElse]
  | insertElseBranch before after part | insertElseIfBranch before after part
  | guardElseBranch before after part =>
    [.node .before before, .node .after after, .node .after part]
  | replaceLoopGuard before after beforeGuard afterGuard =>
    [.node .before before, .node .after after, .optional .before beforeGuard,
      .optional .after afterGuard]
  | modifyAssignment before after | replaceAssignmentRhs before after
  | replaceAssignmentLhs before after | replaceAssignmentOp before after | modifyCall before after
  | replaceCallTarget before after | modifyCallArgs before after | replaceCallArg before after =>
    [.node .before before, .node .after after]
  | insertCallArg call arg => [.node .after call, .node .after arg]
  | removeCallArg call arg => [.node .before call, .node .before arg]

def ofValues? : ActionKind → List Slot.Value → Option RepairAction
  | .deleteStatement, [.node .before stmt] => some (deleteStatement stmt)
  | .insertStatement, [.node .after stmt, .node .after parent] => some (insertStatement stmt parent)
  | .modifyStatement, [.node .before before, .node .after after, .edits edits] =>
    some (modifyStatement before after edits)
  | .wrapStatement, [.node .before stmt, .node .after wrapper, .node .after guard] =>
    some (wrapStatement stmt wrapper guard)
  | .unwrapStatement, [.node .before stmt, .node .after after] => some (unwrapStatement stmt after)
  | .replaceIfCondition,
      [.node .before before, .node .after after, .node .before x, .node .after y] =>
    some (replaceIfCondition before after x y)
  | .replaceThenBranch,
      [.node .before before, .node .after after, .node .before x, .node .after y] =>
    some (replaceThenBranch before after x y)
  | .replaceElseBranch,
      [.node .before before, .node .after after, .node .before x, .node .after y] =>
    some (replaceElseBranch before after x y)
  | .removeElseBranch, [.node .before before, .node .after after, .node .before x] =>
    some (removeElseBranch before after x)
  | .insertElseBranch, [.node .before before, .node .after after, .node .after y] =>
    some (insertElseBranch before after y)
  | .insertElseIfBranch, [.node .before before, .node .after after, .node .after y] =>
    some (insertElseIfBranch before after y)
  | .guardElseBranch, [.node .before before, .node .after after, .node .after y] =>
    some (guardElseBranch before after y)
  | .replaceSwitchExpression,
    [.node .before before, .node .after after, .node .before x, .node .after y] =>
    some (replaceSwitchExpression before after x y)
  | .replaceLoopGuard,
    [.node .before before, .node .after after, .optional .before x, .optional .after y] =>
    some (replaceLoopGuard before after x y)
  | .replaceLoopBody, [.node .before before, .node .after after, .node .before x, .node .after y] =>
    some (replaceLoopBody before after x y)
  | .modifyAssignment, [.node .before before, .node .after after] =>
    some (modifyAssignment before after)
  | .replaceAssignmentRhs, [.node .before before, .node .after after] =>
    some (replaceAssignmentRhs before after)
  | .replaceAssignmentLhs, [.node .before before, .node .after after] =>
    some (replaceAssignmentLhs before after)
  | .replaceAssignmentOp, [.node .before before, .node .after after] =>
    some (replaceAssignmentOp before after)
  | .modifyCall, [.node .before before, .node .after after] => some (modifyCall before after)
  | .replaceCallTarget, [.node .before before, .node .after after] =>
    some (replaceCallTarget before after)
  | .modifyCallArgs, [.node .before before, .node .after after] =>
    some (modifyCallArgs before after)
  | .insertCallArg, [.node .after call, .node .after arg] => some (insertCallArg call arg)
  | .removeCallArg, [.node .before call, .node .before arg] => some (removeCallArg call arg)
  | .replaceCallArg, [.node .before before, .node .after after] =>
    some (replaceCallArg before after)
  | _, _ => none

theorem ofValues?_values (action : RepairAction) :
    ofValues? action.kind action.values = some action := by
  cases action <;> rfl

theorem slots_values (action : RepairAction) :
    action.values.map Slot.Value.slot = action.kind.signature.map (·.2) := by
  cases action <;> rfl

def fields (action : RepairAction) : List (String × Slot.Value) :=
  (action.kind.signature.map (·.1)).zip action.values

def mentions (action : RepairAction) : List (Side × Nat) :=
  action.values.flatMap Slot.Value.mentions

end RepairAction

end RepairMining
