import RepairMining.Detection.Expressions
import RepairMining.Detection.Loops
import RepairMining.Detection.Statements

namespace RepairMining

def Detection.rule : ActionKind → Rule
  | .deleteStatement => deleteStatement
  | .insertStatement => insertStatement
  | .modifyStatement => modifyStatement
  | .wrapStatement => wrapStatement
  | .unwrapStatement => unwrapStatement
  | .replaceIfCondition => replaceIfCondition
  | .replaceThenBranch => replaceThenBranch
  | .replaceElseBranch => replaceElseBranch
  | .removeElseBranch => removeElseBranch
  | .insertElseBranch => insertElseBranch
  | .insertElseIfBranch => insertElseIfBranch
  | .guardElseBranch => guardElseBranch
  | .replaceSwitchExpression => replaceSwitchExpression
  | .replaceLoopGuard => replaceLoopGuard
  | .replaceLoopBody => replaceLoopBody
  | .modifyAssignment => modifyAssignment
  | .replaceAssignmentRhs => replaceAssignmentRhs
  | .replaceAssignmentLhs => replaceAssignmentLhs
  | .replaceAssignmentOp => replaceAssignmentOp
  | .modifyCall => modifyCall
  | .replaceCallTarget => replaceCallTarget
  | .modifyCallArgs => modifyCallArgs
  | .insertCallArg => insertCallArg
  | .removeCallArg => removeCallArg
  | .replaceCallArg => replaceCallArg

def ActionKind.detector (kind : ActionKind) : Detector := (Detection.rule kind).detector kind

theorem ActionKind.kind_detector (kind : ActionKind) : kind.detector.kind = kind := rfl

end RepairMining
