import RepairMining.Vocabulary

namespace RepairMining

inductive Category where
  | statement
  | expression
  | auxiliary
  deriving DecidableEq, Repr

inductive NodeKind where
  | block
  | ifElse
  | switch
  | whileLoop
  | doWhileLoop
  | forLoop
  | exprStatement
  | returnStatement
  | breakStatement
  | continueStatement
  | gotoStatement
  | labeled
  | caseLabel
  | defaultLabel
  | declaration
  | empty
  | assignment
  | functionCall
  | identity
  | constant
  | binary
  | unary
  | ternary
  | arrayAccess
  | fieldAccess
  | cast
  | sizeOf
  | translationUnit
  | functionDef
  | operator
  | exprList
  | typeName
  | opaqueSyntax
  deriving DecidableEq, Repr

namespace NodeKind

def name : NodeKind → String
  | block => "block"
  | ifElse => "if_else"
  | switch => "switch"
  | whileLoop => "while"
  | doWhileLoop => "do_while"
  | forLoop => "for"
  | exprStatement => "expr_statement"
  | returnStatement => "return"
  | breakStatement => "break"
  | continueStatement => "continue"
  | gotoStatement => "goto"
  | labeled => "labeled"
  | caseLabel => "case"
  | defaultLabel => "default"
  | declaration => "declaration"
  | empty => "empty"
  | assignment => "assignment"
  | functionCall => "function_call"
  | identity => "identity"
  | constant => "constant"
  | binary => "binary"
  | unary => "unary"
  | ternary => "ternary"
  | arrayAccess => "array_access"
  | fieldAccess => "field_access"
  | cast => "cast"
  | sizeOf => "size_of"
  | translationUnit => "translation_unit"
  | functionDef => "function_def"
  | operator => "operator"
  | exprList => "expr_list"
  | typeName => "type_name"
  | opaqueSyntax => "opaque"

def all : List NodeKind :=
  [block, ifElse, switch, whileLoop, doWhileLoop, forLoop, exprStatement, returnStatement,
    breakStatement, continueStatement, gotoStatement, labeled, caseLabel, defaultLabel,
    declaration, empty, assignment, functionCall, identity, constant, binary, unary, ternary,
    arrayAccess, fieldAccess, cast, sizeOf, translationUnit, functionDef, operator, exprList,
    typeName, opaqueSyntax]

theorem ofName_name (kind : NodeKind) :
    all.find? (fun other => other.name == kind.name) = some kind := by
  cases kind <;> rfl

instance : Vocabulary NodeKind where
  all := all
  name := name
  mem_all kind := by cases kind <;> decide
  nodup_all := by decide
  name_injective first second same := by
    have found := ofName_name first
    rw [same, ofName_name second] at found
    exact (Option.some.inj found).symm

def category : NodeKind → Category
  | block | ifElse | switch | whileLoop | doWhileLoop | forLoop | exprStatement
  | returnStatement | breakStatement | continueStatement | gotoStatement | labeled | caseLabel
  | defaultLabel | declaration | empty => .statement
  | assignment | functionCall | identity | constant | binary | unary | ternary | arrayAccess
  | fieldAccess | cast | sizeOf => .expression
  | translationUnit | functionDef | operator | exprList | typeName | opaqueSyntax => .auxiliary

def isStatement (kind : NodeKind) : Bool := kind.category == .statement

def isExpression (kind : NodeKind) : Bool := kind.category == .expression

def isLoop : NodeKind → Bool
  | whileLoop | doWhileLoop | forLoop => true
  | _ => false

end NodeKind

inductive Role where
  | condition
  | thenBranch
  | elseBranch
  | body
  | switchExpr
  | init
  | after
  | lhs
  | op
  | rhs
  | target
  | args
  deriving DecidableEq, Repr

namespace Role

def name : Role → String
  | condition => "condition"
  | thenBranch => "then"
  | elseBranch => "else"
  | body => "body"
  | switchExpr => "switch_expr"
  | init => "init"
  | after => "after"
  | lhs => "lhs"
  | op => "op"
  | rhs => "rhs"
  | target => "target"
  | args => "args"

def all : List Role :=
  [condition, thenBranch, elseBranch, body, switchExpr, init, after, lhs, op, rhs, target, args]

theorem ofName_name (role : Role) :
    all.find? (fun other => other.name == role.name) = some role := by
  cases role <;> rfl

instance : Vocabulary Role where
  all := all
  name := name
  mem_all role := by cases role <;> decide
  nodup_all := by decide
  name_injective first second same := by
    have found := ofName_name first
    rw [same, ofName_name second] at found
    exact (Option.some.inj found).symm

end Role

end RepairMining
