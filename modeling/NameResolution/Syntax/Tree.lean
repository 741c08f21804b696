import NameResolution.Syntax.Ty

/-!
# Program trees

Expressions, statements and function declarations of the scripting language.
Every expression and statement carries its `Node`; a function declaration has
a span but no number of its own, since the statement or expression that holds
it is numbered.
-/

namespace NameResolution

/-- A literal value. -/
inductive Literal where
  | number (value : Float)
  | string (value : String)
  | bool (value : Bool)
  | nil
deriving Inhabited

/-- Operators on two values, both of which are always computed. -/
inductive BinaryOp where
  | add | sub | mul | div | rem | eq | notEq | lt | ltEq | gt | gtEq
deriving DecidableEq, Inhabited

/-- Operators that may leave their right side alone. -/
inductive LogicalOp where
  | and | or
deriving DecidableEq, Inhabited

/-- Operators on one value. -/
inductive UnaryOp where
  | neg | not
deriving DecidableEq, Inhabited

mutual

/-- An expression. -/
inductive Expr where
  /-- A number, a string, a truth value or `nil`. -/
  | literal (node : Node) (value : Literal)
  /-- An array: `[a, b, c]`. -/
  | array (node : Node) (elements : List Expr)
  /-- An assignment to a name: `name = value`. -/
  | assign (node : Node) (name : Ident) (value : Expr)
  /-- A bare name that is read. -/
  | var (node : Node) (name : Ident)
  /-- The argument `mut name`: the binding is passed by mutable reference. -/
  | mutArg (node : Node) (name : Ident)
  /-- Two values joined: `left op right`. -/
  | binary (node : Node) (left : Expr) (op : BinaryOp) (right : Expr)
  /-- A conjunction or disjunction: `left and right`, `left or right`. -/
  | logical (node : Node) (left : Expr) (op : LogicalOp) (right : Expr)
  /-- A sign or a negation: `-operand`, `!operand`. -/
  | unary (node : Node) (op : UnaryOp) (operand : Expr)
  /-- Parentheses: `(inner)`. -/
  | grouping (node : Node) (inner : Expr)
  /-- A call: `callee(args)`. -/
  | call (node : Node) (callee : Expr) (args : List Expr)
  /-- A member that is read: `object.name`. -/
  | get (node : Node) (object : Expr) (name : Ident)
  /-- A member that is assigned: `object.name = value`. -/
  | set (node : Node) (object : Expr) (name : Ident) (value : Expr)
  /-- An element: `object[index]`. -/
  | index (node : Node) (object : Expr) (index : Expr)
  /-- The instance a method runs on. -/
  | this (node : Node)
  /-- A method of the superclass: `super.method`. -/
  | super (node : Node) (method : Ident)
  /-- A struct literal: the type's name and a value for each field. -/
  | structInit (node : Node) (name : Ident) (fields : List FieldInit)
  /-- A function without a name, in the place of a value. -/
  | lambda (node : Node) (decl : FunctionDecl)

/-- One `field: value` of a struct literal. -/
structure FieldInit where
  name : Ident
  value : Expr

/-- A function: a named one, a method or a lambda. A foreign one is implemented
by the runtime. -/
structure FunctionDecl where
  name : Option Ident
  params : List Param
  returnType : Option Ty
  body : List Stmt
  foreign : Bool
  span : Span

/-- A statement. -/
inductive Stmt where
  /-- A statement list in braces. -/
  | block (node : Node) (body : List Stmt)
  | breakLoop (node : Node)
  | continueLoop (node : Node)
  /-- A variable: `let`, `let mut`, `extern let`, or a field of a struct. -/
  | letDecl (node : Node) (name : Ident) (mutable : Bool) (ty : Option Ty)
      (initial : Option Expr) (foreign : Bool)
  /-- A loop over a range of numbers; the counter may be left out. -/
  | forRange (node : Node) (counter : Option Ident) (lower upper : Expr) (body : List Stmt)
  /-- A loop over a collection. -/
  | forEach (node : Node) (item : Ident) (collection : Expr) (body : List Stmt)
  /-- A loop under a condition, or without end where there is none. -/
  | whileLoop (node : Node) (condition : Option Expr) (body : List Stmt)
  | function (node : Node) (decl : FunctionDecl)
  | expression (node : Node) (value : Expr)
  | print (node : Node) (value : Expr)
  | ifElse (node : Node) (condition : Expr) (thenBranch : Stmt) (elseBranch : Option Stmt)
  | ret (node : Node) (value : Option Expr)
  | structDecl (node : Node) (name : Ident) (members : List Stmt)
  | classDecl (node : Node) (name : Ident) (superclass : Option Expr)
      (methods : List FunctionDecl)

end

instance : Inhabited Expr := ⟨.this default⟩
instance : Inhabited Stmt := ⟨.breakLoop default⟩
instance : Inhabited FunctionDecl := ⟨⟨none, [], none, [], false, default⟩⟩

/-- A program is its list of top-level statements. -/
abbrev Program := List Stmt

namespace Expr

/-- The number and span of an expression. -/
def node : Expr → Node
  | .literal node _ => node
  | .array node _ => node
  | .assign node _ _ => node
  | .var node _ => node
  | .mutArg node _ => node
  | .binary node _ _ _ => node
  | .logical node _ _ _ => node
  | .unary node _ _ => node
  | .grouping node _ => node
  | .call node _ _ => node
  | .get node _ _ => node
  | .set node _ _ _ => node
  | .index node _ _ => node
  | .this node => node
  | .super node _ => node
  | .structInit node _ _ => node
  | .lambda node _ => node

/-- The number of an expression. -/
def id (expr : Expr) : NodeId := expr.node.id

/-- The text an expression covers. -/
def span (expr : Expr) : Span := expr.node.span

/-- The name, if the expression is nothing but a name that is read. -/
def asVariable? : Expr → Option Ident
  | .var _ name => some name
  | _ => none

/-- A few words for the form of an expression, used in messages. -/
def shape : Expr → String
  | .literal .. => "literal"
  | .array .. => "array literal"
  | .assign .. => "assignment"
  | .var .. => "variable"
  | .mutArg .. => "mutable argument"
  | .binary .. => "binary expression"
  | .logical .. => "logical expression"
  | .unary .. => "unary expression"
  | .grouping .. => "grouping"
  | .call .. => "call"
  | .get .. => "member access"
  | .set .. => "member assignment"
  | .index .. => "index expression"
  | .this .. => "this"
  | .super .. => "super"
  | .structInit .. => "struct literal"
  | .lambda .. => "anonymous function"

end Expr

namespace Stmt

/-- The number and span of a statement. -/
def node : Stmt → Node
  | .block node _ => node
  | .breakLoop node => node
  | .continueLoop node => node
  | .letDecl node _ _ _ _ _ => node
  | .forRange node _ _ _ _ => node
  | .forEach node _ _ _ => node
  | .whileLoop node _ _ => node
  | .function node _ => node
  | .expression node _ => node
  | .print node _ => node
  | .ifElse node _ _ _ => node
  | .ret node _ => node
  | .structDecl node _ _ => node
  | .classDecl node _ _ _ => node

/-- The number of a statement. -/
def id (stmt : Stmt) : NodeId := stmt.node.id

/-- The text a statement covers. -/
def span (stmt : Stmt) : Span := stmt.node.span

/-- Whether the next statement of the same list can never be reached from this one. -/
def isTerminal : Stmt → Bool
  | .ret .. => true
  | .breakLoop .. => true
  | .continueLoop .. => true
  | _ => false

end Stmt

end NameResolution
