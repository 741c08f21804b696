import NameResolution.Syntax.Tree

/-!
# Drafts

A draft is a program tree without positions: names are plain strings and
nodes have no numbers. `NameResolution.Syntax.Numbering` hands out numbers and
spans. A draft may pin a number or a span, so that trees can be described in
which two nodes share one or in which spans lie anywhere.
-/

namespace NameResolution.Draft

/-- A type annotation. The mutable flag is set from outside. -/
inductive Ty where
  | any
  | named (name : String)
  | array (element : Ty)
  | function (params : List Ty) (result : Ty)
  /-- The inner annotation, with its mutable flag set. -/
  | mutable (inner : Ty)
deriving Inhabited

/-- A parameter. An annotation replaces the plain type and with it the flag
that `mutable` asks for. -/
structure Param where
  name : String
  mutable : Bool
  ty : Option Ty
  nameSpan : Option Span
deriving Inhabited

/-- Values that take the place of those handed out to a node. -/
structure Pin where
  id : Option NodeId
  span : Option Span
  nameSpan : Option Span
deriving Inhabited

/-- Changes to a function declaration once it has been numbered, made in the
order of the fields. -/
structure Amendment where
  foreign : Option Bool
  anonymous : Bool
  returnType : Option Ty
  nameSpan : Option Span
  declSpan : Option Span
deriving Inhabited

/-- The amendment that changes nothing. -/
def Amendment.nothing : Amendment := ⟨none, false, none, none, none⟩

mutual

/-- An expression without positions. -/
inductive Expr where
  | literal (value : Literal)
  | array (elements : List Expr)
  | assign (name : String) (value : Expr)
  | var (name : String)
  | mutArg (name : String)
  | binary (left : Expr) (op : BinaryOp) (right : Expr)
  | logical (left : Expr) (op : LogicalOp) (right : Expr)
  | unary (op : UnaryOp) (operand : Expr)
  | grouping (inner : Expr)
  | call (callee : Expr) (args : List Expr)
  | get (object : Expr) (name : String)
  | set (object : Expr) (name : String) (value : Expr)
  | index (object : Expr) (index : Expr)
  | this
  | super (method : String)
  | structInit (name : String) (fields : List FieldInit)
  | lambda (decl : FunctionDecl)
  /-- The inner expression, with some of its positions replaced. -/
  | pinned (pin : Pin) (inner : Expr)

/-- One `field: value` of a struct literal. -/
structure FieldInit where
  name : String
  value : Expr

/-- A function, a method or a lambda. -/
structure FunctionDecl where
  name : Option String
  params : List Param
  body : List Stmt
  foreign : Bool
  amendment : Amendment

/-- What a class inherits from. A parent given by name alone is numbered
after the class's own name, an expression before the methods. -/
inductive Parent where
  | absent
  | named (name : String)
  | value (expr : Expr)

/-- A statement without positions. -/
inductive Stmt where
  | block (body : List Stmt)
  | breakLoop
  | continueLoop
  | letDecl (name : String) (mutable : Bool) (ty : Option Ty) (initial : Option Expr)
      (foreign : Bool)
  | forRange (counter : Option String) (lower upper : Expr) (body : List Stmt)
  | forEach (item : String) (collection : Expr) (body : List Stmt)
  | whileLoop (condition : Option Expr) (body : List Stmt)
  | function (decl : FunctionDecl)
  | expression (value : Expr)
  | print (value : Expr)
  | ifElse (condition : Expr) (thenBranch : Stmt) (elseBranch : Option Stmt)
  | ret (value : Option Expr)
  | structDecl (name : String) (members : List Stmt)
  | classDecl (name : String) (parent : Parent) (methods : List FunctionDecl)
  /-- The inner statement, with some of its positions replaced. -/
  | pinned (pin : Pin) (inner : Stmt)

end

instance : Inhabited Expr := ⟨.this⟩
instance : Inhabited Stmt := ⟨.breakLoop⟩

/-- A program without positions. -/
abbrev Program := List Stmt

end NameResolution.Draft
