import NameResolution.Proofs.Lexical.Scopes
import NameResolution.Proofs.Walk.Visits

/-!
# Reference sites

The references of a program and where they stand, read off the tree alone.
Scopes are passed down and never changed: a piece of a tree is given the
declarations in force where it begins, and says which it adds to the scope it
stands in. No state of a run enters.

Scopes are opened by the program, by each block, loop body, function and
struct body, and by a class: one that binds `this` around its methods, and
outside that one that binds `super` if the class has a superclass.
Sites come in the order in which a walk reaches them.
-/

namespace NameResolution

/-- The forms of reference to a name. -/
inductive ReferenceForm where
  | var
  | assign
  | mutArg
  | structInit
  | this
  | super
deriving DecidableEq, Inhabited

/-- A reference: its form, the number of its node, and the name it asks for. -/
structure Reference where
  form : ReferenceForm
  node : NodeId
  name : Ident
deriving DecidableEq, Inhabited

/-- The reference that an expression makes by itself, apart from its parts. -/
def Expr.reference? : Expr → Option Reference
  | .assign node name _ => some ⟨.assign, node.id, name⟩
  | .var node name => some ⟨.var, node.id, name⟩
  | .mutArg node name => some ⟨.mutArg, node.id, name⟩
  | .this node => some ⟨.this, node.id, ⟨"this", node.span⟩⟩
  | .super node _ => some ⟨.super, node.id, ⟨"super", node.span⟩⟩
  | .structInit node name _ => some ⟨.structInit, node.id, name⟩
  | _ => none

/-- A reference where it stands: the innermost enclosing class, and the
declarations in force at that point. -/
structure Site extends Reference where
  cls : ClassKind
  scopes : LexicalScopes
deriving DecidableEq, Inhabited

/-- The site of the reference that an expression makes by itself. -/
def Expr.ownSite (context : Context) (scopes : LexicalScopes) (expr : Expr) : List Site :=
  expr.reference?.toList.map fun reference => ⟨reference, context.cls, scopes⟩

/-- The declaration that a name makes. -/
def Ident.declaration (name : Ident) (mutable member : Bool) : Declaration :=
  ⟨name.name, name.span, mutable, member⟩

/-- The declaration that a parameter makes. -/
def Param.declaration (param : Param) : Declaration :=
  param.name.declaration param.isMutable false

/-- The declarations that a statement adds to the scope it stands in. The
branches of a conditional stand in the scope of the conditional itself. -/
def Stmt.declares (member : Bool) : Stmt → List Declaration
  | .letDecl _ name mutable _ _ _ => [name.declaration mutable member]
  | .function _ decl => decl.name.toList.map fun name => name.declaration false member
  | .structDecl _ name _ => [name.declaration false member]
  | .classDecl _ name _ _ => [name.declaration false member]
  | .ifElse _ _ thenBranch none => thenBranch.declares member
  | .ifElse _ _ thenBranch (some elseBranch) =>
    thenBranch.declares member ++ elseBranch.declares member
  | _ => []

/-- The scopes around the methods of a class. -/
def LexicalScopes.enterClass (scopes : LexicalScopes) (name : Ident) (superclass : Option Expr) :
    LexicalScopes :=
  [⟨"this", name.span, false, false⟩] ::
    match superclass with
    | none => scopes
    | some parent => [⟨"super", parent.span, false, false⟩] :: scopes

mutual

/-- The sites in an expression. -/
def Expr.sites (initializerName : String) (context : Context) (scopes : LexicalScopes) :
    Expr → List Site
  | .literal .. => []
  | .array _ elements => Expr.sitesAll initializerName context scopes elements
  | .assign node name value =>
    value.sites initializerName context scopes ++
      Expr.ownSite context scopes (.assign node name value)
  | .var node name => Expr.ownSite context scopes (.var node name)
  | .mutArg node name => Expr.ownSite context scopes (.mutArg node name)
  | .binary _ left _ right =>
    left.sites initializerName context scopes ++ right.sites initializerName context scopes
  | .logical _ left _ right =>
    left.sites initializerName context scopes ++ right.sites initializerName context scopes
  | .unary _ _ operand => operand.sites initializerName context scopes
  | .grouping _ inner => inner.sites initializerName context scopes
  | .call _ callee args =>
    callee.sites initializerName context scopes ++
      Expr.sitesAll initializerName context scopes args
  | .get _ object _ => object.sites initializerName context scopes
  | .set _ object _ value =>
    value.sites initializerName context scopes ++ object.sites initializerName context scopes
  | .index _ object index =>
    object.sites initializerName context scopes ++ index.sites initializerName context scopes
  | .this node => Expr.ownSite context scopes (.this node)
  | .super node method => Expr.ownSite context scopes (.super node method)
  | .structInit node name fields =>
    FieldInit.sitesAll initializerName context scopes fields ++
      Expr.ownSite context scopes (.structInit node name fields)
  | .lambda _ decl => decl.sites initializerName context scopes .function
  termination_by structural expr => expr

/-- The sites in expressions from left to right. -/
def Expr.sitesAll (initializerName : String) (context : Context) (scopes : LexicalScopes) :
    List Expr → List Site
  | [] => []
  | expr :: rest =>
    expr.sites initializerName context scopes ++
      Expr.sitesAll initializerName context scopes rest
  termination_by structural exprs => exprs

/-- The sites in the value of a field. -/
def FieldInit.sites (initializerName : String) (context : Context) (scopes : LexicalScopes) :
    FieldInit → List Site
  | ⟨_, value⟩ => value.sites initializerName context scopes
  termination_by structural field => field

/-- The sites in the values of fields from left to right. -/
def FieldInit.sitesAll (initializerName : String) (context : Context) (scopes : LexicalScopes) :
    List FieldInit → List Site
  | [] => []
  | field :: rest =>
    field.sites initializerName context scopes ++
      FieldInit.sitesAll initializerName context scopes rest
  termination_by structural fields => fields

/-- The sites in a function, whose parameters and body share one scope. -/
def FunctionDecl.sites (initializerName : String) (context : Context) (scopes : LexicalScopes)
    (kind : FunctionKind) : FunctionDecl → List Site
  | ⟨_, params, _, body, _, _⟩ =>
    Stmt.sitesAll initializerName (context.insideFunction kind)
      (scopes.enter.declareAll (params.map Param.declaration)) body
  termination_by structural decl => decl

/-- The sites in the methods of a class, in order. -/
def FunctionDecl.sitesMethods (initializerName : String) (context : Context)
    (scopes : LexicalScopes) : List FunctionDecl → List Site
  | [] => []
  | method :: rest =>
    method.sites initializerName context scopes (method.kindInClass initializerName) ++
      FunctionDecl.sitesMethods initializerName context scopes rest
  termination_by structural methods => methods

/-- The sites in an expression that may be missing. -/
def Expr.sites? (initializerName : String) (context : Context) (scopes : LexicalScopes) :
    Option Expr → List Site
  | none => []
  | some expr => expr.sites initializerName context scopes
  termination_by structural expr => expr

/-- The sites in the value of a `return`. The walk leaves such a value alone in an initializer. -/
def Expr.sitesReturned (initializerName : String) (context : Context) (scopes : LexicalScopes) :
    Option Expr → List Site
  | none => []
  | some value =>
    match context.function with
    | .initializer => []
    | _ => value.sites initializerName context scopes
  termination_by structural value => value

/-- The sites in a statement. Loop bounds, collections, conditions and
superclasses stand outside the scopes that their statements open. -/
def Stmt.sites (initializerName : String) (context : Context) (scopes : LexicalScopes) :
    Stmt → List Site
  | .block _ body => Stmt.sitesAll initializerName context scopes.enter body
  | .breakLoop _ => []
  | .continueLoop _ => []
  | .letDecl _ name mutable _ initial _ =>
    Expr.sites? initializerName context
      (scopes.declare (name.declaration mutable context.inStruct)) initial
  | .forRange _ counter lower upper body =>
    lower.sites initializerName context scopes ++ upper.sites initializerName context scopes ++
      Stmt.sitesAll initializerName context
        (scopes.enter.declareAll (counter.toList.map (·.declaration false false))) body
  | .forEach _ item collection body =>
    collection.sites initializerName context scopes ++
      Stmt.sitesAll initializerName context
        (scopes.enter.declare (item.declaration false false)) body
  | .whileLoop _ condition body =>
    Expr.sites? initializerName context scopes condition ++
      Stmt.sitesAll initializerName context scopes.enter body
  | .function _ decl =>
    decl.sites initializerName context
      (scopes.declareAll (decl.name.toList.map (·.declaration false context.inStruct))) .function
  | .expression _ value => value.sites initializerName context scopes
  | .print _ value => value.sites initializerName context scopes
  | .ifElse _ condition thenBranch elseBranch =>
    condition.sites initializerName context scopes ++
      thenBranch.sites initializerName context scopes ++
      Stmt.sites? initializerName context
        (scopes.declareAll (thenBranch.declares context.inStruct)) elseBranch
  | .ret _ value => Expr.sitesReturned initializerName context scopes value
  | .structDecl _ name members =>
    Stmt.sitesAll initializerName (context.enterStruct .struct)
      (scopes.declare (name.declaration false context.inStruct)).enter members
  | .classDecl _ name superclass methods =>
    let inside := context.enterClass (.ofSuperclass superclass)
    let around := scopes.declare (name.declaration false context.inStruct)
    Expr.sites? initializerName inside around superclass ++
      FunctionDecl.sitesMethods initializerName inside (around.enterClass name superclass) methods
  termination_by structural stmt => stmt

/-- The sites in a statement that may be missing. -/
def Stmt.sites? (initializerName : String) (context : Context) (scopes : LexicalScopes) :
    Option Stmt → List Site
  | none => []
  | some stmt => stmt.sites initializerName context scopes
  termination_by structural stmt => stmt

/-- The sites in a statement list. What a statement declares is in force from the next one on. -/
def Stmt.sitesAll (initializerName : String) (context : Context) (scopes : LexicalScopes) :
    List Stmt → List Site
  | [] => []
  | stmt :: rest =>
    stmt.sites initializerName context scopes ++
      Stmt.sitesAll initializerName context
        (scopes.declareAll (stmt.declares context.inStruct)) rest
  termination_by structural stmts => stmts

end

/-- The sites of a program, whose statements share one scope. -/
def Program.sites (initializerName : String) (program : Program) : List Site :=
  Stmt.sitesAll initializerName Context.outermost (LexicalScopes.enter []) program

/-- How many scopes are left on the way out from a site to the innermost scope
that binds its name. -/
def Site.depth? (site : Site) : Option Nat :=
  site.scopes.depth? site.name.name

end NameResolution
