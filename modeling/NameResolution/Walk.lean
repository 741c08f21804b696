import NameResolution.Context
import NameResolution.Diagnostic.Error
import NameResolution.Natives
import NameResolution.Syntax.Tree

/-!
# The walk of a tree

`walk` lists what name resolution has to do for a piece of a tree, step by
step and in order. The list depends on the tree, on the context the piece
stands in and on the name that marks initializers, and on nothing else: no
step of it looks at what is bound. `NameResolution.Run` carries the steps out.

An expression is walked before what is done with its value, and from left to
right. Three places differ: the mutability of an assigned name is checked
before the value is walked, the value of a member assignment is walked before
its object, and the values of a struct literal before its type's name.
-/

namespace NameResolution

/-- Whether a reference reads its binding or only writes to it. -/
inductive Access where
  | read
  | write
deriving DecidableEq, Inhabited

/-- One thing to do in the course of name resolution. -/
inductive Step where
  /-- Open a scope. -/
  | openScope
  /-- Close the innermost scope and report what it leaves unused. -/
  | closeScope
  /-- Take a name in the innermost scope. -/
  | declare (name : Ident) (mutable member : Bool)
  /-- The name holds a value from here on. -/
  | define (name : Ident)
  /-- Count a name as read, since a report on it has been made already. -/
  | excuse (name : String)
  /-- Bind `this` or `super`. -/
  | bindPseudo (name : String) (span : Span)
  /-- Find the binding a node refers to. -/
  | resolve (node : NodeId) (name : Ident) (access : Access)
  /-- Find the binding of a name that is read as a variable. -/
  | readVariable (node : NodeId) (name : Ident)
  /-- An assigned name must be mutable. -/
  | checkAssign (name : Ident)
  /-- A name through which a member is assigned, at `span`, must be mutable. -/
  | checkMutate (name : Ident) (span : Span)
  /-- The runtime must back a foreign name. -/
  | requireForeign (kind : ForeignKind) (name : Ident)
  /-- Report an error that is plain from the tree. -/
  | report (error : ResolutionError)
  /-- Statements follow one that never hands control on. -/
  | unreachable (span : Span)
  /-- The tree is malformed; nothing after this is done. -/
  | abort (fault : Fault)
deriving DecidableEq, Inhabited

namespace Step

/-- Take a name and give it its value at once. -/
def bind (name : Ident) (mutable member : Bool) : List Step :=
  [.declare name mutable member, .define name]

/-- The steps of a reference to `this`. -/
def this (context : Context) (node : Node) : List Step :=
  if context.inClass then [.resolve node.id ⟨"this", node.span⟩ .read]
  else [.report (.thisOutsideClass node.span)]

/-- The steps of a reference to `super`. -/
def super (context : Context) (node : Node) : List Step :=
  match context.cls with
  | .none => [.report (.superOutsideClass node.span)]
  | .base => [.report (.superWithoutSuperclass node.span)]
  | .subclass => [.resolve node.id ⟨"super", node.span⟩ .read]

/-- Check the object of the member assignment at `span`. Through a variable the
binding has to be mutable; longer chains and `this` are not followed. -/
def setTarget (span : Span) : Expr → List Step
  | .var _ name => [.checkMutate name span]
  | .get .. => []
  | .index .. => []
  | .this _ => []
  | object => [.abort ⟨object.shape, object.span⟩]

/-- Take the parameters of a function. Those of a foreign function never get a value. -/
def params (foreign : Bool) : List Param → List Step
  | [] => []
  | param :: rest =>
    .declare param.name param.isMutable false ::
      ((if foreign then [] else [.define param.name]) ++ params foreign rest)

/-- The runtime must back a declaration that is foreign. -/
def foreign (kind : ForeignKind) (isForeign : Bool) (name : Ident) : List Step :=
  if isForeign then [.requireForeign kind name] else []

/-- The name of a function statement is bound before its body, so that the
function can call itself. -/
def functionName (context : Context) (decl : FunctionDecl) : List Step :=
  match decl.name with
  | none => []
  | some name => foreign .function decl.foreign name ++ bind name false context.inStruct

/-- A variable without a first value must be mutable, a struct member or foreign. -/
def uninitialized (context : Context) (name : Ident) (mutable isForeign : Bool) : List Step :=
  if mutable || context.inStruct || isForeign then [.define name]
  else [.report (.uninitializedImmutable name.name name.span), .define name, .excuse name.name]

/-- A class must not name itself as its superclass. -/
def selfInheritance (name : Ident) (superclass : Option Expr) : List Step :=
  match superclass.bind Expr.asVariable? with
  | none => []
  | some parent =>
    if parent.name == name.name then [.report (.selfInheritance parent.name parent.span)] else []

/-- There must be a function to return from. -/
def returnFrom (context : Context) (span : Span) : List Step :=
  if context.inFunction then [] else [.report (.topLevelReturn span)]

/-- The body of a loop over a range or a collection must hold statements. -/
def loopBody (span : Span) (body : List Stmt) : List Step :=
  if body.isEmpty then [.report (.emptyLoopBody span)] else []

/-- What stands between a statement and the rest of its list. -/
def between (stmt : Stmt) (rest : List Stmt) : List Step :=
  if stmt.isTerminal && !rest.isEmpty then [.unreachable stmt.span] else []

end Step

/-- The kind of the method of a class: the one that initializes, or an ordinary one. -/
def methodKind (initializerName : String) (method : FunctionDecl) : FunctionKind :=
  if method.name.any (·.name == initializerName) then .initializer else .method

/-- The context inside a function: struct bodies around it no longer count. -/
def Context.insideFunction (context : Context) (kind : FunctionKind) : Context :=
  (context.enterFunction kind).enterStruct .none

/-- The kind of a class. -/
def ClassKind.ofSuperclass (superclass : Option Expr) : ClassKind :=
  if superclass.isSome then .subclass else .base

mutual

/-- The steps of an expression. -/
def Expr.walk (initializerName : String) (context : Context) : Expr → List Step
  | .literal .. => []
  | .array _ elements => Expr.walkAll initializerName context elements
  | .assign node name value =>
    .checkAssign name ::
      (value.walk initializerName context ++ [.resolve node.id name .write])
  | .var node name => [.readVariable node.id name]
  | .mutArg node name => [.resolve node.id name .read]
  | .binary _ left _ right =>
    left.walk initializerName context ++ right.walk initializerName context
  | .logical _ left _ right =>
    left.walk initializerName context ++ right.walk initializerName context
  | .unary _ _ operand => operand.walk initializerName context
  | .grouping _ inner => inner.walk initializerName context
  | .call _ callee args =>
    callee.walk initializerName context ++ Expr.walkAll initializerName context args
  | .get _ object _ => object.walk initializerName context
  | .set node object _ value =>
    value.walk initializerName context ++ object.walk initializerName context ++
      Step.setTarget node.span object
  | .index _ object index =>
    object.walk initializerName context ++ index.walk initializerName context
  | .this node => Step.this context node
  | .super node _ => Step.super context node
  | .structInit node name fields =>
    FieldInit.walkAll initializerName context fields ++ [.resolve node.id name .read]
  | .lambda _ decl => decl.walk initializerName context .function
  termination_by structural expr => expr

/-- The steps of expressions from left to right. -/
def Expr.walkAll (initializerName : String) (context : Context) : List Expr → List Step
  | [] => []
  | expr :: rest =>
    expr.walk initializerName context ++ Expr.walkAll initializerName context rest
  termination_by structural exprs => exprs

/-- The steps of the value of a field. -/
def FieldInit.walk (initializerName : String) (context : Context) : FieldInit → List Step
  | ⟨_, value⟩ => value.walk initializerName context
  termination_by structural field => field

/-- The steps of the values of fields from left to right. -/
def FieldInit.walkAll (initializerName : String) (context : Context) :
    List FieldInit → List Step
  | [] => []
  | field :: rest =>
    field.walk initializerName context ++ FieldInit.walkAll initializerName context rest
  termination_by structural fields => fields

/-- The steps of a function of the given kind: parameters and body share a scope. -/
def FunctionDecl.walk (initializerName : String) (context : Context) (kind : FunctionKind) :
    FunctionDecl → List Step
  | ⟨_, params, _, body, foreign, _⟩ =>
    .openScope :: (Step.params foreign params ++
      Stmt.walkAll initializerName (context.insideFunction kind) body ++ [.closeScope])
  termination_by structural decl => decl

/-- The steps of the methods of a class, in order. -/
def FunctionDecl.walkMethods (initializerName : String) (context : Context) :
    List FunctionDecl → List Step
  | [] => []
  | method :: rest =>
    method.walk initializerName context (methodKind initializerName method) ++
      FunctionDecl.walkMethods initializerName context rest
  termination_by structural methods => methods

/-- The steps of an expression that may be missing. -/
def Expr.walk? (initializerName : String) (context : Context) : Option Expr → List Step
  | none => []
  | some expr => expr.walk initializerName context
  termination_by structural expr => expr

/-- The steps of the value of a `return`. An initializer returns nothing, and a
value that it names all the same is reported and left alone. -/
def Expr.walkReturned (initializerName : String) (context : Context) : Option Expr → List Step
  | none => []
  | some value =>
    match context.function with
    | .initializer => [.report (.initializerReturnValue value.span)]
    | _ => value.walk initializerName context
  termination_by structural value => value

/-- The steps of a superclass, which end by binding `super` in a scope of its own. -/
def Expr.walkSuperclass (initializerName : String) (context : Context) :
    Option Expr → List Step
  | none => []
  | some parent =>
    parent.walk initializerName context ++ [.openScope, .bindPseudo "super" parent.span]
  termination_by structural superclass => superclass

/-- The steps of a statement. -/
def Stmt.walk (initializerName : String) (context : Context) : Stmt → List Step
  | .block _ body =>
    .openScope :: (Stmt.walkAll initializerName context body ++ [.closeScope])
  | .breakLoop _ => []
  | .continueLoop _ => []
  | .letDecl _ name mutable _ initial foreign =>
    Step.foreign .variable foreign name ++
      (.declare name mutable context.inStruct ::
        match initial with
        | some value => value.walk initializerName context ++ [.define name]
        | none => Step.uninitialized context name mutable foreign)
  | .forRange node counter lower upper body =>
    lower.walk initializerName context ++ upper.walk initializerName context ++
      (.openScope :: (counter.elim [] (Step.bind · false false) ++
        Step.loopBody node.span body ++
        Stmt.walkAll initializerName context body ++ [.closeScope]))
  | .forEach node item collection body =>
    collection.walk initializerName context ++
      (.openScope :: (Step.bind item false false ++ Step.loopBody node.span body ++
        Stmt.walkAll initializerName context body ++ [.closeScope]))
  | .whileLoop _ condition body =>
    Expr.walk? initializerName context condition ++
      (.openScope :: (Stmt.walkAll initializerName context body ++ [.closeScope]))
  | .function _ decl =>
    Step.functionName context decl ++ decl.walk initializerName context .function
  | .expression _ value => value.walk initializerName context
  | .print _ value => value.walk initializerName context
  | .ifElse _ condition thenBranch elseBranch =>
    condition.walk initializerName context ++ thenBranch.walk initializerName context ++
      Stmt.walk? initializerName context elseBranch
  | .ret node value =>
    Step.returnFrom context node.span ++ Expr.walkReturned initializerName context value
  | .structDecl _ name members =>
    Step.bind name false context.inStruct ++
      (.openScope :: (Stmt.walkAll initializerName (context.enterStruct .struct) members ++
        [.closeScope]))
  | .classDecl _ name superclass methods =>
    let inside := context.enterClass (.ofSuperclass superclass)
    Step.selfInheritance name superclass ++ Step.bind name false context.inStruct ++
      Expr.walkSuperclass initializerName inside superclass ++
      [.openScope, .bindPseudo "this" name.span] ++
      FunctionDecl.walkMethods initializerName inside methods ++
      [.closeScope] ++ superclass.elim [] fun _ => [.closeScope]
  termination_by structural stmt => stmt

/-- The steps of a statement that may be missing. -/
def Stmt.walk? (initializerName : String) (context : Context) : Option Stmt → List Step
  | none => []
  | some stmt => stmt.walk initializerName context
  termination_by structural stmt => stmt

/-- The steps of a statement list. A statement that never hands control on is
reported once it is known that another follows it. -/
def Stmt.walkAll (initializerName : String) (context : Context) : List Stmt → List Step
  | [] => []
  | stmt :: rest =>
    stmt.walk initializerName context ++ Step.between stmt rest ++
      Stmt.walkAll initializerName context rest
  termination_by structural stmts => stmts

end

/-- The steps of a whole program: its statements in a scope of their own, outside
of every construct. -/
def Program.walk (initializerName : String) (program : Program) : List Step :=
  .openScope :: (Stmt.walkAll initializerName Context.outermost program ++ [.closeScope])

end NameResolution
