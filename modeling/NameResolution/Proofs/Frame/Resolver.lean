import NameResolution.Proofs.Run.Fault

/-!
# The resolver as a machine

A resolution in one pass over the tree, without a list of steps. The machine
holds the open scopes, what has happened, and the innermost enclosing
constructs, in slots that it overwrites on the way into a construct and puts
back on the way out. A malformed place stops it where it stands, with scopes
still open and slots not put back.

`NameResolution.Proofs.Frame.Simulation` proves that it does what the steps of
a walk do when they are carried out.
-/

namespace NameResolution

/-- The state of the machine. -/
structure Resolver where
  stack : ScopeStack
  /-- The innermost enclosing function, class and struct. -/
  context : Context
  events : List Event
deriving Inhabited

/-- A piece of work for the machine, which a fault can end. -/
abbrev Task := EStateM Fault Resolver

namespace Resolver

/-- Nothing is open and nothing has happened. -/
def initial : Resolver := ⟨.empty, .outermost, []⟩

/-- Say that something happened. -/
def emit (event : Event) : Task Unit :=
  modify fun resolver => { resolver with events := resolver.events ++ [event] }

/-- Carry out a step. A step that aborts ends the work. -/
def perform (env : Environment) (step : Step) : Task Unit :=
  match step.fault? with
  | some fault => throw fault
  | none => modify fun resolver =>
    { resolver with
      stack := (step.perform env resolver.stack).2
      events := resolver.events ++ (step.perform env resolver.stack).1 }

/-- Carry out steps one after another. -/
def performAll (env : Environment) : List Step → Task Unit
  | [] => pure ()
  | step :: rest => do
    perform env step
    performAll env rest

/-- What the slots hold. -/
def enclosing : Task Context := do
  return (← get).context

/-- Overwrite the slots. -/
def change (change : Context → Context) : Task Unit :=
  modify fun resolver => { resolver with context := change resolver.context }

/-- Work inside a function. Struct bodies around it do not reach into it. -/
def inFunction (kind : FunctionKind) (body : Task Unit) : Task Unit := do
  let outer ← enclosing
  change fun context => (context.enterFunction kind).enterStruct .none
  body
  change fun context => (context.enterStruct outer.struct).enterFunction outer.function

/-- Work inside a struct body. -/
def inStruct (body : Task Unit) : Task Unit := do
  let outer ← enclosing
  change (·.enterStruct .struct)
  body
  change (·.enterStruct outer.struct)

/-- Work inside a class. -/
def inClass (kind : ClassKind) (body : Task Unit) : Task Unit := do
  let outer ← enclosing
  change (·.enterClass kind)
  body
  change (·.enterClass outer.cls)

/-- Work inside a scope of its own. -/
def inScope (env : Environment) (body : Task Unit) : Task Unit := do
  perform env .openScope
  body
  perform env .closeScope

end Resolver

open Resolver

mutual

/-- Resolve an expression. -/
def Expr.resolve (env : Environment) : Expr → Task Unit
  | .literal .. => pure ()
  | .array _ elements => Expr.resolveAll env elements
  | .assign node name value => do
    perform env (.checkAssign name)
    value.resolve env
    perform env (.resolve node.id name .write)
  | .var node name => perform env (.readVariable node.id name)
  | .mutArg node name => perform env (.resolve node.id name .read)
  | .binary _ left _ right => do
    left.resolve env
    right.resolve env
  | .logical _ left _ right => do
    left.resolve env
    right.resolve env
  | .unary _ _ operand => operand.resolve env
  | .grouping _ inner => inner.resolve env
  | .call _ callee args => do
    callee.resolve env
    Expr.resolveAll env args
  | .get _ object _ => object.resolve env
  | .set node object _ value => do
    value.resolve env
    object.resolve env
    performAll env (Step.setTarget node.span object)
  | .index _ object index => do
    object.resolve env
    index.resolve env
  | .this node => do
    let context ← enclosing
    performAll env (Step.this context node)
  | .super node _ => do
    let context ← enclosing
    performAll env (Step.super context node)
  | .structInit node name fields => do
    FieldInit.resolveAll env fields
    perform env (.resolve node.id name .read)
  | .lambda _ decl => decl.resolve env .function
  termination_by structural expr => expr

/-- Resolve expressions from left to right. -/
def Expr.resolveAll (env : Environment) : List Expr → Task Unit
  | [] => pure ()
  | expr :: rest => do
    expr.resolve env
    Expr.resolveAll env rest
  termination_by structural exprs => exprs

/-- Resolve the value of a field. -/
def FieldInit.resolve (env : Environment) : FieldInit → Task Unit
  | ⟨_, value⟩ => value.resolve env
  termination_by structural field => field

/-- Resolve the values of fields from left to right. -/
def FieldInit.resolveAll (env : Environment) : List FieldInit → Task Unit
  | [] => pure ()
  | field :: rest => do
    field.resolve env
    FieldInit.resolveAll env rest
  termination_by structural fields => fields

/-- Resolve a function of the given kind. -/
def FunctionDecl.resolve (env : Environment) (kind : FunctionKind) : FunctionDecl → Task Unit
  | ⟨_, params, _, body, foreign, _⟩ =>
    inFunction kind <| inScope env do
      performAll env (Step.params foreign params)
      Stmt.resolveAll env none body
  termination_by structural decl => decl

/-- Resolve the methods of a class, in order. -/
def FunctionDecl.resolveMethods (env : Environment) : List FunctionDecl → Task Unit
  | [] => pure ()
  | method :: rest => do
    method.resolve env (methodKind env.config.initializerName method)
    FunctionDecl.resolveMethods env rest
  termination_by structural methods => methods

/-- Resolve an expression that may be missing. -/
def Expr.resolve? (env : Environment) : Option Expr → Task Unit
  | none => pure ()
  | some expr => expr.resolve env
  termination_by structural expr => expr

/-- Resolve the value of a `return`, unless an initializer returns it. -/
def Expr.resolveReturned (env : Environment) : Option Expr → Task Unit
  | none => pure ()
  | some value => do
    let context ← enclosing
    match context.function with
    | .initializer => perform env (.report (.initializerReturnValue value.span))
    | _ => value.resolve env
  termination_by structural value => value

/-- Resolve a superclass, and open the scope of `super` behind it. -/
def Expr.resolveSuperclass (env : Environment) : Option Expr → Task Unit
  | none => pure ()
  | some parent => do
    parent.resolve env
    performAll env [.openScope, .bindPseudo "super" parent.span]
  termination_by structural superclass => superclass

/-- Resolve a statement. -/
def Stmt.resolve (env : Environment) : Stmt → Task Unit
  | .block _ body => inScope env (Stmt.resolveAll env none body)
  | .breakLoop _ => pure ()
  | .continueLoop _ => pure ()
  | .letDecl _ name mutable _ none foreign => do
    performAll env (Step.foreign .variable foreign name)
    let context ← enclosing
    perform env (.declare name mutable context.inStruct)
    performAll env (Step.uninitialized context name mutable foreign)
  | .letDecl _ name mutable _ (some value) foreign => do
    performAll env (Step.foreign .variable foreign name)
    let context ← enclosing
    perform env (.declare name mutable context.inStruct)
    value.resolve env
    perform env (.define name)
  | .forRange node counter lower upper body => do
    lower.resolve env
    upper.resolve env
    inScope env do
      performAll env (counter.elim [] (Step.bind · false false))
      performAll env (Step.loopBody node.span body)
      Stmt.resolveAll env none body
  | .forEach node item collection body => do
    collection.resolve env
    inScope env do
      performAll env (Step.bind item false false)
      performAll env (Step.loopBody node.span body)
      Stmt.resolveAll env none body
  | .whileLoop _ condition body => do
    Expr.resolve? env condition
    inScope env (Stmt.resolveAll env none body)
  | .function _ decl => do
    let context ← enclosing
    performAll env (Step.functionName context decl)
    decl.resolve env .function
  | .expression _ value => value.resolve env
  | .print _ value => value.resolve env
  | .ifElse _ condition thenBranch elseBranch => do
    condition.resolve env
    thenBranch.resolve env
    Stmt.resolve? env elseBranch
  | .ret node value => do
    let context ← enclosing
    performAll env (Step.returnFrom context node.span)
    Expr.resolveReturned env value
  | .structDecl _ name members => do
    let context ← enclosing
    performAll env (Step.bind name false context.inStruct)
    inStruct <| inScope env (Stmt.resolveAll env none members)
  | .classDecl _ name superclass methods => do
    performAll env (Step.selfInheritance name superclass)
    let context ← enclosing
    performAll env (Step.bind name false context.inStruct)
    inClass (.ofSuperclass superclass) do
      Expr.resolveSuperclass env superclass
      inScope env do
        perform env (.bindPseudo "this" name.span)
        FunctionDecl.resolveMethods env methods
      performAll env (superclass.elim [] fun _ => [.closeScope])
  termination_by structural stmt => stmt

/-- Resolve a statement that may be missing. -/
def Stmt.resolve? (env : Environment) : Option Stmt → Task Unit
  | none => pure ()
  | some stmt => stmt.resolve env
  termination_by structural stmt => stmt

/-- Resolve statements in order, where the one before them may never hand control on. -/
def Stmt.resolveAll (env : Environment) (terminated : Option Span) : List Stmt → Task Unit
  | [] => pure ()
  | stmt :: rest => do
    performAll env (terminated.toList.map Step.unreachable)
    stmt.resolve env
    Stmt.resolveAll env (if stmt.isTerminal then some stmt.span else none) rest
  termination_by structural stmts => stmts

end

/-- Resolve a program: its statements in a scope of their own. -/
def Program.resolve (env : Environment) (program : Program) : Task Unit := do
  emit (.log (.resolving program.length))
  perform env .openScope
  tryCatch (Stmt.resolveAll env none program) fun fault => do
    emit (.log (.aborted fault))
    throw fault
  perform env .closeScope
  emit (.log .finished)

end NameResolution
