import NameResolution.Event
import NameResolution.Scope.Stack
import NameResolution.Walk

/-!
# Running steps

A run carries out the steps of a walk on a stack of scopes and says what
happens. Only the first malformed place can stop it, and where that is depends
on the steps alone, so the steps before it are cut off first and then carried
out one after another.
-/

namespace NameResolution

/-- What a run needs to know besides the program. -/
structure Environment where
  config : Config
  /-- What the runtime answers when asked for a foreign name. -/
  registry : ForeignNames

/-- The steps before the first that aborts, and its fault if there is one. -/
def cutAtFault : List Step → List Step × Option Fault
  | [] => ([], none)
  | .abort fault :: _ => ([], some fault)
  | step :: rest =>
    let (before, fault) := cutAtFault rest
    (step :: before, fault)

/-- What a reference does to the binding it finds: a read is remembered, a write is not. -/
def Access.mark : Access → Binding → Binding
  | .read => Binding.markRead
  | .write => id

namespace ScopeStack

/-- Take a name in the innermost scope. A name that the scope binds already
keeps its binding, which is an error; a name that an enclosing scope binds
hides that binding, which earns a warning. -/
def declare (lints : Lints) (stack : ScopeStack) (name : Ident) (mutable member : Bool) :
    List Event × ScopeStack :=
  match stack.innermost? with
  | none => ([], stack)
  | some scope =>
    match scope.get? name.name with
    | some kept => ([.error (.duplicateDeclaration name.name name.span kept.span)], stack)
    | none =>
      let shadowing :=
        match stack.findEnclosing? name.name with
        | some earlier =>
          if lints.shadowing then
            [Event.warning (.shadowedVariable name.name earlier.span name.span)]
          else []
        | none => []
      (shadowing, stack.modifyInnermost fun scope =>
        scope.insert name.name (.declared name.span mutable member))

/-- The name holds a value from here on. A name that was never taken is bound. -/
def define (stack : ScopeStack) (name : Ident) : ScopeStack :=
  stack.modifyInnermost fun scope =>
    match scope.get? name.name with
    | some _ => scope.modify name.name Binding.define
    | none => scope.insert name.name (Binding.declared name.span false false).define

/-- Close the innermost scope, and warn of each binding it leaves unused. -/
def close (config : Config) (stack : ScopeStack) : List Event × ScopeStack :=
  match stack.innermost? with
  | none => ([], stack)
  | some scope =>
    let unused :=
      if config.lints.unused then
        (scope.unused config.unusedPrefix).map fun (name, binding) =>
          Event.warning (.unusedLocalVariable name binding.span)
      else []
    (.log (.popScope stack.depth scope.size) :: unused, stack.pop)

/-- Find the binding a node refers to. A name that no scope binds is a global or an error. -/
def resolve (config : Config) (stack : ScopeStack) (node : NodeId) (name : Ident)
    (access : Access) : List Event × ScopeStack :=
  match stack.update? name.name access.mark with
  | some (hops, _, next) =>
    ([.log (.resolvedAt node name.name hops), .depth node hops], next)
  | none =>
    if config.isGlobal name.name then ([.log (.resolvedGlobal node name.name)], stack)
    else ([.error (.notDeclared name.name name.span)], stack)

/-- Find the binding of a name that is read as a variable. A variable has no
value inside its own initializer, and a discarded name none at all. -/
def readVariable (config : Config) (stack : ScopeStack) (node : NodeId) (name : Ident) :
    List Event × ScopeStack :=
  if (stack.getInnermost? name.name).any Binding.isDeclaredOnly then
    ([.error (.selfReference name.name name.span)], stack)
  else if config.isDiscarded name.name then
    ([.error (.readOfDiscarded name.name config.unusedPrefix name.span)], stack)
  else
    stack.resolve config node name .read

/-- The error that `cause` makes of the declaration of a name that is bound and immutable. -/
def requireMutable (stack : ScopeStack) (name : String) (cause : Span → ResolutionError) :
    List Event :=
  match stack.find? name with
  | some (_, binding) => if binding.mutable then [] else [.error (cause binding.span)]
  | none => []

end ScopeStack

/-- The runtime must back a foreign name. -/
def Environment.requireForeign (env : Environment) (kind : ForeignKind) (name : Ident) :
    List Event :=
  let answer := env.registry kind name.name
  let cause := match kind with
    | .function => ResolutionError.unregisteredForeignFunction name.name name.span
    | .variable => ResolutionError.unregisteredForeignVariable name.name name.span
  .asked kind name.name answer :: if answer then [] else [.error cause]

/-- Carry out one step. A step that aborts is never carried out. -/
def Step.perform (env : Environment) (stack : ScopeStack) : Step → List Event × ScopeStack
  | .openScope => ([.log (.pushScope stack.push.depth)], stack.push)
  | .closeScope => stack.close env.config
  | .declare name mutable member => stack.declare env.config.lints name mutable member
  | .define name => ([], stack.define name)
  | .excuse name => ([], stack.modifyInnermost (·.modify name Binding.markRead))
  | .bindPseudo name span => ([], stack.modifyInnermost (·.insert name (.pseudo span)))
  | .resolve node name access => stack.resolve env.config node name access
  | .readVariable node name => stack.readVariable env.config node name
  | .checkAssign name =>
    (stack.requireMutable name.name (.reassignImmutable name.name name.span ·), stack)
  | .checkMutate name span =>
    (stack.requireMutable name.name (.mutateThroughImmutable name.name span ·), stack)
  | .requireForeign kind name => (env.requireForeign kind name, stack)
  | .report error => ([.error error], stack)
  | .unreachable span =>
    (if env.config.lints.unreachable then [.warning (.unreachableCode span)] else [], stack)
  | .abort _ => ([], stack)

/-- Carry out steps one after another: all that happens, and the stack at the end. -/
def run (env : Environment) : List Step → ScopeStack → List Event × ScopeStack
  | [], stack => ([], stack)
  | step :: rest, stack =>
    let (events, next) := step.perform env stack
    let (later, last) := run env rest next
    (events ++ later, last)

/-- Running steps in two parts is running them in one go. -/
theorem run_append (env : Environment) (first second : List Step) (stack : ScopeStack) :
    run env (first ++ second) stack =
      ((run env first stack).1 ++ (run env second (run env first stack).2).1,
        (run env second (run env first stack).2).2) := by
  induction first generalizing stack with
  | nil => rfl
  | cons step rest ih => simp [run, ih]

end NameResolution
