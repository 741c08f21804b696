import NameResolution.Proofs.Frame.Resolver

/-!
# The machine follows the walk

`Follows env context task steps`: begun with `context` in its slots, the task
does to the scopes and the events what carrying out the steps does. If the
steps have no fault the task comes to its end and puts the slots back; if they
have one it stops at the first. Every piece of a tree is resolved by a task
that follows its walk, and so the machine observes what `observe` says.
-/

namespace NameResolution

open Resolver

/-- How a task ends that follows steps from the given scopes and events. -/
def Ends (env : Environment) (context : Context) (steps : List Step) (stack : ScopeStack)
    (events : List Event) : EStateM.Result Fault Resolver Unit → Prop
  | .ok _ after =>
    (cutAtFault steps).2 = none ∧
      after = ⟨(run env steps stack).2, context, events ++ (run env steps stack).1⟩
  | .error fault after =>
    (cutAtFault steps).2 = some fault ∧
      after.stack = (run env (cutAtFault steps).1 stack).2 ∧
      after.events = events ++ (run env (cutAtFault steps).1 stack).1

/-- The task does what the steps do. -/
def Follows (env : Environment) (context : Context) (task : Task Unit) (steps : List Step) : Prop :=
  ∀ stack events, Ends env context steps stack events (task ⟨stack, context, events⟩)

namespace Follows

variable {env : Environment} {context : Context}

/-- The steps that a task follows can be written in another way. -/
theorem of_eq {task : Task Unit} {steps others : List Step}
    (follows : Follows env context task steps) (same : steps = others) :
    Follows env context task others :=
  same ▸ follows

/-- Doing nothing follows no steps. -/
theorem nil : Follows env context (pure ()) [] := by
  intro stack events
  refine ⟨rfl, ?_⟩
  simp only [run, List.append_nil]

/-- Work that is done in two parts follows the steps of both. -/
theorem append {first second : Task Unit} {steps later : List Step}
    (left : Follows env context first steps) (right : Follows env context second later) :
    Follows env context (first >>= fun _ => second) (steps ++ later) := by
  intro stack events
  have begins := left stack events
  change Ends env context (steps ++ later) stack events
    (EStateM.bind first (fun _ => second) ⟨stack, context, events⟩)
  unfold EStateM.bind
  cases done : first ⟨stack, context, events⟩ with
  | ok value after =>
    rw [done] at begins
    obtain ⟨whole, rfl⟩ := begins
    have ends := right (run env steps stack).2 (events ++ (run env steps stack).1)
    dsimp only
    cases finished : second ⟨_, context, _⟩ with
    | ok value after =>
      rw [finished] at ends
      obtain ⟨laterWhole, rfl⟩ := ends
      refine ⟨?_, ?_⟩
      · rw [cutAtFault_append_of_none later whole]
        exact laterWhole
      · rw [run_append, List.append_assoc]
    | error fault after =>
      rw [finished] at ends
      obtain ⟨aborts, scopes, said⟩ := ends
      refine ⟨?_, ?_, ?_⟩
      · rw [cutAtFault_append_of_none later whole]
        exact aborts
      · rw [cutAtFault_append_of_none later whole, run_append]
        exact scopes
      · rw [cutAtFault_append_of_none later whole, run_append, said, List.append_assoc]
  | error fault after =>
    rw [done] at begins
    obtain ⟨aborts, scopes, said⟩ := begins
    refine ⟨?_, ?_, ?_⟩
    · rw [cutAtFault_append_of_some later aborts]
      exact aborts
    · rw [cutAtFault_append_of_some later aborts]
      exact scopes
    · rw [cutAtFault_append_of_some later aborts]
      exact said

/-- Carrying out a step follows it. -/
theorem step (step : Step) : Follows env context (perform env step) [step] := by
  intro stack events
  cases goesOn : step.fault? with
  | none =>
    have whole : (cutAtFault [step]).2 = none := by rw [cutAtFault_cons [] goesOn, cutAtFault_nil]
    simp only [perform, goesOn]
    refine ⟨whole, ?_⟩
    simp only [run, List.append_nil]
  | some fault =>
    have aborts := cutAtFault_cons_of_fault [] goesOn
    simp only [perform, goesOn]
    refine ⟨?_, ?_, ?_⟩
    · rw [aborts]
    · rw [aborts]
      rfl
    · rw [aborts]
      simp only [run, List.append_nil]

/-- Carrying out steps follows them. -/
theorem all (steps : List Step) : Follows env context (performAll env steps) steps := by
  induction steps with
  | nil => exact nil
  | cons first rest ih => exact (step first).append ih

/-- Work that depends on what the slots hold. -/
theorem consult {task : Context → Task Unit} {steps : List Step}
    (follows : Follows env context (task context) steps) :
    Follows env context (enclosing >>= task) steps :=
  follows

/-- Work with other slots, which are put back at its end. -/
theorem within {task : Task Unit} {steps : List Step} {enter leave : Context → Context}
    (follows : Follows env (enter context) task steps)
    (restores : leave (enter context) = context) :
    Follows env context (change enter >>= fun _ => task >>= fun _ => change leave) steps := by
  intro stack events
  have ends := follows stack events
  change Ends env context steps stack events
    (EStateM.bind task (fun _ => change leave) ⟨stack, enter context, events⟩)
  unfold EStateM.bind
  cases done : task ⟨stack, enter context, events⟩ with
  | ok value after =>
    rw [done] at ends
    obtain ⟨whole, rfl⟩ := ends
    refine ⟨whole, ?_⟩
    simp only [restores]
  | error fault after =>
    rw [done] at ends
    exact ends

/-- Work inside a scope follows its steps between those that open and close the scope. -/
theorem inScope {task : Task Unit} {steps : List Step} (follows : Follows env context task steps) :
    Follows env context (Resolver.inScope env task) (.openScope :: (steps ++ [.closeScope])) :=
  (step .openScope).append (follows.append (step .closeScope))

/-- Work inside a function follows its steps in the context of the function, and puts the slots
back. -/
theorem inFunction {task : Task Unit} {steps : List Step} {kind : FunctionKind}
    (follows : Follows env (context.insideFunction kind) task steps) :
    Follows env context (Resolver.inFunction kind task) steps :=
  consult (within follows rfl)

/-- Work inside a struct body follows its steps in the context of the struct, and puts the slot
back. -/
theorem inStruct {task : Task Unit} {steps : List Step}
    (follows : Follows env (context.enterStruct .struct) task steps) :
    Follows env context (Resolver.inStruct task) steps :=
  consult (within follows rfl)

/-- Work inside a class follows its steps in the context of the class, and puts the slot back. -/
theorem inClass {task : Task Unit} {steps : List Step} {kind : ClassKind}
    (follows : Follows env (context.enterClass kind) task steps) :
    Follows env context (Resolver.inClass kind task) steps :=
  consult (within follows rfl)

end Follows

/-- What is said of a statement that never hands control on, once another follows it. -/
def Step.terminated (terminated : Option Span) (rest : List Stmt) : List Step :=
  match terminated with
  | none => []
  | some span => if rest.isEmpty then [] else [.unreachable span]

/-- What is said between a statement and the rest depends on whether the statement was terminal. -/
theorem Step.between_eq_terminated (stmt : Stmt) (rest : List Stmt) :
    Step.between stmt rest =
      Step.terminated (if stmt.isTerminal then some stmt.span else none) rest := by
  unfold between terminated
  cases stmt.isTerminal with
  | false => rfl
  | true => cases rest <;> rfl

variable (env : Environment)

mutual

/-- Resolving an expression follows its walk. -/
theorem Expr.follows (context : Context) : (expr : Expr) →
    Follows env context (expr.resolve env) (expr.walk env.config.initializerName context)
  | .literal .. => .nil
  | .array _ elements => Expr.follows_all context elements
  | .assign _ name value =>
    (Follows.step (.checkAssign name)).append ((Expr.follows context value).append (.step _))
  | .var .. => .step _
  | .mutArg .. => .step _
  | .binary _ left _ right => (Expr.follows context left).append (Expr.follows context right)
  | .logical _ left _ right => (Expr.follows context left).append (Expr.follows context right)
  | .unary _ _ operand => Expr.follows context operand
  | .grouping _ inner => Expr.follows context inner
  | .call _ callee args => (Expr.follows context callee).append (Expr.follows_all context args)
  | .get _ object _ => Expr.follows context object
  | .set node object _ value => by
    have target : Follows env context _ (Step.setTarget node.span object) := .all _
    have assigned := (Expr.follows context value).append
      ((Expr.follows context object).append target)
    rw [← List.append_assoc] at assigned
    exact assigned
  | .index _ object index => (Expr.follows context object).append (Expr.follows context index)
  | .this node => .consult (.all (Step.this context node))
  | .super node _ => .consult (.all (Step.super context node))
  | .structInit _ _ fields => (FieldInit.follows_all context fields).append (.step _)
  | .lambda _ decl => FunctionDecl.follows context .function decl
  termination_by structural expr => expr

/-- The resolver does with expressions what their steps do. -/
theorem Expr.follows_all (context : Context) : (exprs : List Expr) →
    Follows env context (Expr.resolveAll env exprs)
      (Expr.walkAll env.config.initializerName context exprs)
  | [] => .nil
  | expr :: rest => (Expr.follows context expr).append (Expr.follows_all context rest)
  termination_by structural exprs => exprs

/-- The resolver does with the value of a field what its steps do. -/
theorem FieldInit.follows (context : Context) : (field : FieldInit) →
    Follows env context (field.resolve env) (field.walk env.config.initializerName context)
  | ⟨_, value⟩ => Expr.follows context value
  termination_by structural field => field

/-- The resolver does with the values of fields what their steps do. -/
theorem FieldInit.follows_all (context : Context) : (fields : List FieldInit) →
    Follows env context (FieldInit.resolveAll env fields)
      (FieldInit.walkAll env.config.initializerName context fields)
  | [] => .nil
  | field :: rest => (FieldInit.follows context field).append (FieldInit.follows_all context rest)
  termination_by structural fields => fields

/-- The resolver does with a function what its steps do. -/
theorem FunctionDecl.follows (context : Context) (kind : FunctionKind) : (decl : FunctionDecl) →
    Follows env context (decl.resolve env kind)
      (decl.walk env.config.initializerName context kind)
  | ⟨_, params, _, body, foreign, _⟩ =>
    .inFunction (.inScope ((Follows.all (Step.params foreign params)).append
      (Stmt.follows_all (context.insideFunction kind) none body)))
  termination_by structural decl => decl

/-- The resolver does with methods what their steps do. -/
theorem FunctionDecl.follows_methods (context : Context) : (methods : List FunctionDecl) →
    Follows env context (FunctionDecl.resolveMethods env methods)
      (FunctionDecl.walkMethods env.config.initializerName context methods)
  | [] => .nil
  | method :: rest =>
    (FunctionDecl.follows context (methodKind env.config.initializerName method) method).append
      (FunctionDecl.follows_methods context rest)
  termination_by structural methods => methods

/-- The resolver does with an expression that may be missing what its steps do. -/
theorem Expr.follows_opt (context : Context) : (expr : Option Expr) →
    Follows env context (Expr.resolve? env expr)
      (Expr.walk? env.config.initializerName context expr)
  | none => .nil
  | some expr => Expr.follows context expr
  termination_by structural expr => expr

/-- The resolver does with a value that is returned what its steps do. -/
theorem Expr.follows_returned (context : Context) : (value : Option Expr) →
    Follows env context (Expr.resolveReturned env value)
      (Expr.walkReturned env.config.initializerName context value)
  | none => .nil
  | some value => by
    have walked := Expr.follows context value
    apply Follows.consult
    unfold Expr.walkReturned
    cases context.function with
    | initializer => exact .step _
    | none => exact walked
    | function => exact walked
    | method => exact walked
  termination_by structural value => value

/-- The resolver does with a superclass what its steps do. -/
theorem Expr.follows_superclass (context : Context) : (superclass : Option Expr) →
    Follows env context (Expr.resolveSuperclass env superclass)
      (Expr.walkSuperclass env.config.initializerName context superclass)
  | none => .nil
  | some parent => (Expr.follows context parent).append (.all _)
  termination_by structural superclass => superclass

/-- Resolving a statement follows its walk. -/
theorem Stmt.follows (context : Context) : (stmt : Stmt) →
    Follows env context (stmt.resolve env) (stmt.walk env.config.initializerName context)
  | .block _ body => .inScope (Stmt.follows_all context none body)
  | .breakLoop _ => .nil
  | .continueLoop _ => .nil
  | .letDecl _ name mutable _ none foreign =>
    (Follows.all (Step.foreign .variable foreign name)).append
      (.consult ((Follows.step (.declare name mutable context.inStruct)).append (.all _)))
  | .letDecl _ name mutable _ (some value) foreign =>
    (Follows.all (Step.foreign .variable foreign name)).append
      (.consult ((Follows.step (.declare name mutable context.inStruct)).append
        ((Expr.follows context value).append (.step _))))
  | .forRange node counter lower upper body => by
    have taken : Follows env context _ (counter.elim [] (Step.bind · false false)) := .all _
    have loop := (taken.append ((Follows.all (Step.loopBody node.span body)).append
      (Stmt.follows_all context none body))).inScope
    have walked := (Expr.follows context lower).append ((Expr.follows context upper).append loop)
    rw [← List.append_assoc, ← List.append_assoc _ (Step.loopBody node.span body)] at walked
    exact walked
  | .forEach node item collection body => by
    have taken : Follows env context _ (Step.bind item false false) := .all _
    have loop := (taken.append ((Follows.all (Step.loopBody node.span body)).append
      (Stmt.follows_all context none body))).inScope
    rw [← List.append_assoc] at loop
    exact (Expr.follows context collection).append loop
  | .whileLoop _ condition body =>
    (Expr.follows_opt context condition).append (.inScope (Stmt.follows_all context none body))
  | .function _ decl =>
    .consult ((Follows.all (Step.functionName context decl)).append
      (FunctionDecl.follows context .function decl))
  | .expression _ value => Expr.follows context value
  | .print _ value => Expr.follows context value
  | .ifElse _ condition thenBranch elseBranch => by
    have walked := (Expr.follows context condition).append
      ((Stmt.follows context thenBranch).append (Stmt.follows_opt context elseBranch))
    rw [← List.append_assoc] at walked
    exact walked
  | .ret node value =>
    .consult ((Follows.all (Step.returnFrom context node.span)).append
      (Expr.follows_returned context value))
  | .structDecl _ name members =>
    .consult ((Follows.all (Step.bind name false context.inStruct)).append
      (.inStruct (.inScope (Stmt.follows_all (context.enterStruct .struct) none members))))
  | .classDecl _ name superclass methods => by
    have pseudo : Follows env (context.enterClass (.ofSuperclass superclass)) _
        [.bindPseudo "this" name.span] := .step _
    have members := (pseudo.append (FunctionDecl.follows_methods
      (context.enterClass (.ofSuperclass superclass)) methods)).inScope
    have inside := (Expr.follows_superclass (context.enterClass (.ofSuperclass superclass))
      superclass).append (members.append (.all (superclass.elim [] fun _ => [.closeScope])))
    have named : Follows env context _ (Step.bind name false context.inStruct) := .all _
    refine Follows.of_eq
      ((Follows.all (Step.selfInheritance name superclass)).append
        (.consult (named.append (.inClass inside)))) ?_
    simp only [Stmt.walk, List.append_assoc, List.cons_append, List.nil_append]
  termination_by structural stmt => stmt

/-- The resolver does with a statement that may be missing what its steps do. -/
theorem Stmt.follows_opt (context : Context) : (stmt : Option Stmt) →
    Follows env context (Stmt.resolve? env stmt)
      (Stmt.walk? env.config.initializerName context stmt)
  | none => .nil
  | some stmt => Stmt.follows context stmt
  termination_by structural stmt => stmt

/-- Resolving statements follows their walk, behind what is said of the one before them. -/
theorem Stmt.follows_all (context : Context) (terminated : Option Span) : (stmts : List Stmt) →
    Follows env context (Stmt.resolveAll env terminated stmts)
      (Step.terminated terminated stmts ++
        Stmt.walkAll env.config.initializerName context stmts)
  | [] => by
    have nothing : Step.terminated terminated [] = [] := by cases terminated <;> rfl
    rw [nothing]
    exact .nil
  | stmt :: rest => by
    have said : Follows env context _ (terminated.toList.map Step.unreachable) := .all _
    have later := Stmt.follows_all context (if stmt.isTerminal then some stmt.span else none) rest
    have walked := said.append ((Stmt.follows context stmt).append later)
    rw [← Step.between_eq_terminated, ← List.append_assoc (stmt.walk _ _)] at walked
    have announced : Step.terminated terminated (stmt :: rest) =
        terminated.toList.map Step.unreachable := by cases terminated <;> rfl
    rw [announced]
    exact walked
  termination_by structural stmts => stmts

end

/-- What the machine comes to on a program: what is observed, and the scopes
that the steps of the walk leave. -/
theorem Program.resolve_observes (program : Program) :
    match Program.resolve env program .initial with
    | .ok _ after =>
      observe env program = (after.events, none) ∧
        after.stack = (run env (Program.walk env.config.initializerName program) .empty).2
    | .error fault after => observe env program = (after.events, some fault) := by
  have walked : Program.walk env.config.initializerName program = .openScope ::
      (Stmt.walkAll env.config.initializerName Context.outermost program ++ [.closeScope]) := rfl
  have opens (rest : List Step) : cutAtFault (.openScope :: rest) =
      (.openScope :: (cutAtFault rest).1, (cutAtFault rest).2) := cutAtFault_cons rest rfl
  have ends : Ends env .outermost
      (Stmt.walkAll env.config.initializerName Context.outermost program) ScopeStack.empty.push
      [.log (.resolving program.length), .log (.pushScope 1)]
      (Stmt.resolveAll env none program ⟨ScopeStack.empty.push, .outermost,
        [.log (.resolving program.length), .log (.pushScope 1)]⟩) :=
    Stmt.follows_all env Context.outermost none program _ _
  unfold observe Program.resolve
  rw [walked, opens]
  generalize Stmt.walkAll env.config.initializerName Context.outermost program = steps at ends
  change match EStateM.bind (EStateM.tryCatch (Stmt.resolveAll env none program)
      fun fault => emit (.log (.aborted fault)) >>= fun _ => throw fault)
    (fun _ => perform env .closeScope >>= fun _ => emit (.log .finished))
    ⟨ScopeStack.empty.push, .outermost,
      [.log (.resolving program.length), .log (.pushScope 1)]⟩ with
    | .ok _ after => _
    | .error fault after => _
  unfold EStateM.bind EStateM.tryCatch
  cases done : Stmt.resolveAll env none program ⟨_, _, _⟩ with
  | ok value after =>
    rw [done] at ends
    obtain ⟨whole, rfl⟩ := ends
    have ended : cutAtFault (steps ++ [.closeScope]) = (steps ++ [.closeScope], none) :=
      cutAtFault_append_of_none [.closeScope] whole
    have last : run env (.openScope :: (steps ++ [.closeScope])) .empty =
        (.log (.pushScope 1) :: ((run env steps ScopeStack.empty.push).1 ++
          (Step.closeScope.perform env (run env steps ScopeStack.empty.push).2).1),
          (Step.closeScope.perform env (run env steps ScopeStack.empty.push).2).2) := by
      simp only [run, run_append, List.append_nil]
      rfl
    refine ⟨?_, ?_⟩
    · rw [ended]
      change (_ :: ((run env _ .empty).1 ++ _), none) = (_ ++ _ ++ _ ++ _, none)
      rw [last]
      simp only [List.cons_append, List.nil_append, List.append_assoc]
    · rw [last]
  | error fault after =>
    rw [done] at ends
    obtain ⟨aborts, -, said⟩ := ends
    rw [cutAtFault_append_of_some [.closeScope] aborts, aborts]
    change _ = (after.events ++ _, some fault)
    rw [said]
    rfl

end NameResolution
