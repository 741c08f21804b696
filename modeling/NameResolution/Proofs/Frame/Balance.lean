import NameResolution.Proofs.Frame.Regular
import NameResolution.Proofs.Frame.Simulation
import NameResolution.Proofs.Walk.Visits

/-!
# Balance

Whatever a resolver does with a piece of a tree, from whatever state: if it
comes to its end, as many scopes are open as before and the slots hold what
they held. All scopes but the innermost have the names they had, the innermost
has new names behind its old ones at most, and every binding that was there is
there still, no further back than it was.
-/

namespace NameResolution

namespace Piece

/-- Resolve a piece. -/
def resolve (env : Environment) : Piece → Task Unit
  | .expr tree => tree.resolve env
  | .stmt tree => tree.resolve env
  | .stmts trees => Stmt.resolveAll env none trees
  | .function kind tree => tree.resolve env kind

/-- Whether a piece may declare names in the scope it stands in. -/
def declares : Piece → Bool
  | .expr _ => false
  | .stmt _ => true
  | .stmts _ => true
  | .function _ _ => false

/-- The resolver does with a piece what the steps of its walk do. -/
theorem follows (env : Environment) (context : Context) : (piece : Piece) →
    Follows env context (piece.resolve env) (piece.walk env.config.initializerName context)
  | .expr tree => tree.follows env context
  | .stmt tree => tree.follows env context
  | .stmts trees => Stmt.follows_all env context none trees
  | .function kind tree => tree.follows env context kind

/-- The walk of a piece has the shape of one that declares names where the piece may. -/
theorem shaped (initializerName : String) (context : Context) : (piece : Piece) →
    Shape piece.declares (piece.walk initializerName context)
  | .expr tree => tree.shaped initializerName context
  | .stmt tree => tree.shaped initializerName context
  | .stmts trees => Stmt.shaped_all initializerName context trees
  | .function kind tree => tree.shaped initializerName context kind

end Piece

/-- What may differ between the states of a resolver before and after a piece. -/
structure Resolver.Frame (declares : Bool) (before after : Resolver) : Prop where
  /-- As many scopes are open. -/
  depth : after.stack.depth = before.stack.depth
  /-- Each slot holds what it held. -/
  context : after.context = before.context
  /-- Below the innermost, every scope has the same names in the same order. -/
  outer : ∀ level scope, 0 < level → before.stack.scopes[level]? = some scope →
    ∃ later, after.stack.scopes[level]? = some later ∧ later.names = scope.names
  /-- The innermost scope has new names behind its old ones, if a piece may declare any. -/
  innermost : ∀ scope, before.stack.innermost? = some scope →
    ∃ later added, after.stack.innermost? = some later ∧ later.names = scope.names ++ added ∧
      (declares = false → added = [])
  /-- Every binding is where it was: what the text says of it is the same, and
  its state has not moved back. -/
  bindings : ∀ (level position : Nat) (scope : Scope) (name : String) (binding : Binding),
    before.stack.scopes[level]? = some scope → scope.bindings[position]? = some (name, binding) →
    ∃ later evolved, after.stack.scopes[level]? = some later ∧
      later.bindings[position]? = some (name, evolved) ∧ binding.Evolves evolved

/-- A scope that grew by no binding has the names it had. -/
theorem Scope.Grows.names_eq {before after : Scope} (grows : before.Grows after)
    (size : after.size = before.size) : after.names = before.names := by
  refine (grows.names.eq_of_length ?_).symm
  simpa [Scope.names, Scope.size] using size.symm

/-- A frame of the scopes with the same slots is a frame. -/
theorem ScopeStack.Framed.frame {declares : Bool} {before after : Resolver}
    (framed : before.stack.Framed declares after.stack) (context : after.context = before.context) :
    before.Frame declares after where
  depth := framed.depth
  context := context
  outer level scope below here := by
    obtain ⟨later, there, grows, -, size⟩ := framed.scope level scope here
    exact ⟨later, there, grows.names_eq (size below)⟩
  innermost scope here := by
    rw [innermost?, List.head?_eq_getElem?] at here
    obtain ⟨later, there, grows, size, -⟩ := framed.scope 0 scope here
    obtain ⟨added, names⟩ := grows.names
    refine ⟨later, added, ?_, names.symm, ?_⟩
    · rw [innermost?, List.head?_eq_getElem?]
      exact there
    · intro still
      rw [grows.names_eq (size rfl still)] at names
      exact List.append_right_eq_self.mp names
  bindings level position scope name binding here entry := by
    obtain ⟨later, there, grows, -⟩ := framed.scope level scope here
    obtain ⟨evolved, kept, evolves⟩ := grows position name binding entry
    exact ⟨later, evolved, there, kept, evolves⟩

/-- A piece that a resolver comes to the end of leaves a frame, from whatever state. -/
theorem Piece.frame {env : Environment} {piece : Piece} {before after : Resolver}
    (ends : piece.resolve env before = .ok () after) : before.Frame piece.declares after := by
  obtain ⟨stack, context, events⟩ := before
  have follows := piece.follows env context stack events
  rw [ends] at follows
  obtain ⟨-, rfl⟩ := follows
  exact ((piece.shaped env.config.initializerName context).framed env stack).frame rfl

/-- The steps of a program, fault or none, are carried out where they belong. -/
theorem Program.regular {env : Environment} {program : Program} {before after : List Step}
    {step : Step}
    (carriedOut : (cutAtFault (Program.walk env.config.initializerName program)).1 =
      before ++ step :: after) :
    step.Regular env (run env before .empty).2 := by
  have whole := Program.runsRegularly env program
  obtain ⟨cut, same⟩ := cutAtFault_fst_isPrefix (Program.walk env.config.initializerName program)
  rw [← same, carriedOut] at whole
  exact (runsRegularly_append.mp whole).1.step

/-- The steps of a program leave no scope open. -/
theorem Program.run_walk_empty (env : Environment) (program : Program) :
    (run env (Program.walk env.config.initializerName program) .empty).2 = .empty := by
  have framed := (Program.shaped env.config.initializerName program).framed env .empty
  have closed := List.eq_nil_of_length_eq_zero framed.depth
  exact congrArg ScopeStack.mk closed

/-- What holds of every resolver in an environment. -/
structure Balanced (env : Environment) : Prop where
  /-- A piece leaves a frame, whatever the state in which it is begun. -/
  frame : ∀ (piece : Piece) (before after : Resolver),
    piece.resolve env before = .ok () after → before.Frame piece.declares after
  /-- The resolver observes what the steps of the walk do, up to a fault if there is one. -/
  observes : ∀ program : Program,
    match Program.resolve env program .initial with
    | .ok _ after => observe env program = (after.events, none)
    | .error fault after => observe env program = (after.events, some fault)
  /-- No step is ever carried out where it does not belong. -/
  regular : ∀ (program : Program) (before after : List Step) (step : Step),
    (cutAtFault (Program.walk env.config.initializerName program)).1 = before ++ step :: after →
      step.Regular env (run env before .empty).2
  /-- A run without a fault ends with no scope open. -/
  closes : ∀ (program : Program) (after : Resolver),
    Program.resolve env program .initial = .ok () after → after.stack = .empty

/-- Every walk is balanced, and keeps its frame. -/
theorem resolver_balanced (env : Environment) : Balanced env where
  frame _ _ _ := Piece.frame
  observes program := by
    have observed := Program.resolve_observes env program
    cases ends : Program.resolve env program .initial with
    | ok value after =>
      rw [ends] at observed
      exact observed.1
    | error fault after =>
      rw [ends] at observed
      exact observed
  regular _ _ _ _ := Program.regular
  closes program after ends := by
    have observed := Program.resolve_observes env program
    rw [ends] at observed
    rw [observed.2]
    exact Program.run_walk_empty env program

/-- A resolver in a method, in a struct body, in a class, with a binding in each of two scopes. -/
def Resolver.midway : Resolver where
  stack := ⟨[⟨[("A", ⟨default, .defined, false, false⟩)]⟩,
    ⟨[("w", ⟨default, .declared, true, true⟩)]⟩]⟩
  context := ⟨.method, .base, .struct⟩
  events := []

/-- A class `B` that inherits from `A`, with an initializer in which a struct, a function and
two loops stand:
`init(p) { struct S { f; } fun g() { return p; } while w { for i in p { this; } } }`. -/
def inheritingB : Stmt :=
  .classDecl default ⟨"B", default⟩ (some (.var default ⟨"A", default⟩))
    [⟨some ⟨"init", default⟩, [⟨⟨"p", default⟩, .any false default⟩], none,
      [.structDecl default ⟨"S", default⟩ [.letDecl default ⟨"f", default⟩ false none none false],
        .function default ⟨some ⟨"g", default⟩, [], none,
          [.ret default (some (.var default ⟨"p", default⟩))], false, default⟩,
        .whileLoop default (some (.var default ⟨"w", default⟩))
          [.forEach default ⟨"i", default⟩ (.var default ⟨"p", default⟩)
            [.expression default (.this default)]]], false, default⟩]

/-- The walk of the class changes all three slots, and has up to seven scopes open. Behind it
the slots hold what they held, `B` is bound behind `A`, and what was read is marked. -/
theorem resolver_balanced_inheritingB :
    ∃ after, (Piece.stmt inheritingB).resolve .bare .midway = .ok () after ∧
      Resolver.midway.Frame true after ∧
      .log (.pushScope 7) ∈ after.events ∧
      after.context = ⟨.method, .base, .struct⟩ ∧
      after.stack.scopes =
        [⟨[("A", ⟨default, .read, false, false⟩), ("B", ⟨default, .defined, false, true⟩)]⟩,
          ⟨[("w", ⟨default, .read, true, true⟩)]⟩] :=
  ⟨_, rfl, (resolver_balanced .bare).frame (.stmt inheritingB) .midway _ rfl, by decide, rfl, rfl⟩

end NameResolution
