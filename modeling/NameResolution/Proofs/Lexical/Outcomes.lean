import Mathlib.Data.List.Forall2
import NameResolution.Proofs.Lexical.Coverage
import NameResolution.Resolution

/-!
# Outcomes of references

Some events of a run settle references: a depth that is entered, the note that
a name means a global, and six kinds of error. `outcomesOf` lists them. Steps
that are run act on the lexical scopes as `rescope` says, and the settling
ones among them give one outcome each: either the one lexical scoping gives,
or an error that turns the reference away before its name is looked up.
-/

namespace NameResolution

/-- How a reference is settled. -/
inductive Outcome where
  /-- It means the binding this many scopes out. -/
  | recorded (node : NodeId) (depth : Nat)
  /-- It means a global. -/
  | global (node : NodeId) (name : String)
  | rejected (error : ResolutionError)
deriving DecidableEq, Inhabited

/-- The outcome in an event, if it is one. -/
def Event.outcome? : Event → Option Outcome
  | .depth node hops => some (.recorded node hops)
  | .log (.resolvedGlobal node name) => some (.global node name)
  | .diagnostic (.error error) =>
    if error.settlesReference then some (.rejected error) else none
  | _ => none

/-- The outcomes among events, in order. -/
def outcomesOf (events : List Event) : List Outcome :=
  events.filterMap Event.outcome?

/-- The depth in an outcome, if it is one. -/
def Outcome.depth? : Outcome → Option (NodeId × Nat)
  | .recorded node depth => some (node, depth)
  | _ => none

@[simp] theorem outcomesOf_nil : outcomesOf [] = [] := rfl

/-- The outcomes of two lists of events are those of the first, then those of the second. -/
@[simp] theorem outcomesOf_append (first second : List Event) :
    outcomesOf (first ++ second) = outcomesOf first ++ outcomesOf second :=
  List.filterMap_append

/-- Every depth that is entered is the outcome of a reference. -/
theorem depthsOf_eq_outcomes (events : List Event) :
    depthsOf events = (outcomesOf events).filterMap Outcome.depth? := by
  simp only [depthsOf, outcomesOf, List.filterMap_filterMap]
  congr 1
  funext event
  cases event with
  | log entry => cases entry <;> rfl
  | diagnostic found =>
    cases found with
    | error error => cases error <;> rfl
    | warning warning => rfl
  | depth node depth => rfl
  | asked kind name answer => rfl

/-- The outcome lexical scoping gives a reference: the depth of its name, or a
global if no open scope binds the name, or an error. -/
def Site.lexicalOutcome (config : Config) (site : Site) : Outcome :=
  match site.depth? with
  | some depth => .recorded site.node depth
  | none =>
    if config.isGlobal site.name.name then .global site.node site.name.name
    else .rejected (.notDeclared site.name.name site.name.span)

/-- The errors that turn a reference away before its name is looked up. -/
inductive Site.Rejection (config : Config) (site : Site) : ResolutionError → Prop where
  | selfReference (form : site.form = .var)
      (own : site.scopes.bindsHere site.name.name = true) :
      site.Rejection config (.selfReference site.name.name site.name.span)
  | discarded (form : site.form = .var)
      (marked : config.isDiscarded site.name.name = true) :
      site.Rejection config
        (.readOfDiscarded site.name.name config.unusedPrefix site.name.span)
  | thisOutsideClass (form : site.form = .this) (outside : site.cls = .none) :
      site.Rejection config (.thisOutsideClass site.name.span)
  | superOutsideClass (form : site.form = .super) (outside : site.cls = .none) :
      site.Rejection config (.superOutsideClass site.name.span)
  | superWithoutSuperclass (form : site.form = .super) (base : site.cls = .base) :
      site.Rejection config (.superWithoutSuperclass site.name.span)

/-- Whether the enclosing class admits a reference of this form. -/
def Site.admitted (site : Site) : Bool :=
  match site.form with
  | .this => site.cls != .none
  | .super => site.cls == .subclass
  | _ => true

/-- The outcomes that a reference can have. -/
inductive Site.Settled (config : Config) (site : Site) : Outcome → Prop where
  /-- It is looked up. -/
  | lookedUp (admitted : site.admitted = true)
      (kept : site.form = .var → config.isDiscarded site.name.name = false) :
      site.Settled config (site.lexicalOutcome config)
  /-- It is turned away. -/
  | rejected {error : ResolutionError} (rejection : site.Rejection config error) :
      site.Settled config (.rejected error)

namespace ScopeStack

/-- What happens when a name is looked up: a depth is entered right behind the
line on it, or else the name is a global or an error. -/
theorem events_resolve (config : Config) (stack : ScopeStack) (node : NodeId) (name : Ident)
    (access : Access) :
    (stack.resolve config node name access).1 =
      match stack.lexical.depth? name.name with
      | some depth => [.log (.resolvedAt node name.name depth), .depth node depth]
      | none =>
        if config.isGlobal name.name then [.log (.resolvedGlobal node name.name)]
        else [.error (.notDeclared name.name name.span)] := by
  have hops : (stack.update? name.name access.mark).map Prod.fst =
      stack.lexical.depth? name.name := by
    rw [← map_fst_find?, find?, ← map_fst_updateIn name.name access.mark]
    simp [update?, Function.comp_def]
  rw [← hops, resolve]
  cases stack.update? name.name access.mark with
  | some hit => rfl
  | none =>
    dsimp only [Option.map_none]
    split <;> rfl

/-- Looking a name up gives the lexical outcome. -/
theorem outcomesOf_resolve (config : Config) (stack : ScopeStack) (node : NodeId) (name : Ident)
    (access : Access) :
    outcomesOf (stack.resolve config node name access).1 =
      [match stack.lexical.depth? name.name with
        | some depth => .recorded node depth
        | none =>
          if config.isGlobal name.name then .global node name.name
          else .rejected (.notDeclared name.name name.span)] := by
  rw [events_resolve]
  cases stack.lexical.depth? name.name with
  | some depth => rfl
  | none =>
    dsimp only
    split <;> simp [outcomesOf, Event.outcome?, Event.error, ResolutionError.settlesReference]

/-- A look-up leaves what is declared as it is. -/
theorem lexical_resolve (config : Config) (stack : ScopeStack) (node : NodeId) (name : Ident)
    (access : Access) : (stack.resolve config node name access).2.lexical = stack.lexical := by
  unfold resolve
  cases found : stack.update? name.name access.mark with
  | some hit =>
    simp only [update?, Option.map_eq_some_iff] at found
    obtain ⟨changed, inside, rfl⟩ := found
    exact lexical_updateIn name.name access.mark (access.declaration_mark name.name)
      stack.scopes changed inside
  | none =>
    dsimp only
    split <;> rfl

/-- A read of a variable leaves what is declared as it is. -/
theorem lexical_readVariable (config : Config) (stack : ScopeStack) (node : NodeId)
    (name : Ident) : (stack.readVariable config node name).2.lexical = stack.lexical := by
  unfold readVariable
  split
  · rfl
  · split
    · rfl
    · exact stack.lexical_resolve config node name .read

/-- A declaration declares in the lexical scopes what it declares in the stack, if the name is
free. -/
theorem lexical_declare (lints : Lints) (stack : ScopeStack) (name : Ident)
    (mutable member : Bool) :
    (stack.declare lints name mutable member).2.lexical =
      stack.lexical.declare (name.declaration mutable member) := by
  obtain ⟨scopes⟩ := stack
  cases scopes with
  | nil => rfl
  | cons scope outer =>
    have bound := scope.isSome_get? name.name
    cases kept : scope.get? name.name with
    | some binding =>
      rw [kept, Option.isSome_some] at bound
      simp [declare, innermost?, kept, lexical, LexicalScopes.declare, LexicalScope.declare,
        Ident.declaration, ← bound]
    | none =>
      rw [kept, Option.isSome_none] at bound
      have added : LexicalScope.put (name.declaration mutable member) scope.lexical =
          scope.lexical ++ [name.declaration mutable member] :=
        LexicalScope.put_of_not_binds bound.symm
      simp [declare, innermost?, kept, modifyInnermost, lexical, LexicalScopes.declare,
        LexicalScope.declare, Scope.lexical_insert, Ident.declaration, Binding.declaration,
        Binding.declared, ← bound] at added ⊢
      exact added

/-- Giving a name its value declares it where it was never taken, and nothing where it was. -/
theorem lexical_define (stack : ScopeStack) (name : Ident) :
    (stack.define name).lexical = stack.lexical.declare (name.declaration false false) := by
  obtain ⟨scopes⟩ := stack
  cases scopes with
  | nil => rfl
  | cons scope outer =>
    have bound := scope.isSome_get? name.name
    cases kept : scope.get? name.name with
    | some binding =>
      rw [kept, Option.isSome_some] at bound
      have changed := scope.lexical_modify name.name Binding.define
        (Binding.declaration_define name.name)
      simp [define, modifyInnermost, kept, lexical, LexicalScopes.declare, LexicalScope.declare,
        Ident.declaration, changed, ← bound]
    | none =>
      rw [kept, Option.isSome_none] at bound
      have added : LexicalScope.put (name.declaration false false) scope.lexical =
          scope.lexical ++ [name.declaration false false] :=
        LexicalScope.put_of_not_binds bound.symm
      simp [define, kept, modifyInnermost, lexical, LexicalScopes.declare,
        LexicalScope.declare, Scope.lexical_insert, Ident.declaration, Binding.declaration,
        Binding.declared, Binding.define, Binding.advance, ← bound] at added ⊢
      exact added

end ScopeStack

/-- A step that is carried out acts on the lexical scopes as `rescope` says. -/
theorem Step.lexical_perform (env : Environment) (stack : ScopeStack) (step : Step) :
    (step.perform env stack).2.lexical = step.rescope stack.lexical := by
  cases step with
  | openScope => rfl
  | closeScope =>
    obtain ⟨scopes⟩ := stack
    cases scopes <;> rfl
  | declare name mutable member => exact stack.lexical_declare env.config.lints name mutable member
  | define name => exact stack.lexical_define name
  | excuse name =>
    apply stack.lexical_modifyInnermost
    intro scope
    exact scope.lexical_modify name Binding.markRead (Binding.declaration_markRead name)
  | bindPseudo name span =>
    obtain ⟨scopes⟩ := stack
    cases scopes with
    | nil => rfl
    | cons scope outer =>
      simp [perform, rescope, ScopeStack.modifyInnermost, ScopeStack.lexical,
        Scope.lexical_insert, Binding.declaration, Binding.pseudo]
  | resolve node name access => exact stack.lexical_resolve env.config node name access
  | readVariable node name => exact stack.lexical_readVariable env.config node name
  | checkAssign name => rfl
  | checkMutate name span => rfl
  | requireForeign kind name => rfl
  | report error => rfl
  | unreachable span => rfl
  | abort fault => rfl

/-- A run acts on the lexical scopes as its steps do. -/
theorem lexical_run (env : Environment) (steps : List Step) (stack : ScopeStack) :
    (run env steps stack).2.lexical = rescope steps stack.lexical := by
  induction steps generalizing stack with
  | nil => rfl
  | cons step rest ih =>
    simp only [run, rescope_cons]
    rw [ih, Step.lexical_perform]

/-- Warnings settle nothing. -/
theorem outcomesOf_warnings {α : Type} (cause : α → Warning) (items : List α) :
    outcomesOf (items.map fun item => Event.warning (cause item)) = [] := by
  simp [outcomesOf, List.filterMap_map, Function.comp_def, Event.warning, Event.outcome?]

/-- Closing a scope settles no reference. -/
theorem ScopeStack.outcomesOf_close (config : Config) (stack : ScopeStack) :
    outcomesOf (stack.close config).1 = [] := by
  unfold ScopeStack.close
  split
  · rfl
  · rename_i scope _
    have unused := outcomesOf_warnings
      (fun entry : String × Binding => Warning.unusedLocalVariable entry.1 entry.2.span)
      (scope.unused config.unusedPrefix)
    dsimp only
    split
    · exact unused
    · rfl

/-- A declaration settles no reference. -/
theorem ScopeStack.outcomesOf_declare (lints : Lints) (stack : ScopeStack) (name : Ident)
    (mutable member : Bool) :
    outcomesOf (stack.declare lints name mutable member).1 = [] := by
  unfold ScopeStack.declare
  split
  · rfl
  · split
    · rfl
    · dsimp only
      split
      · split <;> rfl
      · rfl

/-- Asking for a mutable binding settles no reference. -/
theorem ScopeStack.outcomesOf_requireMutable (stack : ScopeStack) (name : String)
    (cause : Span → ResolutionError) (aside : ∀ span, (cause span).settlesReference = false) :
    outcomesOf (stack.requireMutable name cause) = [] := by
  unfold ScopeStack.requireMutable
  split
  · split
    · rfl
    · simp [outcomesOf, Event.error, Event.outcome?, aside]
  · rfl

/-- Asking the runtime settles no reference. -/
theorem Environment.outcomesOf_requireForeign (env : Environment) (kind : ForeignKind)
    (name : Ident) : outcomesOf (env.requireForeign kind name) = [] := by
  unfold Environment.requireForeign
  dsimp only
  split
  · rfl
  · cases kind <;> rfl

/-- A step that settles no reference gives no outcome. -/
theorem Step.outcomesOf_perform (env : Environment) (stack : ScopeStack) {step : Step}
    (aside : step.settles = false) : outcomesOf (step.perform env stack).1 = [] := by
  cases step with
  | openScope => rfl
  | closeScope => exact stack.outcomesOf_close env.config
  | declare name mutable member =>
    exact stack.outcomesOf_declare env.config.lints name mutable member
  | define name => rfl
  | excuse name => rfl
  | bindPseudo name span => rfl
  | resolve node name access => simp [settles] at aside
  | readVariable node name => simp [settles] at aside
  | checkAssign name => exact stack.outcomesOf_requireMutable _ _ fun _ => rfl
  | checkMutate name span => exact stack.outcomesOf_requireMutable _ _ fun _ => rfl
  | requireForeign kind name => exact env.outcomesOf_requireForeign kind name
  | report error =>
    have silent : error.settlesReference = false := aside
    simp [perform, outcomesOf, Event.error, Event.outcome?, silent]
  | unreachable span =>
    change outcomesOf (if env.config.lints.unreachable then _ else []) = []
    split <;> rfl
  | abort fault => rfl

/-- Steps that settle no reference have no outcome. -/
theorem outcomesOf_run_of_aside (env : Environment) {steps : List Step}
    (aside : ∀ step ∈ steps, step.settles = false) (stack : ScopeStack) :
    outcomesOf (run env steps stack).1 = [] := by
  induction steps generalizing stack with
  | nil => rfl
  | cons step rest ih =>
    rw [List.forall_mem_cons] at aside
    simp only [run, outcomesOf_append]
    rw [step.outcomesOf_perform env stack aside.1, ih aside.2, List.append_nil]

end NameResolution
