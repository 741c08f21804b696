import NameResolution.Proofs.Surroundings.Mentions
import NameResolution.Proofs.Trace.Levels
import NameResolution.Proofs.Walk.Views

/-!
# Scopes beneath a run

Steps that close no scope but those they opened never get below the scopes
that are open when they begin. If the scopes there bind none of the names that
the steps are under, they are not even looked into with success: the run is the
one without them, on top of them, and the log counts them along.
-/

namespace NameResolution

/-- Whether none of some scopes binds a name. -/
def FreeIn (outer : List Scope) (name : String) : Prop := ScopeStack.findIn name outer = none

/-- An event as it happens with so many more scopes open. -/
def Event.deeper (extra : Nat) : Event → Event
  | .log (.pushScope count) => .log (.pushScope (count + extra))
  | .log (.popScope count bindings) => .log (.popScope (count + extra) bindings)
  | event => event

/-- A stack of scopes with further scopes beneath. -/
def ScopeStack.onto (stack : ScopeStack) (outer : List Scope) : ScopeStack :=
  ⟨stack.scopes ++ outer⟩

/-- The diagnostics are the same at every depth. -/
theorem reportOf_deeper (extra : Nat) (events : List Event) :
    reportOf (events.map (Event.deeper extra)) = reportOf events := by
  rw [reportOf, reportOf, List.filterMap_map]
  congr 1
  funext event
  cases event with
  | log entry => cases entry <;> rfl
  | _ => rfl

/-- The recorded depths are the same at every depth. -/
theorem depthsOf_deeper (extra : Nat) (events : List Event) :
    depthsOf (events.map (Event.deeper extra)) = depthsOf events := by
  rw [depthsOf, depthsOf, List.filterMap_map]
  congr 1
  funext event
  cases event with
  | log entry => cases entry <;> rfl
  | _ => rfl

/-- What comes of looking a name up is the same at every depth. -/
theorem LookUpEvent.deeper {node : NodeId} {name : Ident} {event : Event}
    (lookUp : LookUpEvent node name event) (extra : Nat) : event.deeper extra = event := by
  cases lookUp <;> rfl

/-- What a step says that opens and closes no scope is the same at every depth. -/
theorem Step.Emits.deeper {step : Step} {event : Event} (emits : step.Emits event)
    (opens : step ≠ .openScope) (closes : step ≠ .closeScope) (extra : Nat) :
    event.deeper extra = event := by
  cases emits with
  | opened => exact absurd rfl opens
  | closed | unused => exact absurd rfl closes
  | resolved access lookUp => exact lookUp.deeper extra
  | read lookUp => exact lookUp.deeper extra
  | _ => rfl

/-- What a step says that neither opens nor closes a scope is the same at any depth. -/
theorem Step.map_deeper_perform (env : Environment) {step : Step} (opens : step ≠ .openScope)
    (closes : step ≠ .closeScope) (stack : ScopeStack) (extra : Nat) :
    (step.perform env stack).1.map (Event.deeper extra) = (step.perform env stack).1 := by
  refine (List.map_congr_left fun event said => ?_).trans (List.map_id _)
  exact (Step.emits_of_mem said).deeper opens closes extra

namespace ScopeStack

variable {stack : ScopeStack} {outer : List Scope} {name : String}

/-- A look-up that finds nothing in the scopes beneath finds what it finds above. -/
theorem findIn_append (free : FreeIn outer name) (scopes : List Scope) :
    findIn name (scopes ++ outer) = findIn name scopes := by
  induction scopes with
  | nil => exact free
  | cons scope rest ih => simp only [List.cons_append, findIn, ih]

/-- Scopes that do not bind a name have no binding of it to update. -/
theorem updateIn_of_free (free : FreeIn outer name) (change : Binding → Binding) :
    updateIn name change outer = none := by
  have found := map_fst_updateIn name change outer
  rw [free] at found
  exact Option.map_eq_none_iff.mp found

/-- A binding is updated above scopes that do not bind its name as it is without them. -/
theorem updateIn_append (free : FreeIn outer name) (change : Binding → Binding)
    (scopes : List Scope) :
    updateIn name change (scopes ++ outer) =
      (updateIn name change scopes).map fun (hops, binding, scopes) =>
        (hops, binding, scopes ++ outer) := by
  induction scopes with
  | nil => exact updateIn_of_free free change
  | cons scope rest ih =>
    simp only [List.cons_append, updateIn, ih]
    cases scope.get? name with
    | some binding => rfl
    | none => cases updateIn name change rest <;> rfl

/-- A name that the scopes beneath do not bind is found as without them. -/
theorem find?_onto (free : FreeIn outer name) (stack : ScopeStack) :
    (stack.onto outer).find? name = stack.find? name :=
  findIn_append free stack.scopes

/-- A name that the scopes beneath do not bind is in the innermost scope as without them. -/
theorem getInnermost?_onto (free : FreeIn outer name) (stack : ScopeStack) :
    (stack.onto outer).getInnermost? name = stack.getInnermost? name := by
  obtain ⟨scopes⟩ := stack
  cases scopes with
  | cons scope rest => rfl
  | nil =>
    cases outer with
    | nil => rfl
    | cons scope rest =>
      unfold FreeIn findIn at free
      cases bound : scope.get? name with
      | none => exact bound
      | some binding =>
        rw [bound] at free
        cases free

/-- A stack that is not empty has its innermost scope wherever it stands. -/
theorem innermost?_onto (opened : 0 < stack.depth) (outer : List Scope) :
    (stack.onto outer).innermost? = stack.innermost? :=
  List.head?_append_of_ne_nil _ (List.ne_nil_of_length_pos opened)

/-- A change of the innermost scope leaves the scopes beneath as they are. -/
theorem modifyInnermost_onto (opened : 0 < stack.depth) (outer : List Scope)
    (change : Scope → Scope) :
    (stack.onto outer).modifyInnermost change = (stack.modifyInnermost change).onto outer := by
  obtain ⟨scopes⟩ := stack
  cases scopes with
  | nil => exact absurd opened (Nat.lt_irrefl 0)
  | cons scope rest => rfl

/-- A declaration shadows nothing in scopes beneath that do not bind its name. -/
theorem findEnclosing?_onto (opened : 0 < stack.depth) (free : FreeIn outer name) :
    (stack.onto outer).findEnclosing? name = stack.findEnclosing? name := by
  obtain ⟨scopes⟩ := stack
  cases scopes with
  | nil => exact absurd opened (Nat.lt_irrefl 0)
  | cons scope rest => exact congrArg (Option.map Prod.snd) (findIn_append free rest)

/-- A declaration says and does the same above scopes that do not bind its name. -/
theorem declare_onto {lints : Lints} {name : Ident} (opened : 0 < stack.depth)
    (free : FreeIn outer name.name) (mutable member : Bool) :
    (stack.onto outer).declare lints name mutable member =
      ((stack.declare lints name mutable member).1,
        (stack.declare lints name mutable member).2.onto outer) := by
  simp only [declare, innermost?_onto opened, findEnclosing?_onto opened free,
    modifyInnermost_onto opened]
  cases stack.innermost? with
  | none => rfl
  | some scope =>
    dsimp only
    cases scope.get? name.name <;> rfl

/-- A reference says and does the same above scopes that do not bind its name. -/
theorem resolve_onto {config : Config} {name : Ident} (free : FreeIn outer name.name)
    (stack : ScopeStack) (node : NodeId) (access : Access) :
    (stack.onto outer).resolve config node name access =
      ((stack.resolve config node name access).1,
        (stack.resolve config node name access).2.onto outer) := by
  simp only [resolve, update?, onto, updateIn_append free]
  cases updateIn name.name access.mark stack.scopes with
  | some found => rfl
  | none => cases config.isGlobal name.name <;> rfl

/-- Reading a variable says and does the same above scopes that do not bind its name. -/
theorem readVariable_onto {config : Config} {name : Ident} (free : FreeIn outer name.name)
    (stack : ScopeStack) (node : NodeId) :
    (stack.onto outer).readVariable config node name =
      ((stack.readVariable config node name).1,
        (stack.readVariable config node name).2.onto outer) := by
  simp only [readVariable, getInnermost?_onto free, resolve_onto free]
  split
  · rfl
  · split <;> rfl

/-- A change of a variable is rejected above scopes that do not bind it just as without them. -/
theorem requireMutable_onto (free : FreeIn outer name) (stack : ScopeStack)
    (cause : Span → ResolutionError) :
    (stack.onto outer).requireMutable name cause = stack.requireMutable name cause := by
  simp only [requireMutable, find?_onto free]

/-- Closing a scope says and does the same above other scopes, only its log entry is deeper. -/
theorem close_onto {config : Config} (opened : 0 < stack.depth) (outer : List Scope) :
    (stack.onto outer).close config =
      ((stack.close config).1.map (Event.deeper outer.length),
        (stack.close config).2.onto outer) := by
  obtain ⟨scopes⟩ := stack
  cases scopes with
  | nil => exact absurd opened (Nat.lt_irrefl 0)
  | cons scope rest =>
    refine Prod.ext ?_ rfl
    have higher := close_eq_warnings config scope (rest ++ outer)
    rw [onto, List.cons_append, higher, close_eq_warnings, List.map_cons, List.map_map]
    simp [Event.deeper, Nat.add_right_comm, Function.comp_def]

end ScopeStack

/-- A step that keeps to the scopes opened since does the same on top of scopes
that do not bind the name it is under. -/
theorem Step.perform_onto (env : Environment) {step : Step} {stack : ScopeStack}
    (inside : step.Inside stack.depth) {outer : List Scope}
    (free : ∀ name, step.name? = some name → FreeIn outer name) :
    step.perform env (stack.onto outer) =
      ((step.perform env stack).1.map (Event.deeper outer.length),
        (step.perform env stack).2.onto outer) := by
  by_cases opens : step = .openScope
  · subst opens
    refine Prod.ext ?_ rfl
    simp [perform, Event.deeper, ScopeStack.depth, ScopeStack.push, ScopeStack.onto,
      Nat.add_right_comm]
  · by_cases closes : step = .closeScope
    · subst closes
      have opened : 0 < stack.depth := by simpa [Inside, quiet] using inside
      exact ScopeStack.close_onto opened outer
    · rw [map_deeper_perform env opens closes]
      have further (loud : step.quiet = false) : 0 < stack.depth := by
        rcases inside with rfl | quiet | opened
        · exact absurd rfl opens
        · rw [quiet] at loud
          cases loud
        · exact opened
      cases step with
      | openScope => exact absurd rfl opens
      | closeScope => exact absurd rfl closes
      | declare name mutable member =>
        exact ScopeStack.declare_onto (further rfl) (free _ rfl) mutable member
      | define name =>
        exact congrArg (Prod.mk []) (ScopeStack.modifyInnermost_onto (further rfl) outer _)
      | excuse name =>
        exact congrArg (Prod.mk []) (ScopeStack.modifyInnermost_onto (further rfl) outer _)
      | bindPseudo name span =>
        exact congrArg (Prod.mk []) (ScopeStack.modifyInnermost_onto (further rfl) outer _)
      | resolve node name access => exact ScopeStack.resolve_onto (free _ rfl) stack node access
      | readVariable node name => exact ScopeStack.readVariable_onto (free _ rfl) stack node
      | checkAssign name =>
        exact congrArg (·, stack.onto outer) (ScopeStack.requireMutable_onto (free _ rfl) stack _)
      | checkMutate name span =>
        exact congrArg (·, stack.onto outer) (ScopeStack.requireMutable_onto (free _ rfl) stack _)
      | requireForeign kind name => rfl
      | report error => rfl
      | unreachable span => rfl
      | abort fault => rfl

/-- Steps that keep to the scopes opened since run the same on top of scopes that
bind none of the names they are under. -/
theorem run_onto (env : Environment) {steps : List Step} {stack : ScopeStack}
    (confined : Confined stack.depth steps) {outer : List Scope}
    (free : ∀ step ∈ steps, ∀ name, step.name? = some name → FreeIn outer name) :
    run env steps (stack.onto outer) =
      ((run env steps stack).1.map (Event.deeper outer.length),
        (run env steps stack).2.onto outer) := by
  induction steps generalizing stack with
  | nil => rfl
  | cons step rest ih =>
    obtain ⟨inside, confined⟩ := confined
    rw [List.forall_mem_cons] at free
    rw [← step.depth_perform env stack] at confined
    rw [run_cons, run_cons, step.perform_onto env inside free.1, ih confined free.2,
      List.map_append]

end NameResolution
