import NameResolution.Proofs.Frame.Openings
import NameResolution.Proofs.Run.Emissions
import NameResolution.Proofs.Walk.Events

/-!
# The level of a trace

An observer who reads the log can count the scopes that are open: one more
behind each line that opens a scope, one fewer behind each line that closes
one. What is counted is what the stack of a run holds, and a scope that the
steps of a run keep open is one that the lines of its log keep open.
-/

namespace NameResolution

/-- How many scopes are open behind an event, if so many are open before it. -/
def Event.level (count : Nat) : Event → Nat
  | .log (.pushScope _) => count + 1
  | .log (.popScope _ _) => count - 1
  | _ => count

/-- How many scopes events leave open, if so many are open before them. -/
def openAfter (events : List Event) (count : Nat) : Nat :=
  events.foldl Event.level count

@[simp] theorem openAfter_nil (count : Nat) : openAfter [] count = count := rfl

@[simp] theorem openAfter_cons (event : Event) (rest : List Event) (count : Nat) :
    openAfter (event :: rest) count = openAfter rest (event.level count) := rfl

@[simp] theorem openAfter_append (first second : List Event) (count : Nat) :
    openAfter (first ++ second) count = openAfter second (openAfter first count) :=
  List.foldl_append

/-- Whether some of the scopes opened since stay open throughout the events, of
which there are so many before them. -/
def KeepOpen : Nat → List Event → Prop
  | extra, [] => 0 < extra
  | extra, event :: rest => 0 < extra ∧ KeepOpen (event.level extra) rest

/-- A scope stays open throughout events one after another if it does throughout each of them. -/
theorem keepOpen_append {extra : Nat} {first second : List Event} :
    KeepOpen extra (first ++ second) ↔
      KeepOpen extra first ∧ KeepOpen (openAfter first extra) second := by
  induction first generalizing extra with
  | nil =>
    have open_before : KeepOpen extra second → 0 < extra := by
      cases second with
      | nil => exact id
      | cons event rest => exact And.left
    simpa [KeepOpen] using open_before
  | cons event rest ih =>
    simp only [List.cons_append, KeepOpen, ih, openAfter_cons, and_assoc]

/-- Events none of which is on a scope leave open what is open. -/
theorem openAfter_of_steady {events : List Event} {count : Nat}
    (steady : ∀ event ∈ events, event.level count = count) : openAfter events count = count := by
  induction events with
  | nil => rfl
  | cons event rest ih =>
    rw [List.forall_mem_cons] at steady
    rw [openAfter_cons, steady.1, ih steady.2]

/-- Events none of which is on a scope keep an open scope open. -/
theorem keepOpen_of_steady {events : List Event} {extra : Nat}
    (steady : ∀ event ∈ events, event.level extra = extra) (opened : 0 < extra) :
    KeepOpen extra events := by
  induction events with
  | nil => exact opened
  | cons event rest ih =>
    rw [List.forall_mem_cons] at steady
    rw [KeepOpen, steady.1]
    exact ⟨opened, ih steady.2⟩

/-- Looking a name up opens and closes nothing. -/
theorem LookUpEvent.level {node : NodeId} {name : Ident} {event : Event}
    (lookUp : LookUpEvent node name event) (count : Nat) : event.level count = count := by
  cases lookUp <;> rfl

/-- A step that opens and closes no scope says nothing of any. -/
theorem Step.Emits.level {step : Step} {event : Event} (emits : step.Emits event)
    (opens : step ≠ .openScope) (closes : step ≠ .closeScope) (count : Nat) :
    event.level count = count := by
  cases emits with
  | opened => exact absurd rfl opens
  | closed | unused => exact absurd rfl closes
  | resolved access lookUp => exact lookUp.level count
  | read lookUp => exact lookUp.level count
  | _ => rfl

variable (env : Environment)

/-- A step leaves as many scopes open as its height says. -/
theorem Step.depth_perform (step : Step) (stack : ScopeStack) :
    (step.perform env stack).2.depth = step.height stack.depth := by
  rw [← ScopeStack.length_lexical, Step.lexical_perform, Step.length_rescope,
    ScopeStack.length_lexical]

/-- What is said when a scope is closed: the line on that, then warnings. -/
theorem ScopeStack.close_cons (config : Config) (scope : Scope) (outer : List Scope) :
    ∃ warned : List (String × Binding), (∀ entry ∈ warned, entry ∈ scope.bindings) ∧
      (ScopeStack.close config ⟨scope :: outer⟩).1 =
        .log (.popScope (outer.length + 1) scope.size) ::
          warned.map fun entry => .warning (.unusedLocalVariable entry.1 entry.2.span) := by
  cases lint : config.lints.unused with
  | true =>
    exact ⟨scope.unused config.unusedPrefix, fun _ => List.mem_of_mem_filter,
      by simp [close, innermost?, lint, depth]⟩
  | false => exact ⟨[], List.forall_mem_nil _, by simp [close, innermost?, lint, depth]⟩

/-- What is said in a step counts the scopes as the step does. -/
theorem Step.openAfter_perform (step : Step) {stack : ScopeStack} {count : Nat}
    (within : count ≤ stack.depth) :
    openAfter (step.perform env stack).1 count = step.height count := by
  by_cases opens : step = .openScope
  · subst opens
    rfl
  · by_cases closes : step = .closeScope
    · subst closes
      obtain ⟨scopes⟩ := stack
      cases scopes with
      | nil =>
        obtain rfl := Nat.le_zero.mp within
        rfl
      | cons scope outer =>
        obtain ⟨warned, -, said⟩ := ScopeStack.close_cons env.config scope outer
        rw [perform, said, openAfter_cons]
        refine openAfter_of_steady fun event listed => ?_
        obtain ⟨entry, -, rfl⟩ := List.mem_map.mp listed
        rfl
    · have same : step.height count = count := by
        cases step <;> first | rfl | exact absurd rfl opens | exact absurd rfl closes
      rw [same]
      exact openAfter_of_steady fun event said => (Step.emits_of_mem said).level opens closes count

/-- What is said in a step keeps open what the step keeps open. -/
theorem Step.keepOpen_perform (step : Step) {stack : ScopeStack} {extra : Nat}
    (within : extra ≤ stack.depth) (opened : 0 < extra) (stays : 0 < step.height extra) :
    KeepOpen extra (step.perform env stack).1 := by
  by_cases opens : step = .openScope
  · subst opens
    exact ⟨opened, stays⟩
  · by_cases closes : step = .closeScope
    · subst closes
      obtain ⟨scopes⟩ := stack
      cases scopes with
      | nil => exact absurd (Nat.lt_of_lt_of_le opened within) (Nat.lt_irrefl 0)
      | cons scope outer =>
        obtain ⟨warned, -, said⟩ := ScopeStack.close_cons env.config scope outer
        rw [perform, said, KeepOpen]
        refine ⟨opened, keepOpen_of_steady (fun event listed => ?_) stays⟩
        obtain ⟨entry, -, rfl⟩ := List.mem_map.mp listed
        rfl
    · exact keepOpen_of_steady
        (fun event said => (Step.emits_of_mem said).level opens closes extra) opened

/-- Opening or closing a scope keeps the order of two counts. -/
theorem Step.height_le (step : Step) {fewer more : Nat} (le : fewer ≤ more) :
    step.height fewer ≤ step.height more := by
  cases step with
  | openScope => exact Nat.succ_le_succ le
  | closeScope => exact Nat.sub_le_sub_right le 1
  | _ => exact le

/-- What is said in a run counts the scopes as its steps do. -/
theorem openAfter_run (steps : List Step) {stack : ScopeStack} {count : Nat}
    (within : count ≤ stack.depth) :
    openAfter (run env steps stack).1 count = heightAfter steps count := by
  induction steps generalizing stack count with
  | nil => rfl
  | cons step rest ih =>
    have inside : step.height count ≤ (step.perform env stack).2.depth := by
      rw [step.depth_perform]
      exact step.height_le within
    rw [run_cons, openAfter_append, step.openAfter_perform env within, heightAfter_cons, ih inside]

/-- What is said in a run keeps open what its steps keep open. -/
theorem StaysOpen.keepOpen {steps : List Step} {extra : Nat} (stays : StaysOpen extra steps)
    {stack : ScopeStack} (within : extra ≤ stack.depth) :
    KeepOpen extra (run env steps stack).1 := by
  induction steps generalizing stack extra with
  | nil => exact stays
  | cons step rest ih =>
    obtain ⟨opened, further⟩ := stays
    have still : 0 < step.height extra := further.opened
    have inside : step.height extra ≤ (step.perform env stack).2.depth := by
      rw [step.depth_perform]
      exact step.height_le within
    rw [run_cons, keepOpen_append, step.openAfter_perform env within]
    exact ⟨step.keepOpen_perform env within opened still, ih further inside⟩

/-- As many scopes are open behind some steps as the log says. -/
theorem openAfter_eventsBefore (program : Program) (before : List Step) :
    openAfter (eventsBefore env program before) 0 = heightAfter before 0 := by
  rw [eventsBefore, openAfter_cons]
  exact openAfter_run env before (Nat.zero_le _)

end NameResolution
