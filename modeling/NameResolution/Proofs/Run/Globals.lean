import Mathlib.Data.List.Forall2
import NameResolution.Proofs.Run.Lints
import NameResolution.Proofs.Walk.Views

/-!
# Further globals

A name is looked up among the globals only where no open scope binds it, so a
run with further globals goes through the same scopes as before. What happens
is the same, event by event, but that a reference to one of the further names
that was not declared now means a global.
-/

namespace NameResolution

/-- The same settings with further globals. -/
def Config.withGlobals (config : Config) (names : List String) : Config :=
  names.foldl withGlobal config

/-- The same environment with further globals. -/
def Environment.withGlobals (env : Environment) (names : List String) : Environment :=
  { env with config := env.config.withGlobals names }

/-- Whether a diagnostic says that one of these names is not declared. -/
def Diagnostic.misses (names : List String) : Diagnostic → Bool
  | .error (.notDeclared name _) => names.contains name
  | _ => false

/-- What becomes of an event with further globals: a name that was not declared
is one of them, and all else is as it was. -/
inductive Event.FallsBack (names : List String) : Event → Event → Prop where
  | same {event : Event} (other : event.diagnostic?.any (·.misses names) = false) :
      FallsBack names event event
  | global {name : String} (listed : name ∈ names) (node : NodeId) (span : Span) :
      FallsBack names (.error (.notDeclared name span)) (.log (.resolvedGlobal node name))

namespace Config

variable (config : Config) (names : List String)

theorem withGlobals_cons (name : String) :
    config.withGlobals (name :: names) = (config.withGlobal name).withGlobals names := rfl

/-- Only the globals are others. -/
theorem withGlobals_eq :
    config.withGlobals names =
      { config with globals := names.foldl (fun set name => set.insert name) config.globals } := by
  induction names generalizing config with
  | nil => rfl
  | cons name names ih => exact ih (config.withGlobal name)

/-- More globals change no lint. -/
@[simp] theorem lints_withGlobals : (config.withGlobals names).lints = config.lints := by
  rw [withGlobals_eq]

/-- More globals leave the prefix of discarded names as it is. -/
@[simp] theorem unusedPrefix_withGlobals :
    (config.withGlobals names).unusedPrefix = config.unusedPrefix := by
  rw [withGlobals_eq]

/-- More globals leave the name of initializers as it is. -/
@[simp] theorem initializerName_withGlobals :
    (config.withGlobals names).initializerName = config.initializerName := by
  rw [withGlobals_eq]

/-- The same names are discarded with more globals. -/
@[simp] theorem isDiscarded_withGlobals (name : String) :
    (config.withGlobals names).isDiscarded name = config.isDiscarded name := by
  rw [isDiscarded, unusedPrefix_withGlobals, isDiscarded]

/-- The globals are those there were and the further ones. -/
@[simp] theorem isGlobal_withGlobals (name : String) :
    (config.withGlobals names).isGlobal name = (config.isGlobal name || names.contains name) := by
  induction names generalizing config with
  | nil => simp [withGlobals]
  | cons first names ih =>
    have further : (config.withGlobal first).isGlobal name =
        (first == name || config.isGlobal name) := by
      simp only [isGlobal, withGlobal, Std.ExtTreeSet.contains_insert]
      congr 1
      rw [Bool.eq_iff_iff]
      simp
    rw [withGlobals_cons, ih, further, List.contains_cons, Bool.beq_comm]
    cases name == first <;> simp

end Config

variable {env : Environment} {names : List String}

/-- Events none of which says that one of the names is not declared stay as they are. -/
theorem Event.FallsBack.all {events : List Event}
    (others : ∀ event ∈ events, event.diagnostic?.any (·.misses names) = false) :
    List.Forall₂ (FallsBack names) events events :=
  List.forall₂_same.mpr fun event listed => .same (others event listed)

namespace ScopeStack

variable (stack : ScopeStack)

/-- The globals are asked only for a name that no scope binds. -/
theorem resolve_withGlobals (config : Config) (node : NodeId) (name : Ident) (access : Access) :
    List.Forall₂ (Event.FallsBack names) (stack.resolve config node name access).1
        (stack.resolve (config.withGlobals names) node name access).1 ∧
      (stack.resolve (config.withGlobals names) node name access).2 =
        (stack.resolve config node name access).2 := by
  unfold resolve
  cases stack.update? name.name access.mark with
  | some found => exact ⟨.cons (.same rfl) (.cons (.same rfl) .nil), rfl⟩
  | none =>
    simp only [Config.isGlobal_withGlobals]
    cases config.isGlobal name.name with
    | true => exact ⟨.cons (.same rfl) .nil, rfl⟩
    | false =>
      cases listed : names.contains name.name with
      | true => exact ⟨.cons (.global (List.contains_iff_mem.mp listed) node name.span) .nil, rfl⟩
      | false => exact ⟨.cons (.same listed) .nil, rfl⟩

/-- Reading a variable does the same with more globals, and says the same but where the name is
one of them and unbound. -/
theorem readVariable_withGlobals (config : Config) (node : NodeId) (name : Ident) :
    List.Forall₂ (Event.FallsBack names) (stack.readVariable config node name).1
        (stack.readVariable (config.withGlobals names) node name).1 ∧
      (stack.readVariable (config.withGlobals names) node name).2 =
        (stack.readVariable config node name).2 := by
  unfold readVariable
  split
  · exact ⟨.cons (.same rfl) .nil, rfl⟩
  · rw [Config.isDiscarded_withGlobals, Config.unusedPrefix_withGlobals]
    split
    · exact ⟨.cons (.same rfl) .nil, rfl⟩
    · exact stack.resolve_withGlobals config node name .read

/-- Closing a scope says and does the same with more globals. -/
theorem close_withGlobals (config : Config) :
    stack.close (config.withGlobals names) = stack.close config := by
  simp [close]

end ScopeStack

/-- Whether a step looks a name up. -/
def Step.looksUp : Step → Bool
  | .resolve .. => true
  | .readVariable .. => true
  | _ => false

/-- A step that looks nothing up does not ask for globals. -/
theorem Step.perform_withGlobals {step : Step} (lookless : step.looksUp = false)
    (stack : ScopeStack) :
    step.perform (env.withGlobals names) stack = step.perform env stack := by
  cases step with
  | closeScope => exact stack.close_withGlobals env.config
  | declare name mutable member => simp [perform, Environment.withGlobals]
  | unreachable span => simp [perform, Environment.withGlobals]
  | resolve node name access => cases lookless
  | readVariable node name => cases lookless
  | _ => rfl

/-- A step that looks nothing up misses no name, if what it reports is plain
from the tree. -/
theorem Step.misses_eq_false {step : Step} (lookless : step.looksUp = false)
    (plain : ∀ error, step = .report error → error.isPlain = true) {event : Event}
    (emits : step.Emits event) : event.diagnostic?.any (·.misses names) = false := by
  cases emits with
  | resolved access lookUp => cases lookless
  | read lookUp => cases lookless
  | selfReference node name => cases lookless
  | discarded node name unusedPrefix => cases lookless
  | unregistered kind name => cases kind <;> rfl
  | reported error =>
    have plain := plain error rfl
    cases error with
    | notDeclared name span => cases plain
    | _ => rfl
  | _ => rfl

variable (env names) in
/-- A step does with further globals to the scopes what it does without them,
and the same happens but where one of the names is not declared. -/
theorem Step.perform_fallsBack {step : Step}
    (plain : ∀ error, step = .report error → error.isPlain = true) (stack : ScopeStack) :
    List.Forall₂ (Event.FallsBack names) (step.perform env stack).1
        (step.perform (env.withGlobals names) stack).1 ∧
      (step.perform (env.withGlobals names) stack).2 = (step.perform env stack).2 := by
  cases asks : step.looksUp with
  | false =>
    rw [perform_withGlobals asks]
    exact ⟨Event.FallsBack.all fun event emitted =>
      misses_eq_false asks plain (emits_of_mem emitted), rfl⟩
  | true =>
    cases step with
    | resolve node name access => exact stack.resolve_withGlobals env.config node name access
    | readVariable node name => exact stack.readVariable_withGlobals env.config node name
    | _ => cases asks

variable (env names) in
/-- A run goes with further globals through the same scopes, and the same
happens but where one of the names is not declared. -/
theorem run_fallsBack {steps : List Step}
    (plain : ∀ error, .report error ∈ steps → error.isPlain = true) (stack : ScopeStack) :
    List.Forall₂ (Event.FallsBack names) (run env steps stack).1
        (run (env.withGlobals names) steps stack).1 ∧
      (run (env.withGlobals names) steps stack).2 = (run env steps stack).2 := by
  induction steps generalizing stack with
  | nil => exact ⟨.nil, rfl⟩
  | cons step rest ih =>
    have own : ∀ error, step = .report error → error.isPlain = true := by
      rintro error rfl
      exact plain error List.mem_cons_self
    obtain ⟨now, same⟩ := step.perform_fallsBack env names own stack
    obtain ⟨later, last⟩ := ih (fun error listed => plain error (List.mem_cons_of_mem _ listed))
      (step.perform env stack).2
    rw [run_cons, run_cons, same]
    exact ⟨List.rel_append now later, last⟩

/-- The depths are the same: neither a missing name nor a global has one. -/
theorem depthsOf_fallsBack {events others : List Event}
    (same : List.Forall₂ (Event.FallsBack names) events others) :
    depthsOf others = depthsOf events := by
  induction same with
  | nil => rfl
  | cons head _ ih =>
    cases head with
    | same other => simp only [depthsOf, List.filterMap_cons] at ih ⊢; rw [ih]
    | global listed node span => exact ih

/-- The report is less the errors that the further globals answer. -/
theorem reportOf_fallsBack {events others : List Event}
    (same : List.Forall₂ (Event.FallsBack names) events others) :
    reportOf others = (reportOf events).filter fun found => !found.misses names := by
  induction same with
  | nil => rfl
  | @cons event other _ _ head _ ih =>
    have split (event : Event) (rest : List Event) :
        reportOf (event :: rest) = event.diagnostic?.toList ++ reportOf rest := by
      cases event <;> rfl
    rw [split event, split other, List.filter_append, ← ih]
    congr 1
    cases head with
    | same kept =>
      cases event with
      | diagnostic found =>
        have kept : found.misses names = false := kept
        simp [Event.diagnostic?, kept]
      | _ => rfl
    | global listed node span =>
      have answered : (Diagnostic.error (.notDeclared _ span)).misses names = true :=
        List.contains_iff_mem.mpr listed
      simp [Event.diagnostic?, Event.error, answered]

/-- No warning is answered by a global. -/
theorem warnings_fallsBack (report : Report) :
    Report.warnings (report.filter fun found => !found.misses names) = report.warnings := by
  rw [Report.warnings, Report.warnings, List.filterMap_filter]
  congr 1
  funext found
  cases found with
  | error cause => exact ite_self none
  | warning cause => rfl

/-- What is observed of a program with further globals. -/
theorem observe_fallsBack (env : Environment) (names : List String) (program : Program) :
    List.Forall₂ (Event.FallsBack names) (observe env program).1
        (observe (env.withGlobals names) program).1 ∧
      (observe (env.withGlobals names) program).2 = (observe env program).2 := by
  have sameWalk : Program.walk (env.withGlobals names).config.initializerName program =
      Program.walk env.config.initializerName program := by
    simp [Environment.withGlobals]
  have plain : ∀ error,
      .report error ∈ (cutAtFault (Program.walk env.config.initializerName program)).1 →
        error.isPlain = true :=
    fun error listed => Program.isPlain_of_report ((cutAtFault_fst_isPrefix _).mem listed)
  have inside := (run_fallsBack env names plain .empty).1
  simp only [observe, sameWalk]
  exact ⟨.cons (.same rfl) (List.rel_append inside (.cons (.same rfl) .nil)), trivial⟩

/-- Globals are a mere fallback. With further globals a program faults with the
same fault or not at all, and what happens is the same, event by event, but
that a reference to one of the names that was not declared means a global. So
the same depths are recorded, and what is reported is what was reported, in the
same order, less just the errors that one of the names is not declared; every
other error and every warning stays. -/
theorem globals_only_fall_back (env : Environment) (names : List String) (program : Program) :
    (observe (env.withGlobals names) program).2 = (observe env program).2 ∧
      List.Forall₂ (Event.FallsBack names) (observe env program).1
        (observe (env.withGlobals names) program).1 ∧
      depthsOf (observe (env.withGlobals names) program).1 =
        depthsOf (observe env program).1 ∧
      reportOf (observe (env.withGlobals names) program).1 =
        (reportOf (observe env program).1).filter (fun found => !found.misses names) ∧
      Report.warnings (reportOf (observe (env.withGlobals names) program).1) =
        Report.warnings (reportOf (observe env program).1) ∧
      resolve (env.withGlobals names) program =
        (resolve env program).map (Resolution.filter fun found => !found.misses names) := by
  obtain ⟨same, fault⟩ := observe_fallsBack env names program
  have depths := depthsOf_fallsBack same
  have report := reportOf_fallsBack same
  refine ⟨fault, same, depths, report, by rw [report, warnings_fallsBack], ?_⟩
  unfold resolve
  generalize observe env program = observed at same fault depths report
  generalize observe (env.withGlobals names) program = others at same fault depths report
  obtain ⟨events, _⟩ := observed
  obtain ⟨others, ended⟩ := others
  obtain rfl := fault
  cases ended with
  | some fault => rfl
  | none => simp only [Except.map, Resolution.filter, depths, report]

end NameResolution
