import NameResolution.Proofs.Run.Fault

/-!
# Switching warnings off

The switches of a run decide which warnings are shown and nothing else. A step
leaves the same scopes whatever the switches are, and what happens is what
happens with every switch on, less the warnings that are switched off; so the
same holds of whole runs, and of what is observed of a program.
-/

namespace NameResolution

namespace Lints

/-- Whether a warning is given. -/
def admits (lints : Lints) : Warning → Bool
  | .unusedLocalVariable _ _ => lints.unused
  | .shadowedVariable _ _ _ => lints.shadowing
  | .unreachableCode _ => lints.unreachable

/-- Whether a diagnostic is shown. Errors cannot be switched off. -/
def keeps (lints : Lints) : Diagnostic → Bool
  | .error _ => true
  | .warning warning => lints.admits warning

/-- Whether an event happens with the switches in this position. -/
def shows (lints : Lints) : Event → Bool
  | .diagnostic found => lints.keeps found
  | _ => true

end Lints

/-- The same environment with the switches in another position. -/
def Environment.withLints (env : Environment) (lints : Lints) : Environment :=
  { env with config := { env.config with lints } }

variable (env : Environment) (lints : Lints)

/-- A warning is given if its switch is on. -/
theorem Lints.filter_warning (warning : Warning) :
    [Event.warning warning].filter lints.shows =
      if lints.admits warning then [Event.warning warning] else [] :=
  List.filter_cons

/-- Warnings of one kind are all given, or none of them is. -/
theorem Lints.filter_warnings {α : Type} (cause : α → Warning) {switch : Bool}
    (kind : ∀ item, lints.admits (cause item) = switch) (items : List α) :
    (items.map fun item => Event.warning (cause item)).filter lints.shows =
      if switch then items.map fun item => Event.warning (cause item) else [] := by
  have shown : ∀ event ∈ items.map fun item => Event.warning (cause item),
      lints.shows event = switch := by
    intro event listed
    obtain ⟨item, -, rfl⟩ := List.mem_map.mp listed
    exact kind item
  cases switch with
  | true => exact List.filter_eq_self.mpr shown
  | false => exact List.filter_eq_nil_iff.mpr fun event listed => by simp [shown event listed]

namespace ScopeStack

/-- The lints filter what a declaration says and do not touch the scopes. -/
theorem declare_lints (stack : ScopeStack) (name : Ident) (mutable member : Bool) :
    stack.declare lints name mutable member =
      ((stack.declare .all name mutable member).1.filter lints.shows,
        (stack.declare .all name mutable member).2) := by
  unfold declare
  split
  · rfl
  · split
    · rfl
    · split
      · rename_i earlier _
        exact Prod.ext (lints.filter_warning (.shadowedVariable _ _ _)).symm rfl
      · rfl

/-- The lints filter what closing a scope says and do not touch the scopes. -/
theorem close_lints (config : Config) (stack : ScopeStack) :
    stack.close { config with lints } =
      ((stack.close { config with lints := .all }).1.filter lints.shows,
        (stack.close { config with lints := .all }).2) := by
  unfold close
  split
  · rfl
  · rename_i scope _
    have unused := lints.filter_warnings
      (fun entry : String × Binding => .unusedLocalVariable entry.1 entry.2.span)
      (fun _ => rfl) (scope.unused config.unusedPrefix)
    exact Prod.ext (congrArg (List.cons _) unused.symm) rfl

/-- Looking a name up gives no warning. -/
theorem filter_resolve (config : Config) (stack : ScopeStack) (node : NodeId) (name : Ident)
    (access : Access) :
    (stack.resolve config node name access).1.filter lints.shows =
      (stack.resolve config node name access).1 := by
  unfold resolve
  split
  · rfl
  · split
    · rfl
    · rfl

/-- No lint hides what is said when a variable is read. -/
theorem filter_readVariable (config : Config) (stack : ScopeStack) (node : NodeId)
    (name : Ident) :
    (stack.readVariable config node name).1.filter lints.shows =
      (stack.readVariable config node name).1 := by
  unfold readVariable
  split
  · rfl
  · split
    · rfl
    · exact stack.filter_resolve lints config node name .read

/-- No lint hides that a variable may not be changed. -/
theorem filter_requireMutable (stack : ScopeStack) (name : String)
    (cause : Span → ResolutionError) :
    (stack.requireMutable name cause).filter lints.shows = stack.requireMutable name cause := by
  unfold requireMutable
  split
  · split
    · rfl
    · rfl
  · rfl

end ScopeStack

/-- No lint hides that a foreign name is missing. -/
theorem Environment.filter_requireForeign (kind : ForeignKind) (name : Ident) :
    (env.requireForeign kind name).filter lints.shows = env.requireForeign kind name := by
  unfold requireForeign
  dsimp only
  split
  · rfl
  · rfl

/-- A step does to the scopes what it does with every warning given, and the
same happens, less the warnings that are switched off. -/
theorem Step.perform_withLints (step : Step) (stack : ScopeStack) :
    step.perform (env.withLints lints) stack =
      ((step.perform (env.withLints .all) stack).1.filter lints.shows,
        (step.perform (env.withLints .all) stack).2) := by
  cases step with
  | openScope => rfl
  | closeScope => exact stack.close_lints lints env.config
  | declare name mutable member => exact stack.declare_lints lints name mutable member
  | define name => rfl
  | excuse name => rfl
  | bindPseudo name span => rfl
  | resolve node name access =>
    exact Prod.ext (stack.filter_resolve lints env.config node name access).symm rfl
  | readVariable node name =>
    exact Prod.ext (stack.filter_readVariable lints env.config node name).symm rfl
  | checkAssign name => exact Prod.ext (stack.filter_requireMutable lints _ _).symm rfl
  | checkMutate name span => exact Prod.ext (stack.filter_requireMutable lints _ _).symm rfl
  | requireForeign kind name => exact Prod.ext (env.filter_requireForeign lints kind name).symm rfl
  | report error => rfl
  | unreachable span => exact Prod.ext (lints.filter_warning (.unreachableCode span)).symm rfl
  | abort fault => rfl

/-- A run does to the scopes what it does with every warning given, and the
same happens, less the warnings that are switched off. -/
theorem run_withLints (steps : List Step) (stack : ScopeStack) :
    run (env.withLints lints) steps stack =
      ((run (env.withLints .all) steps stack).1.filter lints.shows,
        (run (env.withLints .all) steps stack).2) := by
  induction steps generalizing stack with
  | nil => rfl
  | cons step rest ih =>
    simp only [run, List.filter_append]
    rw [step.perform_withLints env lints stack, ih]

/-- What is observed of a program is what is observed with every warning given,
less the warnings that are switched off. A fault is the same. -/
theorem observe_withLints (program : Program) :
    observe (env.withLints lints) program =
      ((observe (env.withLints .all) program).1.filter lints.shows,
        (observe (env.withLints .all) program).2) := by
  have same : (env.withLints lints).config.initializerName =
      (env.withLints .all).config.initializerName := rfl
  simp only [observe, same, run_withLints env lints, List.filter_cons, List.filter_append]
  rfl

/-- Switches only delete diagnostics. -/
theorem reportOf_filter (events : List Event) :
    reportOf (events.filter lints.shows) = (reportOf events).filter lints.keeps := by
  rw [reportOf, reportOf, List.filterMap_filter, List.filter_filterMap]
  congr 1
  funext event
  cases event with
  | diagnostic found => rfl
  | log entry => rfl
  | depth node hops => rfl
  | asked kind name answer => rfl

/-- No depth is a warning. -/
theorem depthsOf_filter (events : List Event) :
    depthsOf (events.filter lints.shows) = depthsOf events := by
  rw [depthsOf, depthsOf, List.filterMap_filter]
  congr 1
  funext event
  cases event with
  | diagnostic found => exact ite_self none
  | log entry => rfl
  | depth node hops => rfl
  | asked kind name answer => rfl

/-- No warning counts as an error. -/
theorem hasErrors_filter (report : Report) :
    Report.hasErrors (report.filter lints.keeps) = report.hasErrors := by
  rw [Report.hasErrors, Report.hasErrors, List.any_filter]
  congr 1
  funext found
  cases found with
  | error cause => rfl
  | warning cause => exact Bool.and_false _

/-- The outcome of a resolution with some of its diagnostics deleted. -/
def Resolution.filter (keep : Diagnostic → Bool) (resolution : Resolution) : Resolution :=
  { resolution with report := resolution.report.filter keep }

/-- A resolution ends as it ends with every warning given, less the warnings
that are switched off in its report. -/
theorem resolve_withLints (program : Program) :
    resolve (env.withLints lints) program =
      (resolve (env.withLints .all) program).map (Resolution.filter lints.keeps) := by
  unfold resolve
  rw [observe_withLints env lints]
  obtain ⟨events, fault⟩ := observe (env.withLints .all) program
  cases fault with
  | some fault => rfl
  | none => simp [Except.map, Resolution.filter, depthsOf_filter, reportOf_filter]

/-- Whether a program may run does not depend on the switches. -/
theorem canProceed_withLints (program : Program) :
    (resolve (env.withLints lints) program).map Resolution.canProceed =
      (resolve (env.withLints .all) program).map Resolution.canProceed := by
  rw [resolve_withLints env lints]
  cases resolve (env.withLints .all) program with
  | error fault => rfl
  | ok resolution =>
    simp [Except.map, Resolution.canProceed, Resolution.filter, hasErrors_filter]

/-- Switches only filter. Whatever two positions the switches are in, a program
faults with the same fault or not at all, the same depths are entered in the
same order, and it may run or not. What is reported in one position is what is
reported with every warning given, in the same order, less the warnings that
are switched off. -/
theorem lints_only_filter (program : Program) (others : Lints) :
    (observe (env.withLints lints) program).2 = (observe (env.withLints others) program).2 ∧
      depthsOf (observe (env.withLints lints) program).1 =
        depthsOf (observe (env.withLints others) program).1 ∧
      reportOf (observe (env.withLints lints) program).1 =
        (reportOf (observe (env.withLints .all) program).1).filter lints.keeps ∧
      resolve (env.withLints lints) program =
        (resolve (env.withLints .all) program).map (Resolution.filter lints.keeps) ∧
      (resolve (env.withLints lints) program).map Resolution.canProceed =
        (resolve (env.withLints others) program).map Resolution.canProceed := by
  refine ⟨?_, ?_, ?_, resolve_withLints env lints program, ?_⟩
  · rw [observe_withLints env lints, observe_withLints env others]
  · rw [observe_withLints env lints, observe_withLints env others, depthsOf_filter,
      depthsOf_filter]
  · rw [observe_withLints env lints, reportOf_filter]
  · rw [canProceed_withLints env lints, canProceed_withLints env others]

end NameResolution
