import NameResolution.Proofs.Walk.Events

/-!
# Reports and depths of runs

The report and the depths of a resolution are views of its events, so they can
be read off the run of its steps, part by part.
-/

namespace NameResolution

@[simp] theorem reportOf_append (first second : List Event) :
    reportOf (first ++ second) = reportOf first ++ reportOf second :=
  List.filterMap_append

@[simp] theorem depthsOf_append (first second : List Event) :
    depthsOf (first ++ second) = depthsOf first ++ depthsOf second :=
  List.filterMap_append

/-- Events in another order report the same in another order. -/
theorem reportOf_perm {first second : List Event} (perm : first.Perm second) :
    (reportOf first).Perm (reportOf second) :=
  perm.filterMap _

/-- Events in another order record the same depths in another order. -/
theorem depthsOf_perm {first second : List Event} (perm : first.Perm second) :
    (depthsOf first).Perm (depthsOf second) :=
  perm.filterMap _

@[simp] theorem reportOf_log (entry : LogEntry) (rest : List Event) :
    reportOf (.log entry :: rest) = reportOf rest := rfl

@[simp] theorem depthsOf_log (entry : LogEntry) (rest : List Event) :
    depthsOf (.log entry :: rest) = depthsOf rest := rfl

@[simp] theorem reportOf_nil : reportOf [] = [] := rfl

@[simp] theorem depthsOf_nil : depthsOf [] = [] := rfl

/-- The events of a report make that report. -/
@[simp] theorem reportOf_map_diagnostic (report : Report) :
    reportOf (report.map Event.diagnostic) = report := by
  rw [reportOf, List.filterMap_map]
  exact List.filterMap_some

/-- The events of a report record no depths. -/
@[simp] theorem depthsOf_map_diagnostic (report : Report) :
    depthsOf (report.map Event.diagnostic) = [] := by
  rw [depthsOf, List.filterMap_map]
  exact List.filterMap_eq_nil_iff.mpr fun _ _ => rfl

/-- The report of a resolution is what its steps report. -/
theorem reportOf_observe (env : Environment) (program : Program) :
    reportOf (observe env program).1 = reportOf (run env
      (cutAtFault (Program.walk env.config.initializerName program)).1 .empty).1 := by
  rw [observe_eq_eventsBefore, eventsBefore, List.cons_append, reportOf_log, reportOf_append,
    reportOf_log, reportOf_nil, List.append_nil]

/-- The depths of a resolution are those that its steps record. -/
theorem depthsOf_observe (env : Environment) (program : Program) :
    depthsOf (observe env program).1 = depthsOf (run env
      (cutAtFault (Program.walk env.config.initializerName program)).1 .empty).1 := by
  rw [observe_eq_eventsBefore, eventsBefore, List.cons_append, depthsOf_log, depthsOf_append,
    depthsOf_log, depthsOf_nil, List.append_nil]

/-- The fault of a resolution is the one its steps are cut at. -/
theorem fault_observe (env : Environment) (program : Program) :
    (observe env program).2 =
      (cutAtFault (Program.walk env.config.initializerName program)).2 := rfl

/-- The warnings of entries that a scope is closed with. -/
def unusedWarnings (config : Config) (entries : List (String × Binding)) : Report :=
  if config.lints.unused then
    ((Scope.mk entries).unused config.unusedPrefix).map fun entry =>
      .warning (.unusedLocalVariable entry.1 entry.2.span)
  else []

@[simp] theorem unusedWarnings_append (config : Config) (first second : List (String × Binding)) :
    unusedWarnings config (first ++ second) =
      unusedWarnings config first ++ unusedWarnings config second := by
  unfold unusedWarnings
  split
  · simp [Scope.unused]
  · rfl

/-- An entry is warned of, if it is, before those behind it. -/
theorem unusedWarnings_cons (config : Config) (entry : String × Binding)
    (rest : List (String × Binding)) :
    unusedWarnings config (entry :: rest) =
      (if config.lints.unused && Scope.isUnused config.unusedPrefix entry.1 entry.2 then
        [.warning (.unusedLocalVariable entry.1 entry.2.span)] else []) ++
          unusedWarnings config rest := by
  unfold unusedWarnings
  cases config.lints.unused with
  | false => rfl
  | true =>
    cases unused : Scope.isUnused config.unusedPrefix entry.1 entry.2 <;>
      simp [Scope.unused, unused]

/-- When a scope is closed, a line of the log says so, and the warnings follow. -/
theorem ScopeStack.close_eq_warnings (config : Config) (scope : Scope) (outer : List Scope) :
    (ScopeStack.close config ⟨scope :: outer⟩).1 =
      .log (.popScope (outer.length + 1) scope.size) ::
        (unusedWarnings config scope.bindings).map Event.diagnostic := by
  cases lint : config.lints.unused with
  | true =>
    simp [close, innermost?, depth, lint, unusedWarnings, Event.warning, Function.comp_def]
  | false => simp [close, innermost?, depth, lint, unusedWarnings]

end NameResolution
