import NameResolution.Proofs.Context.Reserved
import NameResolution.Proofs.Continuation.Appended
import NameResolution.Proofs.Unused.Exact

/-!
# What earlier code settles

Statements that follow a program change nothing about it but one thing: they
may read its bindings. Its diagnostics are given and its depths are recorded
all the same, and when the scope of the longer program is closed, those of its
bindings that are unused have been unused when the program ended.
-/

namespace NameResolution

namespace Scope

/-- Entries of the same name, of which the second is what became of the first. -/
structure EntryEvolves (before after : String × Binding) : Prop where
  name : after.1 = before.1
  binding : before.2.Evolves after.2

/-- The first entries of a scope that grew are those it had, evolved. -/
theorem Grows.evolves {before after : Scope} (grows : before.Grows after) :
    List.Forall₂ EntryEvolves before.bindings (after.bindings.take before.size) := by
  have size : before.size ≤ after.size := by
    simpa [Scope.names, Scope.size] using grows.names.length_le
  refine List.forall₂_iff_get.mpr ⟨(List.length_take_of_le size).symm, ?_⟩
  intro position inside inside'
  obtain ⟨later, there, evolves⟩ := grows position _ _ (List.getElem?_eq_getElem inside)
  obtain ⟨inner, same⟩ := List.getElem?_eq_some_iff.mp there
  simp only [List.get_eq_getElem, List.getElem_take, same]
  exact ⟨rfl, evolves⟩

/-- A binding that has its value, and is unused in the end, has been unused before. -/
theorem EntryEvolves.isUnused {unusedPrefix : String} {before after : String × Binding}
    (evolves : EntryEvolves before after) (valued : before.2.state ≠ .declared)
    (unused : Scope.isUnused unusedPrefix after.1 after.2 = true) :
    Scope.isUnused unusedPrefix before.1 before.2 = true := by
  obtain ⟨name, binding⟩ := evolves
  have rank := binding.state
  simp only [Scope.isUnused, Bool.and_eq_true, beq_iff_eq] at unused ⊢
  rw [← name, ← binding.member]
  refine ⟨⟨?_, unused.1.2⟩, unused.2⟩
  rw [unused.1.1] at rank
  cases state : before.2.state with
  | declared => exact absurd state valued
  | defined => rfl
  | read =>
    rw [state] at rank
    exact absurd rank (by decide)

end Scope

/-- Of bindings that have their values, those that are unused in the end have been
unused before. -/
theorem sublist_unusedWarnings (config : Config) {before after : List (String × Binding)}
    (evolved : List.Forall₂ Scope.EntryEvolves before after)
    (valued : ∀ entry ∈ before, entry.2.state ≠ .declared) :
    (unusedWarnings config after).Sublist (unusedWarnings config before) := by
  induction evolved with
  | nil => exact .refl _
  | @cons entry later rest others here there ih =>
    rw [List.forall_mem_cons] at valued
    rw [unusedWarnings_cons, unusedWarnings_cons]
    refine List.Sublist.append ?_ (ih valued.2)
    cases lint : config.lints.unused with
    | false => exact .refl _
    | true =>
      cases unused : Scope.isUnused config.unusedPrefix later.1 later.2 with
      | false => exact List.nil_sublist _
      | true =>
        rw [here.isUnused valued.1 unused, here.name, here.binding.span]

/-- Whether a diagnostic is on a binding of a name that a statement of the program
itself declares. -/
def Diagnostic.isOf (program : Program) (found : Diagnostic) : Bool :=
  found.binding?.any fun name =>
    (program.flatMap (Stmt.declares false)).any fun declaration => declaration.name == name

/-- Entries of other names are not warned of under the names of a program. -/
theorem filter_unusedWarnings_eq_nil (config : Config) {program : Program}
    {entries : List (String × Binding)}
    (others : ∀ entry ∈ entries, ∀ declaration ∈ program.flatMap (Stmt.declares false),
      declaration.name ≠ entry.1) :
    (unusedWarnings config entries).filter (Diagnostic.isOf program) = [] := by
  rw [List.filter_eq_nil_iff]
  intro found listed
  unfold unusedWarnings at listed
  split at listed
  · obtain ⟨entry, unused, rfl⟩ := List.mem_map.mp listed
    have other := others entry (List.mem_of_mem_filter unused)
    simp only [Diagnostic.isOf, Diagnostic.binding?, Option.any_some, List.any_eq_true, beq_iff_eq,
      not_exists, not_and]
    exact other
  · cases listed

variable {env : Environment} {first second : Program} {events : List Event}

/-- The scope of a program grows into that of a longer one. -/
theorem TopLevel.grows {scope later : Scope} (top : TopLevel env first scope)
    (whole : TopLevel env (first ++ second) later) : scope.Grows later := by
  obtain ⟨steps, shape, walked⟩ :=
    Program.exists_opened_append env.config.initializerName first second
  have framed := shape.framed env ⟨[scope]⟩
  have stack := whole.stack
  rw [walked, run_snd_append, top.stack] at stack
  rw [stack] at framed
  obtain ⟨grown, same, grows, -⟩ := framed.scope 0 scope rfl
  cases same
  exact grows

/-- Of the bindings of the earlier program, those that are unused when the scope
of the longer program is closed have been unused before. -/
theorem TopLevel.sublist_unusedWarnings {scope later : Scope} (top : TopLevel env first scope)
    (whole : TopLevel env (first ++ second) later) :
    ((unusedWarnings env.config later.bindings).filter (Diagnostic.isOf first)).Sublist
      (unusedWarnings env.config scope.bindings) := by
  have grows := top.grows whole
  have earlier := NameResolution.sublist_unusedWarnings env.config grows.evolves
    fun entry listed => top.valued listed
  have others : ∀ entry ∈ later.bindings.drop scope.size,
      ∀ declaration ∈ first.flatMap (Stmt.declares false), declaration.name ≠ entry.1 := by
    intro entry listed declaration declared same
    have kept : scope.names = later.names.take scope.size := by
      have whole := List.prefix_iff_eq_take.mp grows.names
      rwa [Scope.names, List.length_map] at whole
    have early : entry.1 ∈ later.names.take scope.size :=
      kept ▸ same ▸ top.mem_names declared
    have late : entry.1 ∈ later.names.drop scope.size := by
      rw [Scope.names, ← List.map_drop]
      exact List.mem_map.mpr ⟨entry, listed, rfl⟩
    have distinct := whole.distinct
    rw [← List.take_append_drop scope.size later.names] at distinct
    exact (List.nodup_append.mp distinct).2.2 _ early _ late rfl
  rw [← List.take_append_drop scope.size later.bindings, unusedWarnings_append,
    List.filter_append, filter_unusedWarnings_eq_nil env.config others, List.append_nil]
  exact List.filter_sublist.trans earlier

/-- How the events of a run without a fault end: behind the earlier events the
scope of the program is closed, these warnings are given, and that is all. -/
structure ClosesWith (program : Program) (events earlier : List Event) (unused : Report) :
    Prop where
  split : ∃ bindings, events =
    earlier ++ .log (.popScope 1 bindings) :: (unused.map Event.diagnostic ++ [.log .finished])
  /-- The warnings are on unused bindings that statements of the program itself declare. -/
  warns : ∀ found ∈ unused, ∃ declaration ∈ program.flatMap (Stmt.declares false),
    found = .warning (.unusedLocalVariable declaration.name declaration.span)

namespace ClosesWith

variable {program : Program} {earlier : List Event} {unused : Report}

/-- The warnings come behind the earlier diagnostics. -/
theorem report (closes : ClosesWith program events earlier unused) :
    reportOf events = reportOf earlier ++ unused := by
  obtain ⟨bindings, rfl⟩ := closes.split
  simp

/-- No depths are recorded in the end. -/
theorem depths (closes : ClosesWith program events earlier unused) :
    depthsOf events = depthsOf earlier := by
  obtain ⟨bindings, rfl⟩ := closes.split
  simp

/-- No errors are found in the end. -/
theorem errors (closes : ClosesWith program events earlier unused) :
    Report.errors (reportOf events) = Report.errors (reportOf earlier) := by
  have none : Report.errors unused = [] := by
    refine List.filterMap_eq_nil_iff.mpr fun found listed => ?_
    obtain ⟨declaration, -, rfl⟩ := closes.warns found listed
    rfl
  rw [closes.report, Report.errors, List.filterMap_append]
  exact (congrArg _ none).trans (List.append_nil _)

end ClosesWith

/-- A run without a fault ends with the unused bindings of the scope of the program. -/
theorem TopLevel.closesWith {program : Program} {scope : Scope} (top : TopLevel env program scope)
    (faultFree : observe env program = (events, none)) :
    ClosesWith program events (eventsOpened env program)
      (unusedWarnings env.config scope.bindings) where
  split := by
    refine ⟨scope.size, ?_⟩
    rw [observe_eq_run faultFree, Program.walk_eq_opened, run_append, run_singleton, top.stack,
      Step.perform, ScopeStack.close_eq_warnings, eventsOpened, eventsBefore]
    simp only [List.cons_append, List.append_assoc, List.length_nil, Nat.zero_add]
  warns := by
    intro found listed
    unfold unusedWarnings at listed
    split at listed
    · obtain ⟨entry, unused, rfl⟩ := List.mem_map.mp listed
      exact ⟨_, top.declared (List.mem_of_mem_filter unused), rfl⟩
    · cases listed

/-- What happens before the scope of a program is closed happens first if the
program goes on. -/
theorem eventsOpened_leads (faultFree : (observe env first).2 = none) (second : Program) :
    reportOf (eventsOpened env first) <+: reportOf (observe env (first ++ second)).1 ∧
      depthsOf (eventsOpened env first) <+: depthsOf (observe env (first ++ second)).1 := by
  obtain ⟨steps, -, walked⟩ :=
    Program.exists_opened_append env.config.initializerName first second
  have goesOn := Program.opened_goesOn faultFree
  rw [reportOf_observe, depthsOf_observe, Program.walk_eq_opened, walked, List.append_assoc,
    cutAtFault_append_of_none _ goesOn, run_append, reportOf_append, depthsOf_append]
  exact ⟨List.prefix_append _ _, List.prefix_append _ _⟩

/-- What a program that goes on keeps of its beginning, whose events come to
`earlier` before its scope is closed with the warnings `unused`. -/
structure Continued (env : Environment) (first second : Program) (events earlier : List Event)
    (unused : Report) : Prop where
  closes : ClosesWith first events earlier unused
  report : reportOf events = reportOf earlier ++ unused
  /-- The earlier diagnostics are given first, whether or not the longer program faults. -/
  diagnostics : reportOf earlier <+: reportOf (observe env (first ++ second)).1
  /-- No error is lost. -/
  errors : Report.errors (reportOf events) <+:
    Report.errors (reportOf (observe env (first ++ second)).1)
  /-- References have the depths they had. -/
  depths : depthsOf events <+: depthsOf (observe env (first ++ second)).1
  /-- Of the bindings of the first program, the longer one leaves unused only
  such as have been unused. -/
  unused : ∀ whole, observe env (first ++ second) = (whole, none) →
    ∃ before last, ClosesWith (first ++ second) whole before last ∧
      (last.filter (Diagnostic.isOf first)).Sublist unused

/-- Earlier code is resolved once and for all. Where a program resolves without a
fault, statements behind it change none of its diagnostics and depths, except
that fewer of the bindings of its own scope may be left unused at the end. -/
theorem resolution_settles_earlier_code (faultFree : observe env first = (events, none))
    (second : Program) :
    ∃ earlier unused, Continued env first second events earlier unused := by
  obtain ⟨scope, top⟩ := Program.exists_topLevel env first
  obtain ⟨later, whole⟩ := Program.exists_topLevel env (first ++ second)
  have closes := top.closesWith faultFree
  have noFault : (observe env first).2 = none := congrArg Prod.snd faultFree
  have goesOn := eventsOpened_leads noFault second
  refine ⟨eventsOpened env first, unusedWarnings env.config scope.bindings, closes, closes.report,
    goesOn.1, closes.errors ▸ goesOn.1.filterMap _, closes.depths ▸ goesOn.2, ?_⟩
  intro events faultFree
  exact ⟨_, _, whole.closesWith faultFree, top.sublist_unusedWarnings whole⟩

/-- Two variables, and a name that nothing declares: `let a = nil; let b = nil; c;`. -/
def unreadAB : Program :=
  [.letDecl ⟨⟨0⟩, default⟩ ⟨"a", default⟩ false none (some (.literal ⟨⟨1⟩, default⟩ .nil)) false,
    .letDecl ⟨⟨2⟩, default⟩ ⟨"b", default⟩ false none (some (.literal ⟨⟨3⟩, default⟩ .nil)) false,
    .expression ⟨⟨4⟩, default⟩ (.var ⟨⟨5⟩, default⟩ ⟨"c", default⟩)]

/-- One of the variables is read: `a;`. -/
def readA : Program := [.expression ⟨⟨6⟩, default⟩ (.var ⟨⟨7⟩, default⟩ ⟨"a", default⟩)]

/-- With a read of `a` behind it, the program keeps its error and loses one warning of two. -/
theorem resolution_settles_unreadAB :
    reportOf (observe .watchful unreadAB).1 =
        [.error (.notDeclared "c" default), .warning (.unusedLocalVariable "a" default),
          .warning (.unusedLocalVariable "b" default)] ∧
      reportOf (observe .watchful (unreadAB ++ readA)).1 =
        [.error (.notDeclared "c" default), .warning (.unusedLocalVariable "b" default)] ∧
      ∃ events earlier unused, observe .watchful unreadAB = (events, none) ∧
        Continued .watchful unreadAB readA events earlier unused := by
  have faultFree : observe .watchful unreadAB = ((observe .watchful unreadAB).1, none) := rfl
  obtain ⟨earlier, unused, continued⟩ := resolution_settles_earlier_code faultFree readA
  exact ⟨rfl, rfl, _, earlier, unused, faultFree, continued⟩

end NameResolution
