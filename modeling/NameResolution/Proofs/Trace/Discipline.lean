import Mathlib.Data.Finset.Card
import NameResolution.Proofs.Faults.Cut
import NameResolution.Proofs.Trace.Levels
import NameResolution.Proofs.Unused.Closing

/-!
# The discipline of a trace

All that an observer sees of a run is nested like brackets. A line that opens a
scope counts it on top of those that are open, a line that closes one closes
the scope that was opened last, warnings of what is unused stand right behind
the line of their scope, and no depth goes beyond the scopes that are open.
-/

namespace NameResolution

/-- The binders that count have the names of all binders. -/
theorem Binder.toFinset_names_firsts (binders : List Binder) :
    ((firsts binders).map fun binder => binder.name).toFinset =
      (binders.map fun binder => binder.name).toFinset := by
  induction binders with
  | nil => rfl
  | cons binder rest ih =>
    ext name
    have there : name ∈ ((firsts rest).map fun binder => binder.name).toFinset ↔
        name ∈ (rest.map fun binder => binder.name).toFinset := by rw [ih]
    by_cases same : name = binder.name
    · simp [firsts, same]
    · simp only [List.mem_toFinset, List.mem_map] at there
      simp only [firsts, List.map_cons, List.toFinset_cons, Finset.mem_insert, same, false_or,
        List.mem_toFinset, List.mem_map, List.mem_filter, bne_iff_ne, ne_eq, ← there]
      constructor
      · rintro ⟨other, ⟨listed, -⟩, named⟩
        exact ⟨other, listed, named⟩
      · rintro ⟨other, listed, named⟩
        exact ⟨other, ⟨listed, named ▸ same⟩, named⟩

/-- As many binders count as there are names. -/
theorem Binder.length_firsts (binders : List Binder) :
    (firsts binders).length = (binders.map fun binder => binder.name).toFinset.card := by
  rw [← toFinset_names_firsts, List.toFinset_card_of_nodup (nodup_names_firsts binders),
    List.length_map]

/-- What events leave open, with more scopes around that they do not close. -/
theorem KeepOpen.openAfter_add {events : List Event} {extra : Nat} (keeps : KeepOpen extra events)
    (around : Nat) : openAfter events (around + extra) = around + openAfter events extra := by
  induction events generalizing extra with
  | nil => rfl
  | cons event rest ih =>
    obtain ⟨opened, further⟩ := keeps
    rw [openAfter_cons, openAfter_cons, ← ih further]
    congr 1
    unfold Event.level
    split <;> omega

/-- A scope that is open before some events and closed behind them is closed by
one of them. -/
theorem exists_closing {events : List Event} {around extra : Nat} (opened : 0 < extra)
    (closed : openAfter events (around + extra) ≤ around) :
    ∃ inside depth bindings behind, events = inside ++ .log (.popScope depth bindings) :: behind ∧
      KeepOpen extra inside ∧ openAfter inside extra = 1 := by
  induction events generalizing extra with
  | nil =>
    rw [openAfter_nil] at closed
    omega
  | cons event rest ih =>
    -- Behind the event the scope is open still.
    have later (still : 0 < event.level extra)
        (same : event.level (around + extra) = around + event.level extra) :
        ∃ inside depth bindings behind,
          event :: rest = inside ++ .log (.popScope depth bindings) :: behind ∧
            KeepOpen extra inside ∧ openAfter inside extra = 1 := by
      rw [openAfter_cons, same] at closed
      obtain ⟨inside, depth, bindings, behind, rfl, keeps, last⟩ := ih still closed
      exact ⟨event :: inside, depth, bindings, behind, rfl, ⟨opened, keeps⟩, last⟩
    by_cases closes : ∃ depth bindings, event = .log (.popScope depth bindings)
    · obtain ⟨depth, bindings, rfl⟩ := closes
      by_cases last : extra = 1
      · exact ⟨[], depth, bindings, rest, rfl, opened, last⟩
      · refine later ?_ ?_ <;> simp only [Event.level] <;> omega
    · unfold Event.level at later
      split at later
      · exact later (Nat.succ_pos _) rfl
      · exact absurd ⟨_, _, rfl⟩ closes
      · exact later opened rfl

variable {env : Environment} {program : Program} {extent : Extent}

/-- What is said of a scope when it is closed: first the line on it, which counts
its names, then warnings of some of its binders. -/
theorem HasExtent.close (has : HasExtent env.config.initializerName program extent) :
    ∃ warned : List Binder, (∀ binder ∈ warned, binder ∈ extent.binders) ∧
      (Step.closeScope.perform env (run env extent.closed .empty).2).1 =
        extent.closing warned := by
  have view := has.lexical_closed
  generalize (run env extent.closed .empty).2 = stack at view
  obtain ⟨scopes⟩ := stack
  obtain ⟨scope, outer, rfl, here, around⟩ := List.map_eq_cons_iff.mp view
  have depth : outer.length = extent.around.length := by rw [← around, List.length_map]
  have size : scope.size = (Binder.firsts extent.binders).length := by
    have counted := congrArg List.length here
    simpa [Scope.lexical, Scope.size] using counted
  obtain ⟨entries, kept, said⟩ := ScopeStack.close_cons env.config scope outer
  have bound (entry : String × Binding) (listed : entry ∈ entries) :
      ∃ binder ∈ extent.binders, binder.name = entry.1 ∧ binder.span = entry.2.span := by
    have declared : entry.2.declaration entry.1 ∈ scope.lexical :=
      List.mem_map.mpr ⟨entry, kept entry listed, rfl⟩
    rw [here] at declared
    obtain ⟨binder, first, same⟩ := List.mem_map.mp declared
    exact ⟨binder, Binder.mem_of_mem_firsts first, congrArg Declaration.name same,
      congrArg Declaration.span same⟩
  choose! binder inside name span using bound
  refine ⟨entries.map binder, ?_, ?_⟩
  · rw [List.forall_mem_map]
    exact inside
  · rw [Step.perform, said, Extent.closing, depth, size, List.map_map]
    congr 1
    apply List.map_congr_left
    intro entry listed
    rw [Function.comp_apply, name entry listed, span entry listed]

/-- Behind the extent of a scope, that scope is open on top of those around it. -/
theorem HasExtent.openAfter_closed (has : HasExtent env.config.initializerName program extent) :
    openAfter (eventsBefore env program extent.closed) 0 = extent.around.length + 1 := by
  rw [openAfter_eventsBefore, ← depth_run_empty env, ← ScopeStack.length_lexical,
    has.lexical_closed, List.length_cons]

/-- The line on the scope that is opened last of all that are open where it is closed. -/
theorem HasExtent.opened (has : HasExtent env.config.initializerName program extent) :
    ∃ inside, eventsBefore env program extent.closed =
        eventsBefore env program extent.before ++
          .log (.pushScope (extent.around.length + 1)) :: inside ∧
      KeepOpen 1 inside ∧ openAfter inside 1 = 1 := by
  have within : 1 ≤ (run env extent.before .empty).2.push.depth := by
    rw [extent.depth_opened]
    exact Nat.succ_pos _
  refine ⟨(run env extent.inside (run env extent.before .empty).2.push).1, ?_,
    has.contents.stays.keepOpen env within, ?_⟩
  · rw [Extent.closed, eventsBefore_append, run_cons, Step.perform, extent.depth_opened]
    rfl
  · rw [openAfter_run env extent.inside within, has.contents.height]

/-- A depth is entered right behind the line on it, and within the open scopes. -/
theorem ScopeStack.resolve_depth {config : Config} {stack : ScopeStack} {node other : NodeId}
    {name : Ident} {access : Access} {inside behind : List Event} {hops : Nat}
    (recorded : (stack.resolve config node name access).1 =
      inside ++ .depth other hops :: behind) :
    inside = [.log (.resolvedAt other name.name hops)] ∧ hops < stack.depth := by
  rw [events_resolve] at recorded
  cases found : stack.lexical.depth? name.name with
  | some depth =>
    rw [found] at recorded
    rcases inside with _ | ⟨first, _ | ⟨second, inside⟩⟩
    · cases recorded
    · cases recorded
      rw [← length_lexical]
      exact ⟨rfl, LexicalScopes.lt_length_of_depth? found⟩
    · simp at recorded
  | none =>
    rw [found] at recorded
    dsimp only at recorded
    split at recorded <;> rcases inside with _ | ⟨first, inside⟩ <;>
      simp [Event.error] at recorded

/-- A step that enters a depth says so right before, and stays within the open scopes. -/
theorem Step.directly_recorded {step : Step} {stack : ScopeStack} {inside behind : List Event}
    {node : NodeId} {hops : Nat} (emits : step.Emits (.depth node hops))
    (recorded : (step.perform env stack).1 = inside ++ .depth node hops :: behind) :
    (∃ name, inside = [.log (.resolvedAt node name hops)]) ∧ hops < stack.depth := by
  cases emits with
  | @resolved _ name _ access lookUp =>
    obtain ⟨before, bounded⟩ := ScopeStack.resolve_depth recorded
    exact ⟨⟨name.name, before⟩, bounded⟩
  | @read _ name _ lookUp =>
    rw [perform, ScopeStack.readVariable] at recorded
    split at recorded
    · rcases inside with _ | ⟨first, inside⟩ <;> simp [Event.error] at recorded
    · split at recorded
      · rcases inside with _ | ⟨first, inside⟩ <;> simp [Event.error] at recorded
      · obtain ⟨before, bounded⟩ := ScopeStack.resolve_depth recorded
        exact ⟨⟨name.name, before⟩, bounded⟩

/-- How a run ends. -/
inductive RunEnds (env : Environment) (program : Program) (events : List Event) :
    Option Fault → Prop
  /-- Without a fault, all scopes are closed, and the last line says that the run is finished. -/
  | finished (closed : openAfter events 0 = 0)
      (last : events = eventsBefore env program (Program.walk env.config.initializerName program) ++
        [.log .finished]) : RunEnds env program events none
  /-- With a fault, the last line says so, right behind what came of the steps
  before the first that aborts. -/
  | aborted {fault : Fault} (done rest : List Step)
      (walked : Program.walk env.config.initializerName program = done ++ .abort fault :: rest)
      (first : faultsOf done = [])
      (last : events = eventsBefore env program done ++ [.log (.aborted fault)]) :
      RunEnds env program events (some fault)

/-- `Disciplined env program events fault`: the events of a run that ends with the
fault, or without one, are nested as scopes are. -/
structure Disciplined (env : Environment) (program : Program) (events : List Event)
    (fault : Option Fault) : Prop where
  /-- The line on a scope that is opened counts it on top of those that are open. -/
  pushes : ∀ earlier depth later, events = earlier ++ .log (.pushScope depth) :: later →
    depth = openAfter earlier 0 + 1
  /-- The line on a scope that is closed says how many are open, and how many
  names are bound in it. It closes the scope that was opened last. -/
  pops : ∀ earlier depth bindings later,
    events = earlier ++ .log (.popScope depth bindings) :: later →
      depth = openAfter earlier 0 ∧
      ∃ extent, HasExtent env.config.initializerName program extent ∧
        earlier = eventsBefore env program extent.closed ∧
        bindings = (extent.binders.map fun binder => binder.name).toFinset.card ∧
        ∃ inside, earlier =
            eventsBefore env program extent.before ++ .log (.pushScope depth) :: inside ∧
          KeepOpen 1 inside ∧ openAfter inside 1 = 1
  /-- Warnings of what is unused stand behind the line of their own scope, with
  nothing in between but more of them. -/
  warnings : ∀ earlier name span later,
    events = earlier ++ .warning (.unusedLocalVariable name span) :: later →
      ∃ extent, HasExtent env.config.initializerName program extent ∧
        (∃ binder ∈ extent.binders, binder.name = name ∧ binder.span = span) ∧
        ∃ depth bindings warned, earlier =
            eventsBefore env program extent.closed ++ .log (.popScope depth bindings) :: warned ∧
          ∀ event ∈ warned, ∃ name span, event = .warning (.unusedLocalVariable name span)
  /-- A depth is entered right behind the line on it, and within the open scopes. -/
  depths : ∀ earlier node hops later, events = earlier ++ .depth node hops :: later →
    (∃ before name, earlier = before ++ [.log (.resolvedAt node name hops)]) ∧
      hops < openAfter earlier 0
  /-- Without a fault, each scope that is opened is closed. -/
  closes : fault = none → ∀ earlier depth later,
    events = earlier ++ .log (.pushScope depth) :: later →
      ∃ inside bindings behind, later = inside ++ .log (.popScope depth bindings) :: behind ∧
        KeepOpen 1 inside ∧ openAfter inside 1 = 1
  ends : RunEnds env program events fault

/-- Where the log says that a scope is opened, a step has opened it. -/
theorem depth_of_push {earlier later : List Event} {depth : Nat}
    (split : (observe env program).1 = earlier ++ .log (.pushScope depth) :: later) :
    depth = openAfter earlier 0 + 1 := by
  obtain ⟨first, step, rest, inside, behind, -, emits, opened, rfl⟩ :=
    exists_step_of_event split rfl
  cases emits with
  | opened =>
    rcases inside with _ | ⟨other, inside⟩
    · cases opened
      rw [List.append_nil, openAfter_eventsBefore, ← depth_run_empty env]
      rfl
    · simp [Step.perform] at opened
  | resolved access lookUp => cases lookUp
  | read lookUp => cases lookUp

/-- Where the log says that a scope is closed, the walk is behind its extent. -/
theorem exists_extent_of_pop {earlier later : List Event} {depth bindings : Nat}
    (split : (observe env program).1 = earlier ++ .log (.popScope depth bindings) :: later) :
    ∃ extent, HasExtent env.config.initializerName program extent ∧
      earlier = eventsBefore env program extent.closed ∧ depth = extent.around.length + 1 ∧
      bindings = (Binder.firsts extent.binders).length := by
  obtain ⟨first, step, rest, inside, behind, walked, emits, closed, rfl⟩ :=
    exists_step_of_event split rfl
  cases emits with
  | closed =>
    obtain ⟨extent, has, rfl⟩ := exists_extent walked
    obtain ⟨warned, -, said⟩ := has.close
    rw [said, Extent.closing] at closed
    rcases List.cons_eq_append_iff.mp closed with ⟨rfl, same⟩ | ⟨between, rfl, same⟩
    · cases same
      exact ⟨extent, has, List.append_nil _, rfl, rfl⟩
    · have listed : Event.log (.popScope depth bindings) ∈ warned.map fun binder =>
          Event.warning (.unusedLocalVariable binder.name binder.span) := by
        rw [same]
        exact List.mem_append_right _ List.mem_cons_self
      obtain ⟨binder, -, other⟩ := List.mem_map.mp listed
      cases other
  | resolved access lookUp => cases lookUp
  | read lookUp => cases lookUp

/-- Where a warning of what is unused is given, the scope has just been closed. -/
theorem exists_extent_of_warning {earlier later : List Event} {name : String} {span : Span}
    (split : (observe env program).1 =
      earlier ++ .warning (.unusedLocalVariable name span) :: later) :
    ∃ extent, HasExtent env.config.initializerName program extent ∧
      (∃ binder ∈ extent.binders, binder.name = name ∧ binder.span = span) ∧
      ∃ depth bindings warned, earlier =
          eventsBefore env program extent.closed ++ .log (.popScope depth bindings) :: warned ∧
        ∀ event ∈ warned, ∃ name span, event = .warning (.unusedLocalVariable name span) := by
  obtain ⟨first, step, rest, inside, behind, walked, emits, warned, rfl⟩ :=
    exists_step_of_event split rfl
  obtain rfl := Step.eq_closeScope_of_unused emits
  obtain ⟨extent, has, rfl⟩ := exists_extent walked
  obtain ⟨binders, among, said⟩ := has.close
  rw [said, Extent.closing] at warned
  rcases List.cons_eq_append_iff.mp warned with ⟨-, same⟩ | ⟨between, rfl, same⟩
  · cases same
  · obtain ⟨front, back, rfl, given, next⟩ := List.map_eq_append_iff.mp same
    obtain ⟨binder, rest, rfl, here, -⟩ := List.map_eq_cons_iff.mp next
    cases here
    refine ⟨extent, has, ⟨binder, among binder (List.mem_append_right _ List.mem_cons_self),
      rfl, rfl⟩, _, _, between, rfl, ?_⟩
    intro event listed
    rw [← given] at listed
    obtain ⟨other, -, rfl⟩ := List.mem_map.mp listed
    exact ⟨other.name, other.span, rfl⟩

/-- Where a depth is entered, the line on it is the event before. -/
theorem directly_recorded {earlier later : List Event} {node : NodeId} {hops : Nat}
    (split : (observe env program).1 = earlier ++ .depth node hops :: later) :
    (∃ before name, earlier = before ++ [.log (.resolvedAt node name hops)]) ∧
      hops < openAfter earlier 0 := by
  obtain ⟨first, step, rest, inside, behind, -, emits, recorded, rfl⟩ :=
    exists_step_of_event split rfl
  obtain ⟨⟨name, rfl⟩, bounded⟩ := Step.directly_recorded emits recorded
  refine ⟨⟨_, name, rfl⟩, ?_⟩
  rw [openAfter_append, openAfter_eventsBefore, ← depth_run_empty env]
  exact bounded

/-- A run without a fault ends with all scopes closed. -/
theorem openAfter_observe (faultFree : (observe env program).2 = none) :
    openAfter (observe env program).1 0 = 0 := by
  have whole : (cutAtFault (Program.walk env.config.initializerName program)).2 = none := faultFree
  rw [observe_eq_eventsBefore, faultFree, cutAtFault_fst_of_none whole, openAfter_append,
    openAfter_eventsBefore, (Program.shaped env.config.initializerName program).heightAfter]
  rfl

/-- Every run ends in one of the two ways: with all scopes closed, or at a fault. -/
theorem observe_ends (env : Environment) (program : Program) :
    RunEnds env program (observe env program).1 (observe env program).2 := by
  cases ended : (observe env program).2 with
  | none =>
    have whole : (cutAtFault (Program.walk env.config.initializerName program)).2 = none := ended
    refine .finished (openAfter_observe ended) ?_
    rw [observe_eq_eventsBefore, ended, cutAtFault_fst_of_none whole, lastEntry]
  | some fault =>
    have aborts : (cutAtFault (Program.walk env.config.initializerName program)).2 = some fault :=
      ended
    obtain ⟨done, rest, walked, first, cut⟩ := exists_abort aborts
    refine .aborted done rest walked first ?_
    rw [observe_eq_eventsBefore, ended, cut, lastEntry]

/-- What an observer sees of a run is nested as its scopes are. Each line that
opens a scope counts it on top of those that are open. Each line that closes
one closes the scope that was opened last, and says how many are open and how
many names are bound in it. Warnings of what is unused stand right behind the
line of their own scope. Each depth is entered right behind the line on it, and
is less than the number of scopes that are open. A run without a fault closes
what it opens and ends with the line that says so; with a fault, nothing
happens behind the fault but the line on it. -/
theorem observe_disciplined (env : Environment) (program : Program) :
    Disciplined env program (observe env program).1 (observe env program).2 where
  pushes _ _ _ split := depth_of_push split
  pops earlier depth bindings later split := by
    obtain ⟨extent, has, rfl, rfl, rfl⟩ := exists_extent_of_pop split
    exact ⟨has.openAfter_closed.symm, extent, has, rfl, Binder.length_firsts _, has.opened⟩
  warnings _ _ _ _ split := exists_extent_of_warning split
  depths _ _ _ _ split := directly_recorded split
  closes faultFree earlier depth later split := by
    have closed := openAfter_observe faultFree
    have opened := depth_of_push split
    rw [split, openAfter_append, openAfter_cons, Event.level] at closed
    have below : openAfter later (openAfter earlier 0 + 1) ≤ openAfter earlier 0 := by omega
    obtain ⟨inside, number, bindings, behind, rfl, keeps, last⟩ := exists_closing Nat.one_pos below
    -- The line that closes the scope counts as many as the line that opened it.
    have whole : (observe env program).1 = (earlier ++ .log (.pushScope depth) :: inside) ++
        .log (.popScope number bindings) :: behind := by
      rw [split, List.append_assoc, List.cons_append]
    obtain ⟨extent, has, same, rfl, -⟩ := exists_extent_of_pop whole
    have counted := has.openAfter_closed
    rw [← same, openAfter_append, openAfter_cons, Event.level, keeps.openAfter_add, last,
      ← opened] at counted
    rw [← counted]
    exact ⟨inside, bindings, behind, rfl, keeps, last⟩
  ends := observe_ends env program

end NameResolution
