import NameResolution.Proofs.Lexical.Outcomes
import NameResolution.Proofs.Run.Emissions
import NameResolution.Proofs.Run.Fault
import NameResolution.Proofs.Walk.OwnSteps
import NameResolution.Proofs.Walk.Parts

/-!
# Where events happen

The events of a run are those of the steps of its walk, up to a fault if there
is one, so they can be cut where a step is, or where the walk of a piece begins
and ends. And every event of a run happens when one of the steps is carried out.
-/

namespace NameResolution

/-- Every error that a step of a walk reports is plain from the tree. -/
theorem Program.isPlain_of_report {initializerName : String} {program : Program}
    {error : ResolutionError} (listed : .report error ∈ Program.walk initializerName program) :
    error.isPlain = true := by
  obtain ⟨first, rest, split⟩ := List.append_of_mem listed
  rcases Program.exists_madeAt split with ⟨-, same⟩ | ⟨-, same⟩ | ⟨piece, context, _, _, made⟩
  · cases same
  · cases same
  · exact Piece.origin made.mem

/-- All that has happened when the walk of a program comes to be behind `before`. -/
def eventsBefore (env : Environment) (program : Program) (before : List Step) : List Event :=
  .log (.resolving program.length) :: (run env before .empty).1

variable {env : Environment} {program : Program} {events : List Event}

/-- What comes before a later step is what comes before the first ones and what these say. -/
theorem eventsBefore_append (before inside : List Step) :
    eventsBefore env program (before ++ inside) =
      eventsBefore env program before ++ (run env inside (run env before .empty).2).1 := by
  rw [eventsBefore, run_append, eventsBefore, List.cons_append]

theorem run_cons (env : Environment) (step : Step) (rest : List Step) (stack : ScopeStack) :
    run env (step :: rest) stack =
      ((step.perform env stack).1 ++ (run env rest (step.perform env stack).2).1,
        (run env rest (step.perform env stack).2).2) := rfl

theorem run_singleton (env : Environment) (step : Step) (stack : ScopeStack) :
    run env [step] stack = step.perform env stack := by
  rw [run_cons]
  exact Prod.ext (List.append_nil _) rfl

/-- The line of the log that ends a run. -/
def lastEntry : Option Fault → LogEntry
  | some fault => .aborted fault
  | none => .finished

/-- What is observed of a run comes of its steps up to a fault, and then a last line. -/
theorem observe_eq_eventsBefore (env : Environment) (program : Program) :
    (observe env program).1 =
      eventsBefore env program (cutAtFault (Program.walk env.config.initializerName program)).1 ++
        [.log (lastEntry (observe env program).2)] := by
  rw [eventsBefore, List.cons_append]
  cases cut : (cutAtFault (Program.walk env.config.initializerName program)).2 with
  | none => simp only [observe, cut, lastEntry]
  | some fault => simp only [observe, cut, lastEntry]

/-- What happens where the walk of a program is cut in three, if no fault ends
the run before the last part. -/
theorem observe_eq_of_walk {before inside after : List Step}
    (walked : Program.walk env.config.initializerName program = before ++ inside ++ after)
    (goesOn : (cutAtFault (before ++ inside)).2 = none) :
    ∃ later, (observe env program).1 = eventsBefore env program before ++
      (run env inside (run env before .empty).2).1 ++ later := by
  refine ⟨(run env (cutAtFault after).1 (run env (before ++ inside) .empty).2).1 ++
    [.log (lastEntry (observe env program).2)], ?_⟩
  rw [observe_eq_eventsBefore, walked, cutAtFault_append_of_none after goesOn,
    eventsBefore_append (before ++ inside), eventsBefore_append before]
  simp only [List.append_assoc]

/-- What happens where the walk of a program is cut in three. -/
theorem events_eq_of_walk (faultFree : observe env program = (events, none))
    {before inside after : List Step}
    (walked : Program.walk env.config.initializerName program = before ++ inside ++ after) :
    ∃ later, events = eventsBefore env program before ++
      (run env inside (run env before .empty).2).1 ++ later := by
  have goesOn : (cutAtFault (before ++ inside)).2 = none := by
    have whole : (cutAtFault (Program.walk env.config.initializerName program)).2 = none :=
      congrArg Prod.snd faultFree
    cases aborts : (cutAtFault (before ++ inside)).2 with
    | none => rfl
    | some fault =>
      rw [walked, cutAtFault_append_of_some after aborts, aborts] at whole
      cases whole
  obtain ⟨later, same⟩ := observe_eq_of_walk walked goesOn
  exact ⟨later, by rw [← same, faultFree]⟩

/-- What happens while a piece is walked. -/
theorem Visits.happens (faultFree : observe env program = (events, none)) {piece : Piece}
    {context : Context} {before after : List Step}
    (visits : Visits env.config.initializerName program piece context before after) :
    ∃ later, events = eventsBefore env program before ++
      (run env (piece.walk env.config.initializerName context) (run env before .empty).2).1 ++
        later :=
  events_eq_of_walk faultFree visits.walk

/-- Every event of a run happens when one of the steps is carried out. -/
theorem exists_step_of_run {steps : List Step} {stack : ScopeStack} {earlier later : List Event}
    {event : Event} (split : (run env steps stack).1 = earlier ++ event :: later) :
    ∃ first step rest inside behind, steps = first ++ step :: rest ∧
      (step.perform env (run env first stack).2).1 = inside ++ event :: behind ∧
      earlier = (run env first stack).1 ++ inside := by
  induction steps generalizing stack earlier with
  | nil => simp [run] at split
  | cons step steps ih =>
    have further {between : List Event}
        (same : earlier = (step.perform env stack).1 ++ between)
        (split : (run env steps (step.perform env stack).2).1 = between ++ event :: later) :
        ∃ first other rest inside behind, step :: steps = first ++ other :: rest ∧
          (other.perform env (run env first stack).2).1 = inside ++ event :: behind ∧
          earlier = (run env first stack).1 ++ inside := by
      obtain ⟨first, other, rest, inside, behind, rfl, here, rfl⟩ := ih split
      exact ⟨step :: first, other, rest, inside, behind, rfl, here,
        by rw [same, run_cons, List.append_assoc]⟩
    rw [run_cons, List.append_eq_append_iff] at split
    rcases split with ⟨between, same, split⟩ | ⟨behind, here, split⟩
    · exact further same split
    · rcases List.cons_eq_append_iff.mp split with ⟨rfl, split⟩ | ⟨behind, rfl, -⟩
      · have next : (run env steps (step.perform env stack).2).1 = [] ++ event :: later := by
          simpa using split.symm
        exact further (by rw [List.append_nil, here, List.append_nil]) next
      · exact ⟨[], step, steps, earlier, behind, rfl, here, rfl⟩

/-- Whether an event is the first or the last line of the log of a run. -/
def Event.framing : Event → Bool
  | .log (.resolving _) => true
  | .log (.aborted _) => true
  | .log .finished => true
  | _ => false

/-- Every event of a run but its first and its last line comes of a step of the
walk that no fault comes before. -/
theorem exists_reached_step_of_event {earlier later : List Event} {event : Event}
    (split : (observe env program).1 = earlier ++ event :: later)
    (inner : event.framing = false) :
    ∃ first step rest inside behind,
      Program.walk env.config.initializerName program = first ++ step :: rest ∧
      (cutAtFault first).2 = none ∧ step.Emits event ∧
      (step.perform env (run env first .empty).2).1 = inside ++ event :: behind ∧
      earlier = eventsBefore env program first ++ inside := by
  have isLast {between : List Event}
      (other : [Event.log (lastEntry (observe env program).2)] = between ++ event :: later) :
      False := by
    have last : event = .log (lastEntry (observe env program).2) := by
      rcases List.singleton_eq_append_iff.mp other with ⟨-, same⟩ | ⟨-, same⟩
      · exact (List.cons.inj same).1
      · cases same
    rw [last] at inner
    cases fault : (observe env program).2 <;> rw [fault] at inner <;> cases inner
  obtain ⟨after, walked⟩ :=
    cutAtFault_fst_isPrefix (Program.walk env.config.initializerName program)
  rw [observe_eq_eventsBefore, eventsBefore] at split
  rcases List.append_eq_append_iff.mp split with ⟨between, -, last⟩ | ⟨behind, happens, last⟩
  · exact (isLast last).elim
  · rcases List.cons_eq_append_iff.mp last with ⟨-, same⟩ | ⟨behind, rfl, -⟩
    · have alone : [Event.log (lastEntry (observe env program).2)] = [] ++ event :: later := same
      exact (isLast alone).elim
    · rcases List.cons_eq_append_iff.mp happens with ⟨-, same⟩ | ⟨between, rfl, ran⟩
      · obtain rfl := (List.cons.inj same).1
        cases inner
      · obtain ⟨first, step, rest, inside, behind, cut, here, rfl⟩ := exists_step_of_run ran
        have emits : step.Emits event := by
          apply Step.emits_of_mem
          rw [here]
          exact List.mem_append_right _ List.mem_cons_self
        have goesOn : (cutAtFault first).2 = none := by
          have whole := cutAtFault_fst_goesOn (Program.walk env.config.initializerName program)
          rw [cut, cutAtFault_snd_append] at whole
          exact (Option.or_eq_none_iff.mp whole).1
        refine ⟨first, step, rest ++ after, inside, behind, ?_, goesOn, emits, here, rfl⟩
        rw [← walked, cut, List.append_assoc, List.cons_append]

/-- Every event of a run but its first and its last line comes of a step of the walk. -/
theorem exists_step_of_event {earlier later : List Event} {event : Event}
    (split : (observe env program).1 = earlier ++ event :: later)
    (inner : event.framing = false) :
    ∃ first step rest inside behind,
      Program.walk env.config.initializerName program = first ++ step :: rest ∧
      step.Emits event ∧
      (step.perform env (run env first .empty).2).1 = inside ++ event :: behind ∧
      earlier = eventsBefore env program first ++ inside := by
  obtain ⟨first, step, rest, inside, behind, walked, -, here⟩ :=
    exists_reached_step_of_event split inner
  exact ⟨first, step, rest, inside, behind, walked, here⟩

/-- Every diagnostic of a run without a fault comes of a step of the walk. -/
theorem exists_step_of_diagnostic (faultFree : observe env program = (events, none))
    {earlier later : List Event} {found : Diagnostic}
    (split : events = earlier ++ .diagnostic found :: later) :
    ∃ first step rest inside behind,
      Program.walk env.config.initializerName program = first ++ step :: rest ∧
      step.Emits (.diagnostic found) ∧
      (step.perform env (run env first .empty).2).1 = inside ++ .diagnostic found :: behind ∧
      earlier = eventsBefore env program first ++ inside := by
  have observed : (observe env program).1 = earlier ++ .diagnostic found :: later := by
    rw [faultFree, split]
  exact exists_step_of_event observed rfl

end NameResolution
