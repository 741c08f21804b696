import NameResolution.Proofs.Lexical.Accounting
import NameResolution.Proofs.Run.Emissions
import NameResolution.Proofs.Walk.Events

/-!
# Discarded names

A name that starts with the prefix for discarded names is never read as a
variable and never reported as unused, whatever binds it. Only variables are
tested for the prefix: a mutable argument or a struct literal of such a name is
looked up like that of any other name, and its depth is recorded.
-/

namespace NameResolution

/-- The error in an outcome, if it is one. -/
def Outcome.error? : Outcome → Option ResolutionError
  | .rejected error => some error
  | _ => none

/-- `site.Discards config outcome`: the outcome is what the prefix for discarded
names makes of the reference. -/
structure Site.Discards (config : Config) (site : Site) (outcome : Outcome) : Prop where
  /-- A variable of a discarded name is an error, whatever binds the name. -/
  variable_rejected : site.form = .var → config.isDiscarded site.name.name = true →
    outcome = .rejected
        (.readOfDiscarded site.name.name config.unusedPrefix site.name.span) ∨
      (outcome = .rejected (.selfReference site.name.name site.name.span) ∧
        site.scopes.bindsHere site.name.name = true)
  /-- A mutable argument or a struct literal is looked up, discarded or not. -/
  others_lookedUp : site.form = .mutArg ∨ site.form = .structInit →
    outcome = site.lexicalOutcome config
  /-- Nothing but a variable of a discarded name is rejected for its prefix. -/
  only : ∀ name unusedPrefix span,
    outcome = .rejected (.readOfDiscarded name unusedPrefix span) →
      site.form = .var ∧ config.isDiscarded site.name.name = true ∧
        config.unusedPrefix ≠ "" ∧ name = site.name.name ∧
        unusedPrefix = config.unusedPrefix ∧ span = site.name.span

variable {config : Config} {site : Site} {outcome : Outcome}

/-- The empty prefix discards no name. -/
theorem Config.unusedPrefix_ne_empty {name : String} (marked : config.isDiscarded name = true) :
    config.unusedPrefix ≠ "" := by
  intro empty
  rw [isDiscarded, isDiscardedBy, empty] at marked
  cases marked

/-- A look-up does not test for the prefix. -/
theorem Site.lexicalOutcome_ne_discarded (name unusedPrefix : String) (span : Span) :
    site.lexicalOutcome config ≠ .rejected (.readOfDiscarded name unusedPrefix span) := by
  unfold lexicalOutcome
  split
  · simp
  · split <;> simp

/-- However a reference is settled, it is settled as the prefix demands. -/
theorem Site.Settled.discards (settled : site.Settled config outcome) :
    site.Discards config outcome := by
  cases settled with
  | lookedUp admitted kept =>
    refine ⟨?_, fun _ => rfl, ?_⟩
    · intro form marked
      rw [kept form] at marked
      cases marked
    · intro name unusedPrefix span same
      exact absurd same (site.lexicalOutcome_ne_discarded name unusedPrefix span)
  | rejected rejection =>
    have isVariable {error : ResolutionError} (rejection : site.Rejection config error) :
        ¬ (site.form = .mutArg ∨ site.form = .structInit) := by
      cases rejection <;> simp [*]
    refine ⟨?_, fun form => absurd form (isVariable rejection), ?_⟩
    · intro form marked
      cases rejection with
      | selfReference _ own => exact .inr ⟨rfl, own⟩
      | discarded _ _ => exact .inl rfl
      | thisOutsideClass other _ | superOutsideClass other _ | superWithoutSuperclass other _ =>
        rw [form] at other
        cases other
    · intro name unusedPrefix span same
      cases rejection with
      | discarded form marked =>
        obtain ⟨rfl, rfl, rfl⟩ := by simpa using same
        exact ⟨form, marked, config.unusedPrefix_ne_empty marked, rfl, rfl, rfl⟩
      | _ => simp at same

/-- The errors that settle references are those of their outcomes, in order. -/
theorem settling_errors_eq_outcomes (events : List Event) :
    (reportOf events).errors.filter ResolutionError.settlesReference =
      (outcomesOf events).filterMap Outcome.error? := by
  rw [Report.errors, reportOf, outcomesOf, List.filter_filterMap, List.filterMap_filterMap,
    List.filterMap_filterMap]
  congr 1
  funext event
  cases event with
  | log entry => cases entry <;> rfl
  | depth node hops => rfl
  | asked kind name answer => rfl
  | diagnostic found =>
    cases found with
    | warning cause => rfl
    | error cause => cases cause <;> rfl

/-- Closing a scope does not warn of a discarded name. -/
theorem ScopeStack.not_discarded_of_unused {stack : ScopeStack} {name : String} {span : Span}
    (warned : .warning (.unusedLocalVariable name span) ∈ (stack.close config).1) :
    config.isDiscarded name = false := by
  unfold close at warned
  split at warned
  · cases warned
  · rename_i scope _
    rcases List.mem_cons.mp warned with other | warned
    · cases other
    · split at warned
      · obtain ⟨⟨bound, binding⟩, listed, same⟩ := List.mem_map.mp warned
        obtain ⟨rfl, -⟩ : bound = name ∧ binding.span = span := by
          simpa [Event.warning] using same
        have deserved := (List.mem_filter.mp listed).2
        simp only [Scope.isUnused, Bool.and_eq_true, Bool.not_eq_true'] at deserved
        exact deserved.2
      · cases warned

variable {env : Environment} {program : Program} {events : List Event}

/-- No run warns that a discarded name is unused. -/
theorem not_discarded_of_unused_observe {name : String} {span : Span}
    (warned : .warning (.unusedLocalVariable name span) ∈ reportOf (observe env program).1) :
    env.config.isDiscarded name = false := by
  obtain ⟨event, happened, same⟩ := List.mem_filterMap.mp warned
  obtain rfl : event = .warning (.unusedLocalVariable name span) := by
    cases event <;> cases same
    rfl
  obtain ⟨earlier, later, split⟩ := List.append_of_mem happened
  obtain ⟨first, step, rest, inside, behind, -, emits, happens, -⟩ :=
    exists_step_of_event split rfl
  obtain rfl := Step.eq_closeScope_of_unused emits
  have listed : .warning (.unusedLocalVariable name span) ∈
      ((run env first .empty).2.close env.config).1 := by
    have closes : ((run env first .empty).2.close env.config).1 =
        inside ++ .warning (.unusedLocalVariable name span) :: behind := happens
    rw [closes]
    exact List.mem_append_right _ List.mem_cons_self
  exact ScopeStack.not_discarded_of_unused listed

/-- What a run makes of discarded names. -/
structure KeepsDiscarded (env : Environment) (program : Program) (events : List Event)
    (table : DepthTable) : Prop where
  /-- Each reference that is walked has one outcome, as the prefix demands. -/
  sites : List.Forall₂ (Site.Discards env.config)
    (Program.sites env.config.initializerName program) (outcomesOf events)
  /-- The rejections are reported, in order. -/
  errors : (reportOf events).errors.filter ResolutionError.settlesReference =
    (outcomesOf events).filterMap Outcome.error?
  /-- The depths that are recorded are those of the outcomes, in order. -/
  depths : depthsOf events = (outcomesOf events).filterMap Outcome.depth?
  /-- The table holds what was recorded. -/
  recorded : table = DepthTable.empty.recordAll (depthsOf events)
  /-- Where nodes have numbers of their own, a variable of a discarded name has no entry. -/
  absent : (Program.nodeIds env.config.initializerName program).Nodup →
    ∀ site ∈ Program.sites env.config.initializerName program, site.form = .var →
      env.config.isDiscarded site.name.name = true → table.depthOf? site.node = none
  /-- No discarded name is reported as unused. -/
  unused : ∀ name span, .warning (.unusedLocalVariable name span) ∈ reportOf events →
    env.config.isDiscarded name = false

/-- A run without a fault rejects every variable of a discarded name, whatever
binds the name, and records no depth for it; it reports no discarded name as
unused. Other references are not tested for the prefix: a mutable argument or a
struct literal of a discarded name has the depth of its binding. -/
theorem resolve_keeps_discarded {resolution : Resolution}
    (succeeds : resolve env program = .ok resolution) :
    ∃ events, observe env program = (events, none) ∧ resolution.report = reportOf events ∧
      KeepsDiscarded env program events resolution.depths := by
  obtain ⟨events, faultFree, rfl⟩ := resolve_eq_ok_iff.mp succeeds
  have settled := Program.settled faultFree
  have accounts := Program.accounts faultFree
  refine ⟨events, faultFree, rfl, ?_⟩
  constructor
  case sites => exact settled.imp fun _ _ => Site.Settled.discards
  case errors => exact settling_errors_eq_outcomes events
  case depths => exact accounts.depths
  case recorded => rfl
  case absent =>
    intro distinct site walked form marked
    obtain ⟨outcome, paired, -⟩ := exists_outcome_of_accounted accounts.outcomes walked
    have discards := (List.forall₂_zip settled paired).discards
    have unrecorded : site.node ∉ (depthsOf events).map Prod.fst := by
      intro entered
      obtain ⟨⟨node, depth⟩, listed, same⟩ := List.mem_map.mp entered
      obtain rfl : node = site.node := same
      rw [accounts.depths] at listed
      obtain ⟨other, given, same⟩ := List.mem_filterMap.mp listed
      obtain rfl : other = .recorded site.node depth := by
        cases other <;> cases same
        rfl
      have own := outcome_eq_recorded accounts.outcomes (Program.nodup_sites distinct) paired given
      rcases discards.variable_rejected form marked with same | ⟨same, -⟩ <;>
        rw [own] at same <;> cases same
    rw [DepthTable.depthOf?_recordAll_of_not_mem unrecorded, DepthTable.depthOf?_empty]
  case unused =>
    intro name span warned
    have observed : .warning (.unusedLocalVariable name span) ∈
        reportOf (observe env program).1 := by
      rwa [faultFree]
    exact not_discarded_of_unused_observe observed

/-- A discarded variable that is passed as a mutable argument and then read:
`let mut _x = nil; mut _x; _x;`. -/
def discardedX : Program :=
  [.letDecl ⟨⟨0⟩, default⟩ ⟨"_x", ⟨1, 2⟩⟩ true none (some (.literal ⟨⟨1⟩, default⟩ .nil)) false,
    .expression ⟨⟨2⟩, default⟩ (.mutArg ⟨⟨3⟩, default⟩ ⟨"_x", ⟨3, 2⟩⟩),
    .expression ⟨⟨4⟩, default⟩ (.var ⟨⟨5⟩, default⟩ ⟨"_x", ⟨5, 2⟩⟩)]

/-- The discarded name is recorded as an argument, and turned away as a variable. -/
theorem resolve_keeps_discarded_argument :
    ∃ resolution events, resolve .watchful discardedX = .ok resolution ∧
      resolution.depths.depthOf? ⟨3⟩ = some 0 ∧ resolution.depths.depthOf? ⟨5⟩ = none ∧
      resolution.depths.size = 1 ∧
      resolution.report = [.error (.readOfDiscarded "_x" "_" ⟨5, 2⟩)] ∧
      resolution.report = reportOf events ∧
      KeepsDiscarded .watchful discardedX events resolution.depths := by
  have succeeds : resolve .watchful discardedX = .ok ⟨DepthTable.empty.record ⟨3⟩ 0,
      [.error (.readOfDiscarded "_x" "_" ⟨5, 2⟩)]⟩ := rfl
  obtain ⟨events, -, reported, keeps⟩ := resolve_keeps_discarded succeeds
  exact ⟨_, events, succeeds, rfl, rfl, rfl, rfl, reported, keeps⟩

end NameResolution
