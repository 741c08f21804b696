import NameResolution.Proofs.Lexical.Outcomes
import NameResolution.Proofs.Run.Fault

/-!
# Every site has one outcome

A run gives one outcome for each settling step, in order. Joined with the
coverage of a tree by its walk, this aligns the outcomes of a run with the
sites of the tree, from whatever stack of scopes the run begins.
-/

namespace NameResolution

namespace ScopeStack

/-- A variable is found in its own initializer, is marked as discarded, or is looked up. -/
theorem outcomesOf_readVariable (config : Config) (stack : ScopeStack) (node : NodeId)
    (name : Ident) :
    outcomesOf (stack.readVariable config node name).1 =
      if (stack.getInnermost? name.name).any Binding.isDeclaredOnly then
        [.rejected (.selfReference name.name name.span)]
      else if config.isDiscarded name.name then
        [.rejected (.readOfDiscarded name.name config.unusedPrefix name.span)]
      else outcomesOf (stack.resolve config node name .read).1 := by
  unfold readVariable
  split
  · rfl
  · split
    · rfl
    · rfl

end ScopeStack

/-- A step that settles a reference gives one outcome. -/
theorem Step.exists_outcome (env : Environment) (stack : ScopeStack) {step : Step}
    (settles : step.settles = true) :
    ∃ outcome, outcomesOf (step.perform env stack).1 = [outcome] := by
  cases step with
  | resolve node name access => exact ⟨_, stack.outcomesOf_resolve env.config node name access⟩
  | readVariable node name =>
    simp only [perform]
    rw [stack.outcomesOf_readVariable]
    split
    · exact ⟨_, rfl⟩
    · split
      · exact ⟨_, rfl⟩
      · exact ⟨_, stack.outcomesOf_resolve env.config node name .read⟩
  | report error =>
    have known : error.settlesReference = true := settles
    exact ⟨.rejected error, by simp [perform, outcomesOf, Event.error, Event.outcome?, known]⟩
  | openScope => cases settles
  | closeScope => cases settles
  | declare name mutable member => cases settles
  | define name => cases settles
  | excuse name => cases settles
  | bindPseudo name span => cases settles
  | checkAssign name => cases settles
  | checkMutate name span => cases settles
  | requireForeign kind name => cases settles
  | unreachable span => cases settles
  | abort fault => cases settles

/-- `visit.Gives env outcome`: carried out in the scopes of `visit`, its step
has the outcome and no other. -/
def Gives (env : Environment) (visit : Step × LexicalScopes) (outcome : Outcome) : Prop :=
  ∃ stack : ScopeStack, stack.lexical = visit.2 ∧
    outcomesOf (visit.1.perform env stack).1 = [outcome]

/-- The outcomes of a run are those of its settling steps, one for one. -/
theorem outcomes_run (env : Environment) (steps : List Step) (stack : ScopeStack) :
    List.Forall₂ (Gives env) (settlements steps stack.lexical)
      (outcomesOf (run env steps stack).1) := by
  induction steps generalizing stack with
  | nil => exact .nil
  | cons step rest ih =>
    have later := ih (step.perform env stack).2
    rw [Step.lexical_perform] at later
    simp only [run, outcomesOf_append]
    cases settles : step.settles with
    | true =>
      obtain ⟨outcome, only⟩ := step.exists_outcome env stack settles
      have here : settlements (step :: rest) stack.lexical =
          (step, stack.lexical) :: settlements rest (step.rescope stack.lexical) := by
        simp [settlements, trail, settles]
      rw [here, only]
      exact .cons ⟨stack, rfl, only⟩ later
    | false =>
      have aside : settlements (step :: rest) stack.lexical =
          settlements rest (step.rescope stack.lexical) := by
        simp [settlements, trail, settles]
      rw [aside, step.outcomesOf_perform env stack settles]
      exact later

/-- The step of a site gives one of the outcomes that the site can have. -/
theorem Site.settled_of_gives {env : Environment} {site : Site} {outcome : Outcome}
    (gives : Gives env (site.step, site.scopes) outcome) : site.Settled env.config outcome := by
  obtain ⟨stack, view, only⟩ := gives
  obtain ⟨⟨form, node, name⟩, cls, scopes⟩ := site
  subst view
  have found (access : Access) :
      outcomesOf (stack.resolve env.config node name access).1 =
        [Site.lexicalOutcome env.config ⟨⟨form, node, name⟩, cls, stack.lexical⟩] :=
    stack.outcomesOf_resolve env.config node name access
  have lookedUp (access : Access)
      (only : outcomesOf (stack.resolve env.config node name access).1 = [outcome])
      (admitted : Site.admitted ⟨⟨form, node, name⟩, cls, stack.lexical⟩ = true)
      (kept : form = .var → env.config.isDiscarded name.name = false) :
      Site.Settled env.config ⟨⟨form, node, name⟩, cls, stack.lexical⟩ outcome := by
    rw [found] at only
    cases only
    exact .lookedUp admitted kept
  have unconditional (access : Access)
      (only : outcomesOf (stack.resolve env.config node name access).1 = [outcome])
      (admitted : Site.admitted ⟨⟨form, node, name⟩, cls, stack.lexical⟩ = true)
      (other : form ≠ .var) :
      Site.Settled env.config ⟨⟨form, node, name⟩, cls, stack.lexical⟩ outcome := by
    apply lookedUp access only admitted
    intro same
    exact absurd same other
  have reported (error : ResolutionError) (known : error.settlesReference = true)
      (only : outcomesOf [Event.error error] = [outcome]) : outcome = .rejected error := by
    have single : outcomesOf [Event.error error] = [.rejected error] := by
      simp [outcomesOf, Event.error, Event.outcome?, known]
    rw [single] at only
    cases only
    rfl
  cases form with
  | var =>
    simp only [Site.step, Step.perform] at only
    rw [stack.outcomesOf_readVariable] at only
    split at only
    · rename_i pending
      cases only
      obtain ⟨binding, here, -⟩ := (Option.any_eq_true _ _).mp pending
      have own : stack.lexical.bindsHere name.name = true := by
        rw [← stack.isSome_getInnermost?, here, Option.isSome_some]
      exact .rejected (.selfReference rfl own)
    · split at only
      · rename_i marked
        cases only
        exact .rejected (.discarded rfl marked)
      · rename_i unmarked
        exact lookedUp .read only rfl fun _ => Bool.eq_false_iff.mpr unmarked
  | assign => exact unconditional .write only rfl (by decide)
  | mutArg => exact unconditional .read only rfl (by decide)
  | structInit => exact unconditional .read only rfl (by decide)
  | this =>
    cases cls with
    | none =>
      rw [reported _ rfl only]
      exact .rejected (.thisOutsideClass rfl rfl)
    | base => exact unconditional .read only rfl (by decide)
    | subclass => exact unconditional .read only rfl (by decide)
  | super =>
    cases cls with
    | none =>
      rw [reported _ rfl only]
      exact .rejected (.superOutsideClass rfl rfl)
    | base =>
      rw [reported _ rfl only]
      exact .rejected (.superWithoutSuperclass rfl rfl)
    | subclass => exact unconditional .read only rfl (by decide)

/-- Run from scopes that look as they should, covering steps settle each site in turn. -/
theorem Covers.settled {env : Environment} {steps : List Step} {stack : ScopeStack}
    {sites : List Site} {after : LexicalScopes}
    (covers : Covers steps stack.lexical sites after) :
    List.Forall₂ (Site.Settled env.config) sites (outcomesOf (run env steps stack).1) := by
  have aligned := outcomes_run env steps stack
  rw [covers.settlements, List.forall₂_map_left_iff] at aligned
  exact aligned.imp fun site outcome gives => Site.settled_of_gives gives

/-- A program is covered from no open scope to no open scope. -/
theorem Program.covers (initializerName : String) (program : Program) :
    Covers (Program.walk initializerName program) [] (Program.sites initializerName program) [] :=
  .scope (.nil _) (Stmt.covers_all initializerName Context.outermost _ program)
    (by simp [LexicalScopes.enter])

/-- The outcomes of a run without a fault are those of its steps. -/
theorem outcomesOf_observe {env : Environment} {program : Program} {events : List Event}
    (faultFree : observe env program = (events, none)) :
    outcomesOf events =
      outcomesOf (run env (Program.walk env.config.initializerName program) .empty).1 := by
  rw [observe_eq_run faultFree]
  change outcomesOf ((run env _ .empty).1 ++ [.log .finished]) = _
  rw [outcomesOf_append]
  exact List.append_nil _

/-- Each site of a program has one of its outcomes in a run without a fault, in walk order. -/
theorem Program.settled {env : Environment} {program : Program} {events : List Event}
    (faultFree : observe env program = (events, none)) :
    List.Forall₂ (Site.Settled env.config)
      (Program.sites env.config.initializerName program) (outcomesOf events) := by
  rw [outcomesOf_observe faultFree]
  exact (Program.covers env.config.initializerName program).settled

end NameResolution
