import NameResolution.Proofs.Frame.Openings
import NameResolution.Proofs.Lexical.Meanings

/-!
# How far a binding has come

The state of a binding is the latest that anything has moved it to. Two things
move it: the steps of its own scope that define or excuse its name, and the
references inside the scope that read it. Where a scope stays open, the state
of each of its bindings is what these two come to.
-/

namespace NameResolution

namespace BindingState

@[simp] theorem later_declared (state : BindingState) : state.later .declared = state := by
  cases state <;> rfl

@[simp] theorem declared_later (state : BindingState) : declared.later state = state := by
  cases state <;> rfl

/-- It does not matter which of three states are joined first. -/
theorem later_assoc (first second third : BindingState) :
    (first.later second).later third = first.later (second.later third) := by
  cases first <;> cases second <;> cases third <;> rfl

/-- Two states are moved to in either order. -/
theorem later_later_comm (first second third fourth : BindingState) :
    (first.later second).later (third.later fourth) =
      (first.later third).later (second.later fourth) := by
  cases first <;> cases second <;> cases third <;> cases fourth <;> rfl

/-- A binding is left defined if it was defined, and neither of two things read it. -/
theorem later_eq_defined_iff (first second : BindingState) :
    first.later second = .defined ↔
      (first = .defined ∨ second = .defined) ∧ first ≠ .read ∧ second ≠ .read := by
  cases first <;> cases second <;> decide

/-- A binding is left read if one of two things read it. -/
theorem later_eq_read_iff (first second : BindingState) :
    first.later second = .read ↔ first = .read ∨ second = .read := by
  cases first <;> cases second <;> decide

/-- The state that a binding is in once it may have been read. -/
def readIf (reads : Bool) : BindingState := if reads then .read else .declared

/-- A binding is read if one of two readings takes place. -/
theorem readIf_or (first second : Bool) :
    readIf (first || second) = (readIf first).later (readIf second) := by
  cases first <;> cases second <;> rfl

end BindingState

namespace Scope

/-- A binding that is inserted is found under its name, and others as before. -/
theorem get?_insert (scope : Scope) (name asked : String) (binding : Binding) :
    (scope.insert name binding).get? asked =
      if name = asked then some binding else scope.get? asked := by
  obtain ⟨bindings⟩ := scope
  simp only [insert, get?]
  induction bindings with
  | nil =>
    by_cases same : name = asked
    · simp [insertInto, same]
    · have passed : (asked == name) = false := beq_eq_false_iff_ne.mpr fun equal => same equal.symm
      simp [insertInto, List.lookup_cons, same, passed]
  | cons entry rest ih =>
    obtain ⟨other, old⟩ := entry
    by_cases here : name = other
    · subst here
      by_cases same : name = asked
      · simp [insertInto, same]
      · have passed : (asked == name) = false :=
          beq_eq_false_iff_ne.mpr fun equal => same equal.symm
        simp [insertInto, List.lookup_cons, same, passed]
    · have kept : (name == other) = false := beq_eq_false_iff_ne.mpr here
      simp only [insertInto, kept, Bool.false_eq_true, if_false, List.lookup_cons]
      cases found : asked == other with
      | false => exact ih
      | true =>
        have different : ¬ name = asked := fun equal => here (equal.trans (eq_of_beq found))
        simp [different]

end Scope

/-- How far the binding of a name has come, in the scope so many scopes out. A
name that the scope does not bind has come no further than declared. -/
def ScopeStack.status (stack : ScopeStack) (hops : Nat) (name : String) : BindingState :=
  ((stack.bindingAt? hops name).map Binding.state).getD .declared

/-- What a step moves a name to in the innermost scope. -/
def Step.advances (name : String) : Step → BindingState
  | .define defined => if defined.name = name then .defined else .declared
  | .excuse excused => if excused = name then .read else .declared
  | .bindPseudo bound _ => if bound = name then .read else .declared
  | _ => .declared

/-- What a step moves a name to in the outermost of so many innermost scopes. -/
def Step.advancesAt (name : String) (extra : Nat) (step : Step) : BindingState :=
  if extra = 1 then step.advances name else .declared

/-- What steps move a name to in the outermost of so many innermost scopes. -/
def advanced (name : String) : Nat → List Step → BindingState
  | _, [] => .declared
  | extra, step :: rest =>
    (step.advancesAt name extra).later (advanced name (step.height extra) rest)

/-- Steps one after another move a name to the later of two states. -/
theorem advanced_append (name : String) (extra : Nat) (first second : List Step) :
    advanced name extra (first ++ second) =
      (advanced name extra first).later (advanced name (heightAfter first extra) second) := by
  induction first generalizing extra with
  | nil => simp [advanced]
  | cons step rest ih =>
    rw [List.cons_append, advanced, ih, advanced, heightAfter_cons, BindingState.later_assoc]

/-- The name that a step reads, if it finds a binding of it. -/
def Step.asks? : Step → Option String
  | .resolve _ asked .read => some asked.name
  | .readVariable _ asked => some asked.name
  | _ => none

/-- Whether an outcome in the given scopes means the innermost of the scopes
that have `level` scopes around them. -/
def Outcome.meets (level : Nat) (scopes : LexicalScopes) : Outcome → Bool
  | .recorded _ depth => depth + level + 1 == scopes.length
  | _ => false

/-- Whether a step with this outcome reads the binding of a name in that scope. -/
def Step.reads (name : String) (level : Nat) (visit : Step × LexicalScopes) (outcome : Outcome) :
    Bool :=
  visit.1.asks? == some name && outcome.meets level visit.2

/-- A change of the innermost scope that leaves a name alone, or another scope. -/
theorem ScopeStack.status_modifyInnermost {stack : ScopeStack} {change : Scope → Scope}
    {hops : Nat} {name : String}
    (keeps : ∀ scope : Scope, hops = 0 → (change scope).get? name = scope.get? name) :
    (stack.modifyInnermost change).status hops name = stack.status hops name := by
  cases hops with
  | succ hops =>
    rw [status, status, stack.bindingAt?_modifyInnermost change (Nat.succ_pos hops)]
  | zero =>
    obtain ⟨scopes⟩ := stack
    cases scopes with
    | nil => rfl
    | cons scope outer => simp [status, bindingAt?, modifyInnermost, keeps scope rfl]

namespace ScopeStack

variable {stack : ScopeStack} {hops : Nat} {name : String}

/-- A declaration leaves every binding as far as it was. -/
theorem status_declare (lints : Lints) (declared : Ident) (mutable member : Bool) :
    (stack.declare lints declared mutable member).2.status hops name = stack.status hops name := by
  obtain ⟨scopes⟩ := stack
  cases scopes with
  | nil => rfl
  | cons scope outer =>
    cases kept : scope.get? declared.name with
    | some binding => simp only [declare, innermost?, List.head?_cons, kept]
    | none =>
      simp only [declare, innermost?, List.head?_cons, kept, modifyInnermost]
      cases hops with
      | succ hops => rfl
      | zero =>
        by_cases same : declared.name = name
        · subst same
          simp [status, bindingAt?, Scope.get?_insert, kept, Binding.declared]
        · simp [status, bindingAt?, Scope.get?_insert, same]

/-- A binding of the innermost scope is moved to a state, and no other binding is. -/
theorem status_advance {changed : String} (state : BindingState)
    (bound : ∃ scope, stack.innermost? = some scope ∧ (scope.get? changed).isSome = true) :
    (stack.modifyInnermost (·.modify changed (·.advance state))).status hops name =
      (stack.status hops name).later (if hops = 0 ∧ changed = name then state else .declared) := by
  by_cases own : hops = 0 ∧ changed = name
  · obtain ⟨rfl, rfl⟩ := own
    obtain ⟨scope, innermost, some⟩ := bound
    obtain ⟨binding, here⟩ := Option.isSome_iff_exists.mp some
    obtain ⟨scopes⟩ := stack
    cases scopes with
    | nil => cases innermost
    | cons first outer =>
      cases innermost
      simp [status, bindingAt?, modifyInnermost, Scope.get?_modify, here, Binding.advance]
  · rw [if_neg own, BindingState.later_declared]
    apply status_modifyInnermost
    intro scope zero
    have different : ¬ changed = name := fun same => own ⟨zero, same⟩
    rw [Scope.get?_modify, if_neg different]

/-- A binding of the innermost scope that is defined gets a value, and no other binding moves. -/
theorem status_define {defined : Ident}
    (bound : ∃ scope, stack.innermost? = some scope ∧ (scope.get? defined.name).isSome = true) :
    (stack.define defined).status hops name = (stack.status hops name).later
      (if hops = 0 ∧ defined.name = name then .defined else .declared) := by
  rw [← stack.status_advance .defined bound]
  obtain ⟨scope, innermost, some⟩ := bound
  obtain ⟨binding, here⟩ := Option.isSome_iff_exists.mp some
  obtain ⟨scopes⟩ := stack
  cases scopes with
  | nil => cases innermost
  | cons first outer =>
    cases innermost
    simp only [define, modifyInnermost, here]
    rfl

/-- A name that is bound for `this` or `super` counts as read, and no other binding moves. -/
theorem status_bindPseudo {bound : String} (span : Span)
    (free : ∃ scope, stack.innermost? = some scope ∧ scope.get? bound = none) :
    (stack.modifyInnermost (·.insert bound (.pseudo span))).status hops name =
      (stack.status hops name).later (if hops = 0 ∧ bound = name then .read else .declared) := by
  by_cases own : hops = 0 ∧ bound = name
  · obtain ⟨rfl, rfl⟩ := own
    obtain ⟨scope, innermost, unbound⟩ := free
    obtain ⟨scopes⟩ := stack
    cases scopes with
    | nil => cases innermost
    | cons first outer =>
      cases innermost
      simp [status, bindingAt?, modifyInnermost, Scope.get?_insert, unbound, Binding.pseudo]
  · rw [if_neg own, BindingState.later_declared]
    apply status_modifyInnermost
    intro scope zero
    have different : ¬ bound = name := fun same => own ⟨zero, same⟩
    rw [Scope.get?_insert, if_neg different]

/-- A look-up reads a binding if it is the one that is meant. -/
theorem reads_resolve {level : Nat} (height : stack.depth = level + (hops + 1)) (config : Config)
    (node : NodeId) (asked : Ident) (access : Access) :
    (outcomesOf (stack.resolve config node asked access).1).any
        (Step.reads name level (.resolve node asked access, stack.lexical)) =
      (decide (access = .read) &&
        decide (asked.name = name ∧ stack.lexical.depth? asked.name = some hops)) := by
  have length : stack.lexical.length = level + (hops + 1) := by rw [length_lexical, height]
  rw [stack.outcomesOf_resolve config node asked access, List.any_cons, List.any_nil,
    Bool.or_false]
  cases access with
  | write => rfl
  | read =>
    cases stack.lexical.depth? asked.name with
    | none =>
      dsimp only
      split <;> simp [Step.reads, Outcome.meets]
    | some depth =>
      have there : (depth + level + 1 == stack.lexical.length) = decide (depth = hops) := by
        rw [length, Bool.beq_eq_decide_eq]
        exact decide_eq_decide.mpr (by omega)
      by_cases same : asked.name = name <;>
        simp [Step.reads, Step.asks?, Outcome.meets, there, same, -length_lexical]

/-- A look-up moves on the binding that it reads. -/
theorem status_resolve {level : Nat} (height : stack.depth = level + (hops + 1))
    (config : Config) (node : NodeId) (asked : Ident) (access : Access) :
    (stack.resolve config node asked access).2.status hops name =
      (stack.status hops name).later (.readIf
        ((outcomesOf (stack.resolve config node asked access).1).any
          (Step.reads name level (.resolve node asked access, stack.lexical)))) := by
  rw [stack.reads_resolve height, status,
    stack.bindingAt?_resolve config node asked access hops name]
  by_cases meant : asked.name = name ∧ stack.lexical.depth? asked.name = some hops
  · obtain ⟨rfl, depth⟩ := meant
    obtain ⟨found, there, rfl⟩ : ∃ found, stack.find? asked.name = some found ∧ found.1 = hops := by
      rw [← Option.map_eq_some_iff, map_fst_find?, depth]
    have bound := (find?_eq_some_iff.mp there).2
    rw [if_pos ⟨rfl, depth⟩, status, bound]
    cases access with
    | read => simp [depth, BindingState.readIf, Access.mark, Binding.markRead, Binding.advance]
    | write => simp [BindingState.readIf, Access.mark]
  · rw [if_neg meant, decide_eq_false meant, Bool.and_false]
    exact (BindingState.later_declared _).symm

/-- An error reads no binding. -/
theorem status_rejected {visit : Step × LexicalScopes} {level : Nat} (stack : ScopeStack)
    (error : ResolutionError) :
    stack.status hops name = (stack.status hops name).later (.readIf
      ((outcomesOf [Event.error error]).any (Step.reads name level visit))) := by
  have unread : (outcomesOf [Event.error error]).any (Step.reads name level visit) = false := by
    unfold outcomesOf
    cases settles : error.settlesReference <;>
      simp [Event.error, Event.outcome?, settles, Step.reads, Outcome.meets]
  rw [unread]
  exact (BindingState.later_declared _).symm

/-- The reading of a variable moves on the binding that it reads. -/
theorem status_readVariable {level : Nat} (height : stack.depth = level + (hops + 1))
    (config : Config) (node : NodeId) (asked : Ident) :
    (stack.readVariable config node asked).2.status hops name =
      (stack.status hops name).later (.readIf
        ((outcomesOf (stack.readVariable config node asked).1).any
          (Step.reads name level (.readVariable node asked, stack.lexical)))) := by
  unfold readVariable
  split
  · exact stack.status_rejected _
  · split
    · exact stack.status_rejected _
    · exact stack.status_resolve height config node asked .read

end ScopeStack

/-- Every step moves the bindings of a scope that stays open as it says. -/
theorem Step.status_perform (env : Environment) {step : Step} {stack : ScopeStack}
    {level extra : Nat} (name : String) (height : stack.depth = level + extra)
    (opened : 0 < extra) (stays : 0 < step.height extra) (regular : step.Regular env stack) :
    (step.perform env stack).2.status (step.height extra - 1) name =
      (stack.status (extra - 1) name).later ((step.advancesAt name extra).later (.readIf
        ((outcomesOf (step.perform env stack).1).any
          (Step.reads name level (step, stack.lexical))))) := by
  obtain ⟨hops, rfl⟩ : ∃ hops, extra = hops + 1 := ⟨extra - 1, by omega⟩
  have home {state : BindingState} {own : Prop} [Decidable own] :
      (if hops = 0 ∧ own then state else .declared) =
        if hops + 1 = 1 then (if own then state else .declared) else .declared := by
    by_cases innermost : hops = 0 <;> simp [innermost]
  -- A step that settles nothing moves a binding only in its own scope.
  have aside (quiet : step.settles = false)
      (moved : (step.perform env stack).2.status (step.height (hops + 1) - 1) name =
        (stack.status hops name).later (step.advancesAt name (hops + 1))) :
      (step.perform env stack).2.status (step.height (hops + 1) - 1) name =
        (stack.status hops name).later ((step.advancesAt name (hops + 1)).later (.readIf
          ((outcomesOf (step.perform env stack).1).any
            (Step.reads name level (step, stack.lexical))))) := by
    rw [moved, step.outcomesOf_perform env stack quiet]
    simp [BindingState.readIf]
  have still (same : step.advances name = .declared) :
      step.advancesAt name (hops + 1) = .declared := by
    rw [Step.advancesAt, same, ite_self]
  rw [Nat.add_sub_cancel]
  cases step with
  | openScope =>
    apply aside rfl
    rw [still rfl, BindingState.later_declared]
    rfl
  | closeScope =>
    apply aside rfl
    rw [still rfl, BindingState.later_declared]
    obtain ⟨inner, rfl⟩ : ∃ inner, hops = inner + 1 := by
      rw [Step.height] at stays
      exact ⟨hops - 1, by omega⟩
    rw [ScopeStack.status, ScopeStack.bindingAt?, Step.scopes_closeScope, List.getElem?_tail]
    rfl
  | declare declared mutable member =>
    apply aside rfl
    rw [still rfl, BindingState.later_declared]
    exact stack.status_declare _ declared mutable member
  | define defined =>
    apply aside rfl
    exact (stack.status_define regular).trans (congrArg _ home)
  | excuse excused =>
    apply aside rfl
    exact (stack.status_advance .read regular).trans (congrArg _ home)
  | bindPseudo bound span =>
    apply aside rfl
    exact (stack.status_bindPseudo span regular).trans (congrArg _ home)
  | resolve node asked access =>
    rw [still rfl, BindingState.declared_later]
    exact stack.status_resolve height env.config node asked access
  | readVariable node asked =>
    rw [still rfl, BindingState.declared_later]
    exact stack.status_readVariable height env.config node asked
  | report error =>
    rw [still rfl, BindingState.declared_later]
    exact stack.status_rejected error
  | _ =>
    apply aside rfl
    rw [still rfl, BindingState.later_declared]
    rfl

/-- Whether one of the references that steps settle reads the binding of a name. -/
def readBy (env : Environment) (name : String) (level : Nat) (steps : List Step)
    (stack : ScopeStack) : Bool :=
  ((settlements steps stack.lexical).zip (outcomesOf (run env steps stack).1)).any
    fun entry => Step.reads name level entry.1 entry.2

/-- The readings that steps settle are those of the first step and of the others. -/
theorem readBy_cons (env : Environment) (name : String) (level : Nat) (step : Step)
    (rest : List Step) (stack : ScopeStack) :
    readBy env name level (step :: rest) stack =
      ((outcomesOf (step.perform env stack).1).any (Step.reads name level (step, stack.lexical)) ||
        readBy env name level rest (step.perform env stack).2) := by
  have later : settlements rest (step.rescope stack.lexical) =
      settlements rest (step.perform env stack).2.lexical := by rw [step.lexical_perform]
  cases settles : step.settles with
  | true =>
    obtain ⟨outcome, only⟩ := step.exists_outcome env stack settles
    have here : settlements (step :: rest) stack.lexical =
        (step, stack.lexical) :: settlements rest (step.rescope stack.lexical) := by
      simp [settlements, trail, settles]
    rw [readBy, here, run, outcomesOf_append, only, later]
    simp [readBy]
  | false =>
    have here : settlements (step :: rest) stack.lexical =
        settlements rest (step.rescope stack.lexical) := by
      simp [settlements, trail, settles]
    rw [readBy, here, run, outcomesOf_append, step.outcomesOf_perform env stack settles, later]
    simp [readBy]

/-- Steps that keep a scope open move its bindings as they say, one after another. -/
theorem status_run (env : Environment) {steps : List Step} {stack : ScopeStack}
    {level extra : Nat} (name : String) (height : stack.depth = level + extra)
    (stays : StaysOpen extra steps) (regular : RunsRegularly env steps stack) :
    (run env steps stack).2.status (heightAfter steps extra - 1) name =
      (stack.status (extra - 1) name).later
        ((advanced name extra steps).later (.readIf (readBy env name level steps stack))) := by
  induction steps generalizing stack extra with
  | nil => exact (BindingState.later_declared _).symm
  | cons step rest ih =>
    obtain ⟨opened, stays⟩ := stays
    obtain ⟨regularHere, regular⟩ := regular
    have further : 0 < step.height extra := stays.opened
    have heightBehind : (step.perform env stack).2.depth = level + step.height extra := by
      rw [← ScopeStack.length_lexical, step.lexical_perform, step.length_rescope,
        ScopeStack.length_lexical, height, step.height_add (.inr (.inr opened))]
    have here := step.status_perform env name height opened further regularHere
    rw [run_snd_cons, heightAfter_cons, ih heightBehind stays regular, here, readBy_cons,
      BindingState.readIf_or, advanced, BindingState.later_assoc,
      BindingState.later_later_comm (step.advancesAt name extra)]

end NameResolution
