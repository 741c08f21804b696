import NameResolution.Proofs.Context.Reserved
import NameResolution.Proofs.Frame.Regular
import NameResolution.Proofs.Walk.Events

/-!
# Reports on bindings

A binding of `this` or `super` counts as read from the start and is never moved
back, and no declaration ever takes one of these names. So no run reports such
a binding as unused, as hidden by another one, or as declared twice.
-/

namespace NameResolution

/-- All bindings of reserved names in a scope have been read. -/
def Scope.ReservedRead (scope : Scope) : Prop :=
  ∀ entry ∈ scope.bindings, isReserved entry.1 = true → entry.2.state = .read

/-- All bindings of reserved names in the open scopes have been read. -/
def ScopeStack.ReservedRead (stack : ScopeStack) : Prop :=
  ∀ scope ∈ stack.scopes, scope.ReservedRead

namespace Scope

/-- An insertion keeps reserved names read if it does not put an unread binding under one. -/
theorem ReservedRead.insert {scope : Scope} (kept : scope.ReservedRead) {name : String}
    {binding : Binding} (fits : isReserved name = true → binding.state = .read) :
    (scope.insert name binding).ReservedRead := by
  obtain ⟨bindings⟩ := scope
  unfold ReservedRead Scope.insert at *
  induction bindings with
  | nil => simpa [insertInto] using fits
  | cons entry rest ih =>
    obtain ⟨other, old⟩ := entry
    rw [List.forall_mem_cons] at kept
    simp only [insertInto]
    split
    · rename_i same
      obtain rfl := beq_iff_eq.mp same
      exact List.forall_mem_cons.mpr ⟨fits, kept.2⟩
    · exact List.forall_mem_cons.mpr ⟨kept.1, ih kept.2⟩

/-- A change keeps reserved names read if it keeps a reserved binding that is read. -/
theorem ReservedRead.modify {scope : Scope} (kept : scope.ReservedRead) {name : String}
    {change : Binding → Binding}
    (fits : isReserved name = true → ∀ binding : Binding, binding.state = .read →
      (change binding).state = .read) : (scope.modify name change).ReservedRead := by
  unfold ReservedRead Scope.modify
  rw [List.forall_mem_map]
  rintro ⟨other, binding⟩ listed taken
  by_cases same : name = other
  · subst same
    simp only [beq_self_eq_true, if_true] at taken ⊢
    exact fits taken binding (kept _ listed taken)
  · simp only [beq_iff_eq, same, if_false] at taken ⊢
    exact kept _ listed taken

end Scope

namespace ScopeStack

/-- A change of the innermost scope that keeps reserved names read keeps them so in the stack. -/
theorem ReservedRead.modifyInnermost {stack : ScopeStack} (kept : stack.ReservedRead)
    {change : Scope → Scope} (fits : ∀ scope, scope.ReservedRead → (change scope).ReservedRead) :
    (stack.modifyInnermost change).ReservedRead := by
  obtain ⟨scopes⟩ := stack
  cases scopes with
  | nil => exact kept
  | cons scope outer =>
    obtain ⟨here, there⟩ := List.forall_mem_cons.mp kept
    exact List.forall_mem_cons.mpr ⟨fits scope here, there⟩

/-- Marking a binding leaves a read one read. -/
theorem ReservedRead.updateIn {name : String} {access : Access} {scopes : List Scope}
    (kept : ∀ scope ∈ scopes, scope.ReservedRead) :
    ∀ found ∈ updateIn name access.mark scopes, ∀ scope ∈ found.2.2, scope.ReservedRead := by
  induction scopes with
  | nil => simp [ScopeStack.updateIn]
  | cons scope outer ih =>
    obtain ⟨here, there⟩ := List.forall_mem_cons.mp kept
    have marked : (scope.modify name access.mark).ReservedRead := by
      refine here.modify fun _ binding read => ?_
      cases access with
      | read => simp [Access.mark, Binding.markRead, Binding.advance, read, BindingState.later]
      | write => exact read
    cases bound : scope.get? name with
    | some binding =>
      simp only [ScopeStack.updateIn, bound, Option.mem_def, Option.some.injEq]
      rintro _ rfl
      exact List.forall_mem_cons.mpr ⟨marked, there⟩
    | none =>
      simp only [ScopeStack.updateIn, bound, Option.mem_def, Option.map_eq_some_iff]
      rintro _ ⟨found, inside, rfl⟩
      exact List.forall_mem_cons.mpr ⟨here, ih there found inside⟩

/-- A look-up keeps reserved names read. -/
theorem ReservedRead.resolve {stack : ScopeStack} (kept : stack.ReservedRead) (config : Config)
    (node : NodeId) (name : Ident) (access : Access) :
    (stack.resolve config node name access).2.ReservedRead := by
  unfold ScopeStack.resolve
  split
  · rename_i hops binding next found
    simp only [update?, Option.map_eq_some_iff] at found
    obtain ⟨changed, inside, same⟩ := found
    cases same
    exact ReservedRead.updateIn kept changed inside
  · split <;> exact kept

/-- A read of a variable keeps reserved names read. -/
theorem ReservedRead.readVariable {stack : ScopeStack} (kept : stack.ReservedRead)
    (config : Config) (node : NodeId) (name : Ident) :
    (stack.readVariable config node name).2.ReservedRead := by
  unfold ScopeStack.readVariable
  split
  · exact kept
  · split
    · exact kept
    · exact kept.resolve config node name .read

/-- A declaration keeps reserved names read if it takes none. -/
theorem ReservedRead.declare {stack : ScopeStack} (kept : stack.ReservedRead) (lints : Lints)
    {name : Ident} (spared : isReserved name.name = false) (mutable member : Bool) :
    (stack.declare lints name mutable member).2.ReservedRead := by
  unfold ScopeStack.declare
  split
  · exact kept
  · split
    · exact kept
    · exact kept.modifyInnermost fun scope here =>
        here.insert fun taken => absurd (spared.symm.trans taken) Bool.false_ne_true

/-- Giving a value to a name that is not reserved keeps reserved names read. -/
theorem ReservedRead.define {stack : ScopeStack} (kept : stack.ReservedRead) {name : Ident}
    (spared : isReserved name.name = false) : (stack.define name).ReservedRead := by
  refine kept.modifyInnermost fun scope here => ?_
  have untaken : isReserved name.name ≠ true := Bool.eq_false_iff.mp spared
  split
  · exact here.modify fun taken => absurd taken untaken
  · exact here.insert fun taken => absurd taken untaken

end ScopeStack

variable {env : Environment} {program : Program}

/-- A proper step leaves the bindings of reserved names read. -/
theorem Step.reservedRead {step : Step} (proper : step.Proper) {stack : ScopeStack}
    (kept : stack.ReservedRead) : (step.perform env stack).2.ReservedRead := by
  cases step with
  | openScope => exact List.forall_mem_cons.mpr ⟨List.forall_mem_nil _, kept⟩
  | closeScope =>
    intro scope listed
    rw [Step.scopes_closeScope] at listed
    exact kept scope (List.mem_of_mem_tail listed)
  | declare name mutable member => exact kept.declare env.config.lints proper mutable member
  | define name => exact kept.define proper
  | excuse name =>
    refine kept.modifyInnermost fun scope here => here.modify fun _ binding read => ?_
    simp [Binding.markRead, Binding.advance, read, BindingState.later]
  | bindPseudo name span => exact kept.modifyInnermost fun scope here => here.insert fun _ => rfl
  | resolve node name access => exact kept.resolve env.config node name access
  | readVariable node name => exact kept.readVariable env.config node name
  | _ => exact kept

/-- Proper steps keep reserved names read. -/
theorem reservedRead_run {steps : List Step} (proper : ∀ step ∈ steps, step.Proper)
    {stack : ScopeStack} (kept : stack.ReservedRead) : (run env steps stack).2.ReservedRead := by
  induction steps generalizing stack with
  | nil => exact kept
  | cons step rest ih =>
    rw [List.forall_mem_cons] at proper
    rw [run_snd_cons]
    exact ih proper.2 (Step.reservedRead proper.1 kept)

/-- Closing a scope warns of no binding of a reserved name. -/
theorem ScopeStack.ReservedRead.close {stack : ScopeStack} (kept : stack.ReservedRead)
    {config : Config} {name : String} {span : Span}
    (warned : .warning (.unusedLocalVariable name span) ∈ (stack.close config).1) :
    isReserved name = false := by
  obtain ⟨scopes⟩ := stack
  cases scopes with
  | nil => cases warned
  | cons scope outer =>
    obtain ⟨here, -⟩ := List.forall_mem_cons.mp kept
    simp only [ScopeStack.close, innermost?, List.head?_cons, List.mem_cons] at warned
    rcases warned with other | warned
    · cases other
    · split at warned
      · obtain ⟨⟨unread, binding⟩, listed, same⟩ := List.mem_map.mp warned
        cases same
        obtain ⟨inside, unused⟩ := List.mem_filter.mp listed
        apply Bool.eq_false_iff.mpr
        intro taken
        have read : binding.state = .read := here _ inside taken
        simp [Scope.isUnused, read] at unused
      · cases warned

/-- No report on a binding is about one of a reserved name. -/
theorem unreported (spares : program.SparesReserved env.config.initializerName) :
    ∀ found ∈ reportOf (observe env program).1, ∀ name ∈ found.binding?,
      isReserved name = false := by
  intro found listed name about
  obtain ⟨event, happened, diagnostic⟩ := List.mem_filterMap.mp listed
  obtain rfl : event = .diagnostic found := by
    cases event <;> cases diagnostic
    rfl
  obtain ⟨earlier, later, split⟩ := List.append_of_mem happened
  obtain ⟨first, step, rest, inside, behind, walked, emits, here, -⟩ :=
    exists_step_of_event split rfl
  have proper : ∀ step ∈ Program.walk env.config.initializerName program, step.Proper :=
    fun step listed => Program.proper spares listed
  rw [walked] at proper
  have own : step.Proper := proper step (List.mem_append_right _ List.mem_cons_self)
  cases emits with
  | unused name span =>
    cases about
    have kept : (run env first .empty).2.ReservedRead :=
      reservedRead_run (fun step listed => proper step (List.mem_append_left _ listed))
        (List.forall_mem_nil _)
    have warned : .warning (.unusedLocalVariable name span) ∈
        ((run env first .empty).2.close env.config).1 := by
      rw [Step.perform] at here
      rw [here]
      exact List.mem_append_right _ List.mem_cons_self
    exact kept.close warned
  | duplicate name mutable member kept | shadowed name mutable member earlier =>
    cases about
    exact own
  | resolved access lookUp | read lookUp =>
    cases lookUp
    cases about
  | unregistered kind name => cases kind <;> cases about
  | reported error =>
    have aside : (Diagnostic.error error).binding? = none := own
    rw [aside] at about
    cases about
  | _ => cases about

end NameResolution
