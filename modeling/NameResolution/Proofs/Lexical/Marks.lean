import NameResolution.Proofs.Frame.Confined
import NameResolution.Proofs.Frame.Regular
import NameResolution.Proofs.Lexical.Settlement

/-!
# What marks a binding

A binding that has been declared and not been defined is marked by the
references that read it: by every one that is looked up and found to mean it,
save those that stand in its own scope and ask for its value, which are turned
away. Confined steps do nothing else to a binding in the scope they begin in.
-/

namespace NameResolution

/-- Whether a reference marks as read the binding of `name` in the innermost of
the outermost `level` scopes, while that binding still awaits its value. -/
def Site.marks (config : Config) (name : String) (level : Nat) (site : Site) : Bool :=
  site.name.name == name && site.depth? == some (site.scopes.length - level) &&
    match site.form with
    | .assign => false
    | .var => decide (level < site.scopes.length) && !config.isDiscarded name
    | .mutArg => true
    | .structInit => true
    | .this => site.admitted
    | .super => site.admitted

/-- Whether a step, carried out in the given scopes, marks the binding. -/
def Step.marks (config : Config) (name : String) (level : Nat) (visit : Step × LexicalScopes) :
    Bool :=
  match visit.1 with
  | .resolve _ asked .read =>
    asked.name == name && visit.2.depth? asked.name == some (visit.2.length - level)
  | .readVariable _ asked =>
    asked.name == name && visit.2.depth? asked.name == some (visit.2.length - level) &&
      (decide (level < visit.2.length) && !config.isDiscarded name)
  | _ => false

/-- A site marks what its step marks. -/
theorem Site.marks_step (config : Config) (name : String) (level : Nat) (site : Site) :
    Step.marks config name level (site.step, site.scopes) = site.marks config name level := by
  obtain ⟨⟨form, node, asked⟩, cls, scopes⟩ := site
  cases form <;> cases cls <;>
    simp [Site.marks, Step.marks, Site.step, Site.depth?, Site.admitted]

/-- The steps that settle sites mark a binding exactly if one of the sites marks it. -/
theorem any_marks_map (config : Config) (name : String) (level : Nat) (sites : List Site) :
    (sites.map fun site => (site.step, site.scopes)).any (Step.marks config name level) =
      sites.any (Site.marks config name level) := by
  rw [List.any_map]
  congr 1
  funext site
  exact site.marks_step config name level

/-- The binding of a name in the scope so many scopes out. -/
def ScopeStack.bindingAt? (stack : ScopeStack) (hops : Nat) (name : String) : Option Binding :=
  stack.scopes[hops]?.bind (·.get? name)

/-- A change of one name in a scope shows under that name alone. -/
theorem Scope.get?_modify (scope : Scope) (name asked : String) (change : Binding → Binding) :
    (scope.modify name change).get? asked =
      if name = asked then (scope.get? asked).map change else scope.get? asked := by
  obtain ⟨bindings⟩ := scope
  simp only [modify, get?]
  induction bindings with
  | nil => simp
  | cons entry rest ih =>
    obtain ⟨other, binding⟩ := entry
    by_cases same : name = other
    · subst same
      simp only [List.map_cons, beq_self_eq_true, if_true, List.lookup_cons]
      by_cases here : name = asked
      · simp [here]
      · have passed : (asked == name) = false :=
          beq_eq_false_iff_ne.mpr fun equal => here equal.symm
        simpa [here, passed] using ih
    · have kept : (name == other) = false := beq_eq_false_iff_ne.mpr same
      simp only [List.map_cons, kept, Bool.false_eq_true, if_false, List.lookup_cons]
      cases here : asked == other with
      | false => exact ih
      | true =>
        have different : ¬ name = asked := fun equal => same (equal.trans (eq_of_beq here))
        simp [different]

namespace ScopeStack

/-- An update changes one binding, in the scope where the look-up ended. -/
theorem getElem?_updateIn {name : String} {change : Binding → Binding} {scopes : List Scope} :
    ∀ found ∈ updateIn name change scopes, ∀ hops : Nat,
      found.2.2[hops]? =
        if hops = found.1 then scopes[hops]?.map (·.modify name change) else scopes[hops]? := by
  induction scopes with
  | nil => simp [updateIn]
  | cons scope outer ih =>
    intro found hit hops
    cases here : scope.get? name with
    | some binding =>
      simp only [updateIn, here, Option.mem_def, Option.some.injEq] at hit
      rw [← hit]
      cases hops <;> simp
    | none =>
      simp only [updateIn, here, Option.mem_def, Option.map_eq_some_iff] at hit
      obtain ⟨further, outside, rfl⟩ := hit
      cases hops with
      | zero => simp
      | succ hops => simpa using ih further outside hops

/-- What a look-up does to a binding: if it is the one that is meant it is
marked as the access says, and otherwise it stays. -/
theorem bindingAt?_resolve (config : Config) (stack : ScopeStack) (node : NodeId) (asked : Ident)
    (access : Access) (hops : Nat) (name : String) :
    (stack.resolve config node asked access).2.bindingAt? hops name =
      if asked.name = name ∧ stack.lexical.depth? asked.name = some hops then
        (stack.bindingAt? hops name).map access.mark
      else stack.bindingAt? hops name := by
  have depth : (stack.update? asked.name access.mark).map Prod.fst =
      stack.lexical.depth? asked.name := by
    rw [← map_fst_find?, find?, ← map_fst_updateIn asked.name access.mark]
    simp [update?, Function.comp_def]
  unfold resolve
  cases found : stack.update? asked.name access.mark with
  | none =>
    rw [found] at depth
    have unbound : ¬ (asked.name = name ∧ stack.lexical.depth? asked.name = some hops) := by
      rintro ⟨-, bound⟩
      rw [← depth] at bound
      cases bound
    rw [if_neg unbound]
    dsimp only
    split <;> rfl
  | some hit =>
    rw [found] at depth
    simp only [update?, Option.map_eq_some_iff] at found
    obtain ⟨changed, inside, rfl⟩ := found
    rw [← depth]
    simp only [bindingAt?, getElem?_updateIn changed inside hops, Option.map_some,
      Option.some.injEq]
    by_cases there : hops = changed.1
    · cases stack.scopes[hops]? with
      | none => simp
      | some scope => simp [there, Scope.get?_modify]
    · have elsewhere : ¬ changed.1 = hops := fun equal => there equal.symm
      simp [there, elsewhere]

/-- A change of the innermost scope does not show further out. -/
theorem bindingAt?_modifyInnermost (stack : ScopeStack) (change : Scope → Scope) {hops : Nat}
    (further : 0 < hops) (name : String) :
    (stack.modifyInnermost change).bindingAt? hops name = stack.bindingAt? hops name := by
  obtain ⟨scopes⟩ := stack
  cases scopes with
  | nil => rfl
  | cons scope outer =>
    cases hops with
    | zero => cases further
    | succ hops => rfl

/-- A declaration changes nothing in the scopes further out. -/
theorem bindingAt?_declare (lints : Lints) (stack : ScopeStack) (declared : Ident)
    (mutable member : Bool) {hops : Nat} (further : 0 < hops) (name : String) :
    (stack.declare lints declared mutable member).2.bindingAt? hops name =
      stack.bindingAt? hops name := by
  unfold declare
  split
  · rfl
  · split
    · rfl
    · exact stack.bindingAt?_modifyInnermost _ further name

/-- The innermost binding of a name that the innermost scope binds is that one. -/
theorem depth?_of_getInnermost? {stack : ScopeStack} {name : String} {binding : Binding}
    (here : stack.getInnermost? name = some binding) : stack.lexical.depth? name = some 0 := by
  have bound := stack.isSome_getInnermost? name
  rw [here, Option.isSome_some] at bound
  obtain ⟨scopes⟩ := stack
  cases scopes with
  | nil => cases bound
  | cons scope outer =>
    simp only [lexical, List.map_cons, LexicalScopes.bindsHere, List.head?_cons,
      Option.any_some] at bound
    simp [lexical, LexicalScopes.depth?, List.findIdx?_cons, ← bound]

/-- No hops lead to the innermost scope. -/
theorem bindingAt?_zero (stack : ScopeStack) (name : String) :
    stack.bindingAt? 0 name = stack.getInnermost? name := by
  rw [bindingAt?, getInnermost?, innermost?, List.head?_eq_getElem?]

end ScopeStack

/-- A binding that was read no longer awaits its value. -/
theorem Access.isDeclaredOnly_mark (access : Access) (binding : Binding) :
    (access.mark binding).isDeclaredOnly =
      (binding.isDeclaredOnly && !(access == .read)) := by
  obtain ⟨span, state, mutable, member⟩ := binding
  cases access <;> cases state <;> rfl

/-- What a look-up does to a binding that awaits its value. -/
theorem ScopeStack.isDeclaredOnly_resolve (config : Config) {stack : ScopeStack} (node : NodeId)
    (asked : Ident) (access : Access) {hops : Nat} {name : String} {binding : Binding}
    (bound : stack.bindingAt? hops name = some binding) :
    ∃ later, (stack.resolve config node asked access).2.bindingAt? hops name = some later ∧
      later.isDeclaredOnly = (binding.isDeclaredOnly &&
        !(access == .read && (asked.name == name &&
          stack.lexical.depth? asked.name == some hops))) := by
  rw [stack.bindingAt?_resolve config node asked access hops name, bound]
  by_cases meant : asked.name = name ∧ stack.lexical.depth? asked.name = some hops
  · refine ⟨access.mark binding, by rw [if_pos meant]; rfl, ?_⟩
    have found : (asked.name == name && stack.lexical.depth? asked.name == some hops) = true := by
      rw [Bool.and_eq_true, beq_iff_eq, beq_iff_eq]
      exact meant
    rw [access.isDeclaredOnly_mark, found, Bool.and_true]
  · refine ⟨binding, by rw [if_neg meant], ?_⟩
    have other : (asked.name == name && stack.lexical.depth? asked.name == some hops) = false := by
      simpa [Bool.and_eq_false_iff] using meant
    rw [other]
    simp

/-- What the reading of a variable does to a binding that awaits its value. -/
theorem ScopeStack.isDeclaredOnly_readVariable (config : Config) {stack : ScopeStack}
    (node : NodeId) (asked : Ident) {hops : Nat} {name : String} {binding : Binding}
    (bound : stack.bindingAt? hops name = some binding) :
    ∃ later, (stack.readVariable config node asked).2.bindingAt? hops name = some later ∧
      later.isDeclaredOnly = (binding.isDeclaredOnly &&
        !(asked.name == name && stack.lexical.depth? asked.name == some hops &&
          (decide (0 < hops) && !config.isDiscarded name))) := by
  unfold readVariable
  by_cases pending : (stack.getInnermost? asked.name).any Binding.isDeclaredOnly = true
  · rw [if_pos pending]
    obtain ⟨own, here, -⟩ := (Option.any_eq_true _ _).mp pending
    refine ⟨binding, bound, ?_⟩
    rw [depth?_of_getInnermost? here]
    cases hops <;> simp
  · rw [if_neg pending]
    by_cases marked : config.isDiscarded asked.name = true
    · rw [if_pos marked]
      refine ⟨binding, bound, ?_⟩
      by_cases same : asked.name = name
      · rw [← same, marked]
        simp
      · simp [same]
    · rw [if_neg marked]
      obtain ⟨later, there, state⟩ := stack.isDeclaredOnly_resolve config node asked .read bound
      refine ⟨later, there, state.trans ?_⟩
      by_cases same : asked.name = name
      · subst same
        cases hops with
        | zero =>
          -- In its own scope the variable would be turned away, were it still awaiting its value.
          rw [stack.bindingAt?_zero] at bound
          rw [bound, Option.any_some] at pending
          simp [Bool.eq_false_iff.mpr pending]
        | succ hops => simp [Bool.eq_false_iff.mpr marked]
      · have passed : (asked.name == name) = false := beq_eq_false_iff_ne.mpr same
        simp [passed]

/-- A step inside the scopes opened since leaves a binding below them where it
is, awaiting its value as before unless the step marks it. -/
theorem Step.isDeclaredOnly_perform (env : Environment) {step : Step} {stack : ScopeStack}
    {level extra : Nat} {name : String} {binding : Binding} (height : stack.depth = level + extra)
    (inside : step.Inside extra) (bound : stack.bindingAt? extra name = some binding) :
    ∃ later, (step.perform env stack).2.bindingAt? (step.height extra) name = some later ∧
      later.isDeclaredOnly =
        (binding.isDeclaredOnly && !Step.marks env.config name level (step, stack.lexical)) := by
  have hops : stack.lexical.length - level = extra := by
    rw [stack.length_lexical]
    omega
  have opened : decide (level < stack.lexical.length) = decide (0 < extra) := by
    rw [stack.length_lexical]
    exact decide_eq_decide.mpr (by omega)
  have untouched : binding.isDeclaredOnly = (binding.isDeclaredOnly && !false) := by simp
  cases step with
  | openScope => exact ⟨binding, bound, untouched⟩
  | closeScope =>
    have further : 0 < extra := by simpa [Inside, quiet] using inside
    refine ⟨binding, ?_, untouched⟩
    rw [ScopeStack.bindingAt?, Step.scopes_closeScope, List.getElem?_tail]
    have level : Step.closeScope.height extra + 1 = extra := Nat.sub_add_cancel further
    rw [level]
    exact bound
  | declare declared mutable member =>
    have further : 0 < extra := by simpa [Inside, quiet] using inside
    refine ⟨binding, ?_, untouched⟩
    rw [← bound]
    exact stack.bindingAt?_declare env.config.lints declared mutable member further name
  | define defined =>
    have further : 0 < extra := by simpa [Inside, quiet] using inside
    exact ⟨binding, (stack.bindingAt?_modifyInnermost _ further name).trans bound, untouched⟩
  | excuse excused =>
    have further : 0 < extra := by simpa [Inside, quiet] using inside
    exact ⟨binding, (stack.bindingAt?_modifyInnermost _ further name).trans bound, untouched⟩
  | bindPseudo pseudo span =>
    have further : 0 < extra := by simpa [Inside, quiet] using inside
    exact ⟨binding, (stack.bindingAt?_modifyInnermost _ further name).trans bound, untouched⟩
  | resolve node asked access =>
    obtain ⟨later, there, state⟩ := stack.isDeclaredOnly_resolve env.config node asked access bound
    refine ⟨later, there, state.trans ?_⟩
    cases access <;> simp [marks, hops, -ScopeStack.length_lexical]
  | readVariable node asked =>
    obtain ⟨later, there, state⟩ := stack.isDeclaredOnly_readVariable env.config node asked bound
    refine ⟨later, there, state.trans ?_⟩
    simp [marks, hops, opened, -ScopeStack.length_lexical]
  | checkAssign asked => exact ⟨binding, bound, untouched⟩
  | checkMutate asked span => exact ⟨binding, bound, untouched⟩
  | requireForeign kind asked => exact ⟨binding, bound, untouched⟩
  | report error => exact ⟨binding, bound, untouched⟩
  | unreachable span => exact ⟨binding, bound, untouched⟩
  | abort fault => exact ⟨binding, bound, untouched⟩

/-- Only steps that settle references mark a binding. -/
theorem Step.marks_of_aside (config : Config) (name : String) (level : Nat) {step : Step}
    (aside : step.settles = false) (scopes : LexicalScopes) :
    Step.marks config name level (step, scopes) = false := by
  cases step <;> first | rfl | cases aside

/-- Confined steps leave a binding below them where it is. It awaits its value
as before, unless one of the references that they settle marks it. -/
theorem isDeclaredOnly_run (env : Environment) {steps : List Step} {stack : ScopeStack}
    {level extra : Nat} {name : String} {binding : Binding} (height : stack.depth = level + extra)
    (confined : Confined extra steps) (bound : stack.bindingAt? extra name = some binding) :
    ∃ later, (run env steps stack).2.bindingAt? (heightAfter steps extra) name = some later ∧
      later.isDeclaredOnly = (binding.isDeclaredOnly &&
        !(settlements steps stack.lexical).any (Step.marks env.config name level)) := by
  induction steps generalizing stack extra binding with
  | nil => exact ⟨binding, bound, by simp [settlements, trail]⟩
  | cons step rest ih =>
    obtain ⟨inside, confined⟩ := confined
    obtain ⟨next, here, state⟩ := step.isDeclaredOnly_perform env height inside bound
    have grown : (step.perform env stack).2.depth = level + step.height extra := by
      rw [← ScopeStack.length_lexical, step.lexical_perform, step.length_rescope,
        ScopeStack.length_lexical, height, step.height_add inside level]
    obtain ⟨last, there, later⟩ := ih grown confined here
    refine ⟨last, there, ?_⟩
    rw [later, state, step.lexical_perform]
    cases settles : step.settles with
    | true => simp [settlements, trail, settles, Bool.and_assoc]
    | false =>
      rw [Step.marks_of_aside env.config name level settles]
      simp [settlements, trail, settles]

end NameResolution
