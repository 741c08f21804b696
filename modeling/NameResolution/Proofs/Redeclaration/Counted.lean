import NameResolution.Proofs.Exchange.Counting
import NameResolution.Proofs.Unused.Closing

/-!
# One binding that counts as read

A binding that holds a value may count as read without anything being different
while its scope stays open: look-ups and checks do not ask whether a binding has
been read. What it changes is what is said when the scope is closed, where a
binding that counts as read is not reported as unused.
-/

namespace NameResolution

/-- The stack with the binding of a name counted as read, in the scope so many scopes out. -/
def ScopeStack.countedAt (stack : ScopeStack) (hops : Nat) (name : String) : ScopeStack :=
  ⟨countRead (.single .read hops name) stack.scopes⟩

/-- What came to the later of two states and has no value had none before. -/
theorem BindingState.declared_of_later {first second : BindingState}
    (later : first.later second = .declared) : first = .declared := by
  cases first <;> cases second <;> first | rfl | cases later

namespace Scope

/-- A scope of which no binding is further counted as read. -/
theorem counted_false (scope : Scope) : scope.counted (fun _ => false) = scope := by
  simp [counted, Binding.counted]

/-- Counting names as read and then others is counting both as read. -/
theorem counted_counted (first second : String → Bool) (scope : Scope) :
    (scope.counted first).counted second = scope.counted fun name => first name || second name := by
  simp only [counted, List.map_map, Scope.mk.injEq]
  apply List.map_congr_left
  rintro ⟨name, span, state, mutable, member⟩ -
  cases own : first name <;> cases further : second name <;> cases state <;>
    simp [Binding.counted, own, further, Binding.markRead, Binding.advance, BindingState.later,
      BindingState.rank]

/-- What counts as read can count as read before or after a binding is changed. -/
theorem modify_counted_of {change : Binding → Binding}
    (commutes : ∀ binding : Binding, change binding.markRead = (change binding).markRead)
    (counts : String → Bool) (scope : Scope) (name : String) :
    (scope.counted counts).modify name change = (scope.modify name change).counted counts := by
  simp only [counted, modify, List.map_map, Scope.mk.injEq]
  apply List.map_congr_left
  rintro ⟨other, binding⟩ -
  by_cases same : name = other
  · cases counted : counts other <;> simp [same, Binding.counted, counted, commutes]
  · simp [same]

/-- A binding that is inserted and does not count as read further. -/
theorem insert_counted {counts : String → Bool} {name : String} {binding : Binding}
    (kept : binding.counted (counts name) = binding) (scope : Scope) :
    (scope.counted counts).insert name binding = (scope.insert name binding).counted counts := by
  obtain ⟨bindings⟩ := scope
  simp only [counted, insert, Scope.mk.injEq]
  induction bindings with
  | nil => simp [insertInto, kept]
  | cons entry rest ih =>
    obtain ⟨other, old⟩ := entry
    by_cases same : name = other
    · subst same
      simp [insertInto, kept]
    · simp [insertInto, same, ih]

/-- Where names are distinct, a change that keeps the binding of a name keeps the scope. -/
theorem modify_eq_self {scope : Scope} (distinct : scope.names.Nodup) {name : String}
    {binding : Binding} (bound : scope.get? name = some binding) {change : Binding → Binding}
    (kept : change binding = binding) : scope.modify name change = scope := by
  suffices same : ∀ entry ∈ scope.bindings,
      (if name == entry.1 then (entry.1, change entry.2) else (entry.1, entry.2)) = entry by
    rw [modify, List.map_congr_left same, List.map_id']
  rintro ⟨other, own⟩ listed
  by_cases here : name = other
  · subst here
    have own : own = binding := Option.some.inj ((get?_of_mem distinct listed).symm.trans bound)
    simp [own, kept]
  · simp [here]

end Scope

/-- Counting readings twice counts them together. -/
theorem countRead_countRead (first second : Readings) (scopes : List Scope) :
    countRead second (countRead first scopes) = countRead (first.union second) scopes := by
  induction scopes generalizing first second with
  | nil => rfl
  | cons scope outer ih =>
    rw [countRead_cons, countRead_cons, countRead_cons, ih, Scope.counted_counted,
      Readings.outward_union]
    rfl

namespace ScopeStack

variable {hops : Nat} {name : String}

/-- A binding of the innermost scope is counted there. -/
theorem countedAt_zero (scope : Scope) (outer : List Scope) (name : String) :
    (ScopeStack.mk (scope :: outer)).countedAt 0 name =
      ⟨scope.counted (· == name) :: outer⟩ := by
  have own : Readings.single .read 0 name 0 = (· == name) := by
    funext asked
    simp [Readings.single]
  simp [countedAt, countRead_cons, countRead_none, own]

/-- A binding further out is counted in the scopes around the innermost one. -/
theorem countedAt_succ (scope : Scope) (outer : List Scope) (hops : Nat) (name : String) :
    (ScopeStack.mk (scope :: outer)).countedAt (hops + 1) name =
      ⟨scope :: (countedAt ⟨outer⟩ hops name).scopes⟩ := by
  have none : Readings.single .read (hops + 1) name 0 = fun _ => false := by
    funext asked
    simp [Readings.single]
  simp [countedAt, countRead_cons, none, Scope.counted_false]

/-- What is declared where does not depend on what is counted as read. -/
@[simp] theorem lexical_countedAt (stack : ScopeStack) (hops : Nat) (name : String) :
    (stack.countedAt hops name).lexical = stack.lexical :=
  map_lexical_countRead _ stack.scopes

/-- Counting a binding as read opens and closes no scope. -/
@[simp] theorem depth_countedAt (stack : ScopeStack) (hops : Nat) (name : String) :
    (stack.countedAt hops name).depth = stack.depth :=
  length_countRead _ stack.scopes

/-- A change of the innermost scope, if it goes with counting the binding as read. -/
theorem modifyInnermost_countedAt (stack : ScopeStack) {change : Scope → Scope}
    (commutes : hops = 0 → ∀ scope, stack.innermost? = some scope →
      change (scope.counted (· == name)) = (change scope).counted (· == name)) :
    (stack.countedAt hops name).modifyInnermost change =
      (stack.modifyInnermost change).countedAt hops name := by
  obtain ⟨scopes⟩ := stack
  cases scopes with
  | nil => rfl
  | cons scope outer =>
    cases hops with
    | zero =>
      rw [countedAt_zero]
      simp only [modifyInnermost]
      rw [countedAt_zero, commutes rfl scope rfl]
    | succ hops =>
      rw [countedAt_succ]
      simp only [modifyInnermost]
      rw [countedAt_succ]

/-- Inside a new scope the counted binding is one scope further out. -/
theorem push_countedAt (stack : ScopeStack) (hops : Nat) (name : String) :
    (stack.countedAt hops name).push = stack.push.countedAt (hops + 1) name := by
  obtain ⟨scopes⟩ := stack
  rw [push, push, countedAt_succ]

/-- Closing a scope within the one of the counted binding says the same, and brings the binding
one scope closer. -/
theorem close_countedAt (config : Config) (stack : ScopeStack) (hops : Nat) (name : String) :
    (stack.countedAt (hops + 1) name).close config =
      ((stack.close config).1, (stack.close config).2.countedAt hops name) := by
  obtain ⟨scopes⟩ := stack
  cases scopes with
  | nil => rfl
  | cons scope outer =>
    rw [countedAt_succ]
    refine Prod.ext ?_ rfl
    rw [close_eq_warnings, close_eq_warnings]
    simp [countedAt]

/-- A name that has come further than declared is bound and awaits no value. -/
theorem exists_of_status {stack : ScopeStack} (valued : stack.status hops name ≠ .declared) :
    ∃ binding, stack.bindingAt? hops name = some binding ∧ binding.isDeclaredOnly = false := by
  unfold status at valued
  cases bound : stack.bindingAt? hops name with
  | none => simp [bound] at valued
  | some binding =>
    refine ⟨binding, rfl, ?_⟩
    simpa [bound, Binding.isDeclaredOnly] using valued

/-- The innermost scope has the same names whichever of its bindings count as read. -/
theorem getInnermost?_countedAt (stack : ScopeStack) (hops : Nat) (name asked : String) :
    (stack.countedAt hops name).getInnermost? asked =
      (stack.getInnermost? asked).map (Binding.counted (hops == 0 && asked == name)) := by
  obtain ⟨scopes⟩ := stack
  cases scopes with
  | nil => rfl
  | cons scope outer =>
    cases hops with
    | zero =>
      rw [countedAt_zero]
      simp [getInnermost?, innermost?, Scope.get?_counted]
    | succ hops =>
      rw [countedAt_succ]
      have same : Binding.counted false = id := rfl
      simp [getInnermost?, innermost?, same]

/-- What awaits its value in the innermost scope does so whichever binding counts as read. -/
theorem awaits_countedAt {stack : ScopeStack} (valued : stack.status hops name ≠ .declared)
    (asked : String) :
    ((stack.countedAt hops name).getInnermost? asked).any Binding.isDeclaredOnly =
      (stack.getInnermost? asked).any Binding.isDeclaredOnly := by
  rw [getInnermost?_countedAt]
  by_cases own : hops = 0 ∧ asked = name
  · obtain ⟨rfl, rfl⟩ := own
    obtain ⟨binding, bound, held⟩ := exists_of_status valued
    rw [bindingAt?_zero] at bound
    simp [bound, held, Binding.isDeclaredOnly_counted held]
  · have other : (hops == 0 && asked == name) = false := by
      simpa [Bool.and_eq_false_iff] using own
    rw [other]
    cases stack.getInnermost? asked <;> rfl

/-- What taking a name does to the scopes. -/
theorem declare_snd (lints : Lints) (stack : ScopeStack) (declared : Ident)
    (mutable member : Bool) :
    (stack.declare lints declared mutable member).2 =
      if (stack.getInnermost? declared.name).isSome then stack
      else stack.modifyInnermost
        (·.insert declared.name (.declared declared.span mutable member)) := by
  obtain ⟨scopes⟩ := stack
  cases scopes with
  | nil => rfl
  | cons scope outer =>
    cases bound : scope.get? declared.name <;> simp [declare, getInnermost?, innermost?, bound]

/-- Where the binding is more than declared, a declaration says and does the same beside it. -/
theorem declare_countedAt (lints : Lints) {stack : ScopeStack} {scope : Scope}
    (innermost : stack.innermost? = some scope) (valued : stack.status hops name ≠ .declared)
    (declared : Ident) (mutable member : Bool) :
    (stack.countedAt hops name).declare lints declared mutable member =
      ((stack.declare lints declared mutable member).1,
        (stack.declare lints declared mutable member).2.countedAt hops name) := by
  obtain ⟨other, innermost'⟩ : ∃ other, (stack.countedAt hops name).innermost? = some other := by
    obtain ⟨scopes⟩ := stack
    cases scopes with
    | nil => cases innermost
    | cons first outer => exact ⟨_, congrArg List.head? (countRead_cons _ first outer)⟩
  refine Prod.ext ?_ ?_
  · rw [declare_fst lints innermost', declare_fst lints innermost, lexical_countedAt]
  · rw [declare_snd, declare_snd, getInnermost?_countedAt, Option.isSome_map]
    cases bound : stack.getInnermost? declared.name with
    | some binding => rfl
    | none =>
      refine modifyInnermost_countedAt stack fun zero scope _ => Scope.insert_counted ?_ scope
      subst zero
      have different : declared.name ≠ name := by
        rintro rfl
        obtain ⟨binding, here, -⟩ := exists_of_status valued
        rw [bindingAt?_zero, bound] at here
        cases here
      simp [different, Binding.counted]

/-- The binding that a name has is changed alike whichever binding counts as read. -/
theorem modify_countedAt (stack : ScopeStack) {change : Binding → Binding}
    (commutes : ∀ binding : Binding, change binding.markRead = (change binding).markRead)
    (changed : String) :
    (stack.countedAt hops name).modifyInnermost (·.modify changed change) =
      (stack.modifyInnermost (·.modify changed change)).countedAt hops name :=
  stack.modifyInnermost_countedAt fun _ scope _ => scope.modify_counted_of commutes _ changed

/-- A name that the innermost scope binds gets its value in place. -/
theorem define_of_bound {stack : ScopeStack} {defined : Ident}
    (bound : (stack.getInnermost? defined.name).isSome = true) :
    stack.define defined = stack.modifyInnermost (·.modify defined.name Binding.define) := by
  obtain ⟨scopes⟩ := stack
  cases scopes with
  | nil => rfl
  | cons scope outer =>
    obtain ⟨binding, here⟩ := Option.isSome_iff_exists.mp bound
    have here : scope.get? defined.name = some binding := here
    simp [define, modifyInnermost, here]

/-- Giving a name its value commutes with counting a binding as read. -/
theorem define_countedAt {stack : ScopeStack} {defined : Ident}
    (bound : (stack.getInnermost? defined.name).isSome = true) :
    (stack.countedAt hops name).define defined = (stack.define defined).countedAt hops name := by
  rw [define_of_bound bound, define_of_bound (by rwa [getInnermost?_countedAt, Option.isSome_map])]
  refine stack.modify_countedAt (fun binding => ?_) defined.name
  obtain ⟨span, state, mutable, member⟩ := binding
  cases state <;> rfl

/-- A reference finds the same binding at the same depth, whether one is counted as read or not. -/
theorem resolve_countedAt (config : Config) (stack : ScopeStack) (node : NodeId) (asked : Ident)
    (access : Access) :
    (stack.countedAt hops name).resolve config node asked access =
      ((stack.resolve config node asked access).1,
        (stack.resolve config node asked access).2.countedAt hops name) := by
  obtain ⟨scopes⟩ := stack
  have detached : Detached (fun stack => stack.resolve config node asked access) [] scopes :=
    detached_resolve config node asked access
  obtain ⟨events, after, readings, resolves⟩ := detached
  have plain := resolves .none
  have counted := resolves (.single .read hops name)
  -- a look-up leaves as many scopes open as it finds
  have depth : (ScopeStack.resolve config ⟨scopes⟩ node asked access).2.depth = scopes.length := by
    rw [← length_lexical, lexical_resolve, length_lexical, ScopeStack.depth]
  simp only [stacked, List.nil_append, countRead_none, Readings.none_union] at plain counted
  rw [plain] at depth ⊢
  rw [countedAt, counted]
  obtain rfl : after = [] := by
    rw [ScopeStack.depth, List.length_append, length_countRead] at depth
    exact List.length_eq_zero_iff.mp (by omega)
  rw [countedAt, List.nil_append, List.nil_append, countRead_countRead, Readings.union_comm]

/-- Where the binding is more than declared, reading a variable says and does the same beside it. -/
theorem readVariable_countedAt (config : Config) {stack : ScopeStack}
    (valued : stack.status hops name ≠ .declared) (node : NodeId) (asked : Ident) :
    (stack.countedAt hops name).readVariable config node asked =
      ((stack.readVariable config node asked).1,
        (stack.readVariable config node asked).2.countedAt hops name) := by
  rw [readVariable, readVariable, awaits_countedAt valued]
  split
  · rfl
  · split
    · rfl
    · exact stack.resolve_countedAt config node asked .read

/-- Whether a binding may be changed does not depend on what is counted as read. -/
theorem requireMutable_countedAt (stack : ScopeStack) (hops : Nat) (name asked : String)
    (cause : Span → ResolutionError) :
    (stack.countedAt hops name).requireMutable asked cause = stack.requireMutable asked cause := by
  rw [requireMutable_eq, requireMutable_eq, lexical_countedAt]

end ScopeStack

/-- While its scope stays open, a step does the same whether a binding that holds a value
counts as read or not. -/
theorem Step.perform_countedAt (env : Environment) {step : Step} {stack : ScopeStack}
    {hops : Nat} {name : String} (stays : 0 < step.height (hops + 1))
    (regular : step.Regular env stack) (valued : stack.status hops name ≠ .declared) :
    step.perform env (stack.countedAt hops name) =
      ((step.perform env stack).1,
        (step.perform env stack).2.countedAt (step.height (hops + 1) - 1) name) := by
  cases step with
  | openScope =>
    simp only [perform, stack.push_countedAt, ScopeStack.depth_countedAt]
    rfl
  | closeScope =>
    obtain ⟨inner, rfl⟩ : ∃ inner, hops = inner + 1 := by
      rw [Step.height] at stays
      exact ⟨hops - 1, by omega⟩
    exact stack.close_countedAt env.config inner name
  | declare declared mutable member =>
    obtain ⟨scope, innermost, -⟩ := regular
    exact ScopeStack.declare_countedAt env.config.lints innermost valued declared mutable member
  | define defined =>
    obtain ⟨scope, innermost, bound⟩ := regular
    have bound : (stack.getInnermost? defined.name).isSome = true := by
      rw [ScopeStack.getInnermost?, innermost]
      exact bound
    exact Prod.ext rfl (ScopeStack.define_countedAt bound)
  | excuse excused =>
    exact Prod.ext rfl (stack.modify_countedAt (fun _ => rfl) excused)
  | bindPseudo bound span =>
    obtain ⟨scope, innermost, free⟩ := regular
    refine Prod.ext rfl (stack.modifyInnermost_countedAt fun _ scope _ =>
      Scope.insert_counted ?_ scope)
    cases bound == name <;> rfl
  | resolve node asked access => exact stack.resolve_countedAt env.config node asked access
  | readVariable node asked =>
    exact ScopeStack.readVariable_countedAt env.config valued node asked
  | checkAssign asked => exact Prod.ext (stack.requireMutable_countedAt hops name _ _) rfl
  | checkMutate asked span => exact Prod.ext (stack.requireMutable_countedAt hops name _ _) rfl
  | _ => rfl

/-- While its scope stays open, steps do the same whether a binding that holds a value
counts as read or not. -/
theorem run_countedAt (env : Environment) {steps : List Step} {stack : ScopeStack}
    {level extra : Nat} {name : String} (height : stack.depth = level + extra)
    (stays : StaysOpen extra steps) (regular : RunsRegularly env steps stack)
    (valued : stack.status (extra - 1) name ≠ .declared) :
    run env steps (stack.countedAt (extra - 1) name) =
      ((run env steps stack).1,
        (run env steps stack).2.countedAt (heightAfter steps extra - 1) name) := by
  induction steps generalizing stack extra with
  | nil => rfl
  | cons step rest ih =>
    obtain ⟨opened, stays⟩ := stays
    obtain ⟨regularHere, regular⟩ := regular
    have further : 0 < step.height extra := stays.opened
    have heightBehind : (step.perform env stack).2.depth = level + step.height extra := by
      rw [step.depth_perform, height, step.height_add (.inr (.inr opened))]
    -- no step takes a value away
    have still : (step.perform env stack).2.status (step.height extra - 1) name ≠ .declared := by
      rw [step.status_perform env name height opened further regularHere]
      exact fun none => valued (BindingState.declared_of_later none)
    have here : step.perform env (stack.countedAt (extra - 1) name) =
        ((step.perform env stack).1,
          (step.perform env stack).2.countedAt (step.height extra - 1) name) := by
      obtain ⟨hops, rfl⟩ : ∃ hops, extra = hops + 1 := ⟨extra - 1, by omega⟩
      exact step.perform_countedAt env further regularHere valued
    rw [run_cons, run_cons, here, ih heightBehind stays regular still, heightAfter_cons]

end NameResolution
