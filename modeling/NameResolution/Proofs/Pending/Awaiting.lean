import NameResolution.Proofs.Frame.Confined
import NameResolution.Proofs.Frame.Regular
import NameResolution.Proofs.Lexical.Declaring
import NameResolution.Proofs.Lexical.Marks

/-!
# Names that await their values

A name that has been declared awaits its value until it is defined. Which names
may be waiting in which of the open scopes is read off the steps alone; the
bindings in the scopes of a run that are declared and not defined are among
these, whatever the environment.
-/

namespace NameResolution

/-- The names that may await their values behind a step, for each open scope from
the inside out, if these may before it. -/
def Step.awaiting : Step → List (List String) → List (List String)
  | .openScope, names => [] :: names
  | .closeScope, names => names.tail
  | .declare name _ _, names => names.modifyHead (name.name :: ·)
  | .define name, names => names.modifyHead (·.filter (· != name.name))
  | _, names => names

/-- The names that may await their values behind steps. -/
def awaitingAfter (steps : List Step) (names : List (List String)) : List (List String) :=
  steps.foldl (fun names step => step.awaiting names) names

@[simp] theorem awaitingAfter_nil (names : List (List String)) : awaitingAfter [] names = names :=
  rfl

@[simp] theorem awaitingAfter_cons (step : Step) (rest : List Step) (names : List (List String)) :
    awaitingAfter (step :: rest) names = awaitingAfter rest (step.awaiting names) := rfl

@[simp] theorem awaitingAfter_append (first second : List Step) (names : List (List String)) :
    awaitingAfter (first ++ second) names = awaitingAfter second (awaitingAfter first names) :=
  List.foldl_append

/-- There are as many lists of names as open scopes. -/
theorem Step.length_awaiting (step : Step) (names : List (List String)) :
    (step.awaiting names).length = step.height names.length := by
  cases step with
  | closeScope => exact List.length_tail
  | declare name mutable member => cases names <;> rfl
  | define name => cases names <;> rfl
  | _ => rfl

/-- Behind steps there are as many lists of names as open scopes. -/
theorem length_awaitingAfter (steps : List Step) (names : List (List String)) :
    (awaitingAfter steps names).length = heightAfter steps names.length := by
  induction steps generalizing names with
  | nil => rfl
  | cons step rest ih => rw [awaitingAfter_cons, ih, step.length_awaiting, heightAfter_cons]

/-- A quiet step neither makes a name wait nor gives one its value. -/
theorem Step.awaiting_of_quiet {step : Step} (quiet : step.quiet = true)
    (names : List (List String)) : step.awaiting names = names := by
  cases step <;> first | rfl | cases quiet

section Finishing

variable {name : Ident} {steps : List Step} (finishes : ∀ step ∈ steps, step.finishes name = true)
  (here : List String) (outer : List (List String))

include finishes

/-- Steps that finish a name leave all others waiting that do. -/
theorem awaitingAfter_finishes :
    awaitingAfter steps (here :: outer) = here :: outer ∨
      awaitingAfter steps (here :: outer) = here.filter (· != name.name) :: outer := by
  induction steps generalizing here with
  | nil => exact .inl rfl
  | cons step rest ih =>
    obtain ⟨first, others⟩ := List.forall_mem_cons.mp finishes
    cases step with
    | define other =>
      obtain rfl : other = name := eq_of_beq first
      have once := ih others (here.filter (· != other.name))
      simp only [List.filter_filter, Bool.and_self] at once
      exact .inr (once.elim id id)
    | excuse other => exact ih others here
    | report error => exact ih others here
    | _ => cases first

/-- Once a name is defined, it no longer awaits its value. -/
theorem awaitingAfter_defines (defines : .define name ∈ steps) :
    awaitingAfter steps (here :: outer) = here.filter (· != name.name) :: outer := by
  induction steps generalizing here with
  | nil => cases defines
  | cons step rest ih =>
    obtain ⟨first, others⟩ := List.forall_mem_cons.mp finishes
    cases step with
    | define other =>
      obtain rfl : other = name := eq_of_beq first
      have behind := awaitingAfter_finishes others (here.filter (· != other.name)) outer
      simp only [List.filter_filter, Bool.and_self] at behind
      exact behind.elim id id
    | excuse other => exact ih others here ((List.mem_cons.mp defines).resolve_left nofun)
    | report error => exact ih others here ((List.mem_cons.mp defines).resolve_left nofun)
    | _ => cases first

end Finishing

/-- The steps of a walk leave the scopes around the one they begin in as they
are, and that one as well if they declare no name in it. -/
theorem Shape.awaitingAfter {declares : Bool} {steps : List Step} (shape : Shape declares steps)
    (here : List String) (outer : List (List String)) :
    ∃ still, NameResolution.awaitingAfter steps (here :: outer) = still :: outer ∧
      (declares = false → still = here) := by
  induction shape generalizing here outer with
  | nil => exact ⟨here, rfl, fun _ => rfl⟩
  | append left right first second =>
    obtain ⟨between, earlier, same⟩ := first here outer
    obtain ⟨still, later, also⟩ := second between outer
    refine ⟨still, by rw [awaitingAfter_append, earlier, later], fun none => ?_⟩
    rw [also none, same none]
  | quiet quiet => exact ⟨here, Step.awaiting_of_quiet quiet _, fun _ => rfl⟩
  | scope inside body =>
    obtain ⟨still, within, -⟩ := body [] (here :: outer)
    refine ⟨here, ?_, fun _ => rfl⟩
    rw [awaitingAfter_cons, Step.awaiting, awaitingAfter_append, within]
    rfl
  | pseudoScope name span inside body =>
    obtain ⟨still, within, -⟩ := body [] (here :: outer)
    refine ⟨here, ?_, fun _ => rfl⟩
    change NameResolution.awaitingAfter (_ ++ [.closeScope]) ([] :: here :: outer) = _
    rw [awaitingAfter_append, within]
    rfl
  | declared name mutable member valued finishes value =>
    obtain ⟨still, initialized, -⟩ := value (name.name :: here) outer
    rw [awaitingAfter_cons, Step.awaiting, List.modifyHead_cons, awaitingAfter_append, initialized]
    rcases awaitingAfter_finishes finishes still outer with same | same
    · exact ⟨still, same, nofun⟩
    · exact ⟨_, same, nofun⟩

/-- Steps that declare no name where they begin leave the names that await their values. -/
theorem Shape.awaitingAfter_eq {steps : List Step} (shape : Shape false steps)
    (here : List String) (outer : List (List String)) :
    NameResolution.awaitingAfter steps (here :: outer) = here :: outer := by
  obtain ⟨still, same, settled⟩ := shape.awaitingAfter here outer
  rw [same, settled rfl]

/-- Where no name awaits its value, none does behind declarations that give their names values. -/
theorem Declaring.awaitingAfter {declarations : List Declaration} {steps : List Step}
    (declaring : Declaring true declarations steps) (outer : List (List String)) :
    NameResolution.awaitingAfter steps ([] :: outer) = [] :: outer := by
  generalize settled : true = valued at declaring
  induction declaring with
  | shape shape => exact shape.awaitingAfter_eq [] outer
  | append left right first second =>
    rw [awaitingAfter_append, first, second]
  | declared name mutable member shape finishes defines =>
    rw [awaitingAfter_cons, Step.awaiting, List.modifyHead_cons, awaitingAfter_append,
      shape.awaitingAfter_eq, awaitingAfter_defines finishes _ _ (defines settled.symm)]
    simp

/-- A binding that is defined awaits no value. -/
theorem Binding.isDeclaredOnly_define (binding : Binding) :
    binding.define.isDeclaredOnly = false := by
  obtain ⟨span, state, mutable, member⟩ := binding
  cases state <;> rfl

/-- A binding that awaits its value behind a reference did so before it. -/
theorem Access.awaited (access : Access) (binding : Binding)
    (awaiting : (access.mark binding).isDeclaredOnly = true) : binding.isDeclaredOnly = true := by
  rw [access.isDeclaredOnly_mark, Bool.and_eq_true] at awaiting
  exact awaiting.1

/-- No binding in a scope is declared and not defined, but for these names. -/
def Scope.AwaitsOnly (names : List String) (scope : Scope) : Prop :=
  ∀ entry ∈ scope.bindings, entry.2.isDeclaredOnly = true → entry.1 ∈ names

namespace Scope.AwaitsOnly

variable {names : List String} {scope : Scope}

/-- More names may be allowed to wait. -/
theorem mono (awaits : scope.AwaitsOnly names) {more : List String} (wider : names ⊆ more) :
    scope.AwaitsOnly more :=
  fun entry listed awaiting => wider (awaits entry listed awaiting)

/-- A binding is inserted among those that wait only under a name that may. -/
theorem insert (awaits : scope.AwaitsOnly names) {name : String} {binding : Binding}
    (fits : binding.isDeclaredOnly = true → name ∈ names) :
    (scope.insert name binding).AwaitsOnly names := by
  obtain ⟨bindings⟩ := scope
  unfold AwaitsOnly Scope.insert at *
  induction bindings with
  | nil => simpa [insertInto] using fits
  | cons entry rest ih =>
    obtain ⟨other, old⟩ := entry
    rw [List.forall_mem_cons] at awaits
    simp only [insertInto]
    split
    · rename_i same
      obtain rfl := eq_of_beq same
      exact List.forall_mem_cons.mpr ⟨fits, awaits.2⟩
    · exact List.forall_mem_cons.mpr ⟨awaits.1, ih awaits.2⟩

/-- A change that makes no binding wait keeps what waits. -/
theorem modify (awaits : scope.AwaitsOnly names) (name : String) {change : Binding → Binding}
    (settles : ∀ binding, (change binding).isDeclaredOnly = true →
      binding.isDeclaredOnly = true) : (scope.modify name change).AwaitsOnly names := by
  intro entry listed awaiting
  obtain ⟨⟨other, binding⟩, before, rfl⟩ := List.mem_map.mp listed
  cases same : name == other with
  | true =>
    simp only [same, if_true] at awaiting ⊢
    exact awaits _ before (settles binding awaiting)
  | false =>
    simp only [same, Bool.false_eq_true, if_false] at awaiting ⊢
    exact awaits _ before awaiting

/-- A name that is defined no longer awaits its value. -/
theorem define (awaits : scope.AwaitsOnly names) (name : String) :
    (scope.modify name Binding.define).AwaitsOnly (names.filter (· != name)) := by
  intro entry listed awaiting
  obtain ⟨⟨other, binding⟩, before, rfl⟩ := List.mem_map.mp listed
  cases same : name == other with
  | true =>
    simp only [same, if_true] at awaiting
    exact absurd awaiting (by rw [binding.isDeclaredOnly_define]; exact Bool.false_ne_true)
  | false =>
    simp only [same, Bool.false_eq_true, if_false] at awaiting ⊢
    have different : other ≠ name := fun equal => (beq_eq_false_iff_ne.mp same) equal.symm
    exact List.mem_filter.mpr ⟨awaits _ before awaiting, bne_iff_ne.mpr different⟩

end Scope.AwaitsOnly

/-- No binding in the open scopes is declared and not defined, but for these
names, which are listed for each scope from the inside out. -/
def ScopeStack.AwaitsOnly (names : List (List String)) (stack : ScopeStack) : Prop :=
  List.Forall₂ Scope.AwaitsOnly names stack.scopes

namespace ScopeStack.AwaitsOnly

variable {names : List (List String)} {stack : ScopeStack}

/-- A change of the innermost scope changes what may wait there and nowhere else. -/
theorem modifyInnermost (awaits : stack.AwaitsOnly names) {further : List String → List String}
    {change : Scope → Scope}
    (fits : ∀ here scope, scope.AwaitsOnly here → (change scope).AwaitsOnly (further here)) :
    (stack.modifyInnermost change).AwaitsOnly (names.modifyHead further) := by
  obtain ⟨scopes⟩ := stack
  cases awaits with
  | nil => exact .nil
  | cons here outer => exact .cons (fits _ _ here) outer

/-- A change in the innermost scope that makes no binding wait. -/
theorem modifyInnermost_same (awaits : stack.AwaitsOnly names) {change : Scope → Scope}
    (fits : ∀ here scope, scope.AwaitsOnly here → (change scope).AwaitsOnly here) :
    (stack.modifyInnermost change).AwaitsOnly names := by
  obtain ⟨scopes⟩ := stack
  cases awaits with
  | nil => exact .nil
  | cons here outer => exact .cons (fits _ _ here) outer

/-- A reference makes no binding wait. -/
theorem updateIn {name : String} {access : Access} {scopes : List Scope}
    (awaits : List.Forall₂ Scope.AwaitsOnly names scopes) :
    ∀ found ∈ ScopeStack.updateIn name access.mark scopes,
      List.Forall₂ Scope.AwaitsOnly names found.2.2 := by
  induction awaits with
  | nil => exact nofun
  | @cons here scope names outer first rest ih =>
    intro found hit
    cases bound : scope.get? name with
    | some binding =>
      simp only [ScopeStack.updateIn, bound, Option.mem_def, Option.some.injEq] at hit
      rw [← hit]
      exact .cons (first.modify name access.awaited) rest
    | none =>
      simp only [ScopeStack.updateIn, bound, Option.mem_def, Option.map_eq_some_iff] at hit
      obtain ⟨further, outside, rfl⟩ := hit
      exact .cons first (ih further outside)

/-- A reference makes no name wait. -/
theorem resolve (awaits : stack.AwaitsOnly names) (config : Config) (node : NodeId)
    (name : Ident) (access : Access) :
    (stack.resolve config node name access).2.AwaitsOnly names := by
  unfold ScopeStack.resolve
  split
  · rename_i hops binding next found
    simp only [update?, Option.map_eq_some_iff] at found
    obtain ⟨changed, inside, same⟩ := found
    cases same
    exact updateIn awaits changed inside
  · split <;> exact awaits

/-- Reading a variable makes no name wait. -/
theorem readVariable (awaits : stack.AwaitsOnly names) (config : Config) (node : NodeId)
    (name : Ident) : (stack.readVariable config node name).2.AwaitsOnly names := by
  unfold ScopeStack.readVariable
  split
  · exact awaits
  · split
    · exact awaits
    · exact awaits.resolve config node name .read

/-- A declaration makes at most its own name wait, in the innermost scope. -/
theorem declare (awaits : stack.AwaitsOnly names) (lints : Lints) (name : Ident)
    (mutable member : Bool) :
    (stack.declare lints name mutable member).2.AwaitsOnly
      (names.modifyHead (name.name :: ·)) := by
  have wider : stack.AwaitsOnly (names.modifyHead (name.name :: ·)) := by
    obtain ⟨scopes⟩ := stack
    cases awaits with
    | nil => exact .nil
    | cons here outer => exact .cons (here.mono (List.subset_cons_self _ _)) outer
  unfold ScopeStack.declare
  split
  · exact wider
  · split
    · exact wider
    · refine awaits.modifyInnermost fun here scope awaited => ?_
      exact (awaited.mono (List.subset_cons_self _ _)).insert fun _ => List.mem_cons_self

/-- A name that is defined no longer waits in the innermost scope. -/
theorem define (awaits : stack.AwaitsOnly names) (name : Ident) :
    (stack.define name).AwaitsOnly (names.modifyHead (·.filter (· != name.name))) := by
  refine awaits.modifyInnermost fun here scope awaited => ?_
  split
  · exact awaited.define name.name
  · rename_i free
    refine Scope.AwaitsOnly.insert (fun entry listed awaiting => ?_) nofun
    have other : entry.1 ≠ name.name := by
      intro same
      have bound : name.name ∈ scope.names := same ▸ List.mem_map_of_mem listed
      rw [Scope.mem_names_iff, free] at bound
      cases bound
    exact List.mem_filter.mpr ⟨awaited entry listed awaiting, bne_iff_ne.mpr other⟩

/-- No binding in an open scope awaits its value but for the names listed for that scope. -/
theorem getElem? (awaits : stack.AwaitsOnly names) {hops : Nat} {scope : Scope}
    (found : stack.scopes[hops]? = some scope) :
    ∃ here, names[hops]? = some here ∧ scope.AwaitsOnly here := by
  obtain ⟨scopes⟩ := stack
  unfold AwaitsOnly at awaits
  dsimp only at awaits found
  induction awaits generalizing hops with
  | nil => cases found
  | @cons here innermost names outer first rest ih =>
    cases hops with
    | zero =>
      cases found
      exact ⟨here, rfl, first⟩
    | succ hops => exact ih found

/-- Where names are listed for an innermost scope, there is one. -/
theorem innermost? {here : List String} {outer : List (List String)}
    (awaits : stack.AwaitsOnly (here :: outer)) :
    ∃ scope, stack.innermost? = some scope ∧ scope.AwaitsOnly here := by
  obtain ⟨scopes⟩ := stack
  cases awaits with
  | cons first rest => exact ⟨_, rfl, first⟩

end ScopeStack.AwaitsOnly

variable {env : Environment} {names : List (List String)} {stack : ScopeStack}

/-- A step makes no bindings wait but those that are read off it. -/
theorem Step.awaitsOnly (step : Step) (awaits : stack.AwaitsOnly names) :
    (step.perform env stack).2.AwaitsOnly (step.awaiting names) := by
  cases step with
  | openScope => exact .cons (fun entry listed => absurd listed List.not_mem_nil) awaits
  | closeScope =>
    rw [ScopeStack.AwaitsOnly, Step.scopes_closeScope]
    obtain ⟨scopes⟩ := stack
    cases awaits with
    | nil => exact .nil
    | cons here outer => exact outer
  | declare name mutable member => exact awaits.declare env.config.lints name mutable member
  | define name => exact awaits.define name
  | excuse name =>
    exact awaits.modifyInnermost_same fun here scope awaited => awaited.modify name
      (Access.awaited .read)
  | bindPseudo name span =>
    exact awaits.modifyInnermost_same fun here scope awaited => awaited.insert nofun
  | resolve node name access => exact awaits.resolve env.config node name access
  | readVariable node name => exact awaits.readVariable env.config node name
  | _ => exact awaits

/-- A run makes no bindings wait but those that are read off its steps. -/
theorem awaitsOnly_run (steps : List Step) (awaits : stack.AwaitsOnly names) :
    (run env steps stack).2.AwaitsOnly (awaitingAfter steps names) := by
  induction steps generalizing stack names with
  | nil => exact awaits
  | cons step rest ih => exact ih (step.awaitsOnly awaits)

end NameResolution
