import NameResolution.Proofs.Declarations.Verdicts
import NameResolution.Proofs.Trace.Levels
import NameResolution.Proofs.Walk.Views

/-!
# Bindings that count as read

Steps that close no scope but those they opened change a binding of the scopes
beneath in one way alone: they count it as read. They do so whatever counts as
read already, and nothing else that they do depends on it, as long as no name of
the scope they begin in awaits its value.
-/

namespace NameResolution

/-- Which bindings count as read: the names of the scope so many scopes out. -/
abbrev Readings := Nat → String → Bool

namespace Readings

/-- No binding. -/
def none : Readings := fun _ _ => false

/-- The bindings of either. -/
def union (first second : Readings) : Readings := fun level name =>
  first level name || second level name

/-- One binding, if the access is one that reads. -/
def single (access : Access) (level : Nat) (name : String) : Readings := fun other asked =>
  access == .read && (other == level && asked == name)

/-- Nothing is added by no readings. -/
@[simp] theorem union_none (readings : Readings) : readings.union none = readings := by
  funext level name
  simp [union, none]

/-- Added to no readings, readings are themselves. -/
@[simp] theorem none_union (readings : Readings) : none.union readings = readings := by
  funext level name
  simp [union, none]

/-- It makes no difference which readings come first. -/
theorem union_comm (first second : Readings) : first.union second = second.union first := by
  funext level name
  exact Bool.or_comm _ _

/-- It makes no difference which readings are put together first. -/
theorem union_assoc (first second third : Readings) :
    (first.union second).union third = first.union (second.union third) := by
  funext level name
  exact Bool.or_assoc _ _ _

/-- The same bindings as they are seen from the scope outside of the innermost. -/
def outward (readings : Readings) : Readings := fun level => readings (level + 1)

/-- Outside the innermost scope, readings together are those outside it together. -/
theorem outward_union (first second : Readings) :
    (first.union second).outward = first.outward.union second.outward := rfl

/-- A reading in the innermost scope is none outside of it. -/
@[simp] theorem outward_single_zero (access : Access) (name : String) :
    (single access 0 name).outward = none := by
  funext level asked
  simp [outward, single, none]

/-- A reading outside the innermost scope is one scope nearer there. -/
@[simp] theorem outward_single_succ (access : Access) (level : Nat) (name : String) :
    (single access (level + 1) name).outward = single access level name := by
  funext other asked
  simp [outward, single]

/-- A reading in the innermost scope adds its own name there. -/
theorem union_single_zero (readings : Readings) (access : Access) (name : String) :
    readings.union (single access 0 name) 0 =
      fun asked => readings 0 asked || (access == .read && asked == name) := by
  funext asked
  simp [union, single]

/-- A reading further out adds no name in the innermost scope. -/
theorem union_single_succ (readings : Readings) (access : Access) (level : Nat) (name : String) :
    readings.union (single access (level + 1) name) 0 = readings 0 := by
  funext asked
  simp [union, single]

end Readings

/-- The binding, read if it is to count as read. -/
def Binding.counted (counts : Bool) (binding : Binding) : Binding :=
  if counts then binding.markRead else binding

/-- What counts as read is declared as before. -/
@[simp] theorem Binding.declaration_counted (counts : Bool) (name : String) (binding : Binding) :
    (binding.counted counts).declaration name = binding.declaration name := by
  cases counts <;> rfl

/-- A read of a binding makes it count as read, and a write leaves it as it is. -/
theorem Binding.mark_counted (access : Access) (counts : Bool) (binding : Binding) :
    access.mark (binding.counted counts) = binding.counted (counts || access == .read) := by
  obtain ⟨span, state, mutable, member⟩ := binding
  cases access <;> cases counts <;> cases state <;> rfl

/-- What counts as read awaits no value. -/
theorem Binding.isDeclaredOnly_counted {binding : Binding} (valued : binding.isDeclaredOnly = false)
    (counts : Bool) : (binding.counted counts).isDeclaredOnly = false := by
  obtain ⟨span, state, mutable, member⟩ := binding
  cases counts <;> cases state <;> first | rfl | exact valued

/-- A scope with some of its names counted as read. -/
def Scope.counted (counts : String → Bool) (scope : Scope) : Scope :=
  ⟨scope.bindings.map fun (name, binding) => (name, binding.counted (counts name))⟩

namespace Scope

/-- A scope in which names count as read declares what it declared. -/
@[simp] theorem lexical_counted (counts : String → Bool) (scope : Scope) :
    (scope.counted counts).lexical = scope.lexical := by
  simp [lexical, counted, Function.comp_def]

/-- Only the name itself decides whether its binding counts as read. -/
theorem get?_counted (counts : String → Bool) (scope : Scope) (name : String) :
    (scope.counted counts).get? name = (scope.get? name).map (Binding.counted (counts name)) := by
  obtain ⟨bindings⟩ := scope
  simp only [counted, get?]
  induction bindings with
  | nil => rfl
  | cons entry rest ih =>
    obtain ⟨other, binding⟩ := entry
    rw [List.map_cons, List.lookup_cons, List.lookup_cons, ih]
    cases same : name == other with
    | true =>
      rw [eq_of_beq same]
      rfl
    | false => rfl

/-- To refer to a name is to have it count as read besides, if the reference is a read. -/
theorem modify_counted (access : Access) (counts : String → Bool) (scope : Scope) (name : String) :
    (scope.counted counts).modify name access.mark =
      scope.counted fun asked => counts asked || (access == .read && asked == name) := by
  simp only [modify, counted, List.map_map, Scope.mk.injEq]
  apply List.map_congr_left
  rintro ⟨other, binding⟩ -
  by_cases same : name = other
  · simp [same, Binding.mark_counted]
  · have flipped : (other == name) = false :=
      beq_eq_false_iff_ne.mpr fun equal => same equal.symm
    simp [same, flipped]

end Scope

/-- Scopes with some of their bindings counted as read. -/
def countRead (readings : Readings) (scopes : List Scope) : List Scope :=
  scopes.mapIdx fun level scope => scope.counted (readings level)

/-- The innermost scope has its own readings, and the others have those outside of it. -/
theorem countRead_cons (readings : Readings) (scope : Scope) (outer : List Scope) :
    countRead readings (scope :: outer) =
      scope.counted (readings 0) :: countRead readings.outward outer :=
  List.mapIdx_cons

/-- Counting bindings as read keeps the number of scopes. -/
@[simp] theorem length_countRead (readings : Readings) (scopes : List Scope) :
    (countRead readings scopes).length = scopes.length :=
  List.length_mapIdx

/-- Without readings all scopes are as they were. -/
theorem countRead_none (scopes : List Scope) : countRead .none scopes = scopes := by
  induction scopes with
  | nil => rfl
  | cons scope outer ih =>
    have same : scope.counted (Readings.none 0) = scope := by
      simp [Scope.counted, Readings.none, Binding.counted]
    rw [countRead_cons, same]
    exact congrArg (scope :: ·) ih

/-- What counts as read does not show in what is declared. -/
theorem map_lexical_countRead (readings : Readings) (scopes : List Scope) :
    (countRead readings scopes).map Scope.lexical = scopes.map Scope.lexical := by
  induction scopes generalizing readings with
  | nil => rfl
  | cons scope outer ih =>
    rw [countRead_cons, List.map_cons, List.map_cons, ih, Scope.lexical_counted]

namespace ScopeStack

/-- A look-up that changes what it finds in scopes of which some bindings count as read. -/
theorem updateIn_countRead (name : String) (access : Access) (readings : Readings)
    (scopes : List Scope) :
    (updateIn name access.mark (countRead readings scopes)).map
        (fun found => (found.1, found.2.2)) =
      (findIn name scopes).map fun found =>
        (found.1, countRead (readings.union (.single access found.1 name)) scopes) := by
  induction scopes generalizing readings with
  | nil => rfl
  | cons scope outer ih =>
    rw [countRead_cons]
    cases here : scope.get? name with
    | some binding =>
      simp only [updateIn, findIn, Scope.get?_counted, here, Option.map_some, countRead_cons,
        Scope.modify_counted, Readings.union_single_zero, Readings.outward_union,
        Readings.outward_single_zero, Readings.union_none]
    | none =>
      have further := congrArg (Option.map fun found : Nat × List Scope =>
        (found.1 + 1, scope.counted (readings 0) :: found.2)) (ih readings.outward)
      simp only [Option.map_map, Function.comp_def] at further
      simp only [updateIn, findIn, Scope.get?_counted, here, Option.map_none, Option.map_map,
        Function.comp_def, countRead_cons, Readings.union_single_succ, Readings.outward_union,
        Readings.outward_single_succ]
      exact further

/-- A look-up that changes what it finds, with scopes opened since on top of others. -/
theorem updateIn_inner_outer (name : String) (change : Binding → Binding)
    (inner outer : List Scope) :
    updateIn name change (inner ++ outer) =
      match updateIn name change inner with
      | some (hops, binding, inner) => some (hops, binding, inner ++ outer)
      | none => (updateIn name change outer).map fun (hops, binding, outer) =>
          (hops + inner.length, binding, inner ++ outer) := by
  induction inner with
  | nil =>
    simp only [List.nil_append, updateIn, List.length_nil, Nat.add_zero]
    exact Option.map_id'.symm
  | cons scope rest ih =>
    simp only [List.cons_append, updateIn, ih]
    cases scope.get? name with
    | some binding => rfl
    | none =>
      cases updateIn name change rest with
      | some found => rfl
      | none => simp [Function.comp_def, Nat.add_assoc]

end ScopeStack

/-- Scopes opened since, on top of others of which some bindings count as read. -/
def stacked (inner outer : List Scope) (counted : Readings) : ScopeStack :=
  ⟨inner ++ countRead counted outer⟩

/-- `Detached act inner outer`: begun with the scopes `inner` opened since, it does the same
whatever bindings of the scopes beneath count as read, and counts further ones as read. -/
def Detached (act : ScopeStack → List Event × ScopeStack) (inner outer : List Scope) : Prop :=
  ∃ events after readings, ∀ counted,
    act (stacked inner outer counted) = (events, stacked after outer (counted.union readings))

/-- What leaves the scopes as they are counts nothing as read. -/
theorem Detached.of_quiet {inner outer : List Scope} {said : ScopeStack → List Event}
    (same : ∀ counted, said (stacked inner outer counted) = said (stacked inner outer .none)) :
    Detached (fun stack => (said stack, stack)) inner outer :=
  ⟨_, inner, .none, fun counted => Prod.ext (same counted) (by rw [Readings.union_none])⟩

/-- The scopes opened since and those beneath make up the height. -/
theorem depth_stacked (inner outer : List Scope) (counted : Readings) :
    (stacked inner outer counted).depth = outer.length + inner.length := by
  rw [stacked, ScopeStack.depth, List.length_append, length_countRead, Nat.add_comm]

/-- What counts as read beneath does not show in what is declared. -/
theorem stacked_lexical (inner outer : List Scope) (counted : Readings) :
    (stacked inner outer counted).lexical = (stacked inner outer .none).lexical := by
  simp only [stacked, ScopeStack.lexical, List.map_append, map_lexical_countRead]

namespace ScopeStack

variable {inner outer : List Scope}

/-- Whether a name may be changed does not depend on what counts as read. -/
theorem detached_requireMutable (name : String) (cause : Span → ResolutionError) :
    Detached (fun stack => (stack.requireMutable name cause, stack)) inner outer :=
  .of_quiet fun counted => by
    rw [requireMutable_eq, requireMutable_eq, stacked_lexical inner outer counted]

/-- A change of the innermost of the scopes opened since. -/
theorem detached_modifyInnermost (opened : 0 < inner.length) (change : Scope → Scope) :
    Detached (fun stack => ([], stack.modifyInnermost change)) inner outer := by
  cases inner with
  | nil => cases opened
  | cons scope rest =>
    refine ⟨[], change scope :: rest, .none, fun counted => ?_⟩
    rw [Readings.union_none]
    rfl

/-- To close a scope that was opened since has nothing to do with those beneath. -/
theorem detached_close (config : Config) (opened : 0 < inner.length) :
    Detached (ScopeStack.close config) inner outer := by
  cases inner with
  | nil => cases opened
  | cons scope rest =>
    refine ⟨((stacked (scope :: rest) outer .none).close config).1, rest, .none, fun counted => ?_⟩
    have same (other : Readings) := close_eq_warnings config scope (rest ++ countRead other outer)
    refine Prod.ext ?_ ?_
    · simp only [stacked, List.cons_append, same, List.length_append, length_countRead]
    · rw [Readings.union_none]
      rfl

/-- A declaration in a scope that was opened since does the same whatever counts as read beneath. -/
theorem detached_declare (lints : Lints) (opened : 0 < inner.length) (name : Ident)
    (mutable member : Bool) :
    Detached (fun stack => stack.declare lints name mutable member) inner outer := by
  cases inner with
  | nil => cases opened
  | cons scope rest =>
    have said (counted : Readings) :
        ((stacked (scope :: rest) outer counted).declare lints name mutable member).1 =
          ((stacked (scope :: rest) outer .none).declare lints name mutable member).1 := by
      rw [declare_fst lints rfl, declare_fst lints rfl, stacked_lexical _ outer counted]
    cases bound : scope.get? name.name with
    | some kept =>
      refine ⟨_, scope :: rest, .none, fun counted => Prod.ext (said counted) ?_⟩
      simp [declare, innermost?, stacked, bound]
    | none =>
      refine ⟨_, scope.insert name.name (.declared name.span mutable member) :: rest, .none,
        fun counted => Prod.ext (said counted) ?_⟩
      simp [declare, innermost?, stacked, bound, modifyInnermost]

/-- A look-up reaches the same binding whatever counts as read, and counts it as read if it
reads. -/
theorem detached_resolve (config : Config) (node : NodeId) (name : Ident) (access : Access) :
    Detached (fun stack => stack.resolve config node name access) inner outer := by
  cases here : updateIn name.name access.mark inner with
  | some found =>
    obtain ⟨hops, binding, after⟩ := found
    refine ⟨[.log (.resolvedAt node name.name hops), .depth node hops], after, .none, ?_⟩
    intro counted
    simp only [resolve, update?, stacked, updateIn_inner_outer, here, Option.map_some,
      Readings.union_none]
  | none =>
    cases found : findIn name.name outer with
    | some hit =>
      refine ⟨[.log (.resolvedAt node name.name (hit.1 + inner.length)),
        .depth node (hit.1 + inner.length)], inner, .single access hit.1 name.name, ?_⟩
      intro counted
      have there := updateIn_countRead name.name access counted outer
      rw [found, Option.map_some, Option.map_eq_some_iff] at there
      obtain ⟨⟨hops, binding, after⟩, updated, same⟩ := there
      obtain ⟨rfl, rfl⟩ := Prod.mk.inj same
      simp only [resolve, update?, stacked, updateIn_inner_outer, here, updated, Option.map_some]
    | none =>
      refine ⟨((stacked inner outer .none).resolve config node name access).1, inner, .none, ?_⟩
      have missed (counted : Readings) :
          (stacked inner outer counted).update? name.name access.mark = none := by
        have there := updateIn_countRead name.name access counted outer
        rw [found, Option.map_none, Option.map_eq_none_iff] at there
        simp only [update?, stacked, updateIn_inner_outer, here, there, Option.map_none]
      intro counted
      rw [Readings.union_none]
      simp only [resolve, missed]
      split <;> rfl

/-- No name of the innermost scope awaits its value. -/
def Settled (stack : ScopeStack) : Prop :=
  ∀ name, (stack.getInnermost? name).any Binding.isDeclaredOnly = false

/-- Counting bindings as read leaves no name awaiting its value. -/
theorem Settled.counted {scopes : List Scope} (settled : Settled ⟨scopes⟩) (counted : Readings)
    (name : String) :
    ((stacked [] scopes counted).getInnermost? name).any Binding.isDeclaredOnly = false := by
  have own := settled name
  cases scopes with
  | nil => rfl
  | cons scope outer =>
    simp only [stacked, List.nil_append, countRead_cons, getInnermost?, innermost?,
      List.head?_cons, Option.bind_some, Scope.get?_counted] at own ⊢
    cases bound : scope.get? name with
    | none => rfl
    | some binding =>
      rw [bound, Option.any_some] at own
      exact Binding.isDeclaredOnly_counted own _

/-- A read of a variable reaches the same binding whatever counts as read, where no name of the
scope beneath awaits its value. -/
theorem detached_readVariable (config : Config) (settled : Settled ⟨outer⟩) (node : NodeId)
    (name : Ident) : Detached (fun stack => stack.readVariable config node name) inner outer := by
  have awaits (counted : Readings) :
      ((stacked inner outer counted).getInnermost? name.name).any Binding.isDeclaredOnly =
        ((stacked inner outer .none).getInnermost? name.name).any Binding.isDeclaredOnly := by
    cases inner with
    | cons scope rest => rfl
    | nil =>
      rw [settled.counted counted name.name, settled.counted .none name.name]
  have resolves : Detached (fun stack => stack.resolve config node name .read) inner outer :=
    detached_resolve config node name .read
  unfold Detached readVariable
  simp only [awaits]
  split
  · exact ⟨_, inner, .none, fun counted => by rw [Readings.union_none]⟩
  · split
    · exact ⟨_, inner, .none, fun counted => by rw [Readings.union_none]⟩
    · exact resolves

end ScopeStack

/-- A step that keeps to the scopes opened since does the same whatever bindings
of the scopes beneath count as read. -/
theorem Step.detached (env : Environment) {step : Step} {inner outer : List Scope}
    (inside : step.Inside inner.length) (settled : ScopeStack.Settled ⟨outer⟩) :
    Detached (fun stack => step.perform env stack) inner outer := by
  have opened (loud : step.quiet = false) (opens : step ≠ .openScope) : 0 < inner.length := by
    rcases inside with rfl | quiet | opened
    · exact absurd rfl opens
    · rw [quiet] at loud
      cases loud
    · exact opened
  cases step with
  | openScope =>
    refine ⟨[.log (.pushScope (inner.length + outer.length + 1))], Scope.empty :: inner, .none,
      fun counted => ?_⟩
    simp [perform, stacked, ScopeStack.push, ScopeStack.depth]
  | closeScope => exact ScopeStack.detached_close env.config (opened rfl (by simp))
  | declare name mutable member =>
    exact ScopeStack.detached_declare env.config.lints (opened rfl (by simp)) name mutable member
  | define name => exact ScopeStack.detached_modifyInnermost (opened rfl (by simp)) _
  | excuse name => exact ScopeStack.detached_modifyInnermost (opened rfl (by simp)) _
  | bindPseudo name span => exact ScopeStack.detached_modifyInnermost (opened rfl (by simp)) _
  | resolve node name access => exact ScopeStack.detached_resolve env.config node name access
  | readVariable node name => exact ScopeStack.detached_readVariable env.config settled node name
  | checkAssign name => exact ScopeStack.detached_requireMutable _ _
  | checkMutate name span => exact ScopeStack.detached_requireMutable _ _
  | requireForeign kind name => exact .of_quiet fun _ => rfl
  | report error => exact .of_quiet fun _ => rfl
  | unreachable span => exact .of_quiet fun _ => rfl
  | abort fault => exact .of_quiet fun _ => rfl

/-- Steps that keep to the scopes opened since do the same whatever bindings of
the scopes beneath count as read. -/
theorem run_detached (env : Environment) {steps : List Step} {inner outer : List Scope}
    (confined : Confined inner.length steps) (settled : ScopeStack.Settled ⟨outer⟩) :
    Detached (run env steps) inner outer := by
  induction steps generalizing inner with
  | nil => exact ⟨[], inner, .none, fun counted => by rw [Readings.union_none]; rfl⟩
  | cons step rest ih =>
    obtain ⟨inside, confined⟩ := confined
    obtain ⟨said, next, readings, performs⟩ := step.detached env inside settled
    have performs (counted : Readings) : step.perform env (stacked inner outer counted) =
        (said, stacked next outer (counted.union readings)) := performs counted
    have height : next.length = step.height inner.length := by
      have depth := step.depth_perform env (stacked inner outer .none)
      rw [performs, depth_stacked, depth_stacked, step.height_add inside] at depth
      exact Nat.add_left_cancel depth
    rw [← height] at confined
    obtain ⟨later, last, further, runs⟩ := ih confined
    refine ⟨said ++ later, last, readings.union further, fun counted => ?_⟩
    rw [run_cons, performs, runs, ← Readings.union_assoc]

/-- Steps that declare nothing where they begin count bindings as read, and leave the scopes
as they are otherwise. -/
theorem Shape.run_countRead {steps : List Step} (shape : Shape false steps) (env : Environment)
    {scopes : List Scope} (settled : ScopeStack.Settled ⟨scopes⟩) :
    ∃ events readings, ∀ counted,
      run env steps ⟨countRead counted scopes⟩ =
        (events, ⟨countRead (counted.union readings) scopes⟩) := by
  have confined : Confined ([] : List Scope).length steps :=
    shape.confined (absurd · Bool.false_ne_true)
  obtain ⟨events, after, readings, runs⟩ := run_detached env confined settled
  -- every scope opened since is closed again
  have depth : (run env steps (stacked [] scopes .none)).2.depth =
      (stacked [] scopes .none).depth := (shape.framed env _).depth
  rw [runs, depth_stacked, depth_stacked] at depth
  obtain rfl : after = [] := List.length_eq_zero_iff.mp (Nat.add_left_cancel depth)
  exact ⟨events, readings, runs⟩

/-- Where no name of the innermost scope awaits its value, steps that declare nothing there
may trade places with others of that kind. -/
theorem run_commute (env : Environment) {first second : List Step} (left : Shape false first)
    (right : Shape false second) {stack : ScopeStack} (settled : stack.Settled) :
    ∃ after,
      run env (first ++ second) stack =
          ((run env first stack).1 ++ (run env second stack).1, after) ∧
        run env (second ++ first) stack =
          ((run env second stack).1 ++ (run env first stack).1, after) := by
  obtain ⟨scopes⟩ := stack
  obtain ⟨events, readings, runs⟩ := left.run_countRead env settled
  obtain ⟨later, further, follows⟩ := right.run_countRead env settled
  have begins := runs .none
  have begins' := follows .none
  simp only [countRead_none, Readings.none_union] at begins begins'
  refine ⟨⟨countRead (readings.union further) scopes⟩, ?_, ?_⟩
  · rw [run_append, begins, begins', follows]
  · rw [run_append, begins, begins', runs, Readings.union_comm]

/-- Such steps may trade places between others, which do the same either way. -/
theorem run_traded (env : Environment) {first second : List Step} (left : Shape false first)
    (right : Shape false second) {before : List Step} {start : ScopeStack}
    (settled : (run env before start).2.Settled) (behind : List Step) :
    ∃ later last,
      run env (before ++ (first ++ second) ++ behind) start =
          ((run env before start).1 ++ ((run env first (run env before start).2).1 ++
            (run env second (run env before start).2).1) ++ later, last) ∧
        run env (before ++ (second ++ first) ++ behind) start =
          ((run env before start).1 ++ ((run env second (run env before start).2).1 ++
            (run env first (run env before start).2).1) ++ later, last) := by
  obtain ⟨after, runs, traded⟩ := run_commute env left right settled
  refine ⟨(run env behind after).1, (run env behind after).2, ?_, ?_⟩
  · rw [run_append, run_append env before, runs]
  · rw [run_append, run_append env before, traded]

end NameResolution
