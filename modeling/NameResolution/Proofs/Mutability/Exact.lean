import NameResolution.Proofs.Lexical.Accounting
import NameResolution.Proofs.Mutability.Origins
import NameResolution.Proofs.Walk.Events

/-!
# Mutability

An assignment is checked before its value is walked, and the depth of its name
is looked up behind it; a member assignment through a variable is checked when
its value and its object have been walked. All of these agree on the binding
they mean, since no expression changes which declarations are in force. So the
checks report exactly the immutable bindings, and what passes them is a global
or was introduced as mutable.
-/

namespace NameResolution

variable {env : Environment} {program : Program} {events : List Event} {context : Context}
  {before after : List Step}

/-- Walking an expression leaves the declarations in force. -/
theorem Expr.lexical_run (env : Environment) (context : Context) (expr : Expr)
    (stack : ScopeStack) :
    (run env (expr.walk env.config.initializerName context) stack).2.lexical = stack.lexical := by
  rw [NameResolution.lexical_run]
  exact (expr.covers env.config.initializerName context stack.lexical).rescope

/-- Among the outcomes of events are the depths that are entered. -/
theorem recorded_mem_outcomesOf {events : List Event} {node : NodeId} {hops : Nat} :
    .recorded node hops ∈ outcomesOf events ↔ .depth node hops ∈ events := by
  rw [outcomesOf, List.mem_filterMap]
  constructor
  · rintro ⟨event, listed, outcome⟩
    obtain rfl : event = .depth node hops := by
      cases event with
      | depth other further =>
        simp only [Event.outcome?, Option.some.injEq, Outcome.recorded.injEq] at outcome
        rw [outcome.1, outcome.2]
      | log entry => cases entry <;> cases outcome
      | diagnostic found =>
        cases found with
        | warning warning => cases outcome
        | error error =>
          simp only [Event.outcome?] at outcome
          split at outcome <;> cases outcome
      | asked kind name answer => cases outcome
    exact listed
  · intro listed
    exact ⟨_, listed, rfl⟩

namespace ScopeStack

/-- A look-up enters the depth of the innermost scope that binds the name. -/
theorem depth_mem_resolve {config : Config} {stack : ScopeStack} {node : NodeId} {name : Ident}
    {access : Access} {hops : Nat} :
    .depth node hops ∈ (stack.resolve config node name access).1 ↔
      stack.lexical.depth? name.name = some hops := by
  rw [← recorded_mem_outcomesOf, outcomesOf_resolve, List.mem_singleton]
  cases stack.lexical.depth? name.name with
  | some depth => simp [eq_comm]
  | none =>
    dsimp only
    split <;> simp

/-- Checks agree where the same declarations are in force. -/
theorem requireMutable_congr {stack other : ScopeStack} (same : stack.lexical = other.lexical)
    (name : String) (cause : Span → ResolutionError) :
    stack.requireMutable name cause = other.requireMutable name cause := by
  rw [requireMutable_eq, requireMutable_eq, same]

/-- Asking for a mutable binding gives one error at most, of a given cause. -/
theorem requireMutable_single (stack : ScopeStack) (name : String)
    (cause : Span → ResolutionError) :
    stack.requireMutable name cause = [] ∨
      ∃ declared, stack.requireMutable name cause = [.error (cause declared)] := by
  unfold requireMutable
  split
  · rename_i binding _
    split
    · exact .inl rfl
    · exact .inr ⟨binding.span, rfl⟩
  · exact .inl rfl

/-- A check reports the span of the binding that it finds to be immutable. -/
theorem requireMutable_eq_error_iff {stack : ScopeStack} {name : String}
    {cause : Span → ResolutionError} (injective : ∀ {span other}, cause span = cause other →
      span = other) {declared : Span} :
    stack.requireMutable name cause = [.error (cause declared)] ↔
      ∃ hops binding, stack.find? name = some (hops, binding) ∧ binding.mutable = false ∧
        binding.span = declared := by
  unfold requireMutable
  cases stack.find? name with
  | none => simp
  | some hit =>
    obtain ⟨hops, binding⟩ := hit
    simp only [Option.some.injEq, Prod.mk.injEq]
    cases mutable : binding.mutable with
    | true =>
      constructor
      · intro reported
        simp at reported
      · rintro ⟨_, _, ⟨-, rfl⟩, immutable, -⟩
        rw [mutable] at immutable
        cases immutable
    | false =>
      simp only [Bool.false_eq_true, if_false, List.cons.injEq, and_true, Event.error,
        Event.diagnostic.injEq, Diagnostic.error.injEq]
      constructor
      · intro reported
        exact ⟨hops, binding, ⟨rfl, rfl⟩, mutable, injective reported⟩
      · rintro ⟨_, _, ⟨-, rfl⟩, -, rfl⟩
        rfl

end ScopeStack

/-- What comes of the value of an assignment, walked where the assignment stands. -/
def Expr.resolved (env : Environment) (context : Context) (before : List Step) (value : Expr) :
    List Event × ScopeStack :=
  run env (value.walk env.config.initializerName context) (run env before .empty).2

/-- What the check of an assigned name reports, where the assignment stands. -/
def assignCheck (env : Environment) (before : List Step) (name : Ident) : List Event :=
  ((Step.checkAssign name).perform env (run env before .empty).2).1

/-- What happens at an assignment that is walked: the check, then what comes of
the value, then what comes of looking the name up. The check reports that the
binding is immutable if and only if the depth that is entered for the node is
that of an immutable binding, and then it names the span of that binding. -/
structure AssignVerdict (env : Environment) (program : Program) (events : List Event)
    (context : Context) (before : List Step) (node : Node) (name : Ident) (value : Expr) :
    Prop where
  happens : ∃ later, events = eventsBefore env program before ++
    (assignCheck env before name ++ (value.resolved env context before).1 ++
      ((value.resolved env context before).2.resolve env.config node.id name .write).1) ++ later
  single : assignCheck env before name = [] ∨
    ∃ declared, assignCheck env before name =
      [.error (.reassignImmutable name.name name.span declared)]
  exact : ∀ declared,
    assignCheck env before name = [.error (.reassignImmutable name.name name.span declared)] ↔
      ∃ hops binding,
        .depth node.id hops ∈
            ((value.resolved env context before).2.resolve env.config node.id name .write).1 ∧
          (value.resolved env context before).2.bindingAt? hops name.name = some binding ∧
          binding.mutable = false ∧ binding.span = declared

/-- Every assignment that is walked is checked exactly. -/
theorem Visits.assignVerdict (faultFree : observe env program = (events, none)) {node : Node}
    {name : Ident} {value : Expr}
    (visits : Visits env.config.initializerName program (.expr (.assign node name value)) context
      before after) :
    AssignVerdict env program events context before node name value where
  happens := by
    obtain ⟨later, same⟩ := visits.happens faultFree
    refine ⟨later, ?_⟩
    rw [same, Piece.walk, Expr.walk, run_cons, run_append, run_singleton, assignCheck,
      Expr.resolved]
    simp only [List.append_assoc]
    rfl
  single := ScopeStack.requireMutable_single _ _ _
  exact declared := by
    have view := value.lexical_run env context (run env before .empty).2
    have check : assignCheck env before name =
        (value.resolved env context before).2.requireMutable name.name
          (.reassignImmutable name.name name.span ·) :=
      ScopeStack.requireMutable_congr view.symm _ _
    rw [check, ScopeStack.requireMutable_eq_error_iff (by simp)]
    simp only [ScopeStack.depth_mem_resolve, ScopeStack.find?_eq_some_iff, and_assoc]

/-- What comes of the value and then the object of a member assignment. -/
def Expr.resolvedThrough (env : Environment) (context : Context) (before : List Step)
    (object value : Expr) : List Event × ScopeStack :=
  run env (value.walk env.config.initializerName context ++
    object.walk env.config.initializerName context) (run env before .empty).2

/-- What the check of the object of a member assignment at `span` reports. -/
def setCheck (env : Environment) (context : Context) (before : List Step) (span : Span)
    (object value : Expr) : List Event :=
  (run env (Step.setTarget span object) (object.resolvedThrough env context before value).2).1

/-- What happens at a member assignment that is walked: what comes of the value
and the object, then the check. Through a variable, the check reports that the
binding is immutable if and only if the innermost binding of the name is, and
then it names the span of that binding. Through other objects it reports
nothing. -/
structure SetVerdict (env : Environment) (program : Program) (events : List Event)
    (context : Context) (before : List Step) (node : Node) (object value : Expr) : Prop where
  happens : ∃ later, events = eventsBefore env program before ++
    ((object.resolvedThrough env context before value).1 ++
      setCheck env context before node.span object value) ++ later
  single : ∀ name, object.asVariable? = some name →
    setCheck env context before node.span object value = [] ∨
      ∃ declared, setCheck env context before node.span object value =
        [.error (.mutateThroughImmutable name.name node.span declared)]
  exact : ∀ name, object.asVariable? = some name → ∀ declared,
    setCheck env context before node.span object value =
        [.error (.mutateThroughImmutable name.name node.span declared)] ↔
      ∃ hops binding,
        (object.resolvedThrough env context before value).2.find? name.name =
            some (hops, binding) ∧
          binding.mutable = false ∧ binding.span = declared
  other : object.asVariable? = none → setCheck env context before node.span object value = []

/-- The check of a variable is that of its name. -/
theorem setCheck_of_variable {span : Span} {object value : Expr} {name : Ident}
    (named : object.asVariable? = some name) :
    setCheck env context before span object value =
      (object.resolvedThrough env context before value).2.requireMutable name.name
        (.mutateThroughImmutable name.name span ·) := by
  cases object with
  | var node own =>
    cases named
    rw [setCheck, Step.setTarget, run_singleton]
    rfl
  | _ => cases named

/-- Every member assignment that is walked is checked exactly. -/
theorem Visits.setVerdict (faultFree : observe env program = (events, none)) {node : Node}
    {object value : Expr} {member : Ident}
    (visits : Visits env.config.initializerName program (.expr (.set node object member value))
      context before after) :
    SetVerdict env program events context before node object value where
  happens := by
    obtain ⟨later, same⟩ := visits.happens faultFree
    refine ⟨later, ?_⟩
    rw [same, Piece.walk, Expr.walk, run_append, setCheck, Expr.resolvedThrough]
  single name named := by
    rw [setCheck_of_variable named]
    exact ScopeStack.requireMutable_single _ _ _
  exact name named declared := by
    rw [setCheck_of_variable named, ScopeStack.requireMutable_eq_error_iff (by simp)]
  other unnamed := by
    cases object <;> first | rfl | cases unnamed

/-- An error which says that a binding must not change is that of the check of
an assignment or of a member assignment through a variable, made where the
walk is behind `earlier`. -/
inductive CheckedAt (env : Environment) (program : Program) (earlier : List Event) :
    ResolutionError → Prop where
  | assign {context : Context} {before after : List Step} {node : Node} {name : Ident}
      {value : Expr} (declared : Span)
      (visits : Visits env.config.initializerName program (.expr (.assign node name value))
        context before after)
      (here : earlier = eventsBefore env program before) :
      CheckedAt env program earlier (.reassignImmutable name.name name.span declared)
  | set {context : Context} {before after : List Step} {node : Node} {object value : Expr}
      {member name : Ident} (declared : Span)
      (visits : Visits env.config.initializerName program (.expr (.set node object member value))
        context before after)
      (named : object.asVariable? = some name)
      (here : earlier = eventsBefore env program before ++
        (object.resolvedThrough env context before value).1) :
      CheckedAt env program earlier (.mutateThroughImmutable name.name node.span declared)

/-- The steps that an error which says that a binding must not change can come of. -/
theorem Step.of_forbidsChange {step : Step} {error : ResolutionError}
    (emits : step.Emits (.error error)) (forbids : error.forbidsChange = true) :
    (∃ name declared, step = .checkAssign name ∧
        error = .reassignImmutable name.name name.span declared) ∨
      (∃ name span declared, step = .checkMutate name span ∧
        error = .mutateThroughImmutable name.name span declared) ∨
      step = .report error := by
  generalize seen : Event.error error = event at emits
  cases emits with
  | reassigned name declared =>
    cases seen
    exact .inl ⟨name, declared, rfl, rfl⟩
  | mutated name span declared =>
    cases seen
    exact .inr (.inl ⟨name, span, declared, rfl, rfl⟩)
  | reported own =>
    cases seen
    exact .inr (.inr rfl)
  | resolved access lookUp =>
    cases lookUp <;> cases seen
    cases forbids
  | read lookUp =>
    cases lookUp <;> cases seen
    cases forbids
  | unregistered kind name =>
    cases kind <;> cases seen <;> cases forbids
  | duplicate | selfReference | discarded => cases seen; cases forbids
  | opened | closed | unused | shadowed | asked | unreachable => cases seen

/-- An assigned name is checked before anything else of the assignment. -/
theorem MadeAt.checkedAssign {first : List Step} {name : Ident} {piece : Piece}
    {leading : List Item}
    (made : MadeAt env.config.initializerName program first (.checkAssign name) piece context before
      leading) (declared : Span) :
    CheckedAt env program (eventsBefore env program first)
      (.reassignImmutable name.name name.span declared) := by
  obtain ⟨node, value, rfl⟩ := Piece.origin made.mem
  obtain ⟨rfl, trailing, after, items, visits⟩ := made
  have split : [] ++ .step (.checkAssign name) ::
      [.visit (.expr value) context, .step (.resolve node.id name .write)] =
        leading ++ .step (.checkAssign name) :: trailing := items
  obtain ⟨rfl, -⟩ := (List.append_cons_inj_of_notMem List.not_mem_nil (by simp)).mp split
  refine .assign declared visits ?_
  rw [List.flatMap_nil, List.append_nil]

/-- The object of a member assignment is checked behind its value and itself. -/
theorem MadeAt.checkedSet {first : List Step} {name : Ident} {span : Span} {piece : Piece}
    {leading : List Item}
    (made : MadeAt env.config.initializerName program first (.checkMutate name span) piece context
      before leading) (declared : Span) :
    CheckedAt env program (eventsBefore env program first)
      (.mutateThroughImmutable name.name span declared) := by
  obtain ⟨node, object, member, value, rfl, named, rfl⟩ := Piece.origin made.mem
  obtain ⟨rfl, trailing, after, items, visits⟩ := made
  have split : [.visit (.expr value) context, .visit (.expr object) context] ++
      .step (.checkMutate name node.span) :: [] =
        leading ++ .step (.checkMutate name node.span) :: trailing := by
    cases object with
    | var target own =>
      cases named
      exact items
    | _ => cases named
  obtain ⟨rfl, -⟩ := (List.append_cons_inj_of_notMem (by simp) List.not_mem_nil).mp split
  refine .set declared visits named ?_
  rw [eventsBefore_append, Expr.resolvedThrough]
  simp [Item.walk, Piece.walk]

/-- Nothing else says that a binding must not change. -/
theorem checkedAt_of_forbidsChange (faultFree : observe env program = (events, none))
    {earlier later : List Event} {error : ResolutionError}
    (split : events = earlier ++ .error error :: later) (forbids : error.forbidsChange = true) :
    CheckedAt env program earlier error := by
  obtain ⟨first, step, rest, inside, behind, walked, emits, here, rfl⟩ :=
    exists_step_of_diagnostic faultFree split
  -- A check makes one report at most, so nothing of the same step comes before it.
  have alone {stack : ScopeStack} {name : String} {cause : Span → ResolutionError}
      (reports : stack.requireMutable name cause = inside ++ .error error :: behind) :
      eventsBefore env program first ++ inside = eventsBefore env program first := by
    rcases stack.requireMutable_single name cause with none | ⟨declared, one⟩
    · rw [none] at reports
      simp at reports
    · rw [one] at reports
      rcases List.singleton_eq_append_iff.mp reports with ⟨rfl, -⟩ | ⟨-, other⟩
      · exact List.append_nil _
      · cases other
  rcases Program.exists_madeAt walked with
    ⟨-, rfl⟩ | ⟨-, rfl⟩ | ⟨piece, context, before, leading, made⟩
  · rcases Step.of_forbidsChange emits forbids with ⟨_, _, same, -⟩ | ⟨_, _, _, same, -⟩ | same <;>
      cases same
  · rcases Step.of_forbidsChange emits forbids with ⟨_, _, same, -⟩ | ⟨_, _, _, same, -⟩ | same <;>
      cases same
  · rcases Step.of_forbidsChange emits forbids with
      ⟨name, declared, rfl, rfl⟩ | ⟨name, span, declared, rfl, rfl⟩ | rfl
    · rw [alone here]
      exact made.checkedAssign declared
    · rw [alone here]
      exact made.checkedSet declared
    · have plain : error.isPlain = true := Piece.origin made.mem
      cases error with
      | reassignImmutable _ _ _ | mutateThroughImmutable _ _ _ => cases plain
      | _ => cases forbids

/-- Whether a name may change where the walk is behind `before`: no scope binds
it, and it is a global, or its innermost binding was introduced as mutable. -/
def Changeable (env : Environment) (program : Program) (before : List Step) (name : String) :
    Prop :=
  ((rescope before []).depth? name = none ∧ env.config.isGlobal name = true) ∨
    ∃ hops, (rescope before []).depth? name = some hops ∧
      IntroducedMutable env.config.initializerName program before name hops

/-- A name that some scope binds means the declaration in that scope. -/
theorem LexicalScopes.exists_meaning {scopes : LexicalScopes} {name : String} {hops : Nat}
    (bound : scopes.depth? name = some hops) :
    ∃ scope declaration, scopes[hops]? = some scope ∧ declaration ∈ scope ∧
      declaration.name = name ∧ scopes.meaning? name = some declaration := by
  have binds := (depth?_eq_some_iff.mp bound).1
  obtain ⟨scope, there, own⟩ := (Option.any_eq_true _ _).mp binds
  obtain ⟨declaration, found⟩ : ∃ declaration, scope.get? name = some declaration := by
    apply Option.isSome_iff_exists.mp
    rw [LexicalScope.get?, List.find?_isSome]
    simpa [LexicalScope.binds] using own
  refine ⟨scope, declaration, there, List.mem_of_find?_eq_some found, ?_, ?_⟩
  · rw [LexicalScope.get?] at found
    have same := List.find?_some found
    exact eq_of_beq same
  · rw [meaning?, bound, Option.bind_some, declarationAt?, there, Option.bind_some, found]

/-- What passes a check for mutability may change. -/
theorem changeable_of_check {stack : ScopeStack} (view : stack.lexical = rescope before [])
    {after : List Step}
    (walked : Program.walk env.config.initializerName program = before ++ after) {name : String}
    {cause : Span → ResolutionError} (passed : stack.requireMutable name cause = [])
    (global : (rescope before []).depth? name = none → env.config.isGlobal name = true) :
    Changeable env program before name := by
  cases bound : (rescope before []).depth? name with
  | none => exact .inl ⟨bound, global bound⟩
  | some hops =>
    obtain ⟨scope, declaration, there, listed, rfl, meant⟩ := LexicalScopes.exists_meaning bound
    have mutable : declaration.mutable = true := by
      rw [ScopeStack.requireMutable_eq, view, meant] at passed
      simpa using passed
    exact .inr ⟨hops, bound, introducedMutable_of_mem walked there listed mutable⟩

namespace ScopeStack

/-- A name that no scope binds and that is looked up without an error is a global. -/
theorem isGlobal_of_resolve {config : Config} {stack : ScopeStack} {node : NodeId} {name : Ident}
    {access : Access} (unbound : stack.lexical.depth? name.name = none)
    (accepted : ∀ error, .error error ∉ (stack.resolve config node name access).1) :
    config.isGlobal name.name = true := by
  apply Bool.of_not_eq_false
  intro unknown
  have none : stack.update? name.name access.mark = none := by
    rw [← map_fst_find?, find?, ← map_fst_updateIn name.name access.mark] at unbound
    rw [update?, Option.map_eq_none_iff]
    exact Option.map_eq_none_iff.mp unbound
  apply accepted (.notDeclared name.name name.span)
  rw [resolve, none]
  simp [unknown]

/-- A variable that no scope binds and that is read without an error is a global. -/
theorem isGlobal_of_readVariable {config : Config} {stack : ScopeStack} {node : NodeId}
    {name : Ident} (unbound : stack.lexical.depth? name.name = none)
    (accepted : ∀ error, .error error ∉ (stack.readVariable config node name).1) :
    config.isGlobal name.name = true := by
  unfold readVariable at accepted
  split at accepted
  · exact absurd List.mem_cons_self (accepted _)
  · split at accepted
    · exact absurd List.mem_cons_self (accepted _)
    · exact isGlobal_of_resolve unbound accepted

end ScopeStack

/-- In a run without errors, what is assigned may change. -/
theorem Visits.changeable_assign (faultFree : observe env program = (events, none))
    (noErrors : ∀ error, .error error ∉ events) {node : Node} {name : Ident} {value : Expr}
    (visits : Visits env.config.initializerName program (.expr (.assign node name value)) context
      before after) : Changeable env program before name.name := by
  have verdict := visits.assignVerdict faultFree
  obtain ⟨later, happens⟩ := verdict.happens
  have view := lexical_run env before .empty
  have walked := visits.walk
  rw [List.append_assoc] at walked
  have passed : assignCheck env before name = [] := by
    rcases verdict.single with passed | ⟨declared, reported⟩
    · exact passed
    · apply absurd _ (noErrors (.reassignImmutable name.name name.span declared))
      rw [happens, reported]
      simp
  apply changeable_of_check view walked passed
  · intro unbound
    have behind : (value.resolved env context before).2.lexical.depth? name.name = none := by
      rw [Expr.resolved, value.lexical_run, view]
      exact unbound
    apply ScopeStack.isGlobal_of_resolve behind
    intro error found
    apply noErrors error
    rw [happens]
    exact List.mem_append_left _ (List.mem_append_right _ (List.mem_append_right _ found))

/-- In a run without errors, a variable that a member is assigned through may change. -/
theorem Visits.changeable_set (faultFree : observe env program = (events, none))
    (noErrors : ∀ error, .error error ∉ events) {node : Node} {object value : Expr}
    {member name : Ident} (named : object.asVariable? = some name)
    (visits : Visits env.config.initializerName program (.expr (.set node object member value))
      context before after) : Changeable env program before name.name := by
  have verdict := visits.setVerdict faultFree
  obtain ⟨later, happens⟩ := verdict.happens
  have view : (run env before .empty).2.lexical = rescope before [] :=
    lexical_run env before .empty
  have inside := value.lexical_run env context (run env before .empty).2
  have behind :
      (object.resolvedThrough env context before value).2.lexical = rescope before [] := by
    rw [Expr.resolvedThrough, run_append, object.lexical_run, inside, view]
  have walked := visits.walk
  rw [List.append_assoc] at walked
  have passed : setCheck env context before node.span object value = [] := by
    rcases verdict.single name named with passed | ⟨declared, reported⟩
    · exact passed
    · apply absurd _ (noErrors (.mutateThroughImmutable name.name node.span declared))
      rw [happens, reported]
      simp
  rw [setCheck_of_variable named] at passed
  apply changeable_of_check behind walked passed
  · intro unbound
    rw [← view, ← inside] at unbound
    cases object with
    | var target own =>
      cases named
      apply ScopeStack.isGlobal_of_readVariable unbound
      intro error found
      apply noErrors error
      rw [happens, Expr.resolvedThrough, run_append, Expr.walk, run_singleton]
      exact List.mem_append_left _ (List.mem_append_right _
        (List.mem_append_left _ (List.mem_append_right _ found)))
    | _ => cases named

/-- The checks of mutability in a run: what happens at each assignment and at
each member assignment that is walked, and that nothing else says that a
binding must not change. -/
structure ChecksMutability (env : Environment) (program : Program) (events : List Event) :
    Prop where
  assign : ∀ context before after node name value,
    Visits env.config.initializerName program (.expr (.assign node name value)) context before
      after → AssignVerdict env program events context before node name value
  set : ∀ context before after node object member value,
    Visits env.config.initializerName program (.expr (.set node object member value)) context
      before after → SetVerdict env program events context before node object value
  only : ∀ earlier later error, events = earlier ++ .error error :: later →
    error.forbidsChange = true → CheckedAt env program earlier error

/-- What may change in a program that may run. All of the program is walked, and
every name that is assigned, itself or a member through it, may change. -/
structure ChangesWhatMayChange (env : Environment) (program : Program) : Prop where
  walked : ∀ piece, Within env.config.initializerName (.stmts program) piece →
    ∃ context before after, Visits env.config.initializerName program piece context before after
  assign : ∀ context before after node name value,
    Visits env.config.initializerName program (.expr (.assign node name value)) context before
      after → Changeable env program before name.name
  set : ∀ context before after node object member value name,
    Visits env.config.initializerName program (.expr (.set node object member value)) context
      before after → object.asVariable? = some name → Changeable env program before name.name

/-- Without errors, only what may change is changed. -/
theorem changesWhatMayChange (faultFree : observe env program = (events, none))
    (noErrors : (reportOf events).hasErrors = false) : ChangesWhatMayChange env program := by
  have accepted (error : ResolutionError) : .error error ∉ events := by
    intro happened
    rw [hasErrors_of_mem happened] at noErrors
    cases noErrors
  refine ⟨?_, ?_, ?_⟩
  · intro piece within
    apply within.visits
    intro span listed
    apply accepted (.initializerReturnValue span)
    rw [observe_eq_run faultFree]
    exact List.mem_cons_of_mem _ (List.mem_append_left _ (error_mem_run listed .empty))
  · intro context before after node name value visits
    exact visits.changeable_assign faultFree accepted
  · intro context before after node object member value name visits named
    exact visits.changeable_set faultFree accepted named

/-- Mutability is checked exactly. In a run without a fault, an assignment is
reported if and only if the binding that its own depth designates is immutable,
and a member assignment through a variable if and only if the innermost binding
of the variable is; both name the span of the declaration, and nothing else is
reported to be immutable. So in a program that may run, every name that is
assigned, and every variable that a member is assigned through, is a global
that no scope binds or was introduced by a mutable variable or parameter. -/
theorem resolve_mutability_exact {resolution : Resolution}
    (succeeds : resolve env program = .ok resolution) :
    ∃ events, observe env program = (events, none) ∧ resolution.report = reportOf events ∧
      ChecksMutability env program events ∧
      (resolution.canProceed = true → ChangesWhatMayChange env program) := by
  obtain ⟨events, faultFree, rfl⟩ := resolve_eq_ok_iff.mp succeeds
  refine ⟨events, faultFree, rfl, ⟨?_, ?_, ?_⟩, ?_⟩
  · intro context before after node name value visits
    exact visits.assignVerdict faultFree
  · intro context before after node object member value visits
    exact visits.setVerdict faultFree
  · intro earlier later error split forbids
    exact checkedAt_of_forbidsChange faultFree split forbids
  · intro proceeds
    apply changesWhatMayChange faultFree
    simpa [Resolution.canProceed] using proceeds

/-- A function with a mutable parameter that it assigns: `fn f(mut x) { x = nil; }`. -/
def assignedParameter : FunctionDecl :=
  ⟨some ⟨"f", default⟩, [⟨⟨"x", default⟩, .any true default⟩], none,
    [.expression ⟨⟨1⟩, default⟩
      (.assign ⟨⟨2⟩, default⟩ ⟨"x", default⟩ (.literal ⟨⟨3⟩, default⟩ .nil))], false, default⟩

/-- A mutable parameter may be assigned, and the program may run. -/
theorem resolve_mutability_exact_parameter :
    ∃ resolution, resolve .bare [.function ⟨⟨0⟩, default⟩ assignedParameter] = .ok resolution ∧
      resolution.canProceed = true ∧
      ChangesWhatMayChange .bare [.function ⟨⟨0⟩, default⟩ assignedParameter] := by
  have succeeds : resolve .bare [.function ⟨⟨0⟩, default⟩ assignedParameter] =
      .ok ⟨DepthTable.empty.record ⟨2⟩ 0, []⟩ := rfl
  obtain ⟨events, -, -, -, changes⟩ := resolve_mutability_exact succeeds
  exact ⟨_, succeeds, rfl, changes rfl⟩

end NameResolution
