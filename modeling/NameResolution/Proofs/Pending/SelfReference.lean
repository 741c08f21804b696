import NameResolution.Proofs.Declarations.Extents
import NameResolution.Proofs.Pending.Initializing
import NameResolution.Proofs.Unused.Exact
import NameResolution.Proofs.Walk.Events

/-!
# Bindings that await their values

On every run, faults or not: where the walk of a statement or an expression begins
or ends, the bindings that await their values are those of the variables in whose
initializers it stands, one for each scope at most. So a variable that is reported
to be read in its own initializer does stand in such an initializer, and in the
scope of that declaration.
-/

namespace NameResolution

/-- Whether a piece is a statement or an expression. -/
def Piece.isNode : Piece → Bool
  | .expr _ => true
  | .stmt _ => true
  | _ => false

/-- In each open scope, the bindings that await their values are those of a single
variable, in whose initializer the piece stands. -/
def ScopeStack.AwaitsInitializers (stack : ScopeStack) (initializerName : String)
    (program : Program) (piece : Piece) (context : Context) (before : List Step) : Prop :=
  ∀ hops scope, stack.scopes[hops]? = some scope →
    ∃ awaited : Option Ident,
      (∀ name ∈ awaited, Initializing initializerName program piece context before hops name) ∧
      ∀ entry ∈ scope.bindings, entry.2.isDeclaredOnly = true →
        ∃ name ∈ awaited, entry.1 = name.name

variable {env : Environment} {program : Program}

/-- A run makes no bindings wait but those that are read off its steps. -/
theorem awaitsOnly_run_empty (env : Environment) (steps : List Step) :
    (run env steps .empty).2.AwaitsOnly (awaitingAfter steps []) :=
  awaitsOnly_run steps .nil

/-- Bindings that await their values where a piece begins do so in its initializers. -/
theorem Begins.awaitsInitializers {initializerName : String} {piece : Piece} {context : Context}
    {before : List Step}
    (begins : Begins initializerName program piece context before (awaitingAfter before []))
    (node : piece.isNode = true) {stack : ScopeStack}
    (awaits : stack.AwaitsOnly (awaitingAfter before [])) :
    stack.AwaitsInitializers initializerName program piece context before := by
  have accounted : Accounted initializerName program piece context before
      (awaitingAfter before []) := by
    apply begins.accounted
    rintro rfl
    cases node
  have height : heightAfter before 0 = (awaitingAfter before []).length :=
    (length_awaitingAfter before []).symm
  intro hops scope found
  obtain ⟨here, listed, only⟩ := awaits.getElem? found
  rcases accounted.getElem? listed with rfl | ⟨out, own, rfl, initializing, level⟩
  · exact ⟨none, nofun, fun entry bound awaiting => absurd (only entry bound awaiting) nofun⟩
  · obtain rfl : hops = out := by omega
    refine ⟨some own, ?_, fun entry bound awaiting => ?_⟩
    · rintro _ ⟨⟩
      exact initializing
    · exact ⟨own, rfl, List.mem_singleton.mp (only entry bound awaiting)⟩

section Closing

variable {initializerName : String} {extent : Extent}

/-- The parameters of a foreign function never get their values. -/
theorem awaitingAfter_foreignParams (params : List Param) (here : List String)
    (outer : List (List String)) :
    awaitingAfter (Step.params true params) (here :: outer) =
      ((params.map fun param => param.name.name).reverse ++ here) :: outer := by
  induction params generalizing here with
  | nil => rfl
  | cons param rest ih => simp [Step.params, Step.awaiting, ih]

/-- Where a scope is closed, no name in it awaits its value, unless it is the scope of
a foreign function: there the parameters do. -/
theorem HasExtent.awaiting (has : HasExtent initializerName program extent)
    (documented : Program.ForeignBodiesEmpty initializerName program)
    (outer : List (List String)) :
    awaitingAfter extent.inside ([] :: outer) = [] :: outer ∨
      ∃ decl, extent.OfForeign initializerName program decl ∧
        awaitingAfter extent.inside ([] :: outer) =
          (decl.params.map fun param => param.name.name).reverse :: outer := by
  by_cases foreign : ∃ decl, extent.OfForeign initializerName program decl
  · obtain ⟨decl, own, kind, context, after, visits, inside⟩ := foreign
    have none : decl.body = [] := documented kind decl visits.within own
    refine .inr ⟨decl, ⟨own, kind, context, after, visits, inside⟩, ?_⟩
    rw [inside, none, Stmt.walkAll, List.append_nil, awaitingAfter_foreignParams, List.append_nil]
  · have known : true = true → ∀ decl, ¬ extent.OfForeign initializerName program decl :=
      fun _ decl own => foreign ⟨decl, own⟩
    rcases has.declaring known with declaring | ⟨-, name, span, body, inside, shape⟩
    · exact .inl (declaring.awaitingAfter outer)
    · rw [inside]
      exact .inl (shape.awaitingAfter_eq [] outer)

end Closing

/-- A step that reports a variable to be read in its own initializer reads it, or
reports it as plain from the tree. -/
theorem Step.Emits.of_selfReference {step : Step} {name : String} {span : Span}
    (emits : step.Emits (.error (.selfReference name span))) :
    (∃ node, step = .readVariable node ⟨name, span⟩) ∨
      step = .report (.selfReference name span) := by
  generalize seen : Event.error (.selfReference name span) = event at emits
  cases emits with
  | selfReference node own =>
    cases seen
    exact .inl ⟨node, rfl⟩
  | reported error =>
    cases seen
    exact .inr rfl
  | resolved access lookUp | read lookUp => cases lookUp <;> cases seen
  | unregistered kind => cases kind <;> cases seen
  | _ => cases seen

section Variables

variable {initializerName : String} {context : Context} {node : NodeId} {name : Ident}

/-- No statement reads a name by itself. -/
theorem Stmt.reads_not_mem (stmt : Stmt) :
    .step (.readVariable node name) ∉ stmt.items initializerName context := by
  cases stmt with
  | letDecl own bound mutable ty initial foreign => cases initial <;> simp [items]
  | ret own value => cases value <;> cases kind : context.function <;> simp [items, kind]
  | _ => simp [items]

/-- Names are read where a variable stands and nowhere else. -/
theorem Piece.eq_variable {piece : Piece}
    (made : .step (.readVariable node name) ∈ piece.items initializerName context) :
    ∃ own, piece = .expr (.var own name) ∧ node = own.id := by
  cases piece with
  | expr tree => cases tree <;> simp [items, Expr.items] at made ⊢; grind
  | stmt tree => exact absurd made tree.reads_not_mem
  | stmts trees => cases trees <;> simp [items] at made
  | function kind decl =>
    obtain ⟨own, params, returnType, body, foreign, span⟩ := decl
    simp [items] at made

/-- A variable that is reported to be read in its own initializer is read where it stands. -/
theorem MadeAt.selfReference {first before : List Step} {step : Step} {piece : Piece}
    {leading : List Item} {name : String} {span : Span}
    (made : MadeAt initializerName program first step piece context before leading)
    (emits : step.Emits (.error (.selfReference name span))) :
    ∃ own after, Visits initializerName program (.expr (.var own ⟨name, span⟩)) context before
      after ∧ first = before ∧ step = .readVariable own.id ⟨name, span⟩ := by
  have listed := made.mem
  obtain ⟨rfl, trailing, after, items, visits⟩ := made
  rcases emits.of_selfReference with ⟨node, rfl⟩ | rfl
  · obtain ⟨own, rfl, rfl⟩ := Piece.eq_variable listed
    rcases List.singleton_eq_append_iff.mp items with ⟨rfl, -⟩ | ⟨-, none⟩
    · exact ⟨own, after, visits, List.append_nil _, rfl⟩
    · cases none
  · have plain : (ResolutionError.selfReference name span).isPlain = true := Piece.origin listed
    cases plain

end Variables

/-- A binding that is found in a scope is among its bindings. -/
theorem Scope.mem_of_get? {scope : Scope} {name : String} {binding : Binding}
    (found : scope.get? name = some binding) : (name, binding) ∈ scope.bindings := by
  obtain ⟨leading, trailing, split, -⟩ := List.lookup_eq_some_iff.mp found
  rw [split]
  exact List.mem_append_right _ List.mem_cons_self

/-- A variable is reported to be read in its own initializer if its binding in the
innermost scope awaits its value, and nothing else happens then. -/
theorem ScopeStack.exists_awaiting {stack : ScopeStack} {node : NodeId} {name : Ident}
    {inside behind : List Event}
    (happens : (stack.readVariable env.config node name).1 =
      inside ++ .error (.selfReference name.name name.span) :: behind) :
    inside = [] ∧ ∃ scope, stack.scopes[0]? = some scope ∧
      ∃ entry ∈ scope.bindings, entry.1 = name.name ∧ entry.2.isDeclaredOnly = true := by
  unfold readVariable at happens
  split at happens
  · rename_i pending
    obtain ⟨binding, found, awaiting⟩ := (Option.any_eq_true _ _).mp pending
    obtain ⟨scope, innermost, bound⟩ := Option.bind_eq_some_iff.mp found
    refine ⟨?_, scope, ?_, _, Scope.mem_of_get? bound, rfl, awaiting⟩
    · rcases List.singleton_eq_append_iff.mp happens with ⟨none, -⟩ | ⟨-, none⟩
      · exact none
      · cases none
    · rwa [innermost?, List.head?_eq_getElem?] at innermost
  · have listed : .error (.selfReference name.name name.span) ∈ inside ++
        Event.error (.selfReference name.name name.span) :: behind :=
      List.mem_append_right _ List.mem_cons_self
    rw [← happens] at listed
    split at listed
    · cases List.mem_singleton.mp listed
    · cases ScopeStack.lookUpEvent_resolve listed

/-- What awaits its value in the runs of a program, and what is reported of it. -/
structure AwaitsInInitializers (env : Environment) (program : Program) : Prop where
  /-- Where the walk of a statement or an expression begins, bindings await their values
  in its initializers only. -/
  begins : ∀ {piece context before after},
    Visits env.config.initializerName program piece context before after → piece.isNode = true →
      (run env before .empty).2.AwaitsInitializers env.config.initializerName program piece context
        before
  /-- And so they do where the walk ends. -/
  ends : ∀ {piece context before after},
    Visits env.config.initializerName program piece context before after → piece.isNode = true →
      (run env (before ++ piece.walk env.config.initializerName context) .empty).2.AwaitsInitializers
        env.config.initializerName program piece context before
  /-- Where a scope is closed, no binding in it awaits its value, unless it is the scope
  of a foreign function and the binding is a parameter. -/
  closes : ∀ {first rest},
    Program.walk env.config.initializerName program = first ++ .closeScope :: rest →
      ∃ extent scope, HasExtent env.config.initializerName program extent ∧
        first = extent.closed ∧ (run env first .empty).2.innermost? = some scope ∧
        ((∀ entry ∈ scope.bindings, entry.2.isDeclaredOnly = false) ∨
          ∃ decl, extent.OfForeign env.config.initializerName program decl ∧
            ∀ entry ∈ scope.bindings, entry.2.isDeclaredOnly = true →
              ∃ param ∈ decl.params, param.name.name = entry.1)
  /-- A variable that is reported to be read in its own initializer stands in the initializer
  of a declaration of its name, with no function in between, and the scope in which that
  declaration stands is still the innermost one. -/
  selfReferences : ∀ {earlier name span later},
    (observe env program).1 = earlier ++ .error (.selfReference name span) :: later →
      ∃ node context before after,
        Visits env.config.initializerName program (.expr (.var node ⟨name, span⟩)) context before
          after ∧
        earlier = eventsBefore env program before ∧
        ∃ owner declared mutable ty value foreign around start rest,
          Visits env.config.initializerName program
            (.stmt (.letDecl owner declared mutable ty (some value) foreign)) around start rest ∧
          declared.name = name ∧ value.Direct (.var node ⟨name, span⟩) ∧
          ∃ done, before = start ++ Step.opening around declared mutable foreign ++ done ∧
            StaysOpen 1 done ∧ heightAfter done 1 = 1

/-- On every run of a program whose foreign functions have no bodies, bindings await
their values in the initializers of their own declarations only. -/
theorem bindings_await_in_initializers (env : Environment) {program : Program}
    (documented : Program.ForeignBodiesEmpty env.config.initializerName program) :
    AwaitsInInitializers env program := by
  have begins {piece : Piece} {context : Context} {before after : List Step}
      (visits : Visits env.config.initializerName program piece context before after)
      (node : piece.isNode = true) : (run env before .empty).2.AwaitsInitializers
        env.config.initializerName program piece context before :=
    (visits.begins documented).awaitsInitializers node (awaitsOnly_run_empty env before)
  constructor
  case begins => exact begins
  case ends =>
    intro piece context before after visits node
    have started := visits.begins documented
    obtain ⟨here, outer, names, settled⟩ := started.settled
    have awaits := awaitsOnly_run_empty env
      (before ++ piece.walk env.config.initializerName context)
    rw [awaitingAfter_append, names, piece.awaitingAfter_walk context here outer settled,
      ← names] at awaits
    exact started.awaitsInitializers node awaits
  case closes =>
    intro first rest walked
    obtain ⟨extent, has, rfl⟩ := exists_extent walked
    have awaits := awaitsOnly_run_empty env extent.closed
    have split : awaitingAfter extent.closed [] =
        awaitingAfter extent.inside ([] :: awaitingAfter extent.before []) := by
      rw [Extent.closed, awaitingAfter_append]
      rfl
    rw [split] at awaits
    rcases has.awaiting documented (awaitingAfter extent.before []) with
      settled | ⟨decl, foreign, parameters⟩
    · rw [settled] at awaits
      obtain ⟨scope, innermost, only⟩ := awaits.innermost?
      refine ⟨extent, scope, has, rfl, innermost, .inl fun entry bound => ?_⟩
      exact Bool.eq_false_iff.mpr fun awaiting => List.not_mem_nil (only entry bound awaiting)
    · rw [parameters] at awaits
      obtain ⟨scope, innermost, only⟩ := awaits.innermost?
      refine ⟨extent, scope, has, rfl, innermost, .inr ⟨decl, foreign, ?_⟩⟩
      intro entry bound awaiting
      exact List.mem_map.mp (List.mem_reverse.mp (only entry bound awaiting))
  case selfReferences =>
    intro earlier name span later split
    obtain ⟨first, step, rest, inside, behind, walked, emits, happens, rfl⟩ :=
      exists_step_of_event split rfl
    rcases Program.exists_madeAt walked with ⟨-, rfl⟩ | ⟨-, rfl⟩ | ⟨_, context, before, _, made⟩
    · cases emits
    · cases emits
    · obtain ⟨own, after, visits, rfl, rfl⟩ := made.selfReference emits
      obtain ⟨rfl, scope, innermost, entry, bound, named, awaiting⟩ :=
        ScopeStack.exists_awaiting happens
      obtain ⟨awaited, initializing, only⟩ := begins visits rfl 0 scope innermost
      obtain ⟨declared, listed, same⟩ := only entry bound awaiting
      cases initializing declared listed with
      | intro owner reaches behind stays out direct =>
        rcases direct rfl with ⟨expr, same, within⟩ | ⟨kind, decl, none⟩
        · cases same
          exact ⟨own, context, _, after, visits, List.append_nil _, _, _, _, _, _, _, _, _, _,
            owner, same.symm.trans named, within, _, behind, stays, out⟩
        · cases none

/-- A function that reads a variable: `fn () { x; }`. -/
def readerX : FunctionDecl :=
  ⟨none, [], none, [.expression default (.var default ⟨"x", ⟨2, 1⟩⟩)], false, default⟩

/-- A value that reads a variable, outside of a function and in one: `[x, fn () { x; }]`. -/
def earlyValue : Expr :=
  .array default [.var default ⟨"x", ⟨1, 1⟩⟩, .lambda default readerX]

/-- The declaration of that variable: `let x = [x, fn () { x; }];`. -/
def earlyX : Stmt := .letDecl default ⟨"x", default⟩ false none (some earlyValue) false

/-- The foreign function has no body, and nothing else there is foreign. -/
theorem earlyX_bodiesEmpty :
    Program.ForeignBodiesEmpty "init" [.function default foreignF, earlyX] := by
  intro kind decl within foreign
  have listed : Piece.function kind decl ∈
      ([.stmts [.function default foreignF, earlyX], .stmts [earlyX], .stmts [], .stmt earlyX,
        .stmt (.function default foreignF), .function .function foreignF, .expr earlyValue,
        .expr (.var default ⟨"x", ⟨1, 1⟩⟩), .expr (.lambda default readerX),
        .function .function readerX, .stmts readerX.body,
        .stmt (.expression default (.var default ⟨"x", ⟨2, 1⟩⟩)),
        .expr (.var default ⟨"x", ⟨2, 1⟩⟩)] : List Piece) :=
    within.mem_of_closed List.mem_cons_self
      (by simp [Piece.parts, Stmt.parts, Expr.parts, earlyX, earlyValue, readerX, foreignF])
  rcases (by simpa using listed : (kind = .function ∧ decl = foreignF) ∨
    (kind = .function ∧ decl = readerX)) with ⟨-, rfl⟩ | ⟨-, rfl⟩
  · rfl
  · cases foreign

/-- The array reads the variable in its own initializer, the lambda in it does not. -/
theorem bindings_await_in_initializers_earlyX :
    AwaitsInInitializers .watchful [.function default foreignF, earlyX] ∧
      reportOf (observe .watchful [.function default foreignF, earlyX]).1 =
        [.error (.selfReference "x" ⟨1, 1⟩), .warning (.unusedLocalVariable "f" default)] :=
  ⟨bindings_await_in_initializers .watchful earlyX_bodiesEmpty, rfl⟩

end NameResolution
