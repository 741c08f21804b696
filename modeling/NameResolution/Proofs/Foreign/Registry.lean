import NameResolution.Proofs.Foreign.Requests
import NameResolution.Proofs.Run.Globals

/-!
# What the runtime answers

The runtime is asked for the name of each foreign declaration that a walk comes
to, once and before anything else is done there. A name that it does not back is
an error at that place, and its answers decide nothing else: apart from these
errors, the same happens whichever runtime is asked.
-/

namespace NameResolution

/-- Whether an error says that the runtime does not back a name. -/
def ResolutionError.isUnregistered : ResolutionError → Bool
  | .unregisteredForeignFunction .. => true
  | .unregisteredForeignVariable .. => true
  | _ => false

/-- Whether a diagnostic says that the runtime does not back a name. -/
def Diagnostic.isUnregistered : Diagnostic → Bool
  | .error cause => cause.isUnregistered
  | .warning _ => false

namespace Event

/-- Whether an event is a question to the runtime, or the error that follows it. -/
def isForeign : Event → Bool
  | .asked .. => true
  | .diagnostic found => found.isUnregistered
  | _ => false

/-- The question in an event, with its answer, if it is one. -/
def question? : Event → Option (ForeignKind × String × Bool)
  | .asked kind name answer => some (kind, name, answer)
  | _ => none

end Event

/-- The questions among events, in order. -/
def questionsOf (events : List Event) : List (ForeignKind × String × Bool) :=
  events.filterMap Event.question?

/-- The same environment with another runtime. -/
def Environment.withRegistry (env : Environment) (registry : ForeignNames) : Environment :=
  { env with registry }

variable {env : Environment} {registry : ForeignNames} {program : Program} {events : List Event}

/-- All that comes of asking the runtime is the question and perhaps its error. -/
theorem Environment.requireForeign_eq (env : Environment) (kind : ForeignKind) (name : Ident) :
    env.requireForeign kind name = .asked kind name.name (env.registry kind name.name) ::
      if env.registry kind name.name then [] else [.error (kind.unregistered name)] := by
  cases kind <;> rfl

/-- All that comes of asking the runtime is about foreign names. -/
theorem Environment.filter_isForeign (env : Environment) (kind : ForeignKind) (name : Ident) :
    (env.requireForeign kind name).filter Event.isForeign = env.requireForeign kind name := by
  rw [requireForeign_eq]
  cases env.registry kind name.name <;> cases kind <;> rfl

/-- Nothing that comes of asking the runtime is about anything else. -/
theorem Environment.filter_not_isForeign (env : Environment) (kind : ForeignKind) (name : Ident) :
    (env.requireForeign kind name).filter (fun event => !event.isForeign) = [] := by
  rw [requireForeign_eq]
  cases env.registry kind name.name <;> cases kind <;> rfl

/-- A step that does not ask the runtime emits no question and no error of one,
if what it reports is plain from the tree. -/
theorem Step.Emits.isForeign_eq_false {step : Step} {event : Event} (emits : step.Emits event)
    (silent : step.request? = none)
    (plain : ∀ error, step = .report error → error.isPlain = true) : event.isForeign = false := by
  cases emits with
  | asked kind name answer => cases silent
  | unregistered kind name => cases silent
  | resolved access lookUp | read lookUp => cases lookUp <;> rfl
  | reported error =>
    have plain := plain error rfl
    cases error <;> first | rfl | cases plain
  | _ => rfl

/-- A step that does not ask the runtime does the same whichever runtime there is. -/
theorem Step.perform_withRegistry {step : Step} (silent : step.request? = none)
    (stack : ScopeStack) :
    step.perform (env.withRegistry registry) stack = step.perform env stack := by
  cases step with
  | requireForeign kind name => cases silent
  | _ => rfl

/-- What a step emits about foreign names is what comes of its question. -/
theorem Step.filter_isForeign_perform {step : Step}
    (plain : ∀ error, step = .report error → error.isPlain = true) (stack : ScopeStack) :
    (step.perform env stack).1.filter Event.isForeign =
      step.request?.toList.flatMap fun request => env.requireForeign request.kind request.name := by
  cases asks : step.request? with
  | none =>
    simp only [Option.toList_none, List.flatMap_nil, List.filter_eq_nil_iff]
    intro event emitted
    simp [(emits_of_mem emitted).isForeign_eq_false asks plain]
  | some request =>
    cases step with
    | requireForeign kind name =>
      cases asks
      simpa [perform] using env.filter_isForeign kind name
    | _ => cases asks

variable (env) in
/-- A run emits about foreign names what comes of the questions of its steps. -/
theorem filter_isForeign_run {steps : List Step}
    (plain : ∀ error, .report error ∈ steps → error.isPlain = true) (stack : ScopeStack) :
    (run env steps stack).1.filter Event.isForeign =
      (steps.filterMap Step.request?).flatMap fun request =>
        env.requireForeign request.kind request.name := by
  induction steps generalizing stack with
  | nil => rfl
  | cons step rest ih =>
    have own : ∀ error, step = .report error → error.isPlain = true := by
      rintro error rfl
      exact plain error List.mem_cons_self
    rw [run_cons, List.filter_append, step.filter_isForeign_perform own,
      ih fun error listed => plain error (List.mem_cons_of_mem _ listed)]
    cases asks : step.request? <;> simp [asks]

variable (env registry) in
/-- Apart from questions and their errors, a step does the same whichever runtime there is. -/
theorem Step.perform_unasked (step : Step) (stack : ScopeStack) :
    (step.perform (env.withRegistry registry) stack).1.filter (fun event => !event.isForeign) =
        (step.perform env stack).1.filter (fun event => !event.isForeign) ∧
      (step.perform (env.withRegistry registry) stack).2 = (step.perform env stack).2 := by
  cases asks : step.request? with
  | none => rw [perform_withRegistry asks]; exact ⟨rfl, rfl⟩
  | some request =>
    cases step with
    | requireForeign kind name =>
      simp only [perform, Environment.filter_not_isForeign, and_self]
    | _ => cases asks

variable (env registry) in
/-- Apart from questions and their errors, a run does the same whichever runtime there is. -/
theorem run_unasked (steps : List Step) (stack : ScopeStack) :
    (run (env.withRegistry registry) steps stack).1.filter (fun event => !event.isForeign) =
        (run env steps stack).1.filter (fun event => !event.isForeign) ∧
      (run (env.withRegistry registry) steps stack).2 = (run env steps stack).2 := by
  induction steps generalizing stack with
  | nil => exact ⟨rfl, rfl⟩
  | cons step rest ih =>
    obtain ⟨now, same⟩ := step.perform_unasked env registry stack
    obtain ⟨later, last⟩ := ih (step.perform env stack).2
    simp only [run_cons, List.filter_append, same, now, later, last, and_self]

/-- Runtimes that answer the questions of the steps alike are not told apart. -/
theorem run_withRegistry {steps : List Step}
    (alike : ∀ request ∈ steps.filterMap Step.request?,
      registry request.kind request.name.name = env.registry request.kind request.name.name)
    (stack : ScopeStack) : run (env.withRegistry registry) steps stack = run env steps stack := by
  induction steps generalizing stack with
  | nil => rfl
  | cons step rest ih =>
    have now : step.perform (env.withRegistry registry) stack = step.perform env stack := by
      cases asks : step.request? with
      | none => exact Step.perform_withRegistry asks stack
      | some request =>
        cases step with
        | requireForeign kind name =>
          have answer := alike ⟨kind, name⟩ List.mem_cons_self
          simp only [Step.perform, Environment.requireForeign_eq, Environment.withRegistry, answer]
        | _ => cases asks
    have rest := ih fun request listed => alike request <| by
      obtain ⟨asking, inside, asks⟩ := List.mem_filterMap.mp listed
      exact List.mem_filterMap.mpr ⟨asking, List.mem_cons_of_mem _ inside, asks⟩
    rw [run_cons, run_cons, now, rest]

/-- Apart from questions and their errors, the same is observed of a program
whichever runtime there is. -/
theorem observe_unasked (env : Environment) (registry : ForeignNames) (program : Program) :
    (observe (env.withRegistry registry) program).1.filter (fun event => !event.isForeign) =
        (observe env program).1.filter (fun event => !event.isForeign) ∧
      (observe (env.withRegistry registry) program).2 = (observe env program).2 := by
  have inside := (run_unasked env registry
    (cutAtFault (Program.walk env.config.initializerName program)).1 .empty).1
  have sameName : (env.withRegistry registry).config.initializerName =
      env.config.initializerName := rfl
  simp only [observe, sameName, List.filter_cons, List.filter_append, inside, and_self]

/-- What is observed of a program about foreign names is what comes of its requests. -/
theorem filter_isForeign_observe (env : Environment) (program : Program) :
    (observe env program).1.filter Event.isForeign =
      (Program.requests env.config.initializerName program).flatMap fun request =>
        env.requireForeign request.kind request.name := by
  have plain : ∀ error,
      .report error ∈ (cutAtFault (Program.walk env.config.initializerName program)).1 →
        error.isPlain = true :=
    fun error listed => Program.isPlain_of_report ((cutAtFault_fst_isPrefix _).mem listed)
  have inside := filter_isForeign_run env plain .empty
  rw [Program.filterMap_request] at inside
  have logged (entry : LogEntry) : (Event.log entry).isForeign = false := rfl
  simp [observe, inside, logged]

/-- No depth is a question or an error. -/
theorem depthsOf_filter_not_isForeign (events : List Event) :
    depthsOf (events.filter fun event => !event.isForeign) = depthsOf events := by
  rw [depthsOf, depthsOf, List.filterMap_filter]
  congr 1
  funext event
  cases event with
  | diagnostic found => exact ite_self none
  | _ => rfl

/-- Without events about foreign names, the report is without errors about them. -/
theorem reportOf_filter_not_isForeign (events : List Event) :
    reportOf (events.filter fun event => !event.isForeign) =
      (reportOf events).filter fun found => !found.isUnregistered := by
  rw [reportOf, reportOf, List.filterMap_filter, List.filter_filterMap]
  congr 1
  funext event
  cases event <;> rfl

/-- What is reported of events about foreign names is what is reported about them. -/
theorem reportOf_filter_isForeign (events : List Event) :
    reportOf (events.filter Event.isForeign) =
      (reportOf events).filter Diagnostic.isUnregistered := by
  rw [reportOf, reportOf, List.filterMap_filter, List.filter_filterMap]
  congr 1
  funext event
  cases event <;> rfl

/-- Every question is an event about foreign names. -/
theorem questionsOf_filter_isForeign (events : List Event) :
    questionsOf (events.filter Event.isForeign) = questionsOf events := by
  rw [questionsOf, questionsOf, List.filterMap_filter]
  congr 1
  funext event
  cases event with
  | diagnostic found => exact ite_self none
  | _ => rfl

/-- How a run deals with foreign names. -/
structure AsksForForeign (env : Environment) (program : Program) (events : List Event) : Prop where
  /-- The runtime is asked for the requests of the program, in order, and for nothing else. -/
  questions : questionsOf events =
    (Program.requests env.config.initializerName program).map fun request =>
      (request.kind, request.name.name, env.registry request.kind request.name.name)
  /-- The errors are those of the requests that the runtime does not back, in order. -/
  errors : (reportOf events).filter Diagnostic.isUnregistered =
    (Program.requests env.config.initializerName program).filterMap fun request =>
      if env.registry request.kind request.name.name then none
      else some (.error (request.kind.unregistered request.name))
  /-- A foreign declaration that the walk comes to before any fault begins with
  its question, behind which its error stands if the name is not backed. -/
  first : ∀ {stmt request context before after},
    Visits env.config.initializerName program (.stmt stmt) context before after →
    (cutAtFault before).2 = none → stmt.request? = some request →
      ∃ rest later,
        stmt.walk env.config.initializerName context =
          .requireForeign request.kind request.name :: rest ∧
        events = eventsBefore env program before ++
          env.requireForeign request.kind request.name ++ later
  /-- Every question is the first event of such a declaration. -/
  only : ∀ {earlier kind name answer later},
    events = earlier ++ .asked kind name answer :: later →
      ∃ stmt request context before after,
        Visits env.config.initializerName program (.stmt stmt) context before after ∧
        (cutAtFault before).2 = none ∧ stmt.request? = some request ∧
        request.kind = kind ∧ request.name.name = name ∧ answer = env.registry kind name ∧
        earlier = eventsBefore env program before

/-- Only a step that asks the runtime emits a question. -/
theorem Step.Emits.eq_requireForeign {step : Step} {kind : ForeignKind} {name : String}
    {answer : Bool} (emits : step.Emits (.asked kind name answer)) :
    ∃ ident, ident.name = name ∧ step = .requireForeign kind ident := by
  generalize seen : Event.asked kind name answer = event at emits
  cases emits with
  | asked kind ident answer => cases seen; exact ⟨ident, rfl, rfl⟩
  | resolved access lookUp | read lookUp => cases lookUp <;> cases seen
  | _ => cases seen

/-- Every run asks the runtime in this way. -/
theorem asksForForeign_observe (env : Environment) (program : Program) :
    AsksForForeign env program (observe env program).1 where
  questions := by
    rw [← questionsOf_filter_isForeign, filter_isForeign_observe, questionsOf,
      List.filterMap_flatMap, List.map_eq_flatMap]
    congr 1
    funext request
    rw [Environment.requireForeign_eq]
    cases env.registry request.kind request.name.name <;> rfl
  errors := by
    rw [← reportOf_filter_isForeign, filter_isForeign_observe, reportOf, List.filterMap_flatMap,
      List.filterMap_eq_flatMap_toList]
    congr 1
    funext request
    rw [Environment.requireForeign_eq]
    cases env.registry request.kind request.name.name <;> rfl
  first := by
    intro stmt request context before after visits reached foreign
    obtain ⟨rest, walked⟩ := stmt.walk_of_request env.config.initializerName foreign context
    have split : Program.walk env.config.initializerName program =
        before ++ [.requireForeign request.kind request.name] ++ (rest ++ after) := by
      rw [visits.walk, Piece.walk, walked]
      simp
    have goesOn :
        (cutAtFault (before ++ [.requireForeign request.kind request.name])).2 = none := by
      rw [cutAtFault_snd_append, reached]
      rfl
    obtain ⟨later, same⟩ := observe_eq_of_walk split goesOn
    rw [run_singleton] at same
    exact ⟨rest, later, walked, same⟩
  only := by
    intro earlier kind name answer later split
    obtain ⟨made, step, rest, inside, behind, walked, reached, emits, happens, rfl⟩ :=
      exists_reached_step_of_event split rfl
    obtain ⟨ident, rfl, rfl⟩ := emits.eq_requireForeign
    have atOnce : inside = [] ∧ answer = env.registry kind ident.name := by
      rw [Step.perform, Environment.requireForeign_eq] at happens
      cases inside with
      | nil => exact ⟨rfl, by simpa using (List.cons.inj happens).1.symm⟩
      | cons question inside =>
        have behind : .asked kind ident.name answer ∈
            if env.registry kind ident.name then [] else [Event.error (kind.unregistered ident)] :=
          (List.cons.inj happens).2 ▸ List.mem_append_right _ List.mem_cons_self
        split at behind
        · cases behind
        · cases List.mem_singleton.mp behind
    obtain ⟨rfl, answered⟩ := atOnce
    rw [List.append_nil]
    rcases Program.exists_madeAt walked with ⟨-, same⟩ | ⟨-, same⟩ | ⟨_, _, _, _, here⟩
    · cases same
    · cases same
    · obtain ⟨stmt, after, foreign, rfl, visits⟩ := here.request?_eq
      exact ⟨stmt, _, _, _, after, visits, reached, foreign, rfl, rfl, answered, rfl⟩

variable (env) in
/-- Runtimes that answer the requests of a program alike are not told apart. -/
theorem observe_withRegistry
    (alike : ∀ request ∈ Program.requests env.config.initializerName program,
      registry request.kind request.name.name = env.registry request.kind request.name.name) :
    observe (env.withRegistry registry) program = observe env program := by
  rw [← Program.filterMap_request] at alike
  have same := run_withRegistry alike .empty
  have sameName : (env.withRegistry registry).config.initializerName =
      env.config.initializerName := rfl
  simp only [observe, sameName, same]

/-- What the runtimes `registry` and `other` make of one program differs only in
their answers and in the errors that follow them. -/
structure OnlyAnswersDiffer (config : Config) (registry other : ForeignNames)
    (program : Program) : Prop where
  /-- Both runs end in the same fault, or in none. -/
  fault : (observe ⟨config, other⟩ program).2 = (observe ⟨config, registry⟩ program).2
  /-- Both record the same depths. -/
  depths : depthsOf (observe ⟨config, other⟩ program).1 =
    depthsOf (observe ⟨config, registry⟩ program).1
  /-- Apart from the errors about foreign names, both report the same in the same order. -/
  report : (reportOf (observe ⟨config, other⟩ program).1).filter (!·.isUnregistered) =
    (reportOf (observe ⟨config, registry⟩ program).1).filter (!·.isUnregistered)
  /-- Apart from these errors and the questions, the same happens in the same order. -/
  events : (observe ⟨config, other⟩ program).1.filter (!·.isForeign) =
    (observe ⟨config, registry⟩ program).1.filter (!·.isForeign)
  /-- Runtimes that answer the requests of the program alike are not told apart at all. -/
  alike : (∀ request ∈ Program.requests config.initializerName program,
      other request.kind request.name.name = registry request.kind request.name.name) →
    observe ⟨config, other⟩ program = observe ⟨config, registry⟩ program

/-- Whatever two runtimes there are, only their answers make a difference. -/
theorem onlyAnswersDiffer (config : Config) (registry other : ForeignNames) (program : Program) :
    OnlyAnswersDiffer config registry other program := by
  obtain ⟨events, fault⟩ := observe_unasked ⟨config, registry⟩ other program
  have depths := congrArg depthsOf events
  have report := congrArg reportOf events
  rw [depthsOf_filter_not_isForeign, depthsOf_filter_not_isForeign] at depths
  rw [reportOf_filter_not_isForeign, reportOf_filter_not_isForeign] at report
  exact ⟨fault, depths, report, events, observe_withRegistry ⟨config, registry⟩⟩

namespace NativeRegistry

/-- Whether a registry lacks a name that is asked for. A function is looked for among the
names of functions, and a variable among those of variables. -/
def Lacks (registry : NativeRegistry) : ForeignRequest → Prop
  | ⟨.function, name⟩ => name.name ∉ registry.functionNames
  | ⟨.variable, name⟩ => name.name ∉ registry.variableNames

instance (registry : NativeRegistry) : DecidablePred registry.Lacks
  | ⟨.function, name⟩ => inferInstanceAs (Decidable (name.name ∉ registry.functionNames))
  | ⟨.variable, name⟩ => inferInstanceAs (Decidable (name.name ∉ registry.variableNames))

/-- A registry says no to the names that it lacks. -/
theorem offers_eq_false_iff (registry : NativeRegistry) (request : ForeignRequest) :
    registry.offers request.kind request.name.name = false ↔ registry.Lacks request := by
  obtain ⟨kind, name⟩ := request
  cases kind <;> simp [offers, Lacks, ← Std.ExtTreeSet.contains_iff_mem]

/-- One more registration adds its own name in its own namespace, and changes nothing else. -/
theorem lacks_register (registry : NativeRegistry) (registration : Registration)
    (request : ForeignRequest) :
    (registry.register registration).Lacks request ↔
      ⟨request.kind, request.name.name⟩ ≠ registration ∧ registry.Lacks request := by
  obtain ⟨kind, name⟩ := request
  obtain ⟨registered, added⟩ := registration
  cases kind <;> cases registered <;>
    simp [register, Lacks, Std.ExtTreeSet.mem_insert, not_or, eq_comm (a := added)]

/-- After registrations, a registry lacks what it lacked before and none of them provides. -/
theorem lacks_registerAll (registry : NativeRegistry) (registrations : List Registration)
    (request : ForeignRequest) :
    (registry.registerAll registrations).Lacks request ↔
      ⟨request.kind, request.name.name⟩ ∉ registrations ∧ registry.Lacks request := by
  induction registrations generalizing registry with
  | nil => simp [registerAll]
  | cons registration rest ih =>
    have later : (registry.registerAll (registration :: rest)).Lacks request ↔
        ((registry.register registration).registerAll rest).Lacks request := Iff.rfl
    rw [later, ih, lacks_register, List.mem_cons, not_or]
    tauto

/-- The empty registry lacks every name. -/
theorem lacks_empty (request : ForeignRequest) : empty.Lacks request := by
  obtain ⟨kind, name⟩ := request
  cases kind <;> exact Std.ExtTreeSet.not_mem_empty

/-- The errors about foreign names are those of the requests that a registry lacks, in order. -/
theorem errors_observe (config : Config) (registry : NativeRegistry) (program : Program) :
    (reportOf (observe ⟨config, registry.offers⟩ program).1).filter Diagnostic.isUnregistered =
      ((Program.requests config.initializerName program).filter (registry.Lacks ·)).map
        fun request => .error (request.kind.unregistered request.name) := by
  rw [(asksForForeign_observe ⟨config, registry.offers⟩ program).errors, ← List.filterMap_eq_map,
    List.filterMap_filter]
  refine List.filterMap_congr fun request _ => ?_
  cases answer : registry.offers request.kind request.name.name with
  | false =>
    have lacks := (registry.offers_eq_false_iff request).mp answer
    simp [answer, lacks]
  | true =>
    have offered : ¬registry.Lacks request := fun lacks => by
      rw [(registry.offers_eq_false_iff request).mpr lacks] at answer
      cases answer
    simp [answer, offered]

end NativeRegistry

/-- Only errors about foreign names depend on the runtime. Whatever two runtimes
answer, a program faults with the same fault or not at all, the same depths are
recorded, and the same is reported and logged in the same order, apart from
these errors and the questions that they follow. A run asks its runtime for each
foreign variable and each named foreign function that it comes to, once and
before anything else there, and for nothing else. Where the runtime is a
registry, the errors are those of the names that it lacks, functions and
variables each among the names of their own kind: the names that were not
registered under that kind. -/
theorem registry_only_answers (config : Config) (program : Program) :
    (∀ registry other : ForeignNames, OnlyAnswersDiffer config registry other program) ∧
      (∀ registry : ForeignNames,
        AsksForForeign ⟨config, registry⟩ program (observe ⟨config, registry⟩ program).1) ∧
      (∀ registry : NativeRegistry,
        (reportOf (observe ⟨config, registry.offers⟩ program).1).filter
            Diagnostic.isUnregistered =
          ((Program.requests config.initializerName program).filter (registry.Lacks ·)).map
            fun request => .error (request.kind.unregistered request.name)) ∧
      ∀ registrations : List Registration,
        (reportOf (observe ⟨config, (NativeRegistry.empty.registerAll registrations).offers⟩
            program).1).filter Diagnostic.isUnregistered =
          ((Program.requests config.initializerName program).filter fun request =>
              ⟨request.kind, request.name.name⟩ ∉ registrations).map
            fun request => .error (request.kind.unregistered request.name) := by
  refine ⟨fun registry other => onlyAnswersDiffer config registry other program,
    fun registry => asksForForeign_observe ⟨config, registry⟩ program,
    fun registry => registry.errors_observe config program, fun registrations => ?_⟩
  rw [NativeRegistry.errors_observe]
  congr 1
  refine List.filter_congr fun request _ => ?_
  simp [NativeRegistry.lacks_registerAll, NativeRegistry.lacks_empty]

/-- A foreign function `read`, a foreign variable `PI`, and in a block the two names the other
way round. Behind them a class with a method that is marked as foreign, a lambda that is, and
a variable of its own. -/
def crossedNames : Program :=
  [.function default ⟨some ⟨"read", ⟨1, 1⟩⟩, [], none, [], true, default⟩,
    .letDecl default ⟨"PI", ⟨2, 1⟩⟩ false none none true,
    .block default
      [.function default ⟨some ⟨"PI", ⟨3, 1⟩⟩, [], none, [], true, default⟩,
        .letDecl default ⟨"read", ⟨4, 1⟩⟩ false none none true],
    .classDecl default ⟨"A", default⟩ none [⟨some ⟨"open", default⟩, [], none, [], true, default⟩],
    .expression default (.lambda default ⟨none, [], none, [], true, default⟩),
    .letDecl default ⟨"x", default⟩ false none (some (.var ⟨⟨5⟩, default⟩ ⟨"PI", default⟩)) false]

/-- The function `read` and the variable `PI`. -/
def readAndPi : List Registration := [⟨.function, "read"⟩, ⟨.variable, "PI"⟩]

/-- Of the four foreign declarations two are backed, each because of its kind. A runtime that
backs nothing gives four errors and the same depth. -/
theorem registry_only_answers_crossedNames :
    let registry := (NativeRegistry.empty.registerAll readAndPi).offers
    let config := Environment.bare.config
    OnlyAnswersDiffer config registry (fun _ _ => false) crossedNames ∧
      AsksForForeign ⟨config, registry⟩ crossedNames
        (observe ⟨config, registry⟩ crossedNames).1 ∧
      questionsOf (observe ⟨config, registry⟩ crossedNames).1 =
        [(.function, "read", true), (.variable, "PI", true), (.function, "PI", false),
          (.variable, "read", false)] ∧
      ((Program.requests "init" crossedNames).filter fun request =>
          ⟨request.kind, request.name.name⟩ ∉ readAndPi).map
          (fun request => Diagnostic.error (request.kind.unregistered request.name)) =
        [.error (.unregisteredForeignFunction "PI" ⟨3, 1⟩),
          .error (.unregisteredForeignVariable "read" ⟨4, 1⟩)] ∧
      (reportOf (observe ⟨config, fun _ _ => false⟩ crossedNames).1).length = 4 ∧
      depthsOf (observe ⟨config, fun _ _ => false⟩ crossedNames).1 = [(⟨5⟩, 0)] := by
  obtain ⟨differ, asks, -, registered⟩ :=
    registry_only_answers Environment.bare.config crossedNames
  refine ⟨differ _ _, asks _, by decide +kernel, (registered readAndPi).symm.trans ?_, ?_, ?_⟩
  · decide +kernel
  · decide +kernel
  · decide +kernel

end NameResolution
