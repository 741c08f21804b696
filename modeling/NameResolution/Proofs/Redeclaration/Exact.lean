import NameResolution.Proofs.Exchange.Commute
import NameResolution.Proofs.Faults.Cut
import NameResolution.Proofs.Redeclaration.Rejected
import NameResolution.Proofs.Walk.LeftOut

/-!
# Leaving a rejected declaration out

A rejected declaration changes no depth and no diagnostic but its own, with one
exception: if it is reported for having no value as well, the declaration that
is kept counts as read behind it, and the warning that it is unused is lost.
-/

namespace NameResolution

variable {context : Context} {front behind : List Stmt}

/-- A link leaves the scopes as they are. -/
theorem IsLink.run {link : List Step} (isLink : IsLink behind link) (env : Environment)
    (stack : ScopeStack) :
    ∃ said, NameResolution.run env link stack = (said, stack) ∧ depthsOf said = [] ∧
      (reportOf said = [] ∨
        behind = [] ∧ ∃ span, reportOf said = [.warning (.unreachableCode span)]) := by
  rcases isLink with rfl | ⟨last, span, rfl⟩
  · exact ⟨[], rfl, rfl, .inl rfl⟩
  · cases lint : env.config.lints.unreachable with
    | true =>
      exact ⟨[.warning (.unreachableCode span)],
        by simp [NameResolution.run, Step.perform, lint], rfl, .inr ⟨last, span, rfl⟩⟩
    | false => exact ⟨[], by simp [NameResolution.run, Step.perform, lint], rfl, .inl rfl⟩

/-- The warning that is lost to a rejected declaration, if its scope is closed with the binding
`ending` of its name. -/
def overlooked (config : Config) (context : Context) (name : String) (mutable foreign : Bool)
    (ending : Binding) : Report :=
  if context.admitsUninitialized mutable foreign then [] else unusedWarnings config [(name, ending)]

/-- With a rejected declaration ahead or without, steps to the end of its scope and beyond do the
same, but for a warning of the declaration that is kept. -/
theorem run_leftOut (env : Environment) (context : Context) {stack : ScopeStack} {name : Ident}
    {binding : Binding} (bound : stack.bindingAt? 0 name.name = some binding)
    (valued : stack.status 0 name.name ≠ .declared) (distinct : stack.lexical.Distinct)
    {level : Nat} (height : stack.depth = level + 1) {inside : List Step}
    (stays : StaysOpen 1 inside) (closes : heightAfter inside 1 = 1)
    (regular : RunsRegularly env inside stack) (rest : List Step) (node : Node) (mutable : Bool)
    (ty : Option Ty) (foreign : Bool) :
    ∃ ending, (run env inside stack).2.bindingAt? 0 name.name = some ending ∧
      ending.span = binding.span ∧
      ∃ middle later last,
        run env ((Stmt.letDecl node name mutable ty none foreign).walk
            env.config.initializerName context ++ (inside ++ .closeScope :: rest)) stack =
          (rejectionEvents env context name mutable foreign binding.span ++ (middle ++ later),
            last) ∧
        run env (inside ++ .closeScope :: rest) stack =
          (middle ++ ((overlooked env.config context name.name mutable foreign ending).map
            Event.diagnostic ++ later), last) := by
  have kept : stack.lexical.declarationAt? 0 name.name = some (binding.declaration name.name) := by
    rw [ScopeStack.declarationAt?_lexical, bound, Option.map_some]
  have still := declarationAt?_run regular kept stays closes
  rw [ScopeStack.declarationAt?_lexical, Option.map_eq_some_iff] at still
  obtain ⟨ending, ends, same⟩ := still
  refine ⟨ending, ends, congrArg Declaration.span same, ?_⟩
  rw [run_append, Stmt.run_rejected env context bound valued distinct, overlooked]
  cases context.admitsUninitialized mutable foreign with
  | true =>
    refine ⟨(run env (inside ++ .closeScope :: rest) stack).1, [],
      (run env (inside ++ .closeScope :: rest) stack).2, ?_, ?_⟩ <;> simp
  | false =>
    -- what is kept counts as read until its scope is closed
    have counted : run env inside (stack.countedAt 0 name.name) =
        ((run env inside stack).1, (run env inside stack).2.countedAt 0 name.name) := by
      have counted := run_countedAt env height stays regular valued
      rwa [closes] at counted
    have distinct' : (run env inside stack).2.lexical.Distinct := by
      rw [lexical_run]
      exact distinct_rescope inside distinct
    obtain ⟨line, first, second, closing, closing'⟩ :=
      ScopeStack.close_countedAt_zero env.config ends distinct'
    refine ⟨(run env inside stack).1 ++ .log line :: first.map Event.diagnostic,
      second.map Event.diagnostic ++ (run env rest (run env inside stack).2.pop).1,
      (run env rest (run env inside stack).2.pop).2, ?_, ?_⟩
    · simp only [Bool.false_eq_true, if_false, run_append, run_cons, Step.perform, counted,
        closing']
      simp
    · simp only [Bool.false_eq_true, if_false, run_append, run_cons, Step.perform, closing]
      simp

/-- The scope that is innermost behind the steps `walked` comes to be closed with the binding
`ending` of a name. -/
def EndsAs (env : Environment) (program : Program) (walked : List Step) (name : String)
    (ending : Binding) : Prop :=
  ∃ extent more, HasExtent env.config.initializerName program extent ∧
    extent.closed = walked ++ more ∧ StaysOpen 1 more ∧ heightAfter more 1 = 1 ∧
    (run env extent.closed .empty).2.bindingAt? 0 name = some ending

/-- What becomes of a resolution when a rejected declaration of `name` is left out, with `front`
ahead of it in its list and `behind` behind it, where the declaration at `kept` is kept. -/
structure LeavesOut (env : Environment) (other : Program) (context : Context)
    (front behind : List Stmt) (name : Ident) (mutable foreign : Bool) (kept : Span)
    (before : List Step) (resolution also : Resolution) : Prop where
  /-- The depth table is the same. -/
  depths : also.depths = resolution.depths
  /-- The report loses what is said of the declaration, and may gain one warning: that the
  declaration that is kept is unused when its scope is closed. A warning of unreachable code
  may go as well, if the declaration was the last of its list. -/
  report : ∃ earlier link middle ending later,
    reportOf (run env (before ++ Stmt.walkAhead env.config.initializerName context front) .empty).1 =
        earlier ++ link ∧
      (link = [] ∨ behind = [] ∧ ∃ span, link = [.warning (.unreachableCode span)]) ∧
      resolution.report = earlier ++ link ++
        (rejection env context name mutable foreign kept ++ (middle ++ later)) ∧
      also.report = earlier ++
        (middle ++ (overlooked env.config context name.name mutable foreign ending ++ later)) ∧
      ending.span = kept ∧
      EndsAs env other
        (before ++ Stmt.walkAll env.config.initializerName context (front ++ behind)) name.name
        ending

/-- If foreign functions have no bodies, a declaration that is kept holds a value where another of
its name is rejected. -/
theorem Visits.valued_of_rejected {env : Environment} {program : Program}
    (documented : Program.ForeignBodiesEmpty env.config.initializerName program) {node : Node}
    {name : Ident} {mutable foreign : Bool} {ty : Option Ty} {kept : Span}
    {before after : List Step}
    (visits : Visits env.config.initializerName program
      (.stmts (front ++ .letDecl node name mutable ty none foreign :: behind)) context before after)
    (rejected : .error (.duplicateDeclaration name.name name.span kept) ∈
      (Stmt.letDecl node name mutable ty none foreign).reportBehind env context
        (before ++ Stmt.walkAhead env.config.initializerName context front)) :
    (run env (before ++ Stmt.walkAhead env.config.initializerName context front)
      .empty).2.status 0 name.name ≠ .declared := by
  have settled := (visits.stmts_behind (List.cons_ne_nil _ _)).settled documented trivial name.name
  obtain ⟨binding, bound, -⟩ := Stmt.bound_of_rejected rejected
  rw [← ScopeStack.bindingAt?_zero, bound, Option.any_some] at settled
  rw [ScopeStack.status, bound]
  simpa [Binding.isDeclaredOnly] using settled

namespace Parting

variable {env : Environment} {program other : Program} {decl : Stmt} {before : List Step}
  (parting : Parting env.config.initializerName program other context front behind decl before)

include parting

/-- The statements behind the declaration run over the same scopes as in the other program. -/
theorem regular : RunsRegularly env parting.inside (run env parting.lead .empty).2 := by
  have regular := Program.runsRegularly env other
  rw [parting.walk_other] at regular
  exact (runsRegularly_append.mp (runsRegularly_append.mp regular).2).1

/-- The stack where the statement is walked is the one behind the lead. -/
theorem run_ahead :
    (run env (before ++ Stmt.walkAhead env.config.initializerName context front) .empty).2 =
      (run env parting.lead .empty).2 := by
  obtain ⟨said, links, -⟩ := parting.isLink.run env (run env parting.lead .empty).2
  rw [parting.ahead, run_append, links]

/-- The scope of the list ends in the other program with what its bindings have come to. -/
theorem endsAs {name : String} {ending : Binding}
    (ends : (run env parting.inside (run env parting.lead .empty).2).2.bindingAt? 0 name =
      some ending) :
    EndsAs env other
      (before ++ Stmt.walkAll env.config.initializerName context (front ++ behind)) name ending := by
  have closes : Program.walk env.config.initializerName other =
      (parting.lead ++ parting.inside) ++ .closeScope :: parting.rest := by
    rw [parting.walk_other, inside]
    simp only [List.append_assoc]
  obtain ⟨extent, has, closed⟩ := exists_extent closes
  refine ⟨extent, parting.more, has, ?_, parting.stays, parting.closes, ?_⟩
  · rw [← closed, parting.list, inside, List.append_assoc]
  · rw [← closed, run_snd_append]
    exact ends

end Parting

/-- Leaving a rejected declaration out. Take a program that can be resolved, in which the run
rejects a variable declaration without a first value, while the declaration that is kept holds a
value already. Without it the program can be resolved as well, with the same depths, and with
the same report but for what was said of the declaration itself and a warning that code is
unreachable. If it was reported for having no value, there is one more difference: only now is
the declaration that is kept checked for being unused. -/
theorem resolve_without_rejected {env : Environment} {program other : Program}
    {resolution : Resolution} {node : Node} {name : Ident} {mutable foreign : Bool}
    {ty : Option Ty} {kept : Span} {before after : List Step}
    (succeeds : resolve env program = .ok resolution)
    (inStep : InStep env.config.initializerName program other
      (.stmts (front ++ .letDecl node name mutable ty none foreign :: behind))
      (.stmts (front ++ behind)) context before after)
    (rejected : .error (.duplicateDeclaration name.name name.span kept) ∈
      (Stmt.letDecl node name mutable ty none foreign).reportBehind env context
        (before ++ Stmt.walkAhead env.config.initializerName context front))
    (valued : (run env (before ++ Stmt.walkAhead env.config.initializerName context front)
      .empty).2.status 0 name.name ≠ .declared) :
    ∃ also, resolve env other = .ok also ∧
      LeavesOut env other context front behind name mutable foreign kept before resolution also := by
  obtain ⟨whole, rfl⟩ := resolve_eq_ok_iff_run.mp succeeds
  obtain ⟨binding, bound, rfl⟩ := Stmt.bound_of_rejected rejected
  obtain ⟨level, height⟩ := ScopeStack.exists_depth bound
  have opened : 0 < heightAfter
      (before ++ Stmt.walkAhead env.config.initializerName context front) 0 := by
    rw [← depth_run_empty env, height]
    exact Nat.succ_pos level
  obtain ⟨parting⟩ := inStep.exists_parting rfl opened
  rw [parting.run_ahead] at bound valued height
  obtain ⟨ending, ends, kept, middle, later, last, runs, runs'⟩ :=
    run_leftOut env context bound valued (distinct_run_empty env parting.lead) height
      parting.staysOpen_inside parting.heightAfter_inside parting.regular parting.rest node mutable
      ty foreign
  obtain ⟨said, links, unrecorded, warns⟩ :=
    parting.isLink.run env (run env parting.lead .empty).2
  have happens : (run env (Program.walk env.config.initializerName program) .empty).1 =
      (run env parting.lead .empty).1 ++ (said ++
        (rejectionEvents env context name mutable foreign binding.span ++ (middle ++ later))) := by
    rw [parting.walk, run_append, run_append, links]
    exact congrArg (fun ran => _ ++ (said ++ ran)) (congrArg Prod.fst runs)
  have happens' : (run env (Program.walk env.config.initializerName other) .empty).1 =
      (run env parting.lead .empty).1 ++ (middle ++
        ((overlooked env.config context name.name mutable foreign ending).map Event.diagnostic ++
          later)) := by
    rw [parting.walk_other, run_append]
    exact congrArg (_ ++ ·) (congrArg Prod.fst runs')
  refine ⟨_, resolve_eq_ok_iff_run.mpr ⟨parting.whole_other whole, rfl⟩, ?_, ?_⟩
  · rw [happens, happens']
    simp [unrecorded, depthsOf_rejectionEvents]
  · refine ⟨reportOf (run env parting.lead .empty).1, reportOf said, reportOf middle, ending,
      reportOf later, ?_, warns, ?_, ?_, kept, parting.endsAs ends⟩
    · rw [parting.ahead, run_append, links, reportOf_append]
    · rw [happens]
      simp [reportOf_rejectionEvents]
    · rw [happens']
      simp

/-- A variable with a value, and another declaration of it: `let x = nil; let x;`. -/
def twiceX : List Stmt := [letX, .letDecl ⟨⟨2⟩, default⟩ ⟨"x", ⟨3, 1⟩⟩ false none none false]

/-- A program with a list of statements in a block. -/
def inBlockAlone (body : List Stmt) : Program := [.block ⟨⟨3⟩, default⟩ body]

/-- The two blocks stand at the same place, and the second scope is open there. -/
theorem inBlockAlone_inStep :
    InStep "init" (inBlockAlone twiceX) (inBlockAlone [letX]) (.stmts twiceX) (.stmts [letX])
      .outermost [.openScope, .openScope] [.closeScope, .closeScope] := by
  have inList (body : List Stmt) : (Piece.stmts (inBlockAlone body)).items "init" .outermost =
      [] ++ .visit (.stmt (.block ⟨⟨3⟩, default⟩ body)) .outermost ::
        [.visit (.stmts []) .outermost] := rfl
  have inBlock (body : List Stmt) :
      (Piece.stmt (.block ⟨⟨3⟩, default⟩ body)).items "init" .outermost =
        [.step .openScope] ++ .visit (.stmts body) .outermost :: [.step .closeScope] := rfl
  exact .part (.part .program (.head [] _ _) (inList twiceX) (inList [letX])) (.block _ _ _)
    (inBlock twiceX) (inBlock [letX])

/-- Without the rejected declaration its two errors go and the first one is reported as unused. -/
theorem resolve_without_rejected_inBlock :
    ∃ resolution also, resolve .watchful (inBlockAlone twiceX) = .ok resolution ∧
      resolution.report = [.error (.duplicateDeclaration "x" ⟨3, 1⟩ default),
        .error (.uninitializedImmutable "x" ⟨3, 1⟩)] ∧
      resolve .watchful (inBlockAlone [letX]) = .ok also ∧
      also.report = [.warning (.unusedLocalVariable "x" default)] ∧
      LeavesOut .watchful (inBlockAlone [letX]) .outermost [letX] [] ⟨"x", ⟨3, 1⟩⟩ false false
        default [.openScope, .openScope] resolution also := by
  have succeeds : resolve .watchful (inBlockAlone twiceX) = .ok ⟨DepthTable.empty,
      [.error (.duplicateDeclaration "x" ⟨3, 1⟩ default),
        .error (.uninitializedImmutable "x" ⟨3, 1⟩)]⟩ := rfl
  have inStep : InStep "init" (inBlockAlone twiceX) (inBlockAlone [letX])
      (.stmts ([letX] ++ .letDecl ⟨⟨2⟩, default⟩ ⟨"x", ⟨3, 1⟩⟩ false none none false :: []))
      (.stmts ([letX] ++ [])) .outermost [.openScope, .openScope] [.closeScope, .closeScope] :=
    inBlockAlone_inStep
  obtain ⟨also, without, leavesOut⟩ :=
    resolve_without_rejected succeeds inStep List.mem_cons_self (by decide)
  refine ⟨_, also, succeeds, rfl, without, ?_, leavesOut⟩
  cases without
  rfl

end NameResolution
