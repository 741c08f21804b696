import NameResolution.Proofs.Lexical.Accounting
import NameResolution.Proofs.Unused.Closing
import NameResolution.Proofs.Unused.Reports

/-!
# What is left unused

A run warns of what its scopes leave unused: of exactly that, when the scope is
closed, and nowhere else.
-/

namespace NameResolution

variable {env : Environment} {program : Program} {events : List Event} {extent : Extent}

/-- What happens at a scope that is opened and closed again. -/
structure Extent.Verdict (env : Environment) (program : Program) (events : List Event)
    (extent : Extent) : Prop where
  /-- The references inside are settled one for one, in order. -/
  settled : List.Forall₂ (Site.Settled env.config) extent.sites (outcomesOf (extent.events env))
  /-- What is declared without a value that it must have is reported while the scope is open. -/
  reported : ∀ binder ∈ extent.binders, binder.kind.lacksValue = true →
    .error (.uninitializedImmutable binder.name binder.span) ∈ extent.events env
  /-- Behind what happens while the scope is open, it is closed, and warnings are
  given of exactly what is left unused. -/
  happens : ∃ later, events = eventsBefore env program (extent.before ++ [.openScope]) ++
    (extent.events env ++
      extent.closing (extent.unused env.config (outcomesOf (extent.events env)))) ++ later

/-- A run warns of exactly what each scope leaves unused, when it closes the scope. -/
structure WarnsOfUnused (env : Environment) (program : Program) (events : List Event) : Prop where
  verdict : ∀ extent, HasExtent env.config.initializerName program extent →
    extent.Verdict env program events
  /-- Whichever step closes a scope closes one of these. -/
  closes : ∀ first rest,
    Program.walk env.config.initializerName program = first ++ .closeScope :: rest →
      ∃ extent, HasExtent env.config.initializerName program extent ∧ first = extent.closed
  /-- No warning of this kind is given anywhere else. -/
  only : ∀ earlier name span later,
    events = earlier ++ .warning (.unusedLocalVariable name span) :: later →
      ∃ extent, HasExtent env.config.initializerName program extent ∧ ∃ first rest,
        extent.closing (extent.unused env.config (outcomesOf (extent.events env))) =
            first ++ .warning (.unusedLocalVariable name span) :: rest ∧
          earlier = eventsBefore env program extent.closed ++ first
  /-- Only a variable that must have a value and has none is reported for that. -/
  reports : ∀ earlier name span later,
    events = earlier ++ .error (.uninitializedImmutable name span) :: later →
      ∃ context before after node ty, context.inStruct = false ∧
        Visits env.config.initializerName program
          (.stmt (.letDecl node ⟨name, span⟩ false ty none false)) context before after

/-- Every scope that a fault-free run closes gets the warnings that its binders and readings
call for. -/
theorem HasExtent.verdict (faultFree : observe env program = (events, none))
    (lint : env.config.lints.unused = true)
    (documented : Program.ForeignBodiesEmpty env.config.initializerName program)
    (has : HasExtent env.config.initializerName program extent) :
    extent.Verdict env program events where
  settled := has.contents.settled env
  reported binder listed lacks := error_mem_run (has.report_mem listed lacks) _
  happens := by
    obtain ⟨rest, walked⟩ := has.walk
    have split : Program.walk env.config.initializerName program =
        extent.before ++ [.openScope] ++ (extent.inside ++ [.closeScope]) ++ rest := by
      rw [walked, Extent.closed]
      simp only [List.append_assoc, List.cons_append, List.nil_append]
    obtain ⟨later, same⟩ := events_eq_of_walk faultFree split
    have behind : (run env extent.inside (run env (extent.before ++ [.openScope]) .empty).2).2 =
        (run env extent.closed .empty).2 := by
      rw [run_before_openScope, extent.run_closed]
    rw [run_append, run_singleton, behind, has.close_eq documented lint] at same
    exact ⟨later, same⟩

/-- A warning of what is unused is given when a scope is closed. -/
theorem exists_extent_of_unused (faultFree : observe env program = (events, none))
    (lint : env.config.lints.unused = true)
    (documented : Program.ForeignBodiesEmpty env.config.initializerName program)
    {earlier later : List Event} {name : String} {span : Span}
    (split : events = earlier ++ .warning (.unusedLocalVariable name span) :: later) :
    ∃ extent, HasExtent env.config.initializerName program extent ∧ ∃ first rest,
      extent.closing (extent.unused env.config (outcomesOf (extent.events env))) =
          first ++ .warning (.unusedLocalVariable name span) :: rest ∧
        earlier = eventsBefore env program extent.closed ++ first := by
  obtain ⟨first, step, rest, inside, behind, walked, emits, warned, rfl⟩ :=
    exists_step_of_diagnostic faultFree split
  obtain rfl := Step.eq_closeScope_of_unused emits
  obtain ⟨extent, has, rfl⟩ := exists_extent walked
  rw [has.close_eq documented lint] at warned
  exact ⟨extent, has, inside, behind, warned, rfl⟩

/-- With the check for unused names on, and foreign functions without a body, a
resolution warns when a scope is closed of exactly those bindings of it that
were not read while it was open, in the order in which their names were first
declared, each with the span of that declaration. Left out are `this` and
`super`, parameters of a foreign function, members of a struct, names that are
marked as intentionally unused, and names of which a declaration in the scope
was reported for having no value. -/
theorem resolve_warns_of_unused {resolution : Resolution}
    (succeeds : resolve env program = .ok resolution) (lint : env.config.lints.unused = true)
    (documented : Program.ForeignBodiesEmpty env.config.initializerName program) :
    ∃ events, observe env program = (events, none) ∧ resolution.report = reportOf events ∧
      WarnsOfUnused env program events := by
  obtain ⟨events, faultFree, rfl⟩ := resolve_eq_ok_iff.mp succeeds
  refine ⟨events, faultFree, rfl, ?_, ?_, ?_, ?_⟩
  · intro extent has
    exact has.verdict faultFree lint documented
  · intro first rest walked
    exact exists_extent walked
  · intro earlier name span later split
    exact exists_extent_of_unused faultFree lint documented split
  · intro earlier name span later split
    exact exists_visit_of_uninitialized faultFree split

/-- A foreign function with a parameter: `extern fn f(a);`. -/
def foreignF : FunctionDecl :=
  ⟨some ⟨"f", default⟩, [⟨⟨"a", default⟩, .any false default⟩], none, [], true, default⟩

/-- A variable that holds the function and is not read: `let x = f;`. -/
def unreadX : Stmt :=
  .letDecl ⟨⟨1⟩, default⟩ ⟨"x", default⟩ false none
    (some (.var ⟨⟨2⟩, default⟩ ⟨"f", default⟩)) false

/-- The foreign function has no body, and it is the only function. -/
theorem foreignF_bodiesEmpty :
    Program.ForeignBodiesEmpty "init" [.function ⟨⟨0⟩, default⟩ foreignF, unreadX] := by
  intro kind decl within foreign
  have listed : Piece.function kind decl ∈
      ([.stmts [.function ⟨⟨0⟩, default⟩ foreignF, unreadX], .stmts [unreadX], .stmts [],
        .stmt (.function ⟨⟨0⟩, default⟩ foreignF), .stmt unreadX, .function .function foreignF,
        .expr (.var ⟨⟨2⟩, default⟩ ⟨"f", default⟩)] : List Piece) :=
    within.mem_of_closed List.mem_cons_self
      (by simp [Piece.parts, Stmt.parts, Expr.parts, unreadX, foreignF])
  obtain ⟨-, rfl⟩ : kind = .function ∧ decl = foreignF := by simpa using listed
  rfl

/-- The foreign function is read and the variable is not. -/
theorem resolve_warns_of_unused_variable :
    ∃ resolution events,
      resolve .watchful [.function ⟨⟨0⟩, default⟩ foreignF, unreadX] = .ok resolution ∧
        resolution.report = [.warning (.unusedLocalVariable "x" default)] ∧
        resolution.report = reportOf events ∧
        WarnsOfUnused .watchful [.function ⟨⟨0⟩, default⟩ foreignF, unreadX] events := by
  have succeeds : resolve .watchful [.function ⟨⟨0⟩, default⟩ foreignF, unreadX] =
      .ok ⟨DepthTable.empty.record ⟨2⟩ 0, [.warning (.unusedLocalVariable "x" default)]⟩ := rfl
  obtain ⟨events, -, reported, warns⟩ :=
    resolve_warns_of_unused succeeds rfl foreignF_bodiesEmpty
  exact ⟨_, events, succeeds, rfl, reported, warns⟩

end NameResolution
