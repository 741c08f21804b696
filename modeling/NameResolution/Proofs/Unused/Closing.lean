import NameResolution.Proofs.Unused.Contents
import NameResolution.Proofs.Unused.Status
import NameResolution.Proofs.Walk.Events

/-!
# Closing a scope

When a scope is closed, a warning is given for each binding of it that holds a
value nobody read. Which these are can be told from the binders of the scope
and from the outcomes of the references that were settled while it was open.
-/

namespace NameResolution

/-- Whether a reference with this outcome reads the binding of a name in the
scope that has `level` scopes around it. An assignment only writes. -/
def Site.reads (name : String) (level : Nat) (site : Site) (outcome : Outcome) : Bool :=
  decide (site.form ≠ .assign) && site.name.name == name && outcome.meets level site.scopes

/-- Where the class admits it, every reference but an assignment asks to read its name. -/
theorem Site.asks?_step {site : Site} (admitted : site.admitted = true) :
    site.step.asks? = if site.form = .assign then none else some site.name.name := by
  obtain ⟨⟨form, node, asked⟩, cls, scopes⟩ := site
  cases form <;> cases cls <;> first | rfl | cases admitted

/-- A reference that has been settled reads what its step reads. -/
theorem Site.reads_step {config : Config} {site : Site} {outcome : Outcome}
    (settled : site.Settled config outcome) (name : String) (level : Nat) :
    Step.reads name level (site.step, site.scopes) outcome = site.reads name level outcome := by
  cases settled with
  | rejected rejection => simp [Step.reads, Site.reads, Outcome.meets]
  | lookedUp admitted kept =>
    by_cases assigns : site.form = .assign <;>
      simp [Step.reads, Site.reads, Site.asks?_step admitted, assigns]

/-- The references that read a name are the same, by their steps or by their sites. -/
theorem any_reads_zip {config : Config} {sites : List Site} {outcomes : List Outcome}
    (settled : List.Forall₂ (Site.Settled config) sites outcomes) (name : String) (level : Nat) :
    ((sites.map fun site => (site.step, site.scopes)).zip outcomes).any
        (fun entry => Step.reads name level entry.1 entry.2) =
      (sites.zip outcomes).any fun entry => entry.1.reads name level entry.2 := by
  induction settled with
  | nil => rfl
  | cons here there ih =>
    rw [List.map_cons, List.zip_cons_cons, List.any_cons, List.zip_cons_cons, List.any_cons, ih,
      Site.reads_step here]

namespace Extent

/-- What happens while a scope is open. -/
def events (env : Environment) (extent : Extent) : List Event :=
  (run env extent.inside (run env (extent.before ++ [.openScope]) .empty).2).1

/-- Whether one of the references inside, which have these outcomes, reads the
binding of a name in the scope. -/
def reads (extent : Extent) (outcomes : List Outcome) (name : String) : Bool :=
  (extent.sites.zip outcomes).any fun settled =>
    settled.1.reads name extent.around.length settled.2

/-- The binders of a scope whose bindings are left unused, if the references
inside have these outcomes: each is the first of its name, is meant to be read,
is no member of a struct and not marked as intentionally unused, no declaration
of its name in the scope was reported for having no value, and no reference
reads the binding. -/
def unused (config : Config) (extent : Extent) (outcomes : List Outcome) : List Binder :=
  (Binder.firsts extent.binders).filter fun binder =>
    binder.kind.needsReading && !binder.member && !config.isDiscarded binder.name &&
      !(extent.binders.any fun other => other.name == binder.name && other.kind.lacksValue) &&
      !extent.reads outcomes binder.name

end Extent

namespace Scope

/-- Where names are distinct, each has the binding that is listed with it. -/
theorem get?_of_mem {scope : Scope} (distinct : scope.names.Nodup) {name : String}
    {binding : Binding} (listed : (name, binding) ∈ scope.bindings) :
    scope.get? name = some binding := by
  obtain ⟨bindings⟩ := scope
  simp only [get?, names] at distinct listed ⊢
  induction bindings with
  | nil => cases listed
  | cons entry rest ih =>
    obtain ⟨other, old⟩ := entry
    rw [List.map_cons, List.nodup_cons] at distinct
    rcases List.mem_cons.mp listed with same | behind
    · cases same
      simp
    · have passed : (name == other) = false := by
        apply beq_eq_false_iff_ne.mpr
        rintro rfl
        exact distinct.1 (List.mem_map.mpr ⟨_, behind, rfl⟩)
      rw [List.lookup_cons, passed]
      exact ih distinct.2 behind

/-- A scope declares the names that it binds. -/
theorem map_name_lexical (scope : Scope) :
    (scope.lexical.map fun declaration => declaration.name) = scope.names := by
  simp [lexical, names, Binding.declaration]

end Scope

namespace ScopeStack

/-- Whether the innermost scope leaves what is declared in it unused. -/
def leavesUnused (config : Config) (stack : ScopeStack) (declaration : Declaration) : Bool :=
  decide (stack.status 0 declaration.name = .defined) && !declaration.member &&
    !config.isDiscarded declaration.name

/-- The bindings that deserve a warning, as they are declared. -/
theorem map_unused (config : Config) {scope : Scope} (outer : List Scope)
    (distinct : scope.names.Nodup) :
    ((scope.unused config.unusedPrefix).map fun entry => entry.2.declaration entry.1) =
      scope.lexical.filter (leavesUnused config ⟨scope :: outer⟩) := by
  rw [Scope.lexical, List.filter_map, Scope.unused]
  congr 1
  apply List.filter_congr
  rintro ⟨name, binding⟩ listed
  have bound := Scope.get?_of_mem distinct listed
  simp [Scope.isUnused, leavesUnused, status, bindingAt?, bound, Binding.declaration,
    Config.isDiscarded, Bool.beq_eq_decide_eq]

/-- Closing a scope warns of what it leaves unused, in the order of its declarations. -/
theorem close_of_lexical {config : Config} (lint : config.lints.unused = true)
    {stack : ScopeStack} {here : LexicalScope} {around : LexicalScopes}
    (view : stack.lexical = here :: around)
    (distinct : (here.map fun declaration => declaration.name).Nodup) :
    (stack.close config).1 = .log (.popScope (around.length + 1) here.length) ::
      (here.filter (stack.leavesUnused config)).map fun declaration =>
        .warning (.unusedLocalVariable declaration.name declaration.span) := by
  obtain ⟨scopes⟩ := stack
  obtain ⟨scope, outer, rfl, rfl, rfl⟩ := List.map_eq_cons_iff.mp view
  rw [scope.map_name_lexical] at distinct
  rw [← map_unused config outer distinct, List.map_map]
  simp [close, innermost?, lint, depth, Scope.size, Scope.lexical, Binding.declaration]

end ScopeStack

variable {env : Environment} {program : Program} {events : List Event} {extent : Extent}

/-- A scope is opened empty. -/
theorem run_before_openScope (env : Environment) (before : List Step) :
    (run env (before ++ [.openScope]) .empty).2 = (run env before .empty).2.push := by
  rw [run_snd_append, run_singleton]
  rfl

/-- Where a scope is about to be closed, its steps have run over the scopes that were open
before it. -/
theorem Extent.run_closed (env : Environment) (extent : Extent) :
    (run env extent.closed .empty).2 =
      (run env extent.inside (run env extent.before .empty).2.push).2 := by
  rw [Extent.closed, List.append_cons, run_snd_append, run_before_openScope]

/-- The scope of an extent is opened inside the scopes around it. -/
theorem Extent.lexical_opened (env : Environment) (extent : Extent) :
    (run env extent.before .empty).2.push.lexical = extent.around.enter := by
  rw [ScopeStack.lexical_push, lexical_run]
  rfl

/-- The scope of an extent is one deeper than those around it. -/
theorem Extent.depth_opened (env : Environment) (extent : Extent) :
    (run env extent.before .empty).2.push.depth = extent.around.length + 1 := by
  rw [← ScopeStack.length_lexical, extent.lexical_opened]
  rfl

/-- The references inside are settled one for one. -/
theorem Extent.Contents.settled (contents : extent.Contents) (env : Environment) :
    List.Forall₂ (Site.Settled env.config) extent.sites (outcomesOf (extent.events env)) := by
  have covers := contents.covers
  rw [← extent.lexical_opened env] at covers
  rw [Extent.events, run_before_openScope]
  exact covers.settled

/-- What reads a binding of the scope is said by the references inside. -/
theorem Extent.Contents.readBy_eq (contents : extent.Contents) (env : Environment)
    (name : String) :
    readBy env name extent.around.length extent.inside (run env extent.before .empty).2.push =
      extent.reads (outcomesOf (extent.events env)) name := by
  rw [readBy, extent.lexical_opened, contents.covers.settlements, ← run_before_openScope,
    ← Extent.events, any_reads_zip (contents.settled env), Extent.reads]

/-- The steps inside of an extent are carried out where they belong. -/
theorem HasExtent.regular (has : HasExtent env.config.initializerName program extent) :
    RunsRegularly env extent.inside (run env extent.before .empty).2.push := by
  have whole := Program.runsRegularly env program
  obtain ⟨rest, walked⟩ := has.walk
  rw [walked, Extent.closed, List.append_assoc, runsRegularly_append] at whole
  exact (runsRegularly_append.mp whole.2.2).1

/-- How far the names of a scope have come when it is closed. -/
theorem HasExtent.status_closed (has : HasExtent env.config.initializerName program extent)
    (name : String) :
    (run env extent.closed .empty).2.status 0 name =
      (Binder.advanced name extent.binders).later
        (.readIf (extent.reads (outcomesOf (extent.events env)) name)) := by
  have contents := has.contents
  have behind := status_run env name (extent.depth_opened env) contents.stays has.regular
  have fresh : (run env extent.before .empty).2.push.status 0 name = .declared := rfl
  rw [contents.height, fresh, BindingState.declared_later, contents.advanced,
    contents.readBy_eq] at behind
  rw [extent.run_closed]
  exact behind

/-- When a scope is closed, the first binders of each name are what it declares. -/
theorem HasExtent.lexical_closed (has : HasExtent env.config.initializerName program extent) :
    (run env extent.closed .empty).2.lexical =
      (Binder.firsts extent.binders).map Binder.toDeclaration :: extent.around := by
  rw [lexical_run, Extent.closed, rescope_append, rescope_cons, ← Binder.declareAll_enter]
  exact has.contents.covers.rescope

/-- A binding is left defined if its binder asks for it to be read and nothing does. -/
theorem HasExtent.status_eq_defined_iff
    (has : HasExtent env.config.initializerName program extent)
    (documented : Program.ForeignBodiesEmpty env.config.initializerName program)
    {binder : Binder} (listed : binder ∈ extent.binders) :
    (run env extent.closed .empty).2.status 0 binder.name = .defined ↔
      (binder.kind.needsReading = true ∧
        ∀ other ∈ extent.binders, other.name = binder.name → other.kind.lacksValue = false) ∧
      extent.reads (outcomesOf (extent.events env)) binder.name = false := by
  rw [has.status_closed, BindingState.later_eq_defined_iff,
    ← (has.alike documented).advanced_eq_defined_iff listed]
  cases extent.reads (outcomesOf (extent.events env)) binder.name with
  | true => simp [BindingState.readIf]
  | false =>
    simp only [BindingState.readIf, Bool.false_eq_true, if_false, and_true, reduceCtorEq, or_false]
    exact ⟨And.left, fun defined => ⟨defined, by simp [defined]⟩⟩

/-- The events of closing a scope that leaves these bindings unused. -/
def Extent.closing (extent : Extent) (unused : List Binder) : List Event :=
  .log (.popScope (extent.around.length + 1) (Binder.firsts extent.binders).length) ::
    unused.map fun binder => .warning (.unusedLocalVariable binder.name binder.span)

/-- Closing a scope warns exactly of what is left unused. -/
theorem HasExtent.close_eq (has : HasExtent env.config.initializerName program extent)
    (documented : Program.ForeignBodiesEmpty env.config.initializerName program)
    (lint : env.config.lints.unused = true) :
    (Step.closeScope.perform env (run env extent.closed .empty).2).1 =
      extent.closing (extent.unused env.config (outcomesOf (extent.events env))) := by
  have distinct : (((Binder.firsts extent.binders).map Binder.toDeclaration).map
      fun declaration => declaration.name).Nodup := by
    rw [List.map_map]
    exact Binder.nodup_names_firsts extent.binders
  have closes := ScopeStack.close_of_lexical lint has.lexical_closed distinct
  rw [List.filter_map, List.map_map, List.length_map] at closes
  have same : (Binder.firsts extent.binders).filter
      ((run env extent.closed .empty).2.leavesUnused env.config ∘ Binder.toDeclaration) =
        extent.unused env.config (outcomesOf (extent.events env)) := by
    apply List.filter_congr
    intro binder listed
    have status := has.status_eq_defined_iff documented (Binder.mem_of_mem_firsts listed)
    have valued : (∀ other ∈ extent.binders, other.name = binder.name →
        other.kind.lacksValue = false) ↔
          (extent.binders.any fun other => other.name == binder.name && other.kind.lacksValue) =
            false := by
      simp
    rw [valued] at status
    simp only [Function.comp_apply, ScopeStack.leavesUnused, decide_eq_decide.mpr status,
      Bool.decide_and, Bool.decide_eq_true, Bool.decide_eq_false]
    ac_rfl
  rw [same] at closes
  exact closes

end NameResolution
