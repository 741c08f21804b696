import NameResolution.Proofs.Frame.Regular
import NameResolution.Proofs.Unused.Closing
import NameResolution.Proofs.Walk.Views

/-!
# Appended statements

The walk of a program that goes on behind another begins with the steps of the
first, all but the last, which closes the scope of the program. So the events
of the first happen again, and its scope is left as the first leaves it, to
grow further.
-/

namespace NameResolution

/-- The steps of a program up to where its scope is closed. -/
def Program.opened (init : String) (program : Program) : List Step :=
  .openScope :: Stmt.walkAll init .outermost program

/-- The walk of a program is what opens it, and the closing of its scope. -/
theorem Program.walk_eq_opened (init : String) (program : Program) :
    Program.walk init program = program.opened init ++ [.closeScope] := rfl

/-- Behind the statements of a list, more statements are walked behind at most a
step on statements that cannot be reached. -/
theorem Stmt.exists_walkAll_append (init : String) (context : Context) (stmts more : List Stmt) :
    ∃ link, Shape false link ∧ Stmt.walkAll init context (stmts ++ more) =
      Stmt.walkAll init context stmts ++ (link ++ Stmt.walkAll init context more) := by
  induction stmts with
  | nil => exact ⟨[], .nil, rfl⟩
  | cons stmt rest ih =>
    cases rest with
    | nil =>
      refine ⟨Step.between stmt more, .between stmt more, ?_⟩
      simp [Stmt.walkAll, Step.between]
    | cons next rest =>
      obtain ⟨link, shape, same⟩ := ih
      refine ⟨link, shape, ?_⟩
      have walked (tail : List Stmt) : Stmt.walkAll init context (stmt :: (next :: tail)) =
          stmt.walk init context ++ Step.between stmt [next] ++
            Stmt.walkAll init context (next :: tail) := rfl
      rw [List.cons_append, List.cons_append, walked, walked, ← List.cons_append, same]
      simp only [List.append_assoc]

/-- The walk of a longer program goes on where the shorter one closes its scope. -/
theorem Program.exists_opened_append (init : String) (first second : Program) :
    ∃ later, Shape true later ∧
      Program.opened init (first ++ second) = first.opened init ++ later := by
  obtain ⟨link, shape, same⟩ := Stmt.exists_walkAll_append init .outermost first second
  refine ⟨link ++ Stmt.walkAll init .outermost second,
    shape.mono.append (Stmt.shaped_all init .outermost second), ?_⟩
  rw [Program.opened, same]
  rfl

namespace Binder

/-- Every name is that of a binder that counts. -/
theorem exists_mem_firsts {binder : Binder} {binders : List Binder} (listed : binder ∈ binders) :
    ∃ first ∈ firsts binders, first.name = binder.name := by
  induction binders with
  | nil => cases listed
  | cons head rest ih =>
    by_cases same : head.name = binder.name
    · exact ⟨head, List.mem_cons_self, same⟩
    · have behind : binder ∈ rest := by
        rcases List.mem_cons.mp listed with rfl | behind
        · exact absurd rfl same
        · exact behind
      obtain ⟨first, counts, named⟩ := ih behind
      refine ⟨first, List.mem_cons_of_mem _ (List.mem_filter.mpr ⟨counts, ?_⟩), named⟩
      rw [named, bne_iff_ne]
      exact fun equal => same equal.symm

/-- A binder that is meant to be read gives its name a value. -/
theorem rank_advanced_pos {binder : Binder} {binders : List Binder} (listed : binder ∈ binders)
    (needed : binder.kind.needsReading = true) : 0 < (advanced binder.name binders).rank := by
  obtain ⟨first, rest, rfl⟩ := List.append_of_mem listed
  have own : 0 < binder.kind.state.rank := by
    rw [BinderKind.state_of_needsReading needed]
    cases binder.kind.lacksValue <;> decide
  simp only [advanced_append, advanced, advances, if_true, BindingState.rank_later]
  omega

end Binder

variable {env : Environment} {program : Program} {events : List Event}

/-- Without a fault in a program there is none before its scope is closed. -/
theorem Program.opened_goesOn (faultFree : (observe env program).2 = none) :
    (cutAtFault (program.opened env.config.initializerName)).2 = none := by
  rw [fault_observe, Program.walk_eq_opened] at faultFree
  cases aborts : (cutAtFault (program.opened env.config.initializerName)).2 with
  | none => rfl
  | some fault =>
    rw [cutAtFault_append_of_some _ aborts, aborts] at faultFree
    cases faultFree

/-- What has happened before the scope of a program is closed. -/
def eventsOpened (env : Environment) (program : Program) : List Event :=
  eventsBefore env program (program.opened env.config.initializerName)

/-- The scope is the only one that is open before the scope of a program is
closed. It holds what the statements of the program declare, in order. -/
structure TopLevel (env : Environment) (program : Program) (scope : Scope) : Prop where
  stack : (run env (program.opened env.config.initializerName) .empty).2 = ⟨[scope]⟩
  lexical : scope.lexical =
    (Binder.firsts (program.flatMap (Stmt.binders false))).map Binder.toDeclaration

/-- Behind the statements of a program, one scope is open. -/
theorem Program.exists_topLevel (env : Environment) (program : Program) :
    ∃ scope, TopLevel env program scope := by
  have view : (run env (program.opened env.config.initializerName) .empty).2.lexical =
      (Binder.firsts (program.flatMap (Stmt.binders false))).map Binder.toDeclaration :: [] :=
    HasExtent.program.lexical_closed
  obtain ⟨scope, outer, stack, lexical, none⟩ := List.map_eq_cons_iff.mp view
  obtain rfl := List.map_eq_nil_iff.mp none
  exact ⟨scope, congrArg ScopeStack.mk stack, lexical⟩

namespace TopLevel

variable {scope : Scope}

/-- The names of the scope are distinct. -/
theorem distinct (top : TopLevel env program scope) : scope.names.Nodup := by
  rw [← Scope.map_name_lexical, top.lexical, List.map_map]
  exact Binder.nodup_names_firsts _

/-- What the scope holds is declared by a statement of the program. -/
theorem exists_binder (top : TopLevel env program scope) {name : String} {binding : Binding}
    (listed : (name, binding) ∈ scope.bindings) :
    ∃ binder ∈ program.flatMap (Stmt.binders false),
      binder.toDeclaration = binding.declaration name := by
  have held : binding.declaration name ∈ scope.lexical := List.mem_map.mpr ⟨_, listed, rfl⟩
  rw [top.lexical] at held
  obtain ⟨binder, first, same⟩ := List.mem_map.mp held
  exact ⟨binder, Binder.mem_of_mem_firsts first, same⟩

/-- What the open scope holds is declared by a statement at the top. -/
theorem declared (top : TopLevel env program scope) {name : String} {binding : Binding}
    (listed : (name, binding) ∈ scope.bindings) :
    binding.declaration name ∈ program.flatMap (Stmt.declares false) := by
  obtain ⟨binder, among, same⟩ := top.exists_binder listed
  rw [← Stmt.map_binders_all]
  exact List.mem_map.mpr ⟨binder, among, same⟩

/-- A name that a statement of the program declares is held by the scope. -/
theorem mem_names (top : TopLevel env program scope) {declaration : Declaration}
    (declared : declaration ∈ program.flatMap (Stmt.declares false)) :
    declaration.name ∈ scope.names := by
  rw [← Stmt.map_binders_all] at declared
  obtain ⟨binder, among, rfl⟩ := List.mem_map.mp declared
  obtain ⟨first, counts, same⟩ := Binder.exists_mem_firsts among
  rw [← Scope.map_name_lexical, top.lexical, List.map_map, ← same]
  exact List.mem_map.mpr ⟨first, counts, rfl⟩

/-- When the scope of a program comes to be closed, no name in it still waits for
its first value. -/
theorem valued (top : TopLevel env program scope) {name : String} {binding : Binding}
    (listed : (name, binding) ∈ scope.bindings) : binding.state ≠ .declared := by
  obtain ⟨binder, among, same⟩ := top.exists_binder listed
  obtain ⟨stmt, -, made⟩ := List.mem_flatMap.mp among
  have named : binder.name = name := congrArg Declaration.name same
  have brought := Binder.rank_advanced_pos among (stmt.needsReading made)
  have status : (run env (program.opened env.config.initializerName) .empty).2.status 0 name =
      (Binder.advanced name (program.flatMap (Stmt.binders false))).later _ :=
    HasExtent.program.status_closed name
  have held : (ScopeStack.mk [scope]).status 0 name = binding.state := by
    simp [ScopeStack.status, ScopeStack.bindingAt?, Scope.get?_of_mem top.distinct listed]
  rw [top.stack, held, ← named] at status
  intro waiting
  have rank := congrArg BindingState.rank status
  rw [BindingState.rank_later, waiting] at rank
  have none : BindingState.declared.rank = 0 := rfl
  omega

end TopLevel

end NameResolution
