import NameResolution.Proofs.Pending.SelfReference
import NameResolution.Proofs.Redeclaration.Counted

/-!
# A declaration that is rejected

A scope keeps the first declaration of a name and rejects every further one. The
steps behind the rejection address the name all the same, so that they get to
the binding that is kept: if it holds a value, giving it a value changes
nothing, and excusing it counts it as read. Where the scope is closed, a binding
that counts as read is not reported, and everything else is reported all the
same.
-/

namespace NameResolution

/-- The names of every scope are distinct. -/
def LexicalScopes.Distinct (scopes : LexicalScopes) : Prop :=
  ∀ scope ∈ scopes, (scope.map fun declaration => declaration.name).Nodup

namespace LexicalScope

/-- A declaration leaves the names of a lexical scope distinct. -/
theorem nodup_declare {scope : LexicalScope}
    (distinct : (scope.map fun declaration => declaration.name).Nodup) (added : Declaration) :
    ((scope.declare added).map fun declaration => declaration.name).Nodup := by
  unfold declare
  split
  · exact distinct
  · rename_i free
    rw [List.map_append, List.nodup_append]
    refine ⟨distinct, by simp, fun name listed other own => ?_⟩
    obtain rfl := List.mem_singleton.mp own
    rintro rfl
    obtain ⟨earlier, held, same⟩ := List.mem_map.mp listed
    exact free (List.any_eq_true.mpr ⟨earlier, held, beq_iff_eq.mpr same⟩)

/-- Binding a name in any case binds the same names as declaring it. -/
theorem map_name_put (added : Declaration) (scope : LexicalScope) :
    ((put added scope).map fun declaration => declaration.name) =
      (scope.declare added).map fun declaration => declaration.name := by
  induction scope with
  | nil => rfl
  | cons earlier rest ih =>
    by_cases same : added.name = earlier.name
    · simp [put, declare, binds, same]
    · have other : ¬ earlier.name = added.name := fun equal => same equal.symm
      have behind : binds (earlier :: rest) added.name = binds rest added.name := by
        simp [binds, other]
      unfold declare at ih ⊢
      rw [put, if_neg (by simpa using same), List.map_cons, ih, behind]
      split <;> rfl

end LexicalScope

/-- No step makes two names of one scope the same. -/
theorem Step.distinct_rescope (step : Step) {scopes : LexicalScopes} (distinct : scopes.Distinct) :
    (step.rescope scopes).Distinct := by
  have declared (added : Declaration) : (scopes.declare added).Distinct := by
    cases scopes with
    | nil => exact distinct
    | cons here outer =>
      obtain ⟨own, around⟩ := List.forall_mem_cons.mp distinct
      exact List.forall_mem_cons.mpr ⟨LexicalScope.nodup_declare own added, around⟩
  cases step with
  | openScope => exact List.forall_mem_cons.mpr ⟨List.nodup_nil, distinct⟩
  | closeScope => exact fun scope held => distinct scope (List.mem_of_mem_tail held)
  | declare name mutable member => exact declared _
  | define name => exact declared _
  | bindPseudo name span =>
    have added := declared ⟨name, span, false, false⟩
    cases scopes with
    | nil => exact distinct
    | cons here outer =>
      obtain ⟨own, around⟩ := List.forall_mem_cons.mp added
      refine List.forall_mem_cons.mpr ⟨?_, around⟩
      rw [LexicalScope.map_name_put]
      exact own
  | _ => exact distinct

/-- Steps leave the names of every lexical scope distinct. -/
theorem distinct_rescope (steps : List Step) {scopes : LexicalScopes}
    (distinct : scopes.Distinct) : (rescope steps scopes).Distinct := by
  induction steps generalizing scopes with
  | nil => exact distinct
  | cons step rest ih => exact ih (step.distinct_rescope distinct)

/-- Whatever a run has done, the names of each open scope are distinct. -/
theorem distinct_run_empty (env : Environment) (steps : List Step) :
    (run env steps .empty).2.lexical.Distinct := by
  rw [lexical_run]
  exact distinct_rescope steps (List.forall_mem_nil _)

/-- Where names are distinct, counting one as read concerns its own entry alone. -/
theorem Scope.counted_middle {front behind : List (String × Binding)} {name : String}
    {binding : Binding}
    (distinct : (Scope.mk (front ++ (name, binding) :: behind)).names.Nodup) :
    (Scope.mk (front ++ (name, binding) :: behind)).counted (· == name) =
      ⟨front ++ (name, binding.markRead) :: behind⟩ := by
  rw [names, List.map_append, List.map_cons, List.nodup_middle, List.nodup_cons,
    List.mem_append, not_or] at distinct
  obtain ⟨⟨ahead, after⟩, -⟩ := distinct
  have others {entries : List (String × Binding)} (absent : name ∉ entries.map Prod.fst) :
      entries.map (fun entry => (entry.1, entry.2.counted (entry.1 == name))) = entries := by
    refine (List.map_congr_left fun entry listed => ?_).trans (List.map_id entries)
    have different : (entry.1 == name) = false :=
      beq_eq_false_iff_ne.mpr fun same => absent (List.mem_map.mpr ⟨entry, listed, same⟩)
    rw [different]
    rfl
  rw [counted, List.map_append, List.map_cons]
  exact congrArg Scope.mk (congrArg₂ (· ++ ·) (others ahead)
    (congrArg₂ List.cons (by simp [Binding.counted]) (others after)))

namespace ScopeStack

variable {stack : ScopeStack} {name : String} {binding : Binding}

/-- Where the innermost scope binds a name, a scope is open. -/
theorem exists_depth (bound : stack.bindingAt? 0 name = some binding) :
    ∃ level, stack.depth = level + 1 := by
  obtain ⟨scopes⟩ := stack
  cases scopes with
  | nil => cases bound
  | cons scope outer => exact ⟨outer.length, rfl⟩

/-- The scope in which a binding is innermost. -/
theorem exists_scope (bound : stack.bindingAt? 0 name = some binding)
    (distinct : stack.lexical.Distinct) :
    ∃ scope outer, stack = ⟨scope :: outer⟩ ∧ scope.get? name = some binding ∧
      scope.names.Nodup := by
  obtain ⟨scopes⟩ := stack
  cases scopes with
  | nil => cases bound
  | cons scope outer =>
    refine ⟨scope, outer, rfl, bound, ?_⟩
    rw [← scope.map_name_lexical]
    exact distinct _ List.mem_cons_self

/-- To excuse a name of the innermost scope is to count its binding as read. -/
theorem excuse_eq_countedAt (stack : ScopeStack) (name : String) :
    stack.modifyInnermost (·.modify name Binding.markRead) = stack.countedAt 0 name := by
  obtain ⟨scopes⟩ := stack
  cases scopes with
  | nil => rfl
  | cons scope outer =>
    have marked := scope.modify_counted .read (fun _ => false) name
    rw [Scope.counted_false] at marked
    rw [countedAt_zero]
    simpa [modifyInnermost, Access.mark] using marked

/-- A name that holds a value is not changed by being given one. -/
theorem define_of_valued {stack : ScopeStack} {name : Ident} {binding : Binding}
    (bound : stack.bindingAt? 0 name.name = some binding)
    (valued : stack.status 0 name.name ≠ .declared) (distinct : stack.lexical.Distinct) :
    stack.define name = stack := by
  rw [define_of_bound (by rw [← bindingAt?_zero, bound]; rfl)]
  have held : binding.state ≠ .declared := by simpa [status, bound] using valued
  obtain ⟨scope, outer, rfl, here, names⟩ := exists_scope bound distinct
  have same : binding.define = binding := by
    obtain ⟨span, state, mutable, member⟩ := binding
    cases state <;> first | rfl | exact absurd rfl held
  exact congrArg (fun changed => ScopeStack.mk (changed :: outer))
    (Scope.modify_eq_self names here same)

/-- A scope is closed with the same warnings if a binding of it counts as read, but for the
one of that binding. -/
theorem close_countedAt_zero (config : Config) (bound : stack.bindingAt? 0 name = some binding)
    (distinct : stack.lexical.Distinct) :
    ∃ line first second,
      stack.close config = (.log line :: (first ++ unusedWarnings config [(name, binding)] ++
          second).map Event.diagnostic, stack.pop) ∧
        (stack.countedAt 0 name).close config =
          (.log line :: (first ++ second).map Event.diagnostic, stack.pop) := by
  obtain ⟨⟨bindings⟩, outer, rfl, here, names⟩ := exists_scope bound distinct
  obtain ⟨front, behind, split⟩ := List.append_of_mem (Scope.mem_of_get? here)
  obtain rfl : bindings = front ++ (name, binding) :: behind := split
  have unwarned : unusedWarnings config [(name, binding.markRead)] = [] := by
    obtain ⟨span, state, mutable, member⟩ := binding
    cases state <;> simp [unusedWarnings, Scope.unused, Scope.isUnused, Binding.markRead,
      Binding.advance, BindingState.later, BindingState.rank]
  refine ⟨.popScope (outer.length + 1) (front ++ (name, binding) :: behind).length,
    unusedWarnings config front, unusedWarnings config behind, Prod.ext ?_ rfl, ?_⟩
  · rw [close_eq_warnings, List.append_cons, unusedWarnings_append, unusedWarnings_append]
    rfl
  · rw [countedAt_zero, Scope.counted_middle names]
    refine Prod.ext ?_ rfl
    rw [close_eq_warnings, List.append_cons, unusedWarnings_append, unusedWarnings_append,
      unwarned, List.append_nil]
    simp [Scope.size]

/-- A name that is bound is rejected. -/
theorem declare_of_bound (lints : Lints) {stack : ScopeStack} {name : Ident} {binding : Binding}
    (bound : stack.bindingAt? 0 name.name = some binding) (mutable member : Bool) :
    stack.declare lints name mutable member =
      ([.error (.duplicateDeclaration name.name name.span binding.span)], stack) := by
  obtain ⟨scopes⟩ := stack
  cases scopes with
  | nil => cases bound
  | cons scope outer =>
    have here : scope.get? name.name = some binding := bound
    simp [declare, innermost?, here]

/-- A name that is free is not rejected. -/
theorem not_rejected_of_free {stack : ScopeStack} {name : Ident}
    (free : stack.bindingAt? 0 name.name = none) (lints : Lints) (mutable member : Bool)
    (error : ResolutionError) :
    .error error ∉ reportOf (stack.declare lints name mutable member).1 := by
  obtain ⟨scopes⟩ := stack
  cases scopes with
  | nil => exact List.not_mem_nil
  | cons scope outer =>
    have free : scope.get? name.name = none := free
    simp only [declare, innermost?, List.head?_cons, free]
    split
    · split <;> simp [reportOf, Event.diagnostic?, Event.warning]
    · exact List.not_mem_nil

end ScopeStack

/-- Whether a variable declaration may go without a first value. -/
def Context.admitsUninitialized (context : Context) (mutable foreign : Bool) : Bool :=
  mutable || context.inStruct || foreign

section Rejection

variable (env : Environment) (context : Context) (name : Ident) (mutable foreign : Bool)
  (kept : Span)

/-- What happens at a variable declaration without a first value that is rejected because the
declaration at `kept` has taken its name. -/
def rejectionEvents : List Event :=
  (if foreign then env.requireForeign .variable name else []) ++
    .error (.duplicateDeclaration name.name name.span kept) ::
      if context.admitsUninitialized mutable foreign then []
      else [.error (.uninitializedImmutable name.name name.span)]

/-- What is reported of it: that the runtime does not back its name, that its name is taken, and
that it has no value, as far as these apply. -/
def rejection : Report :=
  (if foreign && !env.registry .variable name.name then
    [.error (.unregisteredForeignVariable name.name name.span)] else []) ++
    .error (.duplicateDeclaration name.name name.span kept) ::
      if context.admitsUninitialized mutable foreign then []
      else [.error (.uninitializedImmutable name.name name.span)]

/-- What is reported at a rejected declaration is the rejection. -/
theorem reportOf_rejectionEvents :
    reportOf (rejectionEvents env context name mutable foreign kept) =
      rejection env context name mutable foreign kept := by
  unfold rejectionEvents rejection Environment.requireForeign
  cases foreign <;> cases env.registry .variable name.name <;>
    cases context.admitsUninitialized mutable _ <;> rfl

/-- A rejected declaration records no depth. -/
theorem depthsOf_rejectionEvents :
    depthsOf (rejectionEvents env context name mutable foreign kept) = [] := by
  unfold rejectionEvents Environment.requireForeign
  cases foreign <;> cases env.registry .variable name.name <;>
    cases context.admitsUninitialized mutable _ <;> rfl

end Rejection

/-- The runtime is asked for the name of a foreign declaration. -/
theorem run_foreign (env : Environment) (kind : ForeignKind) (foreign : Bool) (name : Ident)
    (stack : ScopeStack) :
    run env (Step.foreign kind foreign name) stack =
      (if foreign then env.requireForeign kind name else [], stack) := by
  cases foreign <;> simp [Step.foreign, run, Step.perform]

/-- What happens at the end of a declaration without a first value. -/
theorem run_uninitialized (env : Environment) (context : Context) (name : Ident)
    (mutable foreign : Bool) (stack : ScopeStack) :
    run env (Step.uninitialized context name mutable foreign) stack =
      if context.admitsUninitialized mutable foreign then ([], stack.define name)
      else ([.error (.uninitializedImmutable name.name name.span)],
        (stack.define name).countedAt 0 name.name) := by
  unfold Step.uninitialized Context.admitsUninitialized
  cases mutable || context.inStruct || foreign <;>
    simp [run, Step.perform, ScopeStack.excuse_eq_countedAt]

/-- A rejected declaration does nothing but report, unless it is reported for having no value:
then the binding that is kept counts as read. -/
theorem Stmt.run_rejected (env : Environment) (context : Context) {stack : ScopeStack}
    {name : Ident} {binding : Binding} (bound : stack.bindingAt? 0 name.name = some binding)
    (valued : stack.status 0 name.name ≠ .declared) (distinct : stack.lexical.Distinct)
    (node : Node) (mutable : Bool) (ty : Option Ty) (foreign : Bool) :
    run env ((Stmt.letDecl node name mutable ty none foreign).walk
        env.config.initializerName context) stack =
      (rejectionEvents env context name mutable foreign binding.span,
        if context.admitsUninitialized mutable foreign then stack
        else stack.countedAt 0 name.name) := by
  have defines := ScopeStack.define_of_valued bound valued distinct
  rw [Stmt.walk, run_append, run_foreign, run_cons, Step.perform,
    ScopeStack.declare_of_bound env.config.lints bound, run_uninitialized, defines,
    rejectionEvents]
  cases context.admitsUninitialized mutable foreign <;> rfl

/-- A declaration is rejected only if its scope binds its name. -/
theorem Stmt.bound_of_rejected {env : Environment} {context : Context} {stack : ScopeStack}
    {name : Ident} {kept : Span} {node : Node} {mutable foreign : Bool} {ty : Option Ty}
    (rejected : .error (.duplicateDeclaration name.name name.span kept) ∈
      reportOf (run env ((Stmt.letDecl node name mutable ty none foreign).walk
        env.config.initializerName context) stack).1) :
    ∃ binding, stack.bindingAt? 0 name.name = some binding ∧ binding.span = kept := by
  rw [Stmt.walk, run_append, run_foreign, run_cons, run_uninitialized, reportOf_append,
    reportOf_append, List.mem_append, List.mem_append] at rejected
  rcases rejected with asked | declared | finished
  · unfold Environment.requireForeign at asked
    cases foreign <;> cases env.registry .variable name.name <;>
      simp [reportOf, Event.diagnostic?, Event.error] at asked
  · have declared : .error (.duplicateDeclaration name.name name.span kept) ∈
        reportOf (stack.declare env.config.lints name mutable context.inStruct).1 := declared
    cases bound : stack.bindingAt? 0 name.name with
    | some binding =>
      rw [ScopeStack.declare_of_bound env.config.lints bound] at declared
      have same : kept = binding.span := by
        simpa [reportOf, Event.diagnostic?, Event.error] using declared
      exact ⟨binding, rfl, same.symm⟩
    | none =>
      -- a free name is at most reported as hiding another
      exact absurd declared (ScopeStack.not_rejected_of_free bound _ _ _ _)
  · cases admits : context.admitsUninitialized mutable foreign <;>
      simp [admits, reportOf, Event.diagnostic?, Event.error] at finished

end NameResolution
