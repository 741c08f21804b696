import NameResolution.Proofs.Lexical.Marks

/-!
# What a name means

The innermost declaration of a name is what it means. The lexical view of a
stack holds a declaration wherever the stack holds a binding, and says as much
of it as a check for mutability asks.
-/

namespace NameResolution

/-- The declaration of a name in a scope. -/
def LexicalScope.get? (scope : LexicalScope) (name : String) : Option Declaration :=
  scope.find? fun declaration => declaration.name == name

namespace LexicalScopes

/-- The declaration of a name in the scope so many scopes out. -/
def declarationAt? (scopes : LexicalScopes) (hops : Nat) (name : String) : Option Declaration :=
  scopes[hops]?.bind (·.get? name)

/-- The innermost declaration of a name. -/
def meaning? (scopes : LexicalScopes) (name : String) : Option Declaration :=
  (scopes.depth? name).bind (scopes.declarationAt? · name)

end LexicalScopes

/-- The lexical view of a scope declares what the scope binds. -/
theorem Scope.get?_lexical (scope : Scope) (name : String) :
    scope.lexical.get? name = (scope.get? name).map (Binding.declaration name) := by
  obtain ⟨bindings⟩ := scope
  induction bindings with
  | nil => rfl
  | cons entry rest ih =>
    obtain ⟨other, binding⟩ := entry
    simp only [get?, lexical, LexicalScope.get?, Binding.declaration, List.lookup_cons,
      List.map_cons, List.find?_cons] at ih ⊢
    by_cases same : name = other
    · simp [same, Binding.declaration]
    · have flipped : (other == name) = false :=
        beq_eq_false_iff_ne.mpr fun equal => same equal.symm
      simpa only [beq_eq_false_iff_ne.mpr same, flipped] using ih

namespace ScopeStack

/-- The lexical view of a stack declares what the stack binds. -/
theorem declarationAt?_lexical (stack : ScopeStack) (hops : Nat) (name : String) :
    stack.lexical.declarationAt? hops name =
      (stack.bindingAt? hops name).map (Binding.declaration name) := by
  rw [LexicalScopes.declarationAt?, lexical, List.getElem?_map, bindingAt?]
  cases stack.scopes[hops]? with
  | none => rfl
  | some scope => exact scope.get?_lexical name

/-- A look-up finds the binding in the innermost scope that binds the name. -/
theorem find?_eq_some_iff {stack : ScopeStack} {name : String} {hops : Nat} {binding : Binding} :
    stack.find? name = some (hops, binding) ↔
      stack.lexical.depth? name = some hops ∧ stack.bindingAt? hops name = some binding := by
  rw [← map_fst_find?]
  obtain ⟨scopes⟩ := stack
  simp only [find?, bindingAt?]
  induction scopes generalizing hops with
  | nil => simp [findIn]
  | cons scope outer ih =>
    cases here : scope.get? name with
    | some own =>
      simp only [findIn, here, Option.some.injEq, Prod.mk.injEq, Option.map_some]
      constructor
      · rintro ⟨rfl, rfl⟩
        exact ⟨rfl, here⟩
      · rintro ⟨rfl, bound⟩
        refine ⟨rfl, ?_⟩
        simpa [here] using bound
    | none =>
      cases hops with
      | zero =>
        simp [findIn, here]
      | succ hops => simpa [findIn, here, Function.comp_def] using ih

/-- Whether a name may be changed is a matter of its innermost declaration. -/
theorem requireMutable_eq (stack : ScopeStack) (name : String) (cause : Span → ResolutionError) :
    stack.requireMutable name cause =
      match stack.lexical.meaning? name with
      | some declaration =>
        if declaration.mutable then [] else [.error (cause declaration.span)]
      | none => [] := by
  rw [requireMutable, LexicalScopes.meaning?]
  cases found : stack.find? name with
  | none =>
    have unbound := stack.map_fst_find? name
    rw [found, Option.map_none] at unbound
    simp [← unbound]
  | some hit =>
    obtain ⟨hops, binding⟩ := hit
    obtain ⟨depth, bound⟩ := find?_eq_some_iff.mp found
    simp [depth, declarationAt?_lexical, bound, Binding.declaration]

end ScopeStack

end NameResolution
