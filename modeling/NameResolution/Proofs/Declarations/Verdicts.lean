import NameResolution.Proofs.Frame.Openings
import NameResolution.Proofs.Frame.Regular
import NameResolution.Proofs.Lexical.Meanings

/-!
# What is said of a declaration

What a run says of a declaration depends on the scopes that are open where it is
made and on nothing else. A name that its own scope binds is a duplicate; one
that is bound farther out alone hides a declaration. The declaration that a
scope holds of a name stays there, as it was made, while the scope is open.
-/

namespace NameResolution

namespace Declaration

/-- The warning that a new name earns if it hides a declaration of the scopes around its own. -/
def shadowing (around : LexicalScopes) (declaration : Declaration) : List Event :=
  match around.meaning? declaration.name with
  | some earlier => [.warning (.shadowedVariable declaration.name earlier.span declaration.span)]
  | none => []

/-- The error that a declaration is whose name has been declared in its scope already. -/
def duplicate (declaration kept : Declaration) : Event :=
  .error (.duplicateDeclaration declaration.name declaration.span kept.span)

/-- What is said of a declaration that is made with these scopes open. -/
def verdict (scopes : LexicalScopes) (declaration : Declaration) : List Event :=
  match scopes.declarationAt? 0 declaration.name with
  | some kept => [declaration.duplicate kept]
  | none => declaration.shadowing scopes.tail

end Declaration

namespace ScopeStack

/-- The lexical view says what a look-up finds. -/
theorem meaning?_lexical (stack : ScopeStack) (name : String) :
    stack.lexical.meaning? name = (stack.find? name).map fun hit => hit.2.declaration name := by
  rw [LexicalScopes.meaning?]
  cases found : stack.find? name with
  | none =>
    rw [← stack.map_fst_find? name, found, Option.map_none, Option.bind_none, Option.map_none]
  | some hit =>
    obtain ⟨hops, binding⟩ := hit
    obtain ⟨depth, bound⟩ := find?_eq_some_iff.mp found
    rw [depth, Option.bind_some, declarationAt?_lexical, bound, Option.map_some, Option.map_some]

/-- Where a scope is open, there is a lexical one. -/
theorem lexical_ne_nil {stack : ScopeStack} {scope : Scope}
    (innermost : stack.innermost? = some scope) : stack.lexical ≠ [] := by
  rw [lexical, Ne, List.map_eq_nil_iff]
  rintro closed
  rw [innermost?, closed] at innermost
  cases innermost

/-- What the enclosing scopes declare of a name is what it means there. -/
theorem meaning?_tail_lexical (stack : ScopeStack) (name : String) :
    LexicalScopes.meaning? stack.lexical.tail name =
      (stack.findEnclosing? name).map (Binding.declaration name) := by
  rw [findEnclosing?, Option.map_map, lexical, ← List.map_tail]
  exact meaning?_lexical ⟨stack.scopes.tail⟩ name

/-- What taking a name says depends on what the open scopes declare. -/
theorem declare_fst (lints : Lints) {stack : ScopeStack} {scope : Scope}
    (innermost : stack.innermost? = some scope) (name : Ident) (mutable member : Bool) :
    (stack.declare lints name mutable member).1 =
      match stack.lexical.declarationAt? 0 name.name with
      | some kept => [(name.declaration mutable member).duplicate kept]
      | none =>
        if lints.shadowing then (name.declaration mutable member).shadowing stack.lexical.tail
        else [] := by
  have here : stack.lexical.declarationAt? 0 name.name =
      (scope.get? name.name).map (Binding.declaration name.name) := by
    rw [declarationAt?_lexical, bindingAt?, ← List.head?_eq_getElem?, ← innermost?, innermost]
    rfl
  have around := stack.meaning?_tail_lexical name.name
  unfold Declaration.shadowing declare
  dsimp only [Ident.declaration]
  rw [here, around, innermost]
  dsimp only
  cases scope.get? name.name with
  | some binding => rfl
  | none =>
    cases stack.findEnclosing? name.name with
    | some earlier => rfl
    | none => exact (ite_self _).symm

/-- Taking a name says of its declaration what the open scopes ask for. -/
theorem declare_eq_verdict {lints : Lints} (lint : lints.shadowing = true) {stack : ScopeStack}
    {scope : Scope} (innermost : stack.innermost? = some scope) (name : Ident)
    (mutable member : Bool) :
    (stack.declare lints name mutable member).1 =
      (name.declaration mutable member).verdict stack.lexical := by
  rw [declare_fst lints innermost, if_pos lint]
  rfl

end ScopeStack

/-- What happens at a step that declares a name. -/
theorem Step.perform_declare {env : Environment} (lint : env.config.lints.shadowing = true)
    {stack : ScopeStack} {name : Ident} {mutable member : Bool}
    (regular : (Step.declare name mutable member).Regular env stack) :
    ((Step.declare name mutable member).perform env stack).1 =
      (name.declaration mutable member).verdict stack.lexical := by
  obtain ⟨scope, innermost, -⟩ := regular
  exact ScopeStack.declare_eq_verdict lint innermost name mutable member

namespace LexicalScope

variable {scope : LexicalScope} {name : String} {added : Declaration}

/-- What a scope declares of a name, it declares whatever is declared behind it. -/
theorem get?_append_of_some {kept : Declaration} (bound : scope.get? name = some kept)
    (more : LexicalScope) : LexicalScope.get? (scope ++ more) name = some kept := by
  rw [get?] at bound
  rw [get?, List.find?_append, bound, Option.some_or]

/-- What a scope says of a name behind a declaration is the first it ever said of it. -/
theorem get?_declare (scope : LexicalScope) (added : Declaration) (name : String) :
    (scope.declare added).get? name = LexicalScope.get? (scope ++ [added]) name := by
  unfold declare
  split
  · rename_i bound
    obtain ⟨earlier, listed, same⟩ := List.any_eq_true.mp bound
    rw [get?, get?, List.find?_append]
    cases found : scope.find? fun declaration => declaration.name == name with
    | some kept => rfl
    | none =>
      -- The name asked for is another one, as this one is bound.
      have other : (added.name == name) = false := by
        have missed := List.find?_eq_none.mp found earlier listed
        rw [eq_of_beq same] at missed
        exact Bool.eq_false_iff.mpr missed
      simp [other]
  · rfl

end LexicalScope

/-- A declaration leaves what there is of a name. -/
theorem LexicalScopes.declarationAt?_declare {scopes : LexicalScopes} {hops : Nat} {name : String}
    {kept : Declaration} (bound : scopes.declarationAt? hops name = some kept)
    (added : Declaration) : (scopes.declare added).declarationAt? hops name = some kept := by
  cases scopes with
  | nil => exact bound
  | cons here outer =>
    cases hops with
    | zero =>
      have bound : here.get? name = some kept := bound
      change (here.declare added).get? name = some kept
      rw [LexicalScope.get?_declare]
      exact LexicalScope.get?_append_of_some bound [added]
    | succ level => exact bound

/-- A free name is declared as the declaration says. -/
theorem LexicalScopes.declarationAt?_declare_of_free {scopes : LexicalScopes}
    {added : Declaration} (nonempty : scopes ≠ [])
    (free : scopes.declarationAt? 0 added.name = none) :
    (scopes.declare added).declarationAt? 0 added.name = some added := by
  cases scopes with
  | nil => exact absurd rfl nonempty
  | cons here outer =>
    have free : here.get? added.name = none := free
    change (here.declare added).get? added.name = some added
    rw [LexicalScope.get?] at free
    rw [LexicalScope.get?_declare, LexicalScope.get?, List.find?_append, free]
    simp

/-- A pseudo binding takes a free name. -/
theorem Step.rescope_bindPseudo {env : Environment} {stack : ScopeStack} {name : String}
    {span : Span} (regular : (Step.bindPseudo name span).Regular env stack) :
    (Step.bindPseudo name span).rescope stack.lexical =
      stack.lexical.declare ⟨name, span, false, false⟩ := by
  obtain ⟨scope, innermost, free⟩ := regular
  obtain ⟨scopes⟩ := stack
  cases scopes with
  | nil => rfl
  | cons here outer =>
    obtain rfl : here = scope := Option.some.inj innermost
    have unbound : here.lexical.binds name = false := by
      rw [← here.isSome_get? name, free, Option.isSome_none]
    change LexicalScope.put _ here.lexical :: _ = LexicalScope.declare here.lexical _ :: _
    rw [LexicalScope.put_of_not_binds unbound, LexicalScope.declare, if_neg (by simp [unbound])]

/-- A step leaves what there is of a name in a scope that stays open. -/
theorem Step.declarationAt?_rescope {step : Step} {env : Environment} {stack : ScopeStack}
    (regular : step.Regular env stack) {hops later : Nat} {name : String} {kept : Declaration}
    (bound : stack.lexical.declarationAt? hops name = some kept)
    (height : step.height (hops + 1) = later + 1) :
    (step.rescope stack.lexical).declarationAt? later name = some kept := by
  cases step with
  | closeScope =>
    obtain rfl : hops = later + 1 := height
    rw [rescope, LexicalScopes.declarationAt?, List.getElem?_tail]
    exact bound
  | bindPseudo other span =>
    obtain rfl : hops = later := Nat.succ.inj height
    rw [rescope_bindPseudo regular]
    exact LexicalScopes.declarationAt?_declare bound _
  | declare _ _ _ | define _ =>
    obtain rfl : hops = later := Nat.succ.inj height
    exact LexicalScopes.declarationAt?_declare bound _
  | _ =>
    obtain rfl := Nat.succ.inj height
    exact bound

/-- While a scope stays open, it keeps what it declares of a name. -/
theorem declarationAt?_run {env : Environment} {steps : List Step} {stack : ScopeStack}
    (regular : RunsRegularly env steps stack) {hops later : Nat} {name : String}
    {kept : Declaration} (bound : stack.lexical.declarationAt? hops name = some kept)
    (stays : StaysOpen (hops + 1) steps) (height : heightAfter steps (hops + 1) = later + 1) :
    (run env steps stack).2.lexical.declarationAt? later name = some kept := by
  induction steps generalizing stack hops with
  | nil =>
    obtain rfl := Nat.succ.inj height
    exact bound
  | cons step rest ih =>
    obtain ⟨-, stays⟩ := stays
    rw [heightAfter_cons] at height
    have further : 0 < step.height (hops + 1) := stays.opened
    obtain ⟨next, here⟩ := Nat.exists_eq_succ_of_ne_zero (Nat.pos_iff_ne_zero.mp further)
    have moved := Step.declarationAt?_rescope regular.1 bound here
    rw [← Step.lexical_perform env stack step] at moved
    rw [here] at stays height
    exact ih regular.2 moved stays height

end NameResolution
