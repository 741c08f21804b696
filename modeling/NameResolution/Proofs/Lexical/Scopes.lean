import NameResolution.Run

/-!
# Lexical scopes

The open scopes as a reader of the program sees them: which names each scope
binds, and what their first declarations say. The state of a binding is left
out. `ScopeStack.lexical` is this view of a stack of scopes, and the theorems
here say what each operation on a stack does to it. A look-up depends on the
view alone.
-/

namespace NameResolution

/-- What the text of a program says of a declared name. -/
structure Declaration where
  name : String
  span : Span
  mutable : Bool
  member : Bool
deriving DecidableEq, Inhabited

/-- The declarations of one scope, in the order in which their names came in. -/
abbrev LexicalScope := List Declaration

/-- The declarations of the open scopes, innermost scope first. -/
abbrev LexicalScopes := List LexicalScope

namespace LexicalScope

/-- Whether a scope binds a name. -/
def binds (scope : LexicalScope) (name : String) : Bool :=
  scope.any fun declaration => declaration.name == name

/-- Declare a name. The first declaration of a name in its scope is the one that counts. -/
def declare (scope : LexicalScope) (declaration : Declaration) : LexicalScope :=
  if scope.binds declaration.name then scope else scope ++ [declaration]

/-- Bind a name whether or not the scope binds it. -/
def put (declaration : Declaration) : LexicalScope → LexicalScope
  | [] => [declaration]
  | earlier :: rest =>
    if declaration.name == earlier.name then declaration :: rest
    else earlier :: put declaration rest

/-- A name that is free is put behind the others. -/
theorem put_of_not_binds {scope : LexicalScope} {declaration : Declaration}
    (free : scope.binds declaration.name = false) :
    put declaration scope = scope ++ [declaration] := by
  induction scope with
  | nil => rfl
  | cons earlier rest ih =>
    simp only [binds, List.any_cons, Bool.or_eq_false_iff, beq_eq_false_iff_ne] at free
    have different : declaration.name ≠ earlier.name := fun same => free.1 same.symm
    simp [put, different, ih free.2]

/-- A scope binds a name that it declares, and all that it bound before. -/
@[simp] theorem binds_declare (scope : LexicalScope) (declaration : Declaration) (name : String) :
    (scope.declare declaration).binds name =
      (scope.binds name || declaration.name == name) := by
  unfold declare
  split
  · rename_i bound
    by_cases same : declaration.name = name
    · subst same
      simp [bound]
    · simp [same]
  · simp [binds]

end LexicalScope

namespace LexicalScopes

/-- Open a scope. -/
def enter (scopes : LexicalScopes) : LexicalScopes := [] :: scopes

/-- Declare a name in the innermost scope. -/
def declare (scopes : LexicalScopes) (declaration : Declaration) : LexicalScopes :=
  match scopes with
  | [] => []
  | here :: outer => here.declare declaration :: outer

/-- Declare names one after another in the innermost scope. -/
def declareAll (scopes : LexicalScopes) (declarations : List Declaration) : LexicalScopes :=
  declarations.foldl declare scopes

/-- Whether the innermost scope binds a name. -/
def bindsHere (scopes : LexicalScopes) (name : String) : Bool :=
  scopes.head?.any (·.binds name)

/-- The number of scopes left on the way out to the innermost scope that binds
a name, if there is such a scope. -/
def depth? (scopes : LexicalScopes) (name : String) : Option Nat :=
  scopes.findIdx? (·.binds name)

@[simp] theorem declareAll_nil (scopes : LexicalScopes) : scopes.declareAll [] = scopes := rfl

@[simp] theorem declareAll_cons (scopes : LexicalScopes) (declaration : Declaration)
    (rest : List Declaration) :
    scopes.declareAll (declaration :: rest) = (scopes.declare declaration).declareAll rest := rfl

/-- Declarations in two lists are made one list after the other. -/
@[simp] theorem declareAll_append (scopes : LexicalScopes) (first second : List Declaration) :
    scopes.declareAll (first ++ second) = (scopes.declareAll first).declareAll second :=
  List.foldl_append

/-- A declaration opens and closes no scope. -/
@[simp] theorem length_declare (scopes : LexicalScopes) (declaration : Declaration) :
    (scopes.declare declaration).length = scopes.length := by
  cases scopes <;> rfl

/-- A declaration changes the innermost scope at most. -/
@[simp] theorem tail_declare (scopes : LexicalScopes) (declaration : Declaration) :
    (scopes.declare declaration).tail = scopes.tail := by
  cases scopes <;> rfl

/-- Declarations change the innermost scope at most. -/
@[simp] theorem tail_declareAll (scopes : LexicalScopes) (declarations : List Declaration) :
    (scopes.declareAll declarations).tail = scopes.tail := by
  induction declarations generalizing scopes with
  | nil => rfl
  | cons declaration rest ih => rw [declareAll_cons, ih, tail_declare]

/-- Declaring a name that the innermost scope binds changes nothing. -/
theorem declare_of_bindsHere {scopes : LexicalScopes} {declaration : Declaration}
    (bound : scopes.bindsHere declaration.name = true) :
    scopes.declare declaration = scopes := by
  cases scopes with
  | nil => rfl
  | cons here outer =>
    have bound : here.binds declaration.name = true := by simpa [bindsHere] using bound
    simp [declare, LexicalScope.declare, bound]

/-- A second declaration of a name changes nothing. -/
theorem declare_declare {scopes : LexicalScopes} {first second : Declaration}
    (same : second.name = first.name) :
    (scopes.declare first).declare second = scopes.declare first := by
  cases scopes with
  | nil => rfl
  | cons here outer =>
    apply declare_of_bindsHere
    simp [bindsHere, declare, same]

/-- The depth of a name is the position of the innermost scope that binds it. -/
theorem depth?_eq_some_iff {scopes : LexicalScopes} {name : String} {depth : Nat} :
    scopes.depth? name = some depth ↔
      (scopes[depth]?.any (·.binds name)) = true ∧
        ∀ nearer < depth, (scopes[nearer]?.any (·.binds name)) = false := by
  unfold depth?
  rw [List.findIdx?_eq_some_iff_getElem]
  constructor
  · rintro ⟨bounded, bound, free⟩
    refine ⟨by simpa [bounded] using bound, ?_⟩
    intro nearer before
    have inside : nearer < scopes.length := Nat.lt_trans before bounded
    simpa [inside] using free nearer before
  · rintro ⟨bound, free⟩
    have bounded : depth < scopes.length := by
      apply Nat.lt_of_not_le
      intro outside
      simp [List.getElem?_eq_none outside] at bound
    refine ⟨bounded, by simpa [bounded] using bound, ?_⟩
    intro nearer before
    have inside : nearer < scopes.length := Nat.lt_trans before bounded
    simpa [inside] using free nearer before

/-- No depth goes beyond the scopes that are open. -/
theorem lt_length_of_depth? {scopes : LexicalScopes} {name : String} {depth : Nat}
    (found : scopes.depth? name = some depth) : depth < scopes.length := by
  obtain ⟨bounded, -⟩ := List.findIdx?_eq_some_iff_getElem.mp found
  exact bounded

/-- A name has no depth exactly when no open scope binds it. -/
theorem depth?_eq_none_iff {scopes : LexicalScopes} {name : String} :
    scopes.depth? name = none ↔ ∀ scope ∈ scopes, scope.binds name = false :=
  List.findIdx?_eq_none_iff

end LexicalScopes

/-- What the text of a program says of a binding. -/
def Binding.declaration (name : String) (binding : Binding) : Declaration :=
  ⟨name, binding.span, binding.mutable, binding.member⟩

/-- A binding that gets its value is declared as before. -/
@[simp] theorem Binding.declaration_define (name : String) (binding : Binding) :
    binding.define.declaration name = binding.declaration name := rfl

/-- A binding that is marked as read is declared as before. -/
@[simp] theorem Binding.declaration_markRead (name : String) (binding : Binding) :
    binding.markRead.declaration name = binding.declaration name := rfl

/-- A binding that is referred to is declared as before. -/
@[simp] theorem Access.declaration_mark (access : Access) (name : String) (binding : Binding) :
    (access.mark binding).declaration name = binding.declaration name := by
  cases access <;> rfl

namespace Scope

/-- The lexical view of a scope. -/
def lexical (scope : Scope) : LexicalScope :=
  scope.bindings.map fun (name, binding) => binding.declaration name

@[simp] theorem lexical_empty : Scope.empty.lexical = [] := rfl

/-- The lexical view says which names have a binding. -/
theorem isSome_get? (scope : Scope) (name : String) :
    (scope.get? name).isSome = scope.lexical.binds name := by
  obtain ⟨bindings⟩ := scope
  induction bindings with
  | nil => rfl
  | cons entry rest ih =>
    obtain ⟨other, binding⟩ := entry
    simp only [get?, lexical, LexicalScope.binds, Binding.declaration, List.lookup_cons,
      List.map_cons, List.any_cons] at ih ⊢
    by_cases same : name = other
    · simp [same]
    · have flipped : (other == name) = false :=
        beq_eq_false_iff_ne.mpr fun equal => same equal.symm
      simpa only [beq_eq_false_iff_ne.mpr same, flipped, Bool.false_or] using ih

/-- A binding that is inserted takes the place of its name, or a new one at the end. -/
theorem lexical_insert (scope : Scope) (name : String) (binding : Binding) :
    (scope.insert name binding).lexical =
      LexicalScope.put (binding.declaration name) scope.lexical := by
  obtain ⟨bindings⟩ := scope
  simp only [insert, lexical]
  induction bindings with
  | nil => rfl
  | cons entry rest ih =>
    obtain ⟨other, old⟩ := entry
    by_cases same : name = other
    · simp [insertInto, LexicalScope.put, Binding.declaration, same]
    · simpa [insertInto, LexicalScope.put, Binding.declaration, same] using ih

/-- A change that leaves the declaration of a binding alone does not show. -/
theorem lexical_modify (scope : Scope) (name : String) (change : Binding → Binding)
    (keeps : ∀ binding, (change binding).declaration name = binding.declaration name) :
    (scope.modify name change).lexical = scope.lexical := by
  simp only [modify, lexical, List.map_map]
  apply List.map_congr_left
  rintro ⟨other, binding⟩ -
  by_cases same : name = other
  · subst same
    simp [keeps]
  · simp [same]

end Scope

namespace ScopeStack

/-- The lexical view of a stack of scopes. -/
def lexical (stack : ScopeStack) : LexicalScopes := stack.scopes.map Scope.lexical

@[simp] theorem lexical_empty : ScopeStack.empty.lexical = [] := rfl

/-- Opening a scope opens a lexical one. -/
@[simp] theorem lexical_push (stack : ScopeStack) : stack.push.lexical = stack.lexical.enter := rfl

/-- Closing a scope closes the innermost lexical one. -/
@[simp] theorem lexical_pop (stack : ScopeStack) : stack.pop.lexical = stack.lexical.tail := by
  simp [pop, lexical, List.map_tail]

/-- There are as many lexical scopes as open ones. -/
@[simp] theorem length_lexical (stack : ScopeStack) : stack.lexical.length = stack.depth := by
  simp [lexical, depth]

/-- A change of the innermost scope that does not show leaves the view as it is. -/
theorem lexical_modifyInnermost (stack : ScopeStack) (change : Scope → Scope)
    (keeps : ∀ scope, (change scope).lexical = scope.lexical) :
    (stack.modifyInnermost change).lexical = stack.lexical := by
  obtain ⟨scopes⟩ := stack
  cases scopes with
  | nil => rfl
  | cons scope outer => simp [modifyInnermost, lexical, keeps]

/-- The lexical view says how far out the innermost binding of a name is. -/
theorem map_fst_findIn (name : String) (scopes : List Scope) :
    (findIn name scopes).map Prod.fst =
      LexicalScopes.depth? (scopes.map Scope.lexical) name := by
  induction scopes with
  | nil => rfl
  | cons scope outer ih =>
    have here := scope.isSome_get? name
    cases found : scope.get? name with
    | some binding =>
      rw [found, Option.isSome_some] at here
      simp [findIn, found, LexicalScopes.depth?, List.findIdx?_cons, ← here]
    | none =>
      rw [found, Option.isSome_none] at here
      have outside : (findIn name outer).map (fun found => found.1) =
        List.findIdx? (·.binds name) (outer.map Scope.lexical) := ih
      simp [findIn, found, LexicalScopes.depth?, List.findIdx?_cons, ← here,
        ← outside, Function.comp_def]

/-- The hops of a look-up are the depth of the name in the lexical scopes. -/
theorem map_fst_find? (stack : ScopeStack) (name : String) :
    (stack.find? name).map Prod.fst = stack.lexical.depth? name :=
  map_fst_findIn name stack.scopes

/-- An update changes the binding that a look-up finds. -/
theorem map_fst_updateIn (name : String) (change : Binding → Binding) (scopes : List Scope) :
    (updateIn name change scopes).map Prod.fst = (findIn name scopes).map Prod.fst := by
  induction scopes with
  | nil => rfl
  | cons scope outer ih =>
    cases found : scope.get? name with
    | some binding => simp [updateIn, findIn, found]
    | none =>
      have outside : (updateIn name change outer).map (fun found => found.1) =
        (findIn name outer).map (fun found => found.1) := ih
      simpa [updateIn, findIn, found, Function.comp_def] using
        congrArg (Option.map (· + 1)) outside

/-- An update that keeps what is declared keeps the lexical scopes. -/
theorem lexical_updateIn (name : String) (change : Binding → Binding)
    (keeps : ∀ binding, (change binding).declaration name = binding.declaration name)
    (scopes : List Scope) :
    ∀ found ∈ updateIn name change scopes,
      found.2.2.map Scope.lexical = scopes.map Scope.lexical := by
  induction scopes with
  | nil => simp [updateIn]
  | cons scope outer ih =>
    cases here : scope.get? name with
    | some binding => simp [updateIn, here, Scope.lexical_modify scope name change keeps]
    | none =>
      simp only [updateIn, here, Option.mem_def, Option.map_eq_some_iff]
      rintro _ ⟨found, outside, rfl⟩
      simp [ih found outside]

/-- The innermost scope binds a name exactly when it has a binding for it. -/
theorem isSome_getInnermost? (stack : ScopeStack) (name : String) :
    (stack.getInnermost? name).isSome = stack.lexical.bindsHere name := by
  obtain ⟨scopes⟩ := stack
  cases scopes with
  | nil => rfl
  | cons scope outer =>
    simp [getInnermost?, innermost?, lexical, LexicalScopes.bindsHere, Scope.isSome_get?]

end ScopeStack

end NameResolution
