import NameResolution.Proofs.Lexical.Sites
import NameResolution.Proofs.Unused.Status

/-!
# Binders

What declares names in a scope, read off the tree: variables, functions,
structs and classes, the counters and items of loops, parameters, and `this`
and `super`. The steps of a scope move a name as far as its binders say.
-/

namespace NameResolution

/-- What kind of thing declares a name. -/
inductive BinderKind where
  /-- A variable, a function, a struct or a class; a variable that must have a
  value and has none is reported. -/
  | item (lacksValue : Bool)
  | loopVariable
  | parameter (foreign : Bool)
  /-- `this` or `super`. -/
  | pseudo
deriving DecidableEq, Inhabited

namespace BinderKind

/-- Whether a declaration was reported for having no value. -/
def lacksValue : BinderKind → Bool
  | .item lacksValue => lacksValue
  | _ => false

/-- Whether something of this kind is meant to be read. `this` and `super` need
not be, nor the parameters of a foreign function. -/
def needsReading : BinderKind → Bool
  | .parameter true => false
  | .pseudo => false
  | _ => true

/-- How far a declaration of this kind brings its name. A parameter of a foreign
function never gets a value, and `this` and `super` count as read, as does a
variable that has been reported for having no value. -/
def state : BinderKind → BindingState
  | .item lacksValue => if lacksValue then .read else .defined
  | .loopVariable => .defined
  | .parameter foreign => if foreign then .declared else .defined
  | .pseudo => .read

/-- What is meant to be read is left defined, or counts as read if it was reported for having no
value. -/
theorem state_of_needsReading {kind : BinderKind} (needed : kind.needsReading = true) :
    kind.state = if kind.lacksValue then .read else .defined := by
  cases kind with
  | item lacksValue => rfl
  | loopVariable => rfl
  | parameter foreign =>
    cases foreign with
    | false => rfl
    | true => cases needed
  | pseudo => cases needed

end BinderKind

/-- A declaration and what makes it. -/
structure Binder extends Declaration where
  kind : BinderKind
deriving DecidableEq, Inhabited

/-- The binder of a function, a struct or a class. -/
def Ident.binder (name : Ident) (inStruct : Bool) : Binder :=
  ⟨name.declaration false inStruct, .item false⟩

/-- The binder of the counter or the item of a loop. -/
def Ident.loopBinder (name : Ident) : Binder :=
  ⟨name.declaration false false, .loopVariable⟩

/-- The binder of a parameter. -/
def Param.binder (foreign : Bool) (param : Param) : Binder :=
  ⟨param.declaration, .parameter foreign⟩

/-- The binder of `this` or `super`. -/
def Binder.ofPseudo (name : String) (span : Span) : Binder :=
  ⟨⟨name, span, false, false⟩, .pseudo⟩

/-- The binders that a statement adds to the scope it stands in, in order. -/
def Stmt.binders (inStruct : Bool) : Stmt → List Binder
  | .letDecl _ name mutable _ initial foreign =>
    [⟨name.declaration mutable inStruct,
      .item (initial.isNone && !(mutable || inStruct || foreign))⟩]
  | .function _ decl => decl.name.toList.map fun name => name.binder inStruct
  | .structDecl _ name _ => [name.binder inStruct]
  | .classDecl _ name _ _ => [name.binder inStruct]
  | .ifElse _ _ thenBranch none => thenBranch.binders inStruct
  | .ifElse _ _ thenBranch (some elseBranch) =>
    thenBranch.binders inStruct ++ elseBranch.binders inStruct
  | _ => []

namespace Binder

/-- What a binder moves a name to. -/
def advances (name : String) (binder : Binder) : BindingState :=
  if binder.name = name then binder.kind.state else .declared

/-- What binders move a name to. -/
def advanced (name : String) : List Binder → BindingState
  | [] => .declared
  | binder :: rest => (binder.advances name).later (advanced name rest)

/-- Binders side by side move a name to the later of two states. -/
theorem advanced_append (name : String) (first second : List Binder) :
    advanced name (first ++ second) = (advanced name first).later (advanced name second) := by
  induction first with
  | nil => simp [advanced]
  | cons binder rest ih => rw [List.cons_append, advanced, ih, advanced, BindingState.later_assoc]

theorem advanced_singleton (name : String) (binder : Binder) :
    advanced name [binder] = binder.advances name :=
  BindingState.later_declared _

/-- A name counts as read if one of its binders counts it as read. -/
theorem advanced_eq_read_iff {name : String} {binders : List Binder} :
    advanced name binders = .read ↔ ∃ binder ∈ binders, binder.advances name = .read := by
  induction binders with
  | nil => simp [advanced]
  | cons binder rest ih => simp [advanced, BindingState.later_eq_read_iff, ih]

/-- A name is left defined if a binder defines it and none counts it as read. -/
theorem advanced_eq_defined_iff {name : String} {binders : List Binder} :
    advanced name binders = .defined ↔
      (∃ binder ∈ binders, binder.advances name = .defined) ∧
        ∀ binder ∈ binders, binder.advances name ≠ .read := by
  induction binders with
  | nil => simp [advanced]
  | cons binder rest ih =>
    have unread : advanced name rest ≠ .read ↔ ∀ other ∈ rest, other.advances name ≠ .read := by
      simp [Ne, advanced_eq_read_iff]
    rw [advanced, BindingState.later_eq_defined_iff, unread, ih]
    simp only [List.exists_mem_cons_iff, List.forall_mem_cons]
    constructor
    · rintro ⟨defined, here, there⟩
      exact ⟨defined.imp_right And.left, here, there⟩
    · rintro ⟨defined, here, there⟩
      exact ⟨defined.imp_right fun further => ⟨further, there⟩, here, there⟩

/-- The binders that count: the first of each name, in order. -/
def firsts : List Binder → List Binder
  | [] => []
  | binder :: rest => binder :: (firsts rest).filter fun other => other.name != binder.name

/-- A binder that counts is one of the binders. -/
theorem mem_of_mem_firsts {binder : Binder} {binders : List Binder}
    (listed : binder ∈ firsts binders) : binder ∈ binders := by
  induction binders with
  | nil => exact listed
  | cons first rest ih =>
    rcases List.mem_cons.mp listed with rfl | behind
    · exact List.mem_cons_self
    · exact List.mem_cons_of_mem _ (ih (List.mem_of_mem_filter behind))

/-- Each name counts once. -/
theorem nodup_names_firsts (binders : List Binder) :
    ((firsts binders).map fun binder => binder.name).Nodup := by
  induction binders with
  | nil => exact .nil
  | cons binder rest ih =>
    rw [firsts, List.map_cons, List.nodup_cons]
    refine ⟨?_, ih.sublist (List.filter_sublist.map _)⟩
    simp

/-- Binders declare what the first of them for each free name declare. -/
theorem declareAll_firsts (here : LexicalScope) (outer : LexicalScopes) (binders : List Binder) :
    LexicalScopes.declareAll (here :: outer) (binders.map toDeclaration) =
      (here ++ ((firsts binders).filter fun binder => !here.binds binder.name).map toDeclaration) ::
        outer := by
  -- Each declaration may take a name from those behind it, so what is declared already varies.
  induction binders generalizing here with
  | nil => simp [firsts]
  | cons binder rest ih =>
    rw [List.map_cons, LexicalScopes.declareAll_cons, LexicalScopes.declare, ih, firsts]
    cases bound : here.binds binder.name with
    | true =>
      have same : here.declare binder.toDeclaration = here := by simp [LexicalScope.declare, bound]
      have passed : ∀ other : Binder, (!here.binds other.name && other.name != binder.name) =
          !here.binds other.name := by
        intro other
        by_cases again : other.name = binder.name <;> simp [again, bound]
      simp [same, bound, List.filter_filter, passed]
    | false =>
      have added : here.declare binder.toDeclaration = here ++ [binder.toDeclaration] := by
        simp [LexicalScope.declare, bound]
      have further (other : Binder) :
          (!(here.declare binder.toDeclaration).binds other.name) =
            (!here.binds other.name && other.name != binder.name) := by
        rw [LexicalScope.binds_declare, Bool.not_or, bne, Bool.beq_comm]
      simp only [further]
      simp [added, bound, List.filter_filter]

/-- A scope that is opened for binders holds what the first of each name declare. -/
theorem declareAll_enter (outer : LexicalScopes) (binders : List Binder) :
    outer.enter.declareAll (binders.map toDeclaration) =
      (firsts binders).map toDeclaration :: outer := by
  rw [LexicalScopes.enter, declareAll_firsts]
  simp [LexicalScope.binds]

/-- Binders that can stand in one scope, if foreign functions have no body: those
of `this` and `super` and of the parameters of a foreign function are among
themselves. -/
def Alike (binders : List Binder) : Prop :=
  (∀ binder ∈ binders, binder.kind.needsReading = true) ∨
    (∀ binder ∈ binders, binder.kind = .parameter true) ∨
    ∀ binder ∈ binders, binder.kind = .pseudo

/-- A name is left defined if it is meant to be read, and no declaration of it
was reported for having no value. -/
theorem Alike.advanced_eq_defined_iff {binders : List Binder} (alike : Alike binders)
    {binder : Binder} (listed : binder ∈ binders) :
    advanced binder.name binders = .defined ↔
      binder.kind.needsReading = true ∧
        ∀ other ∈ binders, other.name = binder.name → other.kind.lacksValue = false := by
  rw [Binder.advanced_eq_defined_iff]
  rcases alike with needed | foreign | pseudo
  · have own := BinderKind.state_of_needsReading (needed binder listed)
    constructor
    · rintro ⟨-, unread⟩
      refine ⟨needed binder listed, ?_⟩
      intro other among same
      have moved := unread other among
      rw [advances, if_pos same, BinderKind.state_of_needsReading (needed other among)] at moved
      cases lacks : other.kind.lacksValue with
      | false => rfl
      | true => simp [lacks] at moved
    · rintro ⟨-, valued⟩
      refine ⟨⟨binder, listed, ?_⟩, ?_⟩
      · simp [advances, own, valued binder listed rfl]
      · intro other among
        by_cases same : other.name = binder.name
        · simp [advances, same, BinderKind.state_of_needsReading (needed other among),
            valued other among same]
        · simp [advances, same]
  · have never : ∀ other ∈ binders, other.advances binder.name = .declared := by
      intro other among
      simp [advances, foreign other among, BinderKind.state]
    constructor
    · rintro ⟨⟨other, among, defined⟩, -⟩
      rw [never other among] at defined
      cases defined
    · rintro ⟨needed, -⟩
      rw [foreign binder listed] at needed
      cases needed
  · constructor
    · rintro ⟨-, unread⟩
      have moved := unread binder listed
      simp [advances, pseudo binder listed, BinderKind.state] at moved
    · rintro ⟨needed, -⟩
      rw [pseudo binder listed] at needed
      cases needed

end Binder

/-- A statement declares what its binders do. -/
theorem Stmt.map_binders (inStruct : Bool) : (stmt : Stmt) →
    (stmt.binders inStruct).map Binder.toDeclaration = stmt.declares inStruct
  | .letDecl .. => rfl
  | .function _ decl => by simp [binders, declares, Ident.binder]
  | .structDecl .. => rfl
  | .classDecl .. => rfl
  | .ifElse _ _ thenBranch none => Stmt.map_binders inStruct thenBranch
  | .ifElse _ _ thenBranch (some elseBranch) => by
    rw [binders, declares, List.map_append, Stmt.map_binders inStruct thenBranch,
      Stmt.map_binders inStruct elseBranch]
  | .block .. => rfl
  | .breakLoop _ => rfl
  | .continueLoop _ => rfl
  | .forRange .. => rfl
  | .forEach .. => rfl
  | .whileLoop .. => rfl
  | .expression .. => rfl
  | .print .. => rfl
  | .ret .. => rfl

/-- The binders of statements are their declarations, with what kind each is of. -/
theorem Stmt.map_binders_all (inStruct : Bool) (stmts : List Stmt) :
    (stmts.flatMap (Stmt.binders inStruct)).map Binder.toDeclaration =
      stmts.flatMap (Stmt.declares inStruct) := by
  simp [List.map_flatMap, Stmt.map_binders]

/-- What a statement declares is meant to be read. -/
theorem Stmt.needsReading {inStruct : Bool} {binder : Binder} : (stmt : Stmt) →
    binder ∈ stmt.binders inStruct → binder.kind.needsReading = true
  | .letDecl .., listed => by
    obtain rfl := List.mem_singleton.mp listed
    rfl
  | .function _ decl, listed => by
    obtain ⟨name, -, rfl⟩ := List.mem_map.mp listed
    rfl
  | .structDecl .., listed => by
    obtain rfl := List.mem_singleton.mp listed
    rfl
  | .classDecl .., listed => by
    obtain rfl := List.mem_singleton.mp listed
    rfl
  | .ifElse _ _ thenBranch none, listed => Stmt.needsReading thenBranch listed
  | .ifElse _ _ thenBranch (some elseBranch), listed =>
    (List.mem_append.mp listed).elim (Stmt.needsReading thenBranch) (Stmt.needsReading elseBranch)
  | .block .., listed => nomatch listed
  | .breakLoop _, listed => nomatch listed
  | .continueLoop _, listed => nomatch listed
  | .forRange .., listed => nomatch listed
  | .forEach .., listed => nomatch listed
  | .whileLoop .., listed => nomatch listed
  | .expression .., listed => nomatch listed
  | .print .., listed => nomatch listed
  | .ret .., listed => nomatch listed

end NameResolution
