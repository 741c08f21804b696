import NameResolution.Proofs.Frame.Balance
import NameResolution.Proofs.Lexical.Trail
import NameResolution.Proofs.Walk.OwnSteps
import NameResolution.Proofs.Walk.Parts

/-!
# Reserved names

No declaration takes the name `this` or `super`: only classes bind them, in
scopes of their own. The reserved part of the open scopes is what they hold of
these two names. It changes only where scopes are opened and closed, and where
a class binds one of the names, so the walk of a piece leaves it as it finds it.
-/

namespace NameResolution

/-- Whether a name is that of the instance or of the superclass. -/
def isReserved (name : String) : Bool := name == "this" || name == "super"

/-- The names that a piece declares by itself. -/
def Piece.introduces : Piece → List Ident
  | .stmt (.letDecl _ name _ _ _ _) => [name]
  | .stmt (.forRange _ counter _ _ _) => counter.toList
  | .stmt (.forEach _ item _ _) => [item]
  | .stmt (.function _ decl) => decl.name.toList
  | .stmt (.structDecl _ name _) => [name]
  | .stmt (.classDecl _ name _ _) => [name]
  | .function _ decl => decl.params.map Param.name
  | _ => []

/-- No declaration in a program takes a reserved name. -/
def Program.SparesReserved (initializerName : String) (program : Program) : Prop :=
  ∀ piece, Within initializerName (.stmts program) piece →
    ∀ name ∈ piece.introduces, isReserved name.name = false

/-- The name of the binding that a report is about, if it says that a binding is
unused, hidden or declared twice. -/
def Diagnostic.binding? : Diagnostic → Option String
  | .warning (.unusedLocalVariable name _) => some name
  | .warning (.shadowedVariable name _ _) => some name
  | .error (.duplicateDeclaration name _ _) => some name
  | _ => none

/-- Whether a step takes reserved names for `this` and `super` only, and reports
nothing on a binding of its own accord. -/
def Step.Proper : Step → Prop
  | .declare name _ _ => isReserved name.name = false
  | .define name => isReserved name.name = false
  | .bindPseudo name _ => isReserved name = true
  | .report error => (Diagnostic.error error).binding? = none
  | _ => True

section Proper

variable {initializerName : String} {context : Context} {step : Step}

/-- The steps of an expression are proper. -/
theorem Expr.proper {expr : Expr} (made : .step step ∈ expr.items context) : step.Proper := by
  cases expr <;> simp [items] at made <;> grind [Step.Proper, Diagnostic.binding?]

/-- The steps of a statement are proper if it introduces no reserved name. -/
theorem Stmt.proper {stmt : Stmt} (made : .step step ∈ stmt.items initializerName context)
    (spares : ∀ name ∈ (Piece.stmt stmt).introduces, isReserved name.name = false) :
    step.Proper := by
  cases stmt with
  | letDecl node name mutable ty initial foreign =>
    cases initial <;> simp [items] at made <;>
      grind [Step.Proper, Piece.introduces, Diagnostic.binding?]
  | ret node value =>
    cases value <;> cases inside : context.function <;> simp [items, inside] at made <;>
      grind [Step.Proper, Diagnostic.binding?]
  | _ =>
    simp [items, Piece.introduces] at made spares
    try grind [Step.Proper, isReserved, Diagnostic.binding?]

/-- The steps that a piece makes by itself are proper, if its declarations spare the names. -/
theorem Piece.proper {piece : Piece} (made : .step step ∈ piece.items initializerName context)
    (spares : ∀ name ∈ piece.introduces, isReserved name.name = false) : step.Proper := by
  cases piece with
  | expr tree => exact tree.proper made
  | stmt tree => exact tree.proper made spares
  | stmts trees =>
    cases trees <;> simp [items] at made
    obtain ⟨-, -, rfl⟩ := made
    trivial
  | function kind tree =>
    obtain ⟨name, params, returnType, body, foreign, span⟩ := tree
    simp [items, introduces] at made spares
    grind [Step.Proper, Diagnostic.binding?]

/-- The steps of a program are proper, if its declarations spare the reserved names. -/
theorem Program.proper {program : Program} (spares : program.SparesReserved initializerName)
    (listed : step ∈ Program.walk initializerName program) : step.Proper := by
  obtain ⟨first, rest, split⟩ := List.append_of_mem listed
  rcases Program.exists_madeAt split with ⟨-, rfl⟩ | ⟨-, rfl⟩ | ⟨piece, context, before, made⟩
  · trivial
  · trivial
  · obtain ⟨leading, made⟩ := made
    obtain ⟨-, trailing, after, -, visits⟩ := id made
    exact Piece.proper made.mem (spares piece visits.within)

end Proper

/-- Whether a step can change the reserved part of scopes. -/
def Step.reshapes : Step → Bool
  | .openScope => true
  | .closeScope => true
  | .bindPseudo _ _ => true
  | _ => false

/-- What a scope holds of reserved names. -/
def LexicalScope.reserved (scope : LexicalScope) : LexicalScope :=
  scope.filter fun declaration => isReserved declaration.name

/-- What scopes hold of reserved names. -/
def LexicalScopes.reserved (scopes : LexicalScopes) : LexicalScopes :=
  scopes.map LexicalScope.reserved

namespace LexicalScope

/-- Declaring a name that is not reserved leaves the reserved ones as they are. -/
theorem reserved_declare {scope : LexicalScope} {declaration : Declaration}
    (spared : isReserved declaration.name = false) :
    (scope.declare declaration).reserved = scope.reserved := by
  unfold declare
  split
  · rfl
  · simp [reserved, spared]

/-- Putting a reserved name puts it among the reserved ones. -/
theorem reserved_put {scope : LexicalScope} {declaration : Declaration}
    (taken : isReserved declaration.name = true) :
    (scope.put declaration).reserved = scope.reserved.put declaration := by
  induction scope with
  | nil => simp [put, reserved, taken]
  | cons earlier rest ih =>
    by_cases same : declaration.name = earlier.name
    · have other : isReserved earlier.name = true := same ▸ taken
      simp [put, reserved, same, other]
    · unfold reserved at ih
      cases other : isReserved earlier.name <;> simp [put, reserved, same, other, ih]

/-- A reserved name is bound by the reserved part of a scope if it is bound at all. -/
theorem binds_reserved {scope : LexicalScope} {name : String} (taken : isReserved name = true) :
    scope.reserved.binds name = scope.binds name := by
  induction scope with
  | nil => rfl
  | cons earlier rest ih =>
    unfold reserved binds at ih
    by_cases same : earlier.name = name
    · simp [reserved, binds, same, taken]
    · cases other : isReserved earlier.name <;> simp [reserved, binds, same, other, ih]

end LexicalScope

namespace LexicalScopes

/-- The depth of a reserved name can be told from the reserved parts. -/
theorem depth?_reserved {scopes : LexicalScopes} {name : String} (taken : isReserved name = true) :
    scopes.reserved.depth? name = scopes.depth? name := by
  rw [depth?, reserved, List.findIdx?_map]
  unfold depth?
  congr 1
  funext scope
  exact LexicalScope.binds_reserved taken

end LexicalScopes

/-- A proper step acts on the reserved part as it does on the scopes, or leaves it alone. -/
theorem Step.reserved_rescope {step : Step} (proper : step.Proper) (scopes : LexicalScopes) :
    (step.rescope scopes).reserved =
      if step.reshapes then step.rescope scopes.reserved else scopes.reserved := by
  cases step with
  | closeScope => exact List.map_tail
  | declare name mutable member | define name =>
    cases scopes with
    | nil => rfl
    | cons here outer =>
      exact congrArg (· :: LexicalScopes.reserved outer) (LexicalScope.reserved_declare proper)
  | bindPseudo name span =>
    cases scopes with
    | nil => rfl
    | cons here outer =>
      exact congrArg (· :: LexicalScopes.reserved outer) (LexicalScope.reserved_put proper)
  | _ => rfl

/-- What is left of steps if only those count that can change the reserved part. -/
def reshaping (steps : List Step) : List Step := steps.filter Step.reshapes

/-- What two lists of steps reshape, they reshape one after the other. -/
@[simp] theorem reshaping_append (first second : List Step) :
    reshaping (first ++ second) = reshaping first ++ reshaping second :=
  List.filter_append first second

/-- Proper steps act on the reserved part by those of them that count. -/
theorem reserved_rescope {steps : List Step} (proper : ∀ step ∈ steps, step.Proper)
    (scopes : LexicalScopes) :
    (rescope steps scopes).reserved = rescope (reshaping steps) scopes.reserved := by
  induction steps generalizing scopes with
  | nil => rfl
  | cons step rest ih =>
    rw [List.forall_mem_cons] at proper
    rw [rescope_cons, ih proper.2, Step.reserved_rescope proper.1]
    cases counts : step.reshapes <;> simp [reshaping, counts]

/-- Giving a name its value does not reshape the scopes. -/
theorem reshaping_finishes {steps : List Step} {name : Ident}
    (finishes : ∀ step ∈ steps, step.finishes name = true) : reshaping steps = [] := by
  apply List.filter_eq_nil_iff.mpr
  intro step listed
  have finish := finishes step listed
  cases step <;> first | exact Bool.false_ne_true | cases finish

/-- The steps of a walk leave the reserved part as it is. -/
theorem Shape.rescope_reshaping {declares : Bool} {steps : List Step} (shape : Shape declares steps)
    (scopes : LexicalScopes) : rescope (reshaping steps) scopes = scopes := by
  induction shape generalizing scopes with
  | nil => rfl
  | append left right first second => rw [reshaping_append, rescope_append, first, second]
  | @quiet _ step quiet =>
    cases step <;> first | rfl | cases quiet
  | @scope _ body inside ih =>
    have split : reshaping (.openScope :: (body ++ [.closeScope])) =
        .openScope :: (reshaping body ++ [.closeScope]) := by
      simp [reshaping, List.filter_cons, Step.reshapes]
    rw [split, rescope_cons, rescope_append, ih]
    rfl
  | @pseudoScope _ name span body inside ih =>
    have split : reshaping (.openScope :: .bindPseudo name span :: (body ++ [.closeScope])) =
        .openScope :: .bindPseudo name span :: (reshaping body ++ [.closeScope]) := by
      simp [reshaping, List.filter_cons, Step.reshapes]
    rw [split, rescope_cons, rescope_cons, rescope_append, ih]
    rfl
  | @declared name mutable member value finish valued finishes ih =>
    have split : reshaping (.declare name mutable member :: (value ++ finish)) =
        reshaping value := by
      rw [← List.singleton_append, reshaping_append, reshaping_append, reshaping_finishes finishes,
        List.append_nil]
      rfl
    rw [split, ih]

end NameResolution
