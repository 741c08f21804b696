import NameResolution.Proofs.Session.Ids

/-!
# The spans of a tree

Every node of a tree has a span, and so has every name that is written in it,
every type annotation and every function declaration. The spans of a piece are
those of its parts, then its own.
-/

namespace NameResolution

mutual

/-- The spans of a type annotation and of what stands in it. -/
def Ty.spans : Ty → List Span
  | .any _ span => [span]
  | .named name _ span => [name.span, span]
  | .array element _ span => element.spans ++ [span]
  | .function params result _ span => Ty.spansAll params ++ result.spans ++ [span]
  termination_by structural ty => ty

/-- The spans of type annotations, one after another. -/
def Ty.spansAll : List Ty → List Span
  | [] => []
  | ty :: rest => ty.spans ++ Ty.spansAll rest
  termination_by structural tys => tys

end

/-- The spans of a parameter: of its name, and of its type. -/
def Param.spans (param : Param) : List Span := param.name.span :: param.ty.spans

/-- The names that are written in an expression, outside its parts. -/
def Expr.names : Expr → List Ident
  | .assign _ name _ => [name]
  | .var _ name => [name]
  | .mutArg _ name => [name]
  | .get _ _ name => [name]
  | .set _ _ name _ => [name]
  | .super _ method => [method]
  | .structInit _ name fields => fields.map FieldInit.name ++ [name]
  | _ => []

/-- The names that are written in a statement, outside its parts. -/
def Stmt.names : Stmt → List Ident
  | .letDecl _ name _ _ _ _ => [name]
  | .forRange _ counter _ _ _ => counter.toList
  | .forEach _ item _ _ => [item]
  | .structDecl _ name _ => [name]
  | .classDecl _ name _ _ => [name]
  | _ => []

/-- The type that is written in a statement, outside its parts. -/
def Stmt.ty? : Stmt → Option Ty
  | .letDecl _ _ _ ty _ _ => ty
  | _ => none

/-- The spans of a function declaration, outside its body. -/
def FunctionDecl.ownSpans (decl : FunctionDecl) : List Span :=
  decl.params.flatMap Param.spans ++ decl.name.toList.map Ident.span ++ [decl.span] ++
    decl.returnType.toList.flatMap Ty.spans

/-- The spans of a piece, outside its parts. -/
def Piece.ownSpans : Piece → List Span
  | .expr tree => tree.names.map Ident.span ++ [tree.span]
  | .stmt tree => tree.ty?.toList.flatMap Ty.spans ++ tree.names.map Ident.span ++ [tree.span]
  | .stmts _ => []
  | .function _ decl => decl.ownSpans

/-- The spans of a piece. Which name marks initializers makes no difference here. -/
def Piece.spans (piece : Piece) : List Span :=
  (piece.parts "").attach.flatMap (fun ⟨part, _⟩ => part.spans) ++ piece.ownSpans
  termination_by piece.size
  decreasing_by exact piece.size_parts part ‹_›

/-- The spans of a program. -/
def Program.spans (program : Program) : List Span := (Piece.stmts program).spans

namespace Piece

/-- The spans of a piece are those of its parts and its own, whichever name marks initializers. -/
theorem spans_eq_flatMap (piece : Piece) :
    piece.spans = (piece.parts "").flatMap spans ++ piece.ownSpans := by
  rw [spans, List.flatMap_subtype fun _ _ => rfl, List.unattach_attach]

/-- The spans of a function are those of its body, and then its own. -/
@[simp] theorem spans_function (kind : FunctionKind) (decl : FunctionDecl) :
    (Piece.function kind decl).spans = (Piece.stmts decl.body).spans ++ decl.ownSpans := by
  obtain ⟨name, params, returnType, body, foreign, span⟩ := decl
  rw [spans_eq_flatMap]
  simp [parts, ownSpans]

/-- The spans of a piece are those of its parts and its own. -/
theorem spans_eq (initializerName : String) (piece : Piece) :
    piece.spans = (piece.parts initializerName).flatMap spans ++ piece.ownSpans := by
  rw [spans_eq_flatMap]
  cases piece with
  | expr tree => rfl
  | stmt tree =>
    cases tree with
    | classDecl node name superclass methods =>
      simp only [parts, Stmt.parts, List.flatMap_append, List.flatMap_map, spans_function]
    | _ => rfl
  | stmts trees => cases trees <;> rfl
  | function kind tree =>
    obtain ⟨name, params, returnType, body, foreign, span⟩ := tree
    rfl

end Piece

end NameResolution
