import Mathlib.Data.List.Perm.Basic
import NameResolution.Proofs.Lexical.Occurrences
import NameResolution.Proofs.Session.Building

/-!
# Two lists of the same numbers

The numbers of a program's nodes were listed in walk order before, one for each
occurrence, and here they are listed part by part. The two lists have the same
numbers equally often. So the numbers of a program that was built are distinct
in either list.
-/

namespace NameResolution

/-- The numbers of the nodes that occur. -/
def Occurrence.ids (occurrences : List Occurrence) : List NodeId :=
  occurrences.map (·.node.id)

/-- Which occurrences are skipped makes no difference to their numbers. -/
theorem Occurrence.ids_skip (occurrences : List Occurrence) :
    Occurrence.ids (occurrences.map Occurrence.skip) = Occurrence.ids occurrences := by
  rw [Occurrence.ids, List.map_map]
  rfl

/-- The occurrences in a piece whose innermost enclosing function has the given kind. -/
def Piece.occurrences (initializerName : String) (kind : FunctionKind) : Piece → List Occurrence
  | .expr tree => tree.occurrences initializerName kind
  | .stmt tree => tree.occurrences initializerName kind
  | .stmts trees => Stmt.occurrencesAll initializerName kind trees
  | .function inner tree => tree.occurrences initializerName inner

/-- The kind of the innermost function around the parts of a piece. -/
def Piece.innerKind (kind : FunctionKind) : Piece → FunctionKind
  | .function inner _ => inner
  | _ => kind

section

variable {initializerName : String} {kind : FunctionKind}

/-- The occurrences in expressions are those in each of them, in order. -/
theorem Expr.occurrencesAll_eq_flatMap (exprs : List Expr) :
    Expr.occurrencesAll initializerName kind exprs =
      (exprs.map Piece.expr).flatMap (Piece.occurrences initializerName kind) := by
  induction exprs with
  | nil => rfl
  | cons expr rest ih =>
    rw [Expr.occurrencesAll, ih]
    rfl

/-- The occurrences in the fields of a struct literal are those in each value, in order. -/
theorem FieldInit.occurrencesAll_eq_flatMap (fields : List FieldInit) :
    FieldInit.occurrencesAll initializerName kind fields =
      (fields.map fun field => Piece.expr field.value).flatMap
        (Piece.occurrences initializerName kind) := by
  induction fields with
  | nil => rfl
  | cons field rest ih =>
    obtain ⟨name, value⟩ := field
    rw [FieldInit.occurrencesAll, ih]
    rfl

/-- The occurrences in methods are those in each of them, in order, as a method or an
initializer. -/
theorem FunctionDecl.occurrencesMethods_eq_flatMap (kind : FunctionKind)
    (methods : List FunctionDecl) :
    FunctionDecl.occurrencesMethods initializerName methods =
      (methods.map fun method => Piece.function (method.kindInClass initializerName) method).flatMap
        (Piece.occurrences initializerName kind) := by
  induction methods with
  | nil => rfl
  | cons method rest ih =>
    rw [FunctionDecl.occurrencesMethods, ih]
    rfl

/-- The occurrences in an expression that may be missing are those in it if it is there. -/
theorem Expr.occurrences?_eq_flatMap (expr : Option Expr) :
    Expr.occurrences? initializerName kind expr =
      (expr.toList.map Piece.expr).flatMap (Piece.occurrences initializerName kind) := by
  cases expr <;> simp [Expr.occurrences?, Piece.occurrences]

/-- The occurrences of an expression are those of its parts, then its own. -/
theorem Expr.occurrences_eq (expr : Expr) :
    expr.occurrences initializerName kind =
      expr.parts.flatMap (Piece.occurrences initializerName kind) ++ [expr.occurrence] := by
  cases expr with
  | array node elements =>
    rw [occurrences, Expr.occurrencesAll_eq_flatMap]
    rfl
  | call node callee args =>
    rw [occurrences, Expr.occurrencesAll_eq_flatMap]
    rfl
  | structInit node name fields =>
    rw [occurrences, FieldInit.occurrencesAll_eq_flatMap]
    rfl
  | _ => simp [occurrences, parts, Piece.occurrences]

/-- The numbers in a statement are its own, then those of its parts. -/
theorem Stmt.ids_occurrences (stmt : Stmt) :
    Occurrence.ids (stmt.occurrences initializerName kind) =
      stmt.id :: Occurrence.ids
        ((stmt.parts initializerName).flatMap (Piece.occurrences initializerName kind)) := by
  cases stmt with
  | letDecl node name mutable ty initial foreign =>
    rw [occurrences, Expr.occurrences?_eq_flatMap]
    rfl
  | whileLoop node condition body =>
    rw [occurrences, Expr.occurrences?_eq_flatMap, parts, List.flatMap_append,
      List.flatMap_singleton]
    rfl
  | ifElse node condition thenBranch elseBranch =>
    cases elseBranch <;>
      simp [occurrences, parts, Occurrence.ids, Piece.occurrences, Stmt.occurrences?, occurrence,
        id]
  | ret node value =>
    rw [occurrences, Expr.occurrences?_eq_flatMap]
    split
    · exact congrArg (node.id :: ·) (Occurrence.ids_skip _)
    · rfl
  | classDecl node name superclass methods =>
    rw [occurrences, Expr.occurrences?_eq_flatMap,
      FunctionDecl.occurrencesMethods_eq_flatMap kind, parts, List.flatMap_append]
    rfl
  | _ => simp [occurrences, parts, Occurrence.ids, Piece.occurrences, occurrence, id]

/-- The numbers that occur in a piece are those of its parts and its own. -/
theorem Piece.ids_occurrences_parts (piece : Piece) :
    (Occurrence.ids (piece.occurrences initializerName kind)).Perm
      ((piece.parts initializerName).flatMap (fun part =>
        Occurrence.ids (part.occurrences initializerName (piece.innerKind kind))) ++
        piece.ownId?.toList) := by
  cases piece with
  | expr tree =>
    rw [occurrences, tree.occurrences_eq, Occurrence.ids, List.map_append, List.map_flatMap]
    exact .refl _
  | stmt tree =>
    rw [occurrences, tree.ids_occurrences, Occurrence.ids, List.map_flatMap]
    exact (List.perm_append_singleton _ _).symm
  | stmts trees =>
    cases trees with
    | nil => exact .refl _
    | cons first rest =>
      exact .of_eq (by simp [parts, Occurrence.ids, occurrences, Stmt.occurrencesAll, innerKind,
        ownId?])
  | function inner tree =>
    obtain ⟨name, params, returnType, body, foreign, span⟩ := tree
    exact .of_eq (by simp [parts, occurrences, FunctionDecl.occurrences, innerKind, ownId?])

end

/-- The numbers that occur in a piece are the numbers of its nodes. -/
theorem Piece.ids_occurrences (initializerName : String) (kind : FunctionKind) (piece : Piece) :
    (Occurrence.ids (piece.occurrences initializerName kind)).Perm piece.ids := by
  rw [piece.ids_eq initializerName]
  refine piece.ids_occurrences_parts.trans (List.Perm.append_right _ ?_)
  refine List.Perm.flatMap_left _ fun part listed => ?_
  have smaller : part.size < piece.size := piece.size_parts part listed
  exact part.ids_occurrences initializerName (piece.innerKind kind)
  termination_by piece.size

/-- Both lists have the numbers of a program equally often. -/
theorem Program.nodeIds_perm (initializerName : String) (program : Program) :
    (Program.nodeIds initializerName program).Perm (Program.ids program) :=
  (Piece.stmts program).ids_occurrences initializerName .none

/-- A program that was built has no number twice. -/
theorem Built.nodup_nodeIds {materials : List Material} {count : Nat} {runs : List Run}
    (built : Built materials count runs) (room : count ≤ UInt32.size) {run : Run}
    (listed : run ∈ runs) (initializerName : String) :
    (Program.nodeIds initializerName run.program).Nodup := by
  rw [(Program.nodeIds_perm initializerName run.program).nodup_iff]
  exact (List.nodup_flatMap.mp (built.distinct room)).1 run listed

end NameResolution
