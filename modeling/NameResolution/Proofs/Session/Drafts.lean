import NameResolution.Proofs.Session.Drawing

/-!
# Numbering builds

The numbering of a draft builds its tree, unless the draft pins the number of a
node: numbers are drawn from the counter one by one, and each goes to the one
node that it was drawn for.
-/

namespace NameResolution

namespace Draft

mutual

/-- Whether every node of an expression keeps the number that is handed out to it. -/
def Expr.keepsIds : Expr → Bool
  | .literal _ => true
  | .array elements => Expr.keepIds elements
  | .assign _ value => value.keepsIds
  | .var _ => true
  | .mutArg _ => true
  | .binary left _ right => left.keepsIds && right.keepsIds
  | .logical left _ right => left.keepsIds && right.keepsIds
  | .unary _ operand => operand.keepsIds
  | .grouping inner => inner.keepsIds
  | .call callee args => callee.keepsIds && Expr.keepIds args
  | .get object _ => object.keepsIds
  | .set object _ value => object.keepsIds && value.keepsIds
  | .index object index => object.keepsIds && index.keepsIds
  | .this => true
  | .super _ => true
  | .structInit _ fields => FieldInit.keepIds fields
  | .lambda decl => decl.keepsIds
  | .pinned pin inner => pin.id.isNone && inner.keepsIds
  termination_by structural expr => expr

/-- Whether every node of some expressions keeps its number. -/
def Expr.keepIds : List Expr → Bool
  | [] => true
  | expr :: rest => expr.keepsIds && Expr.keepIds rest
  termination_by structural exprs => exprs

/-- Whether every node of an expression that may be missing keeps its number. -/
def Expr.keepsIds? : Option Expr → Bool
  | none => true
  | some expr => expr.keepsIds
  termination_by structural expr => expr

/-- Whether every node of the value of a field keeps its number. -/
def FieldInit.keepsIds : FieldInit → Bool
  | ⟨_, value⟩ => value.keepsIds
  termination_by structural field => field

/-- Whether every node of the values of fields keeps its number. -/
def FieldInit.keepIds : List FieldInit → Bool
  | [] => true
  | field :: rest => field.keepsIds && FieldInit.keepIds rest
  termination_by structural fields => fields

/-- Whether every node of a function keeps its number. -/
def FunctionDecl.keepsIds : FunctionDecl → Bool
  | ⟨_, _, body, _, _⟩ => Stmt.keepIds body
  termination_by structural decl => decl

/-- Whether every node of the methods of a class keeps its number. -/
def FunctionDecl.keepIds : List FunctionDecl → Bool
  | [] => true
  | decl :: rest => decl.keepsIds && FunctionDecl.keepIds rest
  termination_by structural decls => decls

/-- Whether every node of what a class inherits from keeps its number. -/
def Parent.keepsIds : Parent → Bool
  | .absent => true
  | .named _ => true
  | .value expr => expr.keepsIds
  termination_by structural parent => parent

/-- Whether every node of a statement keeps its number. -/
def Stmt.keepsIds : Stmt → Bool
  | .block body => Stmt.keepIds body
  | .breakLoop => true
  | .continueLoop => true
  | .letDecl _ _ _ initial _ => Expr.keepsIds? initial
  | .forRange _ lower upper body => lower.keepsIds && upper.keepsIds && Stmt.keepIds body
  | .forEach _ collection body => collection.keepsIds && Stmt.keepIds body
  | .whileLoop condition body => Expr.keepsIds? condition && Stmt.keepIds body
  | .function decl => decl.keepsIds
  | .expression value => value.keepsIds
  | .print value => value.keepsIds
  | .ifElse condition thenBranch elseBranch =>
    condition.keepsIds && thenBranch.keepsIds && Stmt.keepsIds? elseBranch
  | .ret value => Expr.keepsIds? value
  | .structDecl _ members => Stmt.keepIds members
  | .classDecl _ parent methods => parent.keepsIds && FunctionDecl.keepIds methods
  | .pinned pin inner => pin.id.isNone && inner.keepsIds
  termination_by structural stmt => stmt

/-- Whether every node of a statement that may be missing keeps its number. -/
def Stmt.keepsIds? : Option Stmt → Bool
  | none => true
  | some stmt => stmt.keepsIds
  termination_by structural stmt => stmt

/-- Whether every node of some statements keeps its number. -/
def Stmt.keepIds : List Stmt → Bool
  | [] => true
  | stmt :: rest => stmt.keepsIds && Stmt.keepIds rest
  termination_by structural stmts => stmts

end

/-- Whether every node of a program keeps the number that is handed out to it. -/
def Program.keepsIds (program : Program) : Bool := Stmt.keepIds program

open NameResolution.Numbering (Builds Quiet)

mutual

/-- A type draws no number. -/
theorem Ty.quiet : (ty : Ty) → Quiet ty.number
  | .any => Quiet.span.bind fun _ => .pure _
  | .named name => (Quiet.ident name).bind fun _ => Quiet.span.bind fun _ => .pure _
  | .array element => element.quiet.bind fun _ => Quiet.span.bind fun _ => .pure _
  | .function params result =>
    (Ty.quiet_all params).bind fun _ => result.quiet.bind fun _ => Quiet.span.bind fun _ => .pure _
  | .mutable inner => inner.quiet.bind fun _ => .pure _

/-- Types draw no number. -/
theorem Ty.quiet_all : (tys : List Ty) → Quiet (Ty.numberAll tys)
  | [] => .pure _
  | ty :: rest => ty.quiet.bind fun _ => (Ty.quiet_all rest).bind fun _ => .pure _

end

/-- A type that may be missing draws no number. -/
theorem Ty.quiet? : (ty : Option Ty) → Quiet (Ty.number? ty)
  | none => .pure _
  | some ty => ty.quiet.bind fun _ => .pure _

/-- A parameter draws no number. -/
theorem Param.quiet (param : Param) : Quiet param.number :=
  (Quiet.ident param.name).bind fun _ => Quiet.span.bind fun _ =>
    (Ty.quiet? param.ty).bind fun _ => .pure _

/-- Parameters draw no number. -/
theorem Param.quiet_all : (params : List Param) → Quiet (Param.numberAll params)
  | [] => .pure _
  | param :: rest => param.quiet.bind fun _ => (Param.quiet_all rest).bind fun _ => .pure _

/-- An amendment changes a declaration, but none of the nodes in its body. -/
theorem Amendment.builds (amendment : Amendment) (decl : NameResolution.FunctionDecl)
    (before : FunctionKind) (after : NameResolution.FunctionDecl → FunctionKind) :
    Builds (piecesOf [.function before decl]) (amendment.apply decl)
      fun amended => piecesOf [.function (after amended) amended] :=
  .quietly (Ty.quiet? amendment.returnType) fun _ =>
    .amend (by rw [Piece.ids_function, Piece.ids_function])

/-- There are as many identifiers as names. -/
theorem length_idents (names : List String) (counter : Counter) :
    ((Numbering.idents names).run counter).1.length = names.length := by
  induction names generalizing counter with
  | nil => rfl
  | cons name rest ih => exact congrArg (· + 1) (ih _)

/-- There are as many values as fields. -/
theorem length_numberAll (fields : List FieldInit) (counter : Counter) :
    ((FieldInit.numberAll fields).run counter).1.length = fields.length := by
  induction fields generalizing counter with
  | nil => rfl
  | cons field rest ih => exact congrArg (· + 1) (ih _)

/-- The values of fields keep their order when names are put to them. -/
theorem map_value_zipWith : {labels : List Ident} → {values : List NameResolution.Expr} →
    labels.length = values.length →
    (labels.zipWith NameResolution.FieldInit.mk values).map NameResolution.FieldInit.value = values
  | [], [], _ => rfl
  | _ :: _, value :: _, same => congrArg (value :: ·) (map_value_zipWith (Nat.succ.inj same))

/-- The parts of a struct literal are the values that were numbered for it. -/
theorem materials_structInit (fields : List FieldInit) (start between : Counter) (node : Node)
    (name : Ident) :
    let values := ((FieldInit.numberAll fields).run start).1
    let labels := ((Numbering.idents (fields.map FieldInit.name)).run between).1
    (Piece.expr (.structInit node name (labels.zipWith .mk values))).materials =
      piecesOf (values.map .expr) ++ [.number node.id] := by
  intro values labels
  have same : labels.length = values.length := by
    rw [length_idents, List.length_map, length_numberAll]
  have parts : ((labels.zipWith NameResolution.FieldInit.mk values).map
      fun field => Piece.expr field.value) = values.map .expr :=
    List.map_map.symm.trans (congrArg (List.map Piece.expr) (map_value_zipWith same))
  exact congrArg (piecesOf · ++ [.number node.id]) parts

/-- Other positions than a number may be pinned. -/
theorem Pin.id_onNode {pin : Pin} (unpinned : pin.id.isNone = true) (node : Node) :
    (pin.onNode node).id = node.id := by
  rw [onNode, Option.isNone_iff_eq_none.mp unpinned, Option.getD_none]

/-- An expression whose number is not pinned has the numbers it had. -/
theorem Pin.ids_onExpr {pin : Pin} (unpinned : pin.id.isNone = true)
    (tree : NameResolution.Expr) :
    (Piece.expr (pin.onExpr tree)).ids = (Piece.expr tree).ids := by
  rw [Piece.ids_expr, Piece.ids_expr]
  cases tree <;>
    exact congrArg (_ ++ [·]) (pin.id_onNode unpinned _)

/-- A statement whose number is not pinned has the numbers it had. -/
theorem Pin.ids_onStmt {pin : Pin} (unpinned : pin.id.isNone = true)
    (tree : NameResolution.Stmt) :
    (Piece.stmt (pin.onStmt tree)).ids = (Piece.stmt tree).ids := by
  rw [Piece.ids_stmt, Piece.ids_stmt]
  cases tree <;>
    exact congrArg (_ ++ [·]) (pin.id_onNode unpinned _)

mutual

/-- The numbering of an expression builds it from nothing but the numbers that it draws. -/
theorem Expr.builds : (expr : Expr) → expr.keepsIds = true →
    Builds [] expr.number fun tree => piecesOf [.expr tree]
  | .literal _, _ => .finish fun _ => .refl _
  | .array elements, kept =>
    .andThen (Expr.builds_all elements kept) fun _ => .finish fun _ => .refl _
  | .assign name value, kept =>
    .andThen (value.builds kept) fun _ => .quietly (.ident name) fun _ =>
      .finish fun _ => .refl _
  | .var name, _ =>
    .quietly (.ident name) fun _ => .finish fun _ => .refl _
  | .mutArg name, _ =>
    .quietly (.ident name) fun _ => .finish fun _ => .refl _
  | .binary left _ right, kept =>
    have kept := Bool.and_eq_true_iff.mp kept
    .andThen (left.builds kept.1) fun _ => .andThen (right.builds kept.2) fun _ =>
      .finish fun _ => .refl _
  | .logical left _ right, kept =>
    have kept := Bool.and_eq_true_iff.mp kept
    .andThen (left.builds kept.1) fun _ => .andThen (right.builds kept.2) fun _ =>
      .finish fun _ => .refl _
  | .unary _ operand, kept =>
    .andThen (operand.builds kept) fun _ => .finish fun _ => .refl _
  | .grouping inner, kept =>
    .andThen (inner.builds kept) fun _ => .finish fun _ => .refl _
  | .call callee args, kept =>
    have kept := Bool.and_eq_true_iff.mp kept
    .andThen (callee.builds kept.1) fun _ => .andThen (Expr.builds_all args kept.2) fun _ =>
      .finish fun _ => .refl _
  | .get object name, kept =>
    .andThen (object.builds kept) fun _ => .quietly (.ident name) fun _ =>
      .finish fun _ => .refl _
  -- The object is numbered before the value, but it is the second of the parts.
  | .set object name value, kept =>
    have kept := Bool.and_eq_true_iff.mp kept
    .andThen (object.builds kept.1) fun _ => .andThen (value.builds kept.2) fun _ =>
      .quietly (.ident name) fun _ => .finish fun _ => .swap _ _ _
  | .index object index, kept =>
    have kept := Bool.and_eq_true_iff.mp kept
    .andThen (object.builds kept.1) fun _ => .andThen (index.builds kept.2) fun _ =>
      .finish fun _ => .refl _
  | .this, _ => .finish fun _ => .refl _
  | .super method, _ =>
    .quietly (.ident method) fun _ => .finish fun _ => .refl _
  | .structInit name fields, kept =>
    .andThen (FieldInit.builds_all fields kept) fun _ => .quietly (.idents _) fun _ =>
      .quietly (.ident name) fun _ =>
        .finish fun _ => .of_eq (materials_structInit fields _ _ _ _).symm
  -- The declaration is amended once the node has its number, which waits meanwhile.
  | .lambda decl, kept =>
    .andThen (decl.builds (fun _ => .function) kept) fun _ => .andThen .node fun _ =>
      .bind ((decl.amendment.builds _ _ fun _ => .function).beside _) fun _ => .assemble (.refl _)
  | .pinned pin inner, kept =>
    have kept := Bool.and_eq_true_iff.mp kept
    .bind (inner.builds kept.2) fun _ => .amend (pin.ids_onExpr kept.1 _)

/-- Expressions are built from nothing, one after another. -/
theorem Expr.builds_all : (exprs : List Expr) → Expr.keepIds exprs = true →
    Builds [] (Expr.numberAll exprs) fun trees => piecesOf (trees.map .expr)
  | [], _ => .pure id
  | expr :: rest, kept =>
    have kept := Bool.and_eq_true_iff.mp kept
    .andThen (expr.builds kept.1) fun _ => .andThen (Expr.builds_all rest kept.2) fun _ => .pure id

/-- The field of a struct literal is built with its value. -/
theorem FieldInit.builds : (field : FieldInit) → field.keepsIds = true →
    Builds [] field.number fun tree => piecesOf [.expr tree]
  | ⟨_, value⟩, kept => value.builds kept

/-- The fields of a struct literal are built one after another. -/
theorem FieldInit.builds_all : (fields : List FieldInit) → FieldInit.keepIds fields = true →
    Builds [] (FieldInit.numberAll fields) fun trees => piecesOf (trees.map .expr)
  | [], _ => .pure id
  | field :: rest, kept =>
    have kept := Bool.and_eq_true_iff.mp kept
    .andThen (field.builds kept.1) fun _ =>
      .andThen (FieldInit.builds_all rest kept.2) fun _ => .pure id

/-- A function is built from nothing, whatever kind it is. -/
theorem FunctionDecl.builds (kind : NameResolution.FunctionDecl → FunctionKind) :
    (decl : FunctionDecl) → decl.keepsIds = true →
    Builds [] decl.number fun tree => piecesOf [.function (kind tree) tree]
  | ⟨name, params, body, _, _⟩, kept =>
    .quietly (Param.quiet_all params) fun _ => .andThen (Stmt.builds_all body kept) fun _ =>
      .quietly (.ident? name) fun _ => .quietly .span fun _ => .assemble (.refl _)

/-- The methods of a class are built one after another. -/
theorem FunctionDecl.builds_all : (decls : List FunctionDecl) →
    FunctionDecl.keepIds decls = true →
    Builds [] (FunctionDecl.numberAll decls)
      fun trees => piecesOf (trees.map fun tree => .function (tree.kindInClass "") tree)
  | [], _ => .pure id
  | decl :: rest, kept =>
    have kept := Bool.and_eq_true_iff.mp kept
    .bind (decl.builds (FunctionDecl.kindInClass "") kept.1) fun _ =>
      .bind (decl.amendment.builds _ _ (FunctionDecl.kindInClass "")) fun _ =>
        .andThen (FunctionDecl.builds_all rest kept.2) fun _ => .pure id

/-- The numbering of a statement builds it from nothing but the numbers that it draws. -/
theorem Stmt.builds : (stmt : Stmt) → stmt.keepsIds = true →
    Builds [] stmt.number fun tree => piecesOf [.stmt tree]
  | .block body, kept =>
    .andThen (Stmt.builds_all body kept) fun _ => .finish fun _ => .refl _
  | .breakLoop, _ => .finish fun _ => .refl _
  | .continueLoop, _ => .finish fun _ => .refl _
  | .letDecl name _ ty none _, _ =>
    .quietly (.pure none) fun _ => .quietly (Ty.quiet? ty) fun _ =>
      .quietly (.ident name) fun _ => .finish fun _ => .refl _
  | .letDecl name _ ty (some initial) _, kept =>
    .andThenMap (initial.builds kept) fun _ => .quietly (Ty.quiet? ty) fun _ =>
      .quietly (.ident name) fun _ => .finish fun _ => .refl _
  | .forRange counter lower upper body, kept =>
    have kept := Bool.and_eq_true_iff.mp kept
    have bounds := Bool.and_eq_true_iff.mp kept.1
    .andThen (lower.builds bounds.1) fun _ => .andThen (upper.builds bounds.2) fun _ =>
      .andThen (Stmt.builds_all body kept.2) fun _ => .quietly (.ident? counter) fun _ =>
        .finish fun _ => .refl _
  | .forEach item collection body, kept =>
    have kept := Bool.and_eq_true_iff.mp kept
    .andThen (collection.builds kept.1) fun _ => .andThen (Stmt.builds_all body kept.2) fun _ =>
      .quietly (.ident item) fun _ => .finish fun _ => .refl _
  | .whileLoop none body, kept =>
    .quietly (.pure none) fun _ => .andThen (Stmt.builds_all body kept) fun _ =>
      .finish fun _ => .refl _
  | .whileLoop (some condition) body, kept =>
    have kept := Bool.and_eq_true_iff.mp kept
    .andThenMap (condition.builds kept.1) fun _ => .andThen (Stmt.builds_all body kept.2) fun _ =>
      .finish fun _ => .refl _
  | .function decl, kept =>
    .andThen (decl.builds (fun _ => .function) kept) fun _ => .andThen .node fun _ =>
      .bind ((decl.amendment.builds _ _ fun _ => .function).beside _) fun _ => .assemble (.refl _)
  | .expression value, kept =>
    .andThen (value.builds kept) fun _ => .finish fun _ => .refl _
  | .print value, kept =>
    .andThen (value.builds kept) fun _ => .finish fun _ => .refl _
  | .ifElse condition thenBranch none, kept =>
    have kept := Bool.and_eq_true_iff.mp kept
    have both := Bool.and_eq_true_iff.mp kept.1
    .andThen (condition.builds both.1) fun _ => .andThen (thenBranch.builds both.2) fun _ =>
      .quietly (.pure none) fun _ => .finish fun _ => .refl _
  | .ifElse condition thenBranch (some elseBranch), kept =>
    have kept := Bool.and_eq_true_iff.mp kept
    have both := Bool.and_eq_true_iff.mp kept.1
    .andThen (condition.builds both.1) fun _ => .andThen (thenBranch.builds both.2) fun _ =>
      .andThenMap (elseBranch.builds kept.2) fun _ => .finish fun _ => .refl _
  | .ret none, _ => .quietly (.pure none) fun _ => .finish fun _ => .refl _
  | .ret (some value), kept =>
    .andThenMap (value.builds kept) fun _ => .finish fun _ => .refl _
  | .structDecl name members, kept =>
    .andThen (Stmt.builds_all members kept) fun _ => .quietly (.ident name) fun _ =>
      .finish fun _ => .refl _
  | .classDecl name .absent methods, kept =>
    .quietly (.pure none) fun _ => .andThen (FunctionDecl.builds_all methods kept) fun _ =>
      .quietly (.ident name) fun _ => .quietly (.pure none) fun _ =>
        .finish fun _ => .refl _
  -- A parent that is only named is a node of its own, ready before the class draws its number.
  | .classDecl name (.named parent) methods, kept =>
    .quietly (.pure none) fun _ => .andThen (FunctionDecl.builds_all methods kept) fun _ =>
      .quietly (.ident name) fun _ => .quietly (.ident parent) fun _ => .andThen .node fun _ =>
        .prepare (.expr (.var _ _)) List.perm_append_comm
          (.quietly (.pure _) fun _ => .finish fun _ => .refl _)
  | .classDecl name (.value parent) methods, kept =>
    have kept := Bool.and_eq_true_iff.mp kept
    have left : Builds [] (Parent.value parent).numberValue
        fun tree => piecesOf (tree.toList.map .expr) :=
      .bind (parent.builds kept.1) fun _ => .pure id
    .andThen left fun _ => .andThen (FunctionDecl.builds_all methods kept.2) fun _ =>
      .quietly (.ident name) fun _ => .quietly (.pure _) fun _ =>
        .finish fun _ => .refl _
  | .pinned pin inner, kept =>
    have kept := Bool.and_eq_true_iff.mp kept
    .bind (inner.builds kept.2) fun _ => .amend (pin.ids_onStmt kept.1 _)

/-- Statements are built from nothing and put together as one list. -/
theorem Stmt.builds_all : (stmts : List Stmt) → Stmt.keepIds stmts = true →
    Builds [] (Stmt.numberAll stmts) fun trees => piecesOf [.stmts trees]
  | [], _ => .assemble (.refl _)
  | stmt :: rest, kept =>
    have kept := Bool.and_eq_true_iff.mp kept
    .andThen (stmt.builds kept.1) fun _ => .andThen (Stmt.builds_all rest kept.2) fun _ =>
      .assemble (.refl _)

end

end Draft

end NameResolution
