import NameResolution.Proofs.Numbering.Drafts
import NameResolution.Proofs.Session.NodeIds

/-!
# Numbering in post-order

Every draft that leaves its positions alone is numbered in post-order: the numbers
of each subtree of its tree are consecutive, the last of them is that of the root,
and no span is handed out twice.
-/

namespace NameResolution

variable {initializerName : String}

namespace Draft

open NameResolution.Numbering (Makes Produces)

/-- Fields that are put together from names and values have these names. -/
theorem map_name_zipWith : {labels : List Ident} → {values : List NameResolution.Expr} →
    labels.length = values.length →
    (labels.zipWith NameResolution.FieldInit.mk values).map NameResolution.FieldInit.name = labels
  | [], [], _ => rfl
  | label :: _, _ :: _, same => congrArg (label :: ·) (map_name_zipWith (Nat.succ.inj same))

/-- A struct literal is made of the values and the names that were numbered for it. -/
theorem completes_structInit (fields : List FieldInit) (start between : Counter) (node : Node)
    (name : Ident) :
    let values := ((FieldInit.numberAll fields).run start).1
    let labels := ((Numbering.idents (fields.map FieldInit.name)).run between).1
    let tree := NameResolution.Expr.structInit node name (labels.zipWith .mk values)
    (values.map Piece.expr).Perm ((Piece.expr tree).parts initializerName) ∧
      (Piece.expr tree).ownId? = some node.id ∧
        (Piece.expr tree).ownSpans.Subperm
          (labels.map Ident.span ++ [name.span] ++ [node.span]) := by
  intro values labels tree
  have same : labels.length = values.length := by
    rw [length_idents, List.length_map, length_numberAll]
  have parts : (Piece.expr tree).parts initializerName = values.map .expr :=
    List.map_map.symm.trans (congrArg (List.map Piece.expr) (map_value_zipWith same))
  have spans : (Piece.expr tree).ownSpans =
      labels.map Ident.span ++ [name.span] ++ [node.span] := by
    simp only [tree, Piece.ownSpans, NameResolution.Expr.names, map_name_zipWith same,
      List.map_append]
    rfl
  exact ⟨.of_eq parts.symm, rfl, (List.Perm.of_eq spans).subperm⟩

/-- A parent that is only named is a node made of its name. -/
theorem produces_named {β : Type} {pieces : List Piece} {spans : List Span}
    {made : β → List Piece} {handed : β → List Span} (parent : String)
    {next : Option NameResolution.Expr → Numbering β}
    (behind : ∀ tree, Produces initializerName (pieces ++ [.expr tree]) spans (next (some tree))
      made handed) :
    Produces initializerName pieces spans
      (Numbering.ident parent >>= fun name => Numbering.node >>= fun node =>
        pure (some (.var node name)) >>= next) made handed := by
  have leaf : Makes initializerName
      (Numbering.ident parent >>= fun name => Numbering.node >>= fun node =>
        pure (NameResolution.Expr.var node name)) fun tree => [.expr tree] :=
    .hand (.ident parent) fun _ => .finish fun _ => ⟨.refl _, rfl, .refl _⟩
  have joined : Produces initializerName pieces spans
      ((Numbering.ident parent >>= fun name => Numbering.node >>= fun node =>
        pure (.var node name)) >>= fun tree => next (some tree)) made handed :=
    .andThen leaf fun _ => behind _
  exact joined

mutual

/-- The numbering of an expression makes it of the numbers and the spans that it draws. -/
theorem Expr.makes : (expr : Expr) → expr.keepsPositions = true →
    Makes initializerName expr.number fun tree => [.expr tree]
  | .literal _, _ => .finish fun _ => ⟨.refl _, rfl, .refl _⟩
  | .array elements, kept =>
    .andThen (Expr.makes_all elements kept) fun _ => .finish fun _ => ⟨.refl _, rfl, .refl _⟩
  | .assign name value, kept =>
    .andThen (value.makes kept) fun _ => .hand (.ident name) fun _ =>
      .finish fun _ => ⟨.refl _, rfl, .refl _⟩
  | .var name, _ => .hand (.ident name) fun _ => .finish fun _ => ⟨.refl _, rfl, .refl _⟩
  | .mutArg name, _ => .hand (.ident name) fun _ => .finish fun _ => ⟨.refl _, rfl, .refl _⟩
  | .binary left _ right, kept =>
    have kept := Bool.and_eq_true_iff.mp kept
    .andThen (left.makes kept.1) fun _ => .andThen (right.makes kept.2) fun _ =>
      .finish fun _ => ⟨.refl _, rfl, .refl _⟩
  | .logical left _ right, kept =>
    have kept := Bool.and_eq_true_iff.mp kept
    .andThen (left.makes kept.1) fun _ => .andThen (right.makes kept.2) fun _ =>
      .finish fun _ => ⟨.refl _, rfl, .refl _⟩
  | .unary _ operand, kept =>
    .andThen (operand.makes kept) fun _ => .finish fun _ => ⟨.refl _, rfl, .refl _⟩
  | .grouping inner, kept =>
    .andThen (inner.makes kept) fun _ => .finish fun _ => ⟨.refl _, rfl, .refl _⟩
  | .call callee args, kept =>
    have kept := Bool.and_eq_true_iff.mp kept
    .andThen (callee.makes kept.1) fun _ => .andThen (Expr.makes_all args kept.2) fun _ =>
      .finish fun _ => ⟨.refl _, rfl, .refl _⟩
  | .get object name, kept =>
    .andThen (object.makes kept) fun _ => .hand (.ident name) fun _ =>
      .finish fun _ => ⟨.refl _, rfl, .refl _⟩
  -- The object is numbered before the value, but it is the second of the parts.
  | .set object name value, kept =>
    have kept := Bool.and_eq_true_iff.mp kept
    .andThen (object.makes kept.1) fun _ => .andThen (value.makes kept.2) fun _ =>
      .hand (.ident name) fun _ => .finish fun _ => ⟨.swap _ _ _, rfl, .refl _⟩
  | .index object index, kept =>
    have kept := Bool.and_eq_true_iff.mp kept
    .andThen (object.makes kept.1) fun _ => .andThen (index.makes kept.2) fun _ =>
      .finish fun _ => ⟨.refl _, rfl, .refl _⟩
  | .this, _ => .finish fun _ => ⟨.refl _, rfl, .refl _⟩
  | .super method, _ =>
    .hand (.ident method) fun _ => .finish fun _ => ⟨.refl _, rfl, .refl _⟩
  | .structInit name fields, kept =>
    .andThen (FieldInit.makes_all fields kept) fun _ => .hand (.idents _) fun _ =>
      .hand (.ident name) fun _ => .finish fun _ => completes_structInit fields _ _ _ _
  -- The node is put together with the plain declaration, and amended with it.
  | .lambda decl, kept =>
    .andThen (decl.makes (fun _ => .function) kept) fun _ =>
      .root (fun node => .expr (.lambda node _)) (fun _ => ⟨.refl _, rfl, .refl _⟩)
        fun _ => decl.amendment.produces _ fun _ => .pure fun since =>
          since.amend ((Piece.Amends.function (decl.keepsPositions_amendment kept) _ _ _ _).around
            rfl rfl rfl rfl)
  | .pinned pin inner, kept =>
    have kept := Bool.and_eq_true_iff.mp kept
    .bind (inner.makes kept.2) fun _ => .pure fun since => by rwa [pin.onExpr_eq kept.1]

/-- The numbering of expressions makes them of what it draws. -/
theorem Expr.makes_all : (exprs : List Expr) → Expr.keepPositions exprs = true →
    Makes initializerName (Expr.numberAll exprs) fun trees => trees.map .expr
  | [], _ => .pure id
  | expr :: rest, kept =>
    have kept := Bool.and_eq_true_iff.mp kept
    .andThen (expr.makes kept.1) fun _ => .andThen (Expr.makes_all rest kept.2) fun _ => .pure id

/-- The numbering of a field makes its value of what it draws. -/
theorem FieldInit.makes : (field : FieldInit) → field.keepsPositions = true →
    Makes initializerName field.number fun tree => [.expr tree]
  | ⟨_, value⟩, kept => value.makes kept

/-- The numbering of fields makes their values of what it draws. -/
theorem FieldInit.makes_all : (fields : List FieldInit) → FieldInit.keepPositions fields = true →
    Makes initializerName (FieldInit.numberAll fields) fun trees => trees.map .expr
  | [], _ => .pure id
  | field :: rest, kept =>
    have kept := Bool.and_eq_true_iff.mp kept
    .andThen (field.makes kept.1) fun _ =>
      .andThen (FieldInit.makes_all rest kept.2) fun _ => .pure id

/-- The numbering of a function makes it of what it draws: its body, and a span but no number of
its own. -/
theorem FunctionDecl.makes (kind : NameResolution.FunctionDecl → FunctionKind) :
    (decl : FunctionDecl) → decl.keepsPositions = true →
    Makes initializerName decl.number fun tree => [.function (kind tree) tree]
  | ⟨name, params, body, _, _⟩, kept =>
    have kept := Bool.and_eq_true_iff.mp (Bool.and_eq_true_iff.mp kept).1
    .hand (Param.hands_all params kept.1) fun _ => .andThen (Stmt.makes_all body kept.2) fun _ =>
      .hand (.ident? name) fun _ => .hand .span fun _ =>
        .enclose (.refl _) rfl (List.Perm.of_eq (List.append_nil _)).subperm

/-- The numbering of methods makes them of what it draws, each with its return type behind it. -/
theorem FunctionDecl.makes_all : (decls : List FunctionDecl) →
    FunctionDecl.keepPositions decls = true →
    Makes initializerName (FunctionDecl.numberAll decls)
      fun trees => trees.map fun tree => .function (tree.kindInClass initializerName) tree
  | [], _ => .pure id
  | decl :: rest, kept =>
    have kept := Bool.and_eq_true_iff.mp kept
    .bind (decl.makes (FunctionDecl.kindInClass initializerName) kept.1) fun _ =>
      decl.amendment.produces _ fun _ =>
        .before (fun since => since.amend
            (.function (decl.keepsPositions_amendment kept.1) _ _ _
              (FunctionDecl.kindInClass initializerName _)))
          (.andThen (FunctionDecl.makes_all rest kept.2) fun _ => .pure id)

/-- The numbering of a statement makes it of the numbers and the spans that it draws. -/
theorem Stmt.makes : (stmt : Stmt) → stmt.keepsPositions = true →
    Makes initializerName stmt.number fun tree => [.stmt tree]
  | .block body, kept =>
    .andThen (Stmt.makes_all body kept) fun _ => .finish fun _ => ⟨.refl _, rfl, .refl _⟩
  | .breakLoop, _ => .finish fun _ => ⟨.refl _, rfl, .refl _⟩
  | .continueLoop, _ => .finish fun _ => ⟨.refl _, rfl, .refl _⟩
  | .letDecl name _ ty none _, _ =>
    .skip (.hand (Ty.hands? ty) fun _ => .hand (.ident name) fun _ =>
      .finish fun _ => ⟨.refl _, rfl, .refl _⟩)
  | .letDecl name _ ty (some initial) _, kept =>
    .andThenMap (initial.makes kept) fun _ => .hand (Ty.hands? ty) fun _ =>
      .hand (.ident name) fun _ => .finish fun _ => ⟨.refl _, rfl, .refl _⟩
  | .forRange counter lower upper body, kept =>
    have kept := Bool.and_eq_true_iff.mp kept
    have bounds := Bool.and_eq_true_iff.mp kept.1
    .andThen (lower.makes bounds.1) fun _ => .andThen (upper.makes bounds.2) fun _ =>
      .andThen (Stmt.makes_all body kept.2) fun _ => .hand (.ident? counter) fun _ =>
        .finish fun _ => ⟨.refl _, rfl, .refl _⟩
  | .forEach item collection body, kept =>
    have kept := Bool.and_eq_true_iff.mp kept
    .andThen (collection.makes kept.1) fun _ => .andThen (Stmt.makes_all body kept.2) fun _ =>
      .hand (.ident item) fun _ => .finish fun _ => ⟨.refl _, rfl, .refl _⟩
  | .whileLoop none body, kept =>
    .skip (.andThen (Stmt.makes_all body kept) fun _ =>
      .finish fun _ => ⟨.refl _, rfl, .refl _⟩)
  | .whileLoop (some condition) body, kept =>
    have kept := Bool.and_eq_true_iff.mp kept
    .andThenMap (condition.makes kept.1) fun _ => .andThen (Stmt.makes_all body kept.2) fun _ =>
      .finish fun _ => ⟨.refl _, rfl, .refl _⟩
  | .function decl, kept =>
    .andThen (decl.makes (fun _ => .function) kept) fun _ =>
      .root (fun node => .stmt (.function node _)) (fun _ => ⟨.refl _, rfl, .refl _⟩)
        fun _ => decl.amendment.produces _ fun _ => .pure fun since =>
          since.amend ((Piece.Amends.function (decl.keepsPositions_amendment kept) _ _ _ _).around
            rfl rfl rfl rfl)
  | .expression value, kept =>
    .andThen (value.makes kept) fun _ => .finish fun _ => ⟨.refl _, rfl, .refl _⟩
  | .print value, kept =>
    .andThen (value.makes kept) fun _ => .finish fun _ => ⟨.refl _, rfl, .refl _⟩
  | .ifElse condition thenBranch none, kept =>
    have kept := Bool.and_eq_true_iff.mp kept
    have both := Bool.and_eq_true_iff.mp kept.1
    .andThen (condition.makes both.1) fun _ => .andThen (thenBranch.makes both.2) fun _ =>
      .skip (.finish fun _ => ⟨.refl _, rfl, .refl _⟩)
  | .ifElse condition thenBranch (some elseBranch), kept =>
    have kept := Bool.and_eq_true_iff.mp kept
    have both := Bool.and_eq_true_iff.mp kept.1
    .andThen (condition.makes both.1) fun _ => .andThen (thenBranch.makes both.2) fun _ =>
      .andThenMap (elseBranch.makes kept.2) fun _ => .finish fun _ => ⟨.refl _, rfl, .refl _⟩
  | .ret none, _ => .skip (.finish fun _ => ⟨.refl _, rfl, .refl _⟩)
  | .ret (some value), kept =>
    .andThenMap (value.makes kept) fun _ => .finish fun _ => ⟨.refl _, rfl, .refl _⟩
  | .structDecl name members, kept =>
    .andThen (Stmt.makes_all members kept) fun _ => .hand (.ident name) fun _ =>
      .finish fun _ => ⟨.refl _, rfl, .refl _⟩
  | .classDecl name .absent methods, kept =>
    .skip (.andThen (FunctionDecl.makes_all methods kept) fun _ =>
      .hand (.ident name) fun _ => .skip (.finish fun _ => ⟨.refl _, rfl, .refl _⟩))
  -- A parent that is only named is numbered after the methods, but it is the first of the parts.
  | .classDecl name (.named parent) methods, kept =>
    .skip (.andThen (FunctionDecl.makes_all methods kept) fun _ =>
      .hand (.ident name) fun _ => produces_named parent fun _ =>
        .finish fun _ => ⟨List.perm_append_comm, rfl, .refl _⟩)
  | .classDecl name (.value parent) methods, kept =>
    have kept := Bool.and_eq_true_iff.mp kept
    have left : Makes initializerName (Parent.value parent).numberValue
        fun tree => tree.toList.map .expr :=
      .bind (parent.makes kept.1) fun _ => .pure id
    .andThen left fun _ => .andThen (FunctionDecl.makes_all methods kept.2) fun _ =>
      .hand (.ident name) fun _ => .skip (.finish fun _ => ⟨.refl _, rfl, .refl _⟩)
  | .pinned pin inner, kept =>
    have kept := Bool.and_eq_true_iff.mp kept
    .bind (inner.makes kept.2) fun _ => .pure fun since => by rwa [pin.onStmt_eq kept.1]

/-- The numbering of statements makes them of what it draws. -/
theorem Stmt.makes_all : (stmts : List Stmt) → Stmt.keepPositions stmts = true →
    Makes initializerName (Stmt.numberAll stmts) fun trees => [.stmts trees]
  | [], _ => .enclose (.refl _) rfl (.refl _)
  | stmt :: rest, kept =>
    have kept := Bool.and_eq_true_iff.mp kept
    .andThen (stmt.makes kept.1) fun _ => .andThen (Stmt.makes_all rest kept.2) fun _ =>
      .enclose (.refl _) rfl (.refl _)

end

end Draft

/-- `Program.Numbered tree before after`: the tree has the numbers and the spans that were
handed out between two states of the counter. -/
structure Program.Numbered (tree : Program) (before after : Counter) : Prop where
  /-- The numbers in a subtree are distinct, and they are all the numbers from some number
  up to that of its root. -/
  subtrees : ∀ {initializerName : String} {piece : Piece} {root : NodeId},
    Within initializerName (.stmts tree) piece → piece.ownId? = some root →
      piece.ids.Nodup ∧ ∃ least : NodeId, least.val ≤ root.val ∧
        ∀ id, id ∈ piece.ids ↔ least.val ≤ id.val ∧ id.val ≤ root.val
  /-- The numbers in the program are distinct, and they are those that were handed out. -/
  nodes : (Program.ids tree).Nodup ∧
    ∀ id, id ∈ Program.ids tree ↔ before.nextId ≤ id.val ∧ id.val < after.nextId
  /-- As many numbers were handed out as there are nodes. -/
  nodeCount : after.nodeCount = before.nodeCount + (Program.ids tree).length
  /-- Every span is one unit long. -/
  lengths : ∀ span ∈ Program.spans tree, span.length = 1
  /-- Every offset is one that was handed out. -/
  bounds : ∀ span ∈ Program.spans tree,
    before.nextOffset ≤ span.offset ∧ span.offset < after.nextOffset
  /-- No two spans begin at the same offset. -/
  distinct : ((Program.spans tree).map Span.offset).Nodup

/-- What the numbering of a program produces is its tree. -/
theorem since_number (initializerName : String) {program : Draft.Program}
    (kept : program.keepsPositions = true) (counter : Counter) :
    ProducedSince initializerName counter.nodeCount counter.nextOffset
      (Program.ids (program.number counter).1).length [.stmts (program.number counter).1] []
      (program.number counter).2 := by
  have drawn : counter.nextId = .ofNat counter.nodeCount := UInt32.ofNat_toNat.symm
  have makes : Numbering.Makes initializerName (Draft.Stmt.numberAll program)
      fun trees => [.stmts trees] := Draft.Stmt.makes_all program kept
  obtain ⟨count, since⟩ := makes _ _ _ counter (.start drawn)
  have same := since.numbers.length_eq
  rw [List.flatMap_singleton, NodeId.drawnAfter, List.length_map, List.length_range'] at same
  have whole : (Program.ids (program.number counter).1).length = count := same
  rw [whole]
  exact since

/-- The numbering of a draft that leaves all positions alone numbers its tree in post-order,
while numbers last. -/
theorem number_in_post_order (program : Draft.Program) (counter : Counter)
    (kept : program.keepsPositions = true)
    (room : counter.nodeCount + (Program.ids (program.number counter).1).length < UInt32.size) :
    Program.Numbered (program.number counter).1 counter (program.number counter).2 := by
  have since := since_number "" kept counter
  have numbers := since.numbers
  have fresh := since.fresh
  rw [List.flatMap_singleton] at numbers
  rw [List.flatMap_singleton, List.append_nil] at fresh
  have nodeCount : (program.number counter).2.nodeCount =
      counter.nodeCount + (Program.ids (program.number counter).1).length := by
    rw [Counter.nodeCount, since.nextId, UInt32.toNat_ofNat_of_lt' room]
  exact {
    subtrees := fun {initializerName piece root} within own => by
      have ordered := (since_number initializerName kept counter).ordered _
        (List.mem_singleton_self _)
      exact (ordered piece within).interval (Nat.le_of_lt room) own
    nodes := by
      refine ⟨numbers.nodup_iff.mpr (NodeId.nodup_drawnAfter (Nat.le_of_lt room)), fun id => ?_⟩
      have listed : id ∈ Program.ids (program.number counter).1 ↔ _ := numbers.mem_iff
      rw [listed, NodeId.mem_drawnAfter (Nat.le_of_lt room), ← nodeCount, UInt32.le_iff_toNat_le,
        UInt32.lt_iff_toNat_lt]
      rfl
    nodeCount := nodeCount
    lengths := fresh.length
    bounds := fresh.bounds
    distinct := fresh.distinct }

/-- A class with a named parent, whose initializer returns a function with an array for
its parameter, then a struct, and a loop that makes a value of it. -/
def classAndStruct : Draft.Program :=
  [.classDecl "B" (.named "A")
      [⟨some "init", [⟨"p", true, none, none⟩],
        [.ret (some (.lambda ⟨none, [⟨"q", false, some (.array (.named "num")), none⟩],
          [.expression (.call (.super "run") [.var "q", .mutArg "p"])], false, .nothing⟩))],
        false, .nothing⟩],
    .structDecl "S" [.letDecl "x" false (some .any) none false, .letDecl "y" true none none false],
    .forRange (some "i") (.literal .nil) (.var "n")
      [.expression (.structInit "S" [⟨"x", .var "i"⟩, ⟨"y", .set .this "z" (.literal .nil)⟩])]]

/-- A state of the counter in which there are just enough numbers left for this draft. -/
def nearlyOut : Counter := ⟨4294967274, 17⟩

/-- The draft takes 21 numbers and 47 spans, and leaves a single number. -/
theorem number_in_post_order_classAndStruct :
    classAndStruct.keepsPositions = true ∧
      nearlyOut.nodeCount + (Program.ids (classAndStruct.number nearlyOut).1).length <
        UInt32.size ∧
      Program.Numbered (classAndStruct.number nearlyOut).1 nearlyOut
        (classAndStruct.number nearlyOut).2 ∧
      (classAndStruct.number nearlyOut).2 = ⟨4294967295, 64⟩ := by
  have kept : classAndStruct.keepsPositions = true := by decide
  have same := (Program.nodeIds_perm "" (classAndStruct.number nearlyOut).1).length_eq
  have room : nearlyOut.nodeCount + (Program.ids (classAndStruct.number nearlyOut).1).length <
      UInt32.size := by
    rw [← same]
    decide +kernel
  exact ⟨kept, room, number_in_post_order classAndStruct nearlyOut kept room, by decide +kernel⟩

end NameResolution
