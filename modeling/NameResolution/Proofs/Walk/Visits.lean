import NameResolution.Walk

/-!
# Visits

A walk goes from a piece of a tree to the pieces directly inside it. What it
does at a piece is a list of items: single steps, and visits to parts, each
in a context of its own. `Visits` says that the walk of a program gets to a
piece, in which context, and which steps it has and has not made by then.
-/

namespace NameResolution

/-- A piece of a tree that is walked as a whole. -/
inductive Piece where
  | expr (tree : Expr)
  | stmt (tree : Stmt)
  | stmts (trees : List Stmt)
  | function (kind : FunctionKind) (tree : FunctionDecl)

/-- What a function is in a class: the initializer if it has the name of initializers, and
an ordinary method if it has another name or none. -/
def FunctionDecl.kindInClass (initializerName : String) (method : FunctionDecl) : FunctionKind :=
  if method.name.any (·.name == initializerName) then .initializer else .method

/-- The walk takes a method for what it is. -/
@[simp] theorem methodKind_eq (initializerName : String) (method : FunctionDecl) :
    methodKind initializerName method = method.kindInClass initializerName := rfl

/-- The steps of a piece. -/
def Piece.walk (initializerName : String) (context : Context) : Piece → List Step
  | .expr tree => tree.walk initializerName context
  | .stmt tree => tree.walk initializerName context
  | .stmts trees => Stmt.walkAll initializerName context trees
  | .function kind tree => tree.walk initializerName context kind

/-- What the walk of a piece consists of. -/
inductive Item where
  | step (step : Step)
  | visit (piece : Piece) (context : Context)

/-- The steps of an item. -/
def Item.walk (initializerName : String) : Item → List Step
  | .step only => [only]
  | .visit piece context => piece.walk initializerName context

/-- The items of an expression. -/
def Expr.items (context : Context) : Expr → List Item
  | .literal .. => []
  | .array _ elements => elements.map fun element => .visit (.expr element) context
  | .assign node name value =>
    [.step (.checkAssign name), .visit (.expr value) context,
      .step (.resolve node.id name .write)]
  | .var node name => [.step (.readVariable node.id name)]
  | .mutArg node name => [.step (.resolve node.id name .read)]
  | .binary _ left _ right => [.visit (.expr left) context, .visit (.expr right) context]
  | .logical _ left _ right => [.visit (.expr left) context, .visit (.expr right) context]
  | .unary _ _ operand => [.visit (.expr operand) context]
  | .grouping _ inner => [.visit (.expr inner) context]
  | .call _ callee args =>
    .visit (.expr callee) context :: args.map fun arg => .visit (.expr arg) context
  | .get _ object _ => [.visit (.expr object) context]
  | .set node object _ value =>
    .visit (.expr value) context :: .visit (.expr object) context ::
      (Step.setTarget node.span object).map .step
  | .index _ object position => [.visit (.expr object) context, .visit (.expr position) context]
  | .this node => (Step.this context node).map .step
  | .super node _ => (Step.super context node).map .step
  | .structInit node name fields =>
    (fields.map fun field => .visit (.expr field.value) context) ++
      [.step (.resolve node.id name .read)]
  | .lambda _ decl => [.visit (.function .function decl) context]

/-- The items of a statement. -/
def Stmt.items (initializerName : String) (context : Context) : Stmt → List Item
  | .block _ body => [.step .openScope, .visit (.stmts body) context, .step .closeScope]
  | .breakLoop _ => []
  | .continueLoop _ => []
  | .letDecl _ name mutable _ initial foreign =>
    (Step.foreign .variable foreign name).map .step ++
      .step (.declare name mutable context.inStruct) ::
        match initial with
        | some value => [.visit (.expr value) context, .step (.define name)]
        | none => (Step.uninitialized context name mutable foreign).map .step
  | .forRange node counter lower upper body =>
    [.visit (.expr lower) context, .visit (.expr upper) context, .step .openScope] ++
      (counter.elim [] (Step.bind · false false)).map .step ++
      (Step.loopBody node.span body).map .step ++
      [.visit (.stmts body) context, .step .closeScope]
  | .forEach node item collection body =>
    [.visit (.expr collection) context, .step .openScope] ++
      (Step.bind item false false).map .step ++ (Step.loopBody node.span body).map .step ++
      [.visit (.stmts body) context, .step .closeScope]
  | .whileLoop _ condition body =>
    (condition.toList.map fun condition => .visit (.expr condition) context) ++
      [.step .openScope, .visit (.stmts body) context, .step .closeScope]
  | .function _ decl =>
    (Step.functionName context decl).map .step ++ [.visit (.function .function decl) context]
  | .expression _ value => [.visit (.expr value) context]
  | .print _ value => [.visit (.expr value) context]
  | .ifElse _ condition thenBranch elseBranch =>
    .visit (.expr condition) context :: .visit (.stmt thenBranch) context ::
      elseBranch.toList.map fun branch => .visit (.stmt branch) context
  | .ret node value =>
    (Step.returnFrom context node.span).map .step ++
      match value, context.function with
      | none, _ => []
      | some value, .initializer => [.step (.report (.initializerReturnValue value.span))]
      | some value, _ => [.visit (.expr value) context]
  | .structDecl _ name members =>
    (Step.bind name false context.inStruct).map .step ++
      [.step .openScope, .visit (.stmts members) (context.enterStruct .struct),
        .step .closeScope]
  | .classDecl _ name superclass methods =>
    let inside := context.enterClass (.ofSuperclass superclass)
    (Step.selfInheritance name superclass).map .step ++
      (Step.bind name false context.inStruct).map .step ++
      (superclass.toList.flatMap fun parent =>
        [.visit (.expr parent) inside, .step .openScope,
          .step (.bindPseudo "super" parent.span)]) ++
      [.step .openScope, .step (.bindPseudo "this" name.span)] ++
      (methods.map fun method =>
        .visit (.function (methodKind initializerName method) method) inside) ++
      .step .closeScope :: superclass.toList.map fun _ => .step .closeScope

/-- The items of a piece. -/
def Piece.items (initializerName : String) (context : Context) : Piece → List Item
  | .expr tree => tree.items context
  | .stmt tree => tree.items initializerName context
  | .stmts [] => []
  | .stmts (first :: rest) =>
    .visit (.stmt first) context :: (Step.between first rest).map .step ++
      [.visit (.stmts rest) context]
  | .function kind ⟨_, params, _, body, foreign, _⟩ =>
    .step .openScope :: (Step.params foreign params).map .step ++
      [.visit (.stmts body) (context.insideFunction kind), .step .closeScope]

variable {initializerName : String}

@[simp] theorem flatMap_walk_steps (steps : List Step) :
    (steps.map Item.step).flatMap (Item.walk initializerName) = steps := by
  induction steps with
  | nil => rfl
  | cons step rest ih => simp [Item.walk, ih]

/-- Expressions are walked one after another. -/
theorem Expr.walkAll_eq_flatMap (context : Context) (exprs : List Expr) :
    Expr.walkAll initializerName context exprs =
      (exprs.map fun expr => Item.visit (.expr expr) context).flatMap
        (Item.walk initializerName) := by
  induction exprs with
  | nil => rfl
  | cons expr rest ih => simp [Expr.walkAll, Item.walk, Piece.walk, ih]

/-- The fields of a struct literal are walked by their values, one after another. -/
theorem FieldInit.walkAll_eq_flatMap (context : Context) (fields : List FieldInit) :
    FieldInit.walkAll initializerName context fields =
      (fields.map fun field => Item.visit (.expr field.value) context).flatMap
        (Item.walk initializerName) := by
  induction fields with
  | nil => rfl
  | cons field rest ih =>
    obtain ⟨name, value⟩ := field
    simp [FieldInit.walkAll, FieldInit.walk, Item.walk, Piece.walk, ih]

/-- Methods are walked one after another, as methods or initializers. -/
theorem FunctionDecl.walkMethods_eq_flatMap (context : Context) (methods : List FunctionDecl) :
    FunctionDecl.walkMethods initializerName context methods =
      (methods.map fun method =>
        Item.visit (.function (methodKind initializerName method) method) context).flatMap
        (Item.walk initializerName) := by
  induction methods with
  | nil => rfl
  | cons method rest ih => simp [FunctionDecl.walkMethods, Item.walk, Piece.walk, ih]

/-- An expression is walked item by item. -/
theorem Expr.flatMap_items (context : Context) (expr : Expr) :
    (expr.items context).flatMap (Item.walk initializerName) =
      expr.walk initializerName context := by
  cases expr with
  | array node elements => exact (Expr.walkAll_eq_flatMap context elements).symm
  | call node callee args =>
    simp [Expr.items, Expr.walk, Expr.walkAll_eq_flatMap, Item.walk, Piece.walk]
  | structInit node name fields =>
    simp [Expr.items, Expr.walk, FieldInit.walkAll_eq_flatMap, Item.walk]
  | _ => simp [Expr.items, Expr.walk, Item.walk, Piece.walk]

/-- A statement is walked item by item. -/
theorem Stmt.flatMap_items (context : Context) (stmt : Stmt) :
    (stmt.items initializerName context).flatMap (Item.walk initializerName) =
      stmt.walk initializerName context := by
  cases stmt with
  | letDecl node name mutable ty initial foreign =>
    cases initial <;> simp [Stmt.items, Stmt.walk, Item.walk, Piece.walk]
  | whileLoop node condition body =>
    cases condition <;> simp [Stmt.items, Stmt.walk, Expr.walk?, Item.walk, Piece.walk]
  | ifElse node condition thenBranch elseBranch =>
    cases elseBranch <;> simp [Stmt.items, Stmt.walk, Stmt.walk?, Item.walk, Piece.walk]
  | ret node value =>
    cases value with
    | none => simp [Stmt.items, Stmt.walk, Expr.walkReturned]
    | some value =>
      cases inside : context.function <;>
        simp [Stmt.items, Stmt.walk, Expr.walkReturned, Item.walk, Piece.walk, inside]
  | classDecl node name superclass methods =>
    cases superclass <;>
      simp [Stmt.items, Stmt.walk, Expr.walkSuperclass, FunctionDecl.walkMethods_eq_flatMap,
        Item.walk, Piece.walk]
  | _ => simp [Stmt.items, Stmt.walk, Item.walk, Piece.walk]

/-- A piece is walked item by item. -/
theorem Piece.flatMap_items (context : Context) (piece : Piece) :
    (piece.items initializerName context).flatMap (Item.walk initializerName) =
      piece.walk initializerName context := by
  cases piece with
  | expr tree => exact tree.flatMap_items context
  | stmt tree => exact tree.flatMap_items context
  | stmts trees =>
    cases trees with
    | nil => rfl
    | cons stmt rest => simp [Piece.items, Piece.walk, Stmt.walkAll, Item.walk]
  | function kind tree =>
    obtain ⟨name, params, returnType, body, foreign, span⟩ := tree
    simp [Piece.items, Piece.walk, FunctionDecl.walk, Item.walk]

/-- `Visits initializerName program piece context before after`: the walk of the
program gets to the piece in the given context, with the steps of `before`
behind it and those of `after` still to come when it leaves. -/
inductive Visits (initializerName : String) (program : Program) :
    Piece → Context → List Step → List Step → Prop where
  | program : Visits initializerName program (.stmts program) .outermost [.openScope] [.closeScope]
  | part {piece part : Piece} {context inner : Context} {before after : List Step}
      {leading trailing : List Item}
      (whole : Visits initializerName program piece context before after)
      (items : piece.items initializerName context = leading ++ .visit part inner :: trailing) :
      Visits initializerName program part inner
        (before ++ leading.flatMap (Item.walk initializerName))
        (trailing.flatMap (Item.walk initializerName) ++ after)

/-- A piece that is visited stands between the steps before it and those after it. -/
theorem Visits.walk {program : Program} {piece : Piece} {context : Context}
    {before after : List Step}
    (visits : Visits initializerName program piece context before after) :
    Program.walk initializerName program =
      before ++ piece.walk initializerName context ++ after := by
  induction visits with
  | program => rfl
  | @part piece part context inner before after leading trailing whole items ih =>
    have split : (piece.items initializerName context).flatMap (Item.walk initializerName) =
        piece.walk initializerName context := piece.flatMap_items context
    rw [items, List.flatMap_append, List.flatMap_cons] at split
    rw [ih, ← split]
    simp only [Item.walk, List.append_assoc]

end NameResolution
