import Mathlib.Data.List.Basic
import NameResolution.Proofs.Walk.Parts

/-!
# Trees that differ in one place

`Piece.Altered` says that two pieces of trees differ in one place at most: that
one has a statement list where the other has another. If the lists are both
empty or both not, whatever the walk makes outside of them by itself it makes of
both pieces alike, so it gets to the two lists in the same way. Every statement
list that stands anywhere in a program can be changed like that.
-/

namespace NameResolution

/-- `Piece.Replaced initializerName old new before after`: the piece `after` is `before` with
the part `new` for one of its parts, `old`. -/
inductive Piece.Replaced (initializerName : String) : Piece → Piece → Piece → Piece → Prop where
  | element (node : Node) (front behind : List Expr) (old new : Expr) :
      Replaced initializerName (.expr old) (.expr new)
        (.expr (.array node (front ++ old :: behind)))
        (.expr (.array node (front ++ new :: behind)))
  | assigned (node : Node) (name : Ident) (old new : Expr) :
      Replaced initializerName (.expr old) (.expr new) (.expr (.assign node name old))
        (.expr (.assign node name new))
  | binaryLeft (node : Node) (op : BinaryOp) (right old new : Expr) :
      Replaced initializerName (.expr old) (.expr new) (.expr (.binary node old op right))
        (.expr (.binary node new op right))
  | binaryRight (node : Node) (op : BinaryOp) (left old new : Expr) :
      Replaced initializerName (.expr old) (.expr new) (.expr (.binary node left op old))
        (.expr (.binary node left op new))
  | logicalLeft (node : Node) (op : LogicalOp) (right old new : Expr) :
      Replaced initializerName (.expr old) (.expr new) (.expr (.logical node old op right))
        (.expr (.logical node new op right))
  | logicalRight (node : Node) (op : LogicalOp) (left old new : Expr) :
      Replaced initializerName (.expr old) (.expr new) (.expr (.logical node left op old))
        (.expr (.logical node left op new))
  | operand (node : Node) (op : UnaryOp) (old new : Expr) :
      Replaced initializerName (.expr old) (.expr new) (.expr (.unary node op old))
        (.expr (.unary node op new))
  | grouped (node : Node) (old new : Expr) :
      Replaced initializerName (.expr old) (.expr new) (.expr (.grouping node old))
        (.expr (.grouping node new))
  | callee (node : Node) (args : List Expr) (old new : Expr) :
      Replaced initializerName (.expr old) (.expr new) (.expr (.call node old args))
        (.expr (.call node new args))
  | argument (node : Node) (callee : Expr) (front behind : List Expr) (old new : Expr) :
      Replaced initializerName (.expr old) (.expr new)
        (.expr (.call node callee (front ++ old :: behind)))
        (.expr (.call node callee (front ++ new :: behind)))
  | getObject (node : Node) (name : Ident) (old new : Expr) :
      Replaced initializerName (.expr old) (.expr new) (.expr (.get node old name))
        (.expr (.get node new name))
  | setObject (node : Node) (name : Ident) (value old new : Expr) :
      Replaced initializerName (.expr old) (.expr new) (.expr (.set node old name value))
        (.expr (.set node new name value))
  | setValue (node : Node) (name : Ident) (object old new : Expr) :
      Replaced initializerName (.expr old) (.expr new) (.expr (.set node object name old))
        (.expr (.set node object name new))
  | indexed (node : Node) (position old new : Expr) :
      Replaced initializerName (.expr old) (.expr new) (.expr (.index node old position))
        (.expr (.index node new position))
  | position (node : Node) (object old new : Expr) :
      Replaced initializerName (.expr old) (.expr new) (.expr (.index node object old))
        (.expr (.index node object new))
  | field (node : Node) (name field : Ident) (front behind : List FieldInit) (old new : Expr) :
      Replaced initializerName (.expr old) (.expr new)
        (.expr (.structInit node name (front ++ ⟨field, old⟩ :: behind)))
        (.expr (.structInit node name (front ++ ⟨field, new⟩ :: behind)))
  | lambda (node : Node) (old new : FunctionDecl) :
      Replaced initializerName (.function .function old) (.function .function new)
        (.expr (.lambda node old)) (.expr (.lambda node new))
  | block (node : Node) (old new : List Stmt) :
      Replaced initializerName (.stmts old) (.stmts new) (.stmt (.block node old))
        (.stmt (.block node new))
  | initial (node : Node) (name : Ident) (mutable : Bool) (ty : Option Ty) (foreign : Bool)
      (old new : Expr) :
      Replaced initializerName (.expr old) (.expr new)
        (.stmt (.letDecl node name mutable ty (some old) foreign))
        (.stmt (.letDecl node name mutable ty (some new) foreign))
  | lower (node : Node) (counter : Option Ident) (upper : Expr) (body : List Stmt)
      (old new : Expr) :
      Replaced initializerName (.expr old) (.expr new)
        (.stmt (.forRange node counter old upper body))
        (.stmt (.forRange node counter new upper body))
  | upper (node : Node) (counter : Option Ident) (lower : Expr) (body : List Stmt)
      (old new : Expr) :
      Replaced initializerName (.expr old) (.expr new)
        (.stmt (.forRange node counter lower old body))
        (.stmt (.forRange node counter lower new body))
  | rangeBody (node : Node) (counter : Option Ident) (lower upper : Expr) (old new : List Stmt) :
      Replaced initializerName (.stmts old) (.stmts new)
        (.stmt (.forRange node counter lower upper old))
        (.stmt (.forRange node counter lower upper new))
  | collection (node : Node) (item : Ident) (body : List Stmt) (old new : Expr) :
      Replaced initializerName (.expr old) (.expr new) (.stmt (.forEach node item old body))
        (.stmt (.forEach node item new body))
  | eachBody (node : Node) (item : Ident) (collection : Expr) (old new : List Stmt) :
      Replaced initializerName (.stmts old) (.stmts new) (.stmt (.forEach node item collection old))
        (.stmt (.forEach node item collection new))
  | loopCondition (node : Node) (body : List Stmt) (old new : Expr) :
      Replaced initializerName (.expr old) (.expr new) (.stmt (.whileLoop node (some old) body))
        (.stmt (.whileLoop node (some new) body))
  | loopBody (node : Node) (condition : Option Expr) (old new : List Stmt) :
      Replaced initializerName (.stmts old) (.stmts new) (.stmt (.whileLoop node condition old))
        (.stmt (.whileLoop node condition new))
  | function (node : Node) (old new : FunctionDecl) :
      Replaced initializerName (.function .function old) (.function .function new)
        (.stmt (.function node old)) (.stmt (.function node new))
  | expression (node : Node) (old new : Expr) :
      Replaced initializerName (.expr old) (.expr new) (.stmt (.expression node old))
        (.stmt (.expression node new))
  | print (node : Node) (old new : Expr) :
      Replaced initializerName (.expr old) (.expr new) (.stmt (.print node old))
        (.stmt (.print node new))
  | condition (node : Node) (thenBranch : Stmt) (elseBranch : Option Stmt) (old new : Expr) :
      Replaced initializerName (.expr old) (.expr new)
        (.stmt (.ifElse node old thenBranch elseBranch))
        (.stmt (.ifElse node new thenBranch elseBranch))
  | thenBranch (node : Node) (condition : Expr) (elseBranch : Option Stmt) (old new : Stmt) :
      Replaced initializerName (.stmt old) (.stmt new)
        (.stmt (.ifElse node condition old elseBranch))
        (.stmt (.ifElse node condition new elseBranch))
  | elseBranch (node : Node) (condition : Expr) (thenBranch old new : Stmt) :
      Replaced initializerName (.stmt old) (.stmt new)
        (.stmt (.ifElse node condition thenBranch (some old)))
        (.stmt (.ifElse node condition thenBranch (some new)))
  | returned (node : Node) (old new : Expr) :
      Replaced initializerName (.expr old) (.expr new) (.stmt (.ret node (some old)))
        (.stmt (.ret node (some new)))
  | members (node : Node) (name : Ident) (old new : List Stmt) :
      Replaced initializerName (.stmts old) (.stmts new) (.stmt (.structDecl node name old))
        (.stmt (.structDecl node name new))
  | superclass (node : Node) (name : Ident) (methods : List FunctionDecl) (old new : Expr) :
      Replaced initializerName (.expr old) (.expr new)
        (.stmt (.classDecl node name (some old) methods))
        (.stmt (.classDecl node name (some new) methods))
  | method (node : Node) (name : Ident) (superclass : Option Expr)
      (front behind : List FunctionDecl) (old new : FunctionDecl) :
      Replaced initializerName (.function (old.kindInClass initializerName) old)
        (.function (new.kindInClass initializerName) new)
        (.stmt (.classDecl node name superclass (front ++ old :: behind)))
        (.stmt (.classDecl node name superclass (front ++ new :: behind)))
  | head (rest : List Stmt) (old new : Stmt) :
      Replaced initializerName (.stmt old) (.stmt new) (.stmts (old :: rest)) (.stmts (new :: rest))
  | tail (first : Stmt) (old new : List Stmt) :
      Replaced initializerName (.stmts old) (.stmts new) (.stmts (first :: old))
        (.stmts (first :: new))
  | body (kind : FunctionKind) (name : Option Ident) (params : List Param) (returnType : Option Ty)
      (foreign : Bool) (span : Span) (old new : List Stmt) :
      Replaced initializerName (.stmts old) (.stmts new)
        (.function kind ⟨name, params, returnType, old, foreign, span⟩)
        (.function kind ⟨name, params, returnType, new, foreign, span⟩)

/-- `Piece.Altered initializerName change before after`: somewhere in the piece `before` there is
a statement list, and `after` has another in its place that the change admits. -/
inductive Piece.Altered (initializerName : String) (change : List Stmt → List Stmt → Prop) :
    Piece → Piece → Prop where
  | here {old new : List Stmt} (changes : change old new) :
      Altered initializerName change (.stmts old) (.stmts new)
  | inside {old new before after : Piece} (altered : Altered initializerName change old new)
      (replaced : Piece.Replaced initializerName old new before after) :
      Altered initializerName change before after

/-- Whether pieces show alike to what is around them. -/
def Piece.Alike : Piece → Piece → Prop
  | .expr old, .expr new =>
    old.span = new.span ∧ old.asVariable? = new.asVariable? ∧
      ∀ span, Step.setTarget span old = Step.setTarget span new
  | .stmt old, .stmt new => old.span = new.span ∧ old.isTerminal = new.isTerminal
  | .stmts old, .stmts new => old.isEmpty = new.isEmpty
  | .function kind old, .function other new =>
    kind = other ∧ old.name = new.name ∧ old.foreign = new.foreign
  | _, _ => False

variable {initializerName : String} {old new before after : Piece}

/-- A part of a piece does not show. -/
theorem Piece.Replaced.alike (replaced : Replaced initializerName old new before after) :
    before.Alike after := by
  cases replaced <;>
    simp [Alike, Expr.span, Expr.node, Expr.asVariable?, Step.setTarget, Expr.shape, Stmt.span,
      Stmt.node, Stmt.isTerminal]

/-- `SameAround initializerName old new whole other context`: what the walk makes of two pieces
comes to the same but for a visit to `old` in the one and to `new` in the other. -/
def SameAround (initializerName : String) (old new whole other : Piece) (context : Context) : Prop :=
  ∃ inner leading trailing,
    whole.items initializerName context = leading ++ .visit old inner :: trailing ∧
      other.items initializerName context = leading ++ .visit new inner :: trailing

/-- The value of a field is visited among those of the others. -/
theorem FieldInit.map_visit (front behind : List FieldInit) (name : Ident) (value : Expr)
    (context : Context) :
    ((front ++ ⟨name, value⟩ :: behind).map fun field => Item.visit (.expr field.value) context) =
      (front.map fun field => Item.visit (.expr field.value) context) ++
        .visit (.expr value) context ::
          behind.map fun field => Item.visit (.expr field.value) context := by
  rw [List.map_append, List.map_cons]

/-- Around a part of an expression that is replaced, everything is walked as before. -/
theorem Piece.Replaced.items_expr {tree other : Expr}
    (replaced : Replaced initializerName old new (.expr tree) (.expr other))
    (alike : old.Alike new) (context : Context) :
    SameAround initializerName old new (.expr tree) (.expr other) context := by
  cases replaced with
  | element node front behind old new =>
    exact ⟨context, front.map fun element => .visit (.expr element) context,
      behind.map fun element => .visit (.expr element) context, List.map_append, List.map_append⟩
  | assigned node name old new =>
    exact ⟨context, [.step (.checkAssign name)], [.step (.resolve node.id name .write)], rfl, rfl⟩
  | binaryLeft node op right old new | logicalLeft node op right old new =>
    exact ⟨context, [], [.visit (.expr right) context], rfl, rfl⟩
  | binaryRight node op left old new | logicalRight node op left old new =>
    exact ⟨context, [.visit (.expr left) context], [], rfl, rfl⟩
  | operand node op old new | grouped node old new | getObject node name old new =>
    exact ⟨context, [], [], rfl, rfl⟩
  | callee node args old new =>
    exact ⟨context, [], args.map fun arg => .visit (.expr arg) context, rfl, rfl⟩
  | argument node callee front behind old new =>
    exact ⟨context,
      .visit (.expr callee) context :: front.map fun arg => .visit (.expr arg) context,
      behind.map fun arg => .visit (.expr arg) context,
      congrArg (_ :: ·) List.map_append, congrArg (_ :: ·) List.map_append⟩
  | setObject node name value old new =>
    refine ⟨context, [.visit (.expr value) context], (Step.setTarget node.span old).map .step, rfl,
      ?_⟩
    rw [alike.2.2 node.span]
    rfl
  | setValue node name object old new =>
    exact ⟨context, [],
      .visit (.expr object) context :: (Step.setTarget node.span object).map .step, rfl, rfl⟩
  | indexed node position old new =>
    exact ⟨context, [], [.visit (.expr position) context], rfl, rfl⟩
  | position node object old new => exact ⟨context, [.visit (.expr object) context], [], rfl, rfl⟩
  | field node name field front behind old new =>
    refine ⟨context, front.map fun field => .visit (.expr field.value) context,
      (behind.map fun field => .visit (.expr field.value) context) ++
        [.step (.resolve node.id name .read)], ?_, ?_⟩ <;>
      simp only [items, Expr.items, FieldInit.map_visit, List.append_assoc, List.cons_append]
  | lambda node old new => exact ⟨context, [], [], rfl, rfl⟩

/-- A loop is reported for its body only by whether that is empty. -/
theorem Step.loopBody_congr {body other : List Stmt} (same : body.isEmpty = other.isEmpty)
    (span : Span) : Step.loopBody span body = Step.loopBody span other := by
  rw [loopBody, loopBody, same]

/-- A class is reported for its superclass only by the name of that. -/
theorem Step.selfInheritance_congr {parent other : Expr}
    (same : parent.asVariable? = other.asVariable?) (name : Ident) :
    Step.selfInheritance name (some parent) = Step.selfInheritance name (some other) := by
  rw [selfInheritance, selfInheritance, Option.bind_some, Option.bind_some, same]

/-- The walk makes the same of two statements but for the part in which they differ. A value
that an initializer returns is not visited at all. -/
theorem Piece.Replaced.items_stmt {tree other : Stmt}
    (replaced : Replaced initializerName old new (.stmt tree) (.stmt other))
    (alike : old.Alike new) (context : Context) :
    (Piece.stmt tree).items initializerName context =
        (Piece.stmt other).items initializerName context ∨
      SameAround initializerName old new (.stmt tree) (.stmt other) context := by
  cases replaced with
  | block node old new =>
    exact .inr ⟨context, [.step .openScope], [.step .closeScope], rfl, rfl⟩
  | initial node name mutable ty foreign old new =>
    refine .inr ⟨context, (Step.foreign .variable foreign name).map .step ++
      [.step (.declare name mutable context.inStruct)], [.step (.define name)], ?_, ?_⟩ <;>
      simp only [items, Stmt.items, List.append_assoc, List.cons_append, List.nil_append]
  | lower node counter upper body old new => exact .inr ⟨context, [], _, rfl, rfl⟩
  | upper node counter lower body old new =>
    exact .inr ⟨context, [.visit (.expr lower) context], _, rfl, rfl⟩
  | rangeBody node counter lower upper old new =>
    refine .inr ⟨context, [.visit (.expr lower) context, .visit (.expr upper) context,
      .step .openScope] ++ (counter.elim [] (Step.bind · false false)).map .step ++
        (Step.loopBody node.span old).map .step, [.step .closeScope], rfl, ?_⟩
    rw [Step.loopBody_congr alike]
    rfl
  | collection node item body old new => exact .inr ⟨context, [], _, rfl, rfl⟩
  | eachBody node item collection old new =>
    refine .inr ⟨context, [.visit (.expr collection) context, .step .openScope] ++
      (Step.bind item false false).map .step ++ (Step.loopBody node.span old).map .step,
      [.step .closeScope], rfl, ?_⟩
    rw [Step.loopBody_congr alike]
    rfl
  | loopCondition node body old new => exact .inr ⟨context, [], _, rfl, rfl⟩
  | loopBody node condition old new =>
    refine .inr ⟨context, (condition.toList.map fun condition => .visit (.expr condition) context) ++
      [.step .openScope], [.step .closeScope], ?_, ?_⟩ <;>
      simp only [items, Stmt.items, List.append_assoc, List.cons_append, List.nil_append]
  | function node old new =>
    obtain ⟨-, named, foreign⟩ := alike
    refine .inr ⟨context, (Step.functionName context old).map .step, [], rfl, ?_⟩
    rw [Step.functionName, named, foreign]
    rfl
  | expression node old new | print node old new => exact .inr ⟨context, [], [], rfl, rfl⟩
  | condition node thenBranch elseBranch old new => exact .inr ⟨context, [], _, rfl, rfl⟩
  | thenBranch node condition elseBranch old new =>
    exact .inr ⟨context, [.visit (.expr condition) context], _, rfl, rfl⟩
  | elseBranch node condition thenBranch old new =>
    exact .inr ⟨context, [.visit (.expr condition) context, .visit (.stmt thenBranch) context], [],
      rfl, rfl⟩
  | returned node old new =>
    cases inside : context.function with
    | initializer =>
      refine .inl ?_
      simp only [items, Stmt.items, inside, alike.1]
    | _ =>
      refine .inr ⟨context, (Step.returnFrom context node.span).map .step, [], ?_, ?_⟩ <;>
        simp only [items, Stmt.items, inside]
  | members node name old new =>
    exact .inr ⟨_, (Step.bind name false context.inStruct).map .step ++ [.step .openScope],
      [.step .closeScope], rfl, rfl⟩
  | superclass node name methods old new =>
    obtain ⟨span, named, -⟩ := alike
    have inherits := Step.selfInheritance_congr named name
    refine .inr ⟨context.enterClass .subclass, (Step.selfInheritance name (some old)).map .step ++
      (Step.bind name false context.inStruct).map .step,
      [.step .openScope, .step (.bindPseudo "super" old.span), .step .openScope,
        .step (.bindPseudo "this" name.span)] ++
        (methods.map fun method => .visit (.function (methodKind initializerName method) method)
          (context.enterClass .subclass)) ++ [.step .closeScope, .step .closeScope], ?_, ?_⟩
    · simp [items, Stmt.items, ClassKind.ofSuperclass]
    · simp [items, Stmt.items, ClassKind.ofSuperclass, inherits, span]
  | method node name superclass front behind old new =>
    let inside := context.enterClass (.ofSuperclass superclass)
    refine .inr ⟨inside, (Step.selfInheritance name superclass).map .step ++
      (Step.bind name false context.inStruct).map .step ++
      (superclass.toList.flatMap fun parent =>
        [.visit (.expr parent) inside, .step .openScope,
          .step (.bindPseudo "super" parent.span)]) ++
      [.step .openScope, .step (.bindPseudo "this" name.span)] ++
      (front.map fun method => .visit (.function (methodKind initializerName method) method) inside),
      (behind.map fun method =>
        .visit (.function (methodKind initializerName method) method) inside) ++
        .step .closeScope :: superclass.toList.map fun _ => .step .closeScope, ?_, ?_⟩ <;>
      simp [items, Stmt.items, inside]

/-- The walk makes the same of two pieces but for the part in which they differ. -/
theorem Piece.Replaced.items (replaced : Replaced initializerName old new before after)
    (alike : old.Alike new) (context : Context) :
    before.items initializerName context = after.items initializerName context ∨
      SameAround initializerName old new before after context := by
  have shows := replaced.alike
  cases before with
  | expr tree =>
    cases after with
    | expr other => exact .inr (replaced.items_expr alike context)
    | _ => exact shows.elim
  | stmt tree =>
    cases after with
    | stmt other => exact replaced.items_stmt alike context
    | _ => exact shows.elim
  | stmts trees =>
    cases replaced with
    | head rest old new =>
      obtain ⟨span, terminal⟩ := alike
      refine .inr ⟨context, [], _, rfl, ?_⟩
      rw [Step.between, span, terminal]
      rfl
    | tail first old new =>
      refine .inr ⟨context, .visit (.stmt first) context :: (Step.between first old).map .step, [],
        rfl, ?_⟩
      rw [Step.between, alike]
      rfl
  | function kind tree =>
    cases replaced with
    | body kind name params returnType foreign span old new =>
      exact .inr ⟨context.insideFunction kind, .step .openScope ::
        (Step.params foreign params).map .step, [.step .closeScope], rfl, rfl⟩

section Everywhere

variable {part changed whole : Piece}

/-- In place of an expression there can be any other. -/
theorem Piece.Alike.replace_expr {tree : Expr} (alike : (Piece.expr tree).Alike changed)
    {other : Expr → Piece}
    (replaces : ∀ new, Replaced initializerName (.expr tree) (.expr new) whole (other new)) :
    ∃ after, Replaced initializerName (.expr tree) changed whole after := by
  cases changed with
  | expr new => exact ⟨other new, replaces new⟩
  | _ => exact alike.elim

/-- In place of a statement there can be any other. -/
theorem Piece.Alike.replace_stmt {tree : Stmt} (alike : (Piece.stmt tree).Alike changed)
    {other : Stmt → Piece}
    (replaces : ∀ new, Replaced initializerName (.stmt tree) (.stmt new) whole (other new)) :
    ∃ after, Replaced initializerName (.stmt tree) changed whole after := by
  cases changed with
  | stmt new => exact ⟨other new, replaces new⟩
  | _ => exact alike.elim

/-- In place of statements there can be any others that are empty if they are. -/
theorem Piece.Alike.replace_stmts {trees : List Stmt} (alike : (Piece.stmts trees).Alike changed)
    {other : List Stmt → Piece}
    (replaces : ∀ new, Replaced initializerName (.stmts trees) (.stmts new) whole (other new)) :
    ∃ after, Replaced initializerName (.stmts trees) changed whole after := by
  cases changed with
  | stmts new => exact ⟨other new, replaces new⟩
  | _ => exact alike.elim

/-- In place of a function there can be any other of its kind and name. -/
theorem Piece.Alike.replace_function {kind : FunctionKind} {tree : FunctionDecl}
    (alike : (Piece.function kind tree).Alike changed) {other : FunctionDecl → Piece}
    (replaces : ∀ new, tree.name = new.name →
      Replaced initializerName (.function kind tree) (.function kind new) whole (other new)) :
    ∃ after, Replaced initializerName (.function kind tree) changed whole after := by
  cases changed with
  | function kind new =>
    obtain ⟨rfl, named, -⟩ := alike
    exact ⟨other new, replaces new named⟩
  | _ => exact alike.elim

/-- Each part of an expression can be replaced by one that is like it. -/
theorem Expr.exists_replaced (expr : Expr) (listed : part ∈ expr.parts)
    (alike : part.Alike changed) :
    ∃ after, Piece.Replaced initializerName part changed (.expr expr) after := by
  cases expr with
  | array node elements =>
    obtain ⟨element, inside, rfl⟩ := List.mem_map.mp listed
    obtain ⟨front, behind, rfl⟩ := List.append_of_mem inside
    exact alike.replace_expr (.element node front behind element)
  | assign node name value =>
    obtain rfl := List.mem_singleton.mp listed
    exact alike.replace_expr (.assigned node name value)
  | binary node left op right =>
    rcases List.mem_pair.mp listed with rfl | rfl
    · exact alike.replace_expr (.binaryLeft node op right left)
    · exact alike.replace_expr (.binaryRight node op left right)
  | logical node left op right =>
    rcases List.mem_pair.mp listed with rfl | rfl
    · exact alike.replace_expr (.logicalLeft node op right left)
    · exact alike.replace_expr (.logicalRight node op left right)
  | unary node op operand =>
    obtain rfl := List.mem_singleton.mp listed
    exact alike.replace_expr (.operand node op operand)
  | grouping node inner =>
    obtain rfl := List.mem_singleton.mp listed
    exact alike.replace_expr (.grouped node inner)
  | call node callee args =>
    rcases List.mem_cons.mp listed with rfl | listed
    · exact alike.replace_expr (.callee node args callee)
    · obtain ⟨arg, inside, rfl⟩ := List.mem_map.mp listed
      obtain ⟨front, behind, rfl⟩ := List.append_of_mem inside
      exact alike.replace_expr (.argument node callee front behind arg)
  | get node object name =>
    obtain rfl := List.mem_singleton.mp listed
    exact alike.replace_expr (.getObject node name object)
  | set node object name value =>
    rcases List.mem_pair.mp listed with rfl | rfl
    · exact alike.replace_expr (.setValue node name object value)
    · exact alike.replace_expr (.setObject node name value object)
  | index node object position =>
    rcases List.mem_pair.mp listed with rfl | rfl
    · exact alike.replace_expr (.indexed node position object)
    · exact alike.replace_expr (.position node object position)
  | structInit node name fields =>
    obtain ⟨⟨field, value⟩, inside, rfl⟩ := List.mem_map.mp listed
    obtain ⟨front, behind, rfl⟩ := List.append_of_mem inside
    exact alike.replace_expr (.field node name field front behind value)
  | lambda node decl =>
    obtain rfl := List.mem_singleton.mp listed
    exact alike.replace_function fun new _ => .lambda node decl new
  | literal node value => cases listed
  | var node name => cases listed
  | mutArg node name => cases listed
  | this node => cases listed
  | super node method => cases listed

/-- Each part of a statement can be replaced by one that is like it. -/
theorem Stmt.exists_replaced (stmt : Stmt) (listed : part ∈ stmt.parts initializerName)
    (alike : part.Alike changed) :
    ∃ after, Piece.Replaced initializerName part changed (.stmt stmt) after := by
  cases stmt with
  | block node body =>
    obtain rfl := List.mem_singleton.mp listed
    exact alike.replace_stmts (.block node body)
  | letDecl node name mutable ty initial foreign =>
    obtain ⟨value, inside, rfl⟩ := List.mem_map.mp listed
    obtain rfl := Option.mem_toList.mp inside
    exact alike.replace_expr (.initial node name mutable ty foreign value)
  | forRange node counter lower upper body =>
    rcases List.mem_cons.mp listed with rfl | listed
    · exact alike.replace_expr (.lower node counter upper body lower)
    · rcases List.mem_pair.mp listed with rfl | rfl
      · exact alike.replace_expr (.upper node counter lower body upper)
      · exact alike.replace_stmts (.rangeBody node counter lower upper body)
  | forEach node item collection body =>
    rcases List.mem_pair.mp listed with rfl | rfl
    · exact alike.replace_expr (.collection node item body collection)
    · exact alike.replace_stmts (.eachBody node item collection body)
  | whileLoop node condition body =>
    rcases List.mem_append.mp listed with listed | listed
    · obtain ⟨own, inside, rfl⟩ := List.mem_map.mp listed
      obtain rfl := Option.mem_toList.mp inside
      exact alike.replace_expr (.loopCondition node body own)
    · obtain rfl := List.mem_singleton.mp listed
      exact alike.replace_stmts (.loopBody node condition body)
  | function node decl =>
    obtain rfl := List.mem_singleton.mp listed
    exact alike.replace_function fun new _ => .function node decl new
  | expression node value =>
    obtain rfl := List.mem_singleton.mp listed
    exact alike.replace_expr (.expression node value)
  | print node value =>
    obtain rfl := List.mem_singleton.mp listed
    exact alike.replace_expr (.print node value)
  | ifElse node condition thenBranch elseBranch =>
    rcases List.mem_cons.mp listed with rfl | listed
    · exact alike.replace_expr (.condition node thenBranch elseBranch condition)
    · rcases List.mem_cons.mp listed with rfl | listed
      · exact alike.replace_stmt (.thenBranch node condition elseBranch thenBranch)
      · obtain ⟨branch, inside, rfl⟩ := List.mem_map.mp listed
        obtain rfl := Option.mem_toList.mp inside
        exact alike.replace_stmt (.elseBranch node condition thenBranch branch)
  | ret node value =>
    obtain ⟨own, inside, rfl⟩ := List.mem_map.mp listed
    obtain rfl := Option.mem_toList.mp inside
    exact alike.replace_expr (.returned node own)
  | structDecl node name members =>
    obtain rfl := List.mem_singleton.mp listed
    exact alike.replace_stmts (.members node name members)
  | classDecl node name superclass methods =>
    rcases List.mem_append.mp listed with listed | listed
    · obtain ⟨parent, inside, rfl⟩ := List.mem_map.mp listed
      obtain rfl := Option.mem_toList.mp inside
      exact alike.replace_expr (.superclass node name methods parent)
    · obtain ⟨method, inside, rfl⟩ := List.mem_map.mp listed
      obtain ⟨front, behind, rfl⟩ := List.append_of_mem inside
      have replaces (new : FunctionDecl) (named : method.name = new.name) :
          Piece.Replaced initializerName (.function (method.kindInClass initializerName) method)
            (.function (method.kindInClass initializerName) new)
            (.stmt (.classDecl node name superclass (front ++ method :: behind)))
            (.stmt (.classDecl node name superclass (front ++ new :: behind))) := by
        have kind : method.kindInClass initializerName = new.kindInClass initializerName := by
          rw [FunctionDecl.kindInClass, FunctionDecl.kindInClass, named]
        nth_rewrite 2 [kind]
        exact .method node name superclass front behind method new
      exact alike.replace_function replaces
  | breakLoop node => cases listed
  | continueLoop node => cases listed

/-- Any part of a piece can be replaced by one that looks alike from outside. -/
theorem Piece.exists_replaced {piece : Piece} (listed : part ∈ piece.parts initializerName)
    (alike : part.Alike changed) :
    ∃ after, Replaced initializerName part changed piece after := by
  cases piece with
  | expr tree => exact tree.exists_replaced listed alike
  | stmt tree => exact tree.exists_replaced listed alike
  | stmts trees =>
    cases trees with
    | nil => cases listed
    | cons first rest =>
      rcases List.mem_pair.mp listed with rfl | rfl
      · exact alike.replace_stmt (.head rest first)
      · exact alike.replace_stmts (.tail first rest)
  | function kind tree =>
    obtain ⟨name, params, returnType, body, foreign, span⟩ := tree
    obtain rfl := List.mem_singleton.mp listed
    exact alike.replace_stmts (.body kind name params returnType foreign span body)

end Everywhere

section Changes

variable {change : List Stmt → List Stmt → Prop}

/-- A change of a list that does not show, shows nowhere. -/
theorem Piece.Altered.alike (altered : Altered initializerName change before after)
    (shows : ∀ old new, change old new → old.isEmpty = new.isEmpty) : before.Alike after := by
  cases altered with
  | here changes => exact shows _ _ changes
  | inside altered replaced => exact replaced.alike

/-- `InStep initializerName program other old new context before after`: the walks of two programs
get to the piece `old` and to the piece `new` at the same time, and these are all in which the
programs differ. -/
inductive InStep (initializerName : String) (program other : Program) :
    Piece → Piece → Context → List Step → List Step → Prop where
  | program :
      InStep initializerName program other (.stmts program) (.stmts other) .outermost [.openScope]
        [.closeScope]
  | part {old new piece changed : Piece} {context inner : Context} {before after : List Step}
      {leading trailing : List Item}
      (whole : InStep initializerName program other piece changed context before after)
      (replaced : Piece.Replaced initializerName old new piece changed)
      (items : piece.items initializerName context = leading ++ .visit old inner :: trailing)
      (items' : changed.items initializerName context = leading ++ .visit new inner :: trailing) :
      InStep initializerName program other old new inner
        (before ++ leading.flatMap (Item.walk initializerName))
        (trailing.flatMap (Item.walk initializerName) ++ after)

section InStep

variable {program other : Program} {piece changed : Piece} {context : Context}
  {first rest : List Step}

/-- The piece that is replaced is visited in the first program. -/
theorem InStep.visits
    (inStep : InStep initializerName program other piece changed context first rest) :
    Visits initializerName program piece context first rest := by
  induction inStep with
  | program => exact .program
  | part whole replaced items items' ih => exact ih.part items

/-- The piece in its place is visited in the other program, between the same steps. -/
theorem InStep.visits_changed
    (inStep : InStep initializerName program other piece changed context first rest) :
    Visits initializerName other changed context first rest := by
  induction inStep with
  | program => exact .program
  | part whole replaced items items' ih => exact ih.part items'

/-- Walks that are in step at pieces that differ in a list are the same or in step at the lists. -/
theorem Piece.Altered.walk_eq_or_inStep (altered : Altered initializerName change piece changed)
    (shows : ∀ old new, change old new → old.isEmpty = new.isEmpty)
    (inStep : InStep initializerName program other piece changed context first rest) :
    Program.walk initializerName program = Program.walk initializerName other ∨
      ∃ old new context before after, change old new ∧
        InStep initializerName program other (.stmts old) (.stmts new) context before after := by
  induction altered generalizing context first rest with
  | @here old new changes => exact .inr ⟨old, new, context, first, rest, changes, inStep⟩
  | @inside old new piece changed altered replaced ih =>
    rcases replaced.items (altered.alike shows) context with
      same | ⟨inner, leading, trailing, split, split'⟩
    · refine .inl ?_
      rw [inStep.visits.walk, inStep.visits_changed.walk, ← piece.flatMap_items,
        ← changed.flatMap_items, same]
    · exact ih (inStep.part replaced split split')

end InStep

/-- Two programs that differ in a list have the same walk, or their walks are in step at the
lists. -/
theorem Program.walk_eq_or_inStep {program other : Program}
    (altered : Piece.Altered initializerName change (.stmts program) (.stmts other))
    (shows : ∀ old new, change old new → old.isEmpty = new.isEmpty) :
    Program.walk initializerName program = Program.walk initializerName other ∨
      ∃ old new context before after, change old new ∧
        InStep initializerName program other (.stmts old) (.stmts new) context before after :=
  altered.walk_eq_or_inStep shows .program

/-- `Arrives initializerName change program other`: the walks of the two programs get to the lists
in which they differ in the same way. -/
def Arrives (initializerName : String) (change : List Stmt → List Stmt → Prop)
    (program other : Program) : Prop :=
  ∃ old new context before after, change old new ∧
    Visits initializerName program (.stmts old) context before after ∧
    Visits initializerName other (.stmts new) context before after

/-- The walks of two programs that differ in a list are the same or get to the lists. -/
theorem Program.walk_eq_or_arrives {program other : Program}
    (altered : Piece.Altered initializerName change (.stmts program) (.stmts other))
    (shows : ∀ old new, change old new → old.isEmpty = new.isEmpty) :
    Program.walk initializerName program = Program.walk initializerName other ∨
      Arrives initializerName change program other := by
  rcases Program.walk_eq_or_inStep altered shows with
    same | ⟨old, new, context, before, after, changes, inStep⟩
  · exact .inl same
  · exact .inr ⟨old, new, context, before, after, changes, inStep.visits, inStep.visits_changed⟩

/-- What is changed within a piece changes the piece. -/
theorem Within.exists_altered {whole piece changed : Piece}
    (within : Within initializerName whole piece)
    (shows : ∀ old new, change old new → old.isEmpty = new.isEmpty)
    (altered : Piece.Altered initializerName change piece changed) :
    ∃ after, Piece.Altered initializerName change whole after := by
  induction within generalizing changed with
  | whole => exact ⟨changed, altered⟩
  | @part piece part within listed ih =>
    obtain ⟨after, replaced⟩ := Piece.exists_replaced listed (altered.alike shows)
    exact ih (.inside altered replaced)

/-- Wherever in a program a statement list stands, it can be changed. -/
theorem Program.exists_altered {program : Program} {old new : List Stmt}
    (within : Within initializerName (.stmts program) (.stmts old))
    (shows : ∀ old new, change old new → old.isEmpty = new.isEmpty) (changes : change old new) :
    ∃ other, Piece.Altered initializerName change (.stmts program) (.stmts other) := by
  obtain ⟨after, altered⟩ := within.exists_altered shows (.here changes)
  have alike := altered.alike shows
  cases after with
  | stmts other => exact ⟨other, altered⟩
  | _ => exact alike.elim

end Changes

end NameResolution
