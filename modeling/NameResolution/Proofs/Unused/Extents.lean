import NameResolution.Proofs.Unused.Advances
import NameResolution.Proofs.Walk.OwnSteps
import NameResolution.Proofs.Walk.Parts

/-!
# The extents of scopes

Each scope that a walk opens it closes again. What happens in between is the
extent of the scope: it has its binders and the sites of its references, both
read off the construct that the scope is opened for, and whichever step closes
a scope, it closes one of these.
-/

namespace NameResolution

/-- What comes of a scope, from its opening to its closing. -/
structure Extent where
  /-- The steps before the scope is opened. -/
  before : List Step
  /-- The steps while it is open. -/
  inside : List Step
  /-- What binds names in the scope, in order. -/
  binders : List Binder
  /-- The references that are settled while it is open, in order. -/
  sites : List Site

namespace Extent

/-- The steps behind the walk when the scope comes to be closed. -/
def closed (extent : Extent) : List Step := extent.before ++ .openScope :: extent.inside

/-- The scopes around the scope. -/
def around (extent : Extent) : LexicalScopes := rescope extent.before []

/-- The scope of a statement list, with the steps before the list that bind names for it. -/
def ofStmts (initializerName : String) (before leading : List Step) (own : List Binder)
    (context : Context) (body : List Stmt) : Extent where
  before := before
  inside := leading ++ Stmt.walkAll initializerName context body
  binders := own ++ body.flatMap (Stmt.binders context.inStruct)
  sites := Stmt.sitesAll initializerName context
    ((rescope before []).enter.declareAll (own.map Binder.toDeclaration)) body

/-- The scope of `this` or `super`. -/
def ofPseudo (before : List Step) (name : String) (span : Span) (body : List Step)
    (sites : List Site) : Extent where
  before := before
  inside := .bindPseudo name span :: body
  binders := [.ofPseudo name span]
  sites := sites

end Extent

/-- The steps of a class up to its superclass. -/
def Stmt.classHead (context : Context) (name : Ident) (superclass : Option Expr) : List Step :=
  Step.selfInheritance name superclass ++ Step.bind name false context.inStruct

/-- The sites in the methods of a class that is declared in the given scopes. -/
def Stmt.methodSites (initializerName : String) (context : Context) (scopes : LexicalScopes)
    (name : Ident) (superclass : Option Expr) (methods : List FunctionDecl) : List Site :=
  FunctionDecl.sitesMethods initializerName (context.enterClass (.ofSuperclass superclass))
    ((scopes.declare (name.declaration false context.inStruct)).enterClass name superclass) methods

/-- `HasExtent initializerName program extent`: the walk of the program opens a
scope, for a construct that it gets to, and this is its extent. -/
inductive HasExtent (initializerName : String) (program : Program) : Extent → Prop where
  | program : HasExtent initializerName program
      (.ofStmts initializerName [] [] [] .outermost program)
  | block {context : Context} {before after : List Step} {node : Node} {body : List Stmt}
      (visits : Visits initializerName program (.stmt (.block node body)) context before after) :
      HasExtent initializerName program (.ofStmts initializerName before [] [] context body)
  | forRange {context : Context} {before after : List Step} {node : Node}
      {counter : Option Ident} {lower upper : Expr} {body : List Stmt}
      (visits : Visits initializerName program (.stmt (.forRange node counter lower upper body))
        context before after) :
      HasExtent initializerName program (.ofStmts initializerName
        (before ++ (lower.walk initializerName context ++ upper.walk initializerName context))
        (counter.elim [] (Step.bind · false false) ++ Step.loopBody node.span body)
        (counter.toList.map Ident.loopBinder) context body)
  | forEach {context : Context} {before after : List Step} {node : Node} {item : Ident}
      {collection : Expr} {body : List Stmt}
      (visits : Visits initializerName program (.stmt (.forEach node item collection body))
        context before after) :
      HasExtent initializerName program (.ofStmts initializerName
        (before ++ collection.walk initializerName context)
        (Step.bind item false false ++ Step.loopBody node.span body) [item.loopBinder] context
        body)
  | whileLoop {context : Context} {before after : List Step} {node : Node}
      {condition : Option Expr} {body : List Stmt}
      (visits : Visits initializerName program (.stmt (.whileLoop node condition body))
        context before after) :
      HasExtent initializerName program (.ofStmts initializerName
        (before ++ Expr.walk? initializerName context condition) [] [] context body)
  | function {context : Context} {before after : List Step} {kind : FunctionKind}
      {decl : FunctionDecl}
      (visits : Visits initializerName program (.function kind decl) context before after) :
      HasExtent initializerName program (.ofStmts initializerName before
        (Step.params decl.foreign decl.params) (decl.params.map (Param.binder decl.foreign))
        (context.insideFunction kind) decl.body)
  | structDecl {context : Context} {before after : List Step} {node : Node} {name : Ident}
      {members : List Stmt}
      (visits : Visits initializerName program (.stmt (.structDecl node name members))
        context before after) :
      HasExtent initializerName program (.ofStmts initializerName
        (before ++ Step.bind name false context.inStruct) [] [] (context.enterStruct .struct)
        members)
  | this {context : Context} {before after : List Step} {node : Node} {name : Ident}
      {superclass : Option Expr} {methods : List FunctionDecl}
      (visits : Visits initializerName program (.stmt (.classDecl node name superclass methods))
        context before after) :
      HasExtent initializerName program (.ofPseudo
        (before ++ (Stmt.classHead context name superclass ++ Expr.walkSuperclass initializerName
          (context.enterClass (.ofSuperclass superclass)) superclass))
        "this" name.span
        (FunctionDecl.walkMethods initializerName (context.enterClass (.ofSuperclass superclass))
          methods)
        (Stmt.methodSites initializerName context (rescope before []) name superclass methods))
  | super {context : Context} {before after : List Step} {node : Node} {name : Ident}
      {parent : Expr} {methods : List FunctionDecl}
      (visits : Visits initializerName program (.stmt (.classDecl node name (some parent) methods))
        context before after) :
      HasExtent initializerName program (.ofPseudo
        (before ++ (Stmt.classHead context name (some parent) ++
          parent.walk initializerName (context.enterClass .subclass)))
        "super" parent.span
        (.openScope :: .bindPseudo "this" name.span ::
          (FunctionDecl.walkMethods initializerName (context.enterClass .subclass) methods ++
            [.closeScope]))
        (Stmt.methodSites initializerName context (rescope before []) name (some parent) methods))

variable {initializerName : String} {program : Program} {extent : Extent}

/-- Where a scope is closed, the walk is behind its extent. -/
theorem HasExtent.walk (has : HasExtent initializerName program extent) :
    ∃ rest, Program.walk initializerName program = extent.closed ++ .closeScope :: rest := by
  cases has with
  | program => exact ⟨[], rfl⟩
  | @block _ _ after _ _ visits
  | @forRange _ _ after _ _ _ _ _ visits
  | @forEach _ _ after _ _ _ _ visits
  | @whileLoop _ _ after _ _ _ visits
  | @structDecl _ _ after _ _ _ visits =>
    refine ⟨after, ?_⟩
    rw [visits.walk]
    simp [Extent.closed, Extent.ofStmts, Piece.walk, Stmt.walk]
  | @function _ _ after _ decl visits =>
    obtain ⟨name, params, returnType, body, foreign, span⟩ := decl
    refine ⟨after, ?_⟩
    rw [visits.walk]
    simp [Extent.closed, Extent.ofStmts, Piece.walk, FunctionDecl.walk]
  | @this _ _ after _ _ superclass _ visits =>
    refine ⟨superclass.elim [] (fun _ => [.closeScope]) ++ after, ?_⟩
    rw [visits.walk]
    simp [Extent.closed, Extent.ofPseudo, Piece.walk, Stmt.walk, Stmt.classHead]
  | @super _ _ after _ _ _ _ visits =>
    refine ⟨after, ?_⟩
    rw [visits.walk]
    simp [Extent.closed, Extent.ofPseudo, Piece.walk, Stmt.walk, Stmt.classHead,
      Expr.walkSuperclass, ClassKind.ofSuperclass]

/-- Where an entry stands in a list: first of all behind entries that are others, or later. -/
theorem eq_or_of_append_cons {α : Type} {front rest leading trailing : List α} {entry : α}
    (absent : entry ∉ front) (split : front ++ entry :: rest = leading ++ entry :: trailing) :
    leading = front ∨
      ∃ more, leading = front ++ entry :: more ∧ rest = more ++ entry :: trailing := by
  rcases List.append_eq_append_iff.mp split with ⟨between, rfl, same⟩ | ⟨behind, rfl, same⟩
  · rcases List.cons_eq_append_iff.mp same with ⟨rfl, -⟩ | ⟨more, rfl, later⟩
    · exact .inl (List.append_nil _)
    · exact .inr ⟨more, rfl, later⟩
  · rcases List.cons_eq_append_iff.mp same with ⟨rfl, -⟩ | ⟨more, rfl, -⟩
    · exact .inl (List.append_nil _).symm
    · exact absurd (List.mem_append_right _ List.mem_cons_self) absent

/-- A piece that closes its only scope last of all has made the rest by then. -/
theorem leading_of_closing (front : List Item) {whole leading trailing : List Item}
    (items : whole = leading ++ .step .closeScope :: trailing)
    (ends : whole = front ++ [.step .closeScope]) (absent : .step .closeScope ∉ front) :
    leading = front := by
  rcases eq_or_of_append_cons absent (ends.symm.trans items) with same | ⟨more, -, none⟩
  · exact same
  · simp at none

/-- The items of a class up to where the scope of `this` is closed. -/
def Stmt.classItems (initializerName : String) (context : Context) (name : Ident)
    (superclass : Option Expr) (methods : List FunctionDecl) : List Item :=
  let inside := context.enterClass (.ofSuperclass superclass)
  (Stmt.classHead context name superclass).map .step ++
    (superclass.toList.flatMap fun parent =>
      [.visit (.expr parent) inside, .step .openScope,
        .step (.bindPseudo "super" parent.span)]) ++
    [.step .openScope, .step (.bindPseudo "this" name.span)] ++
    methods.map fun method =>
      .visit (.function (methodKind initializerName method) method) inside

/-- A scope that is closed at a class is that of `this` or that of `super`. -/
theorem MadeAt.exists_extent_of_class {first before : List Step} {node : Node} {name : Ident}
    {superclass : Option Expr} {methods : List FunctionDecl} {context : Context}
    {leading : List Item}
    (made : MadeAt initializerName program first .closeScope
      (.stmt (.classDecl node name superclass methods)) context before leading) :
    ∃ extent, HasExtent initializerName program extent ∧ first = extent.closed := by
  obtain ⟨rfl, trailing, after, items, visits⟩ := made
  have split : Stmt.classItems initializerName context name superclass methods ++
      .step .closeScope :: (superclass.toList.map fun _ => .step .closeScope) =
        leading ++ .step .closeScope :: trailing := by
    rw [← items]
    simp [Stmt.classItems, Stmt.classHead, Piece.items, Stmt.items]
  have absent :
      .step .closeScope ∉ Stmt.classItems initializerName context name superclass methods := by
    cases superclass <;> simp [Stmt.classItems, Stmt.classHead]
  rcases eq_or_of_append_cons absent split with rfl | ⟨more, rfl, last⟩
  · refine ⟨_, .this visits, ?_⟩
    cases superclass <;>
      simp [Extent.closed, Extent.ofPseudo, Stmt.classItems, Expr.walkSuperclass, Item.walk,
        Piece.walk, FunctionDecl.walkMethods_eq_flatMap]
  · cases superclass with
    | none => simp at last
    | some parent =>
      obtain rfl : more = [] := by
        cases more with
        | nil => rfl
        | cons item rest => simp at last
      refine ⟨_, .super visits, ?_⟩
      simp [Extent.closed, Extent.ofPseudo, Stmt.classItems, Item.walk, Piece.walk,
        FunctionDecl.walkMethods_eq_flatMap, ClassKind.ofSuperclass]

/-- A scope that is closed at a statement is one that is opened there. -/
theorem MadeAt.exists_extent_of_stmt {first before : List Step} {stmt : Stmt} {context : Context}
    {leading : List Item}
    (made : MadeAt initializerName program first .closeScope (.stmt stmt) context before leading) :
    ∃ extent, HasExtent initializerName program extent ∧ first = extent.closed := by
  have listed := made.mem
  obtain ⟨rfl, trailing, after, items, visits⟩ := made
  cases stmt with
  | block node body =>
    obtain rfl := leading_of_closing [.step .openScope, .visit (.stmts body) context] items rfl
      (by simp)
    exact ⟨_, .block visits, by simp [Extent.closed, Extent.ofStmts, Item.walk, Piece.walk]⟩
  | forRange node counter lower upper body =>
    obtain rfl := leading_of_closing
      ([.visit (.expr lower) context, .visit (.expr upper) context, .step .openScope] ++
        (counter.elim [] (Step.bind · false false)).map .step ++
        (Step.loopBody node.span body).map .step ++ [.visit (.stmts body) context]) items
      (by simp [Piece.items, Stmt.items]) (by simp)
    exact ⟨_, .forRange visits, by
      simp [Extent.closed, Extent.ofStmts, Item.walk, Piece.walk]⟩
  | forEach node item collection body =>
    obtain rfl := leading_of_closing
      ([.visit (.expr collection) context, .step .openScope] ++
        (Step.bind item false false).map .step ++ (Step.loopBody node.span body).map .step ++
        [.visit (.stmts body) context]) items (by simp [Piece.items, Stmt.items]) (by simp)
    exact ⟨_, .forEach visits, by simp [Extent.closed, Extent.ofStmts, Item.walk, Piece.walk]⟩
  | whileLoop node condition body =>
    obtain rfl := leading_of_closing
      ((condition.toList.map fun condition => .visit (.expr condition) context) ++
        [.step .openScope, .visit (.stmts body) context]) items
      (by simp [Piece.items, Stmt.items]) (by simp)
    refine ⟨_, .whileLoop visits, ?_⟩
    cases condition <;> simp [Extent.closed, Extent.ofStmts, Expr.walk?, Item.walk, Piece.walk]
  | structDecl node name members =>
    obtain rfl := leading_of_closing
      ((Step.bind name false context.inStruct).map .step ++
        [.step .openScope, .visit (.stmts members) (context.enterStruct .struct)]) items
      (by simp [Piece.items, Stmt.items]) (by simp)
    exact ⟨_, .structDecl visits, by
      simp [Extent.closed, Extent.ofStmts, Item.walk, Piece.walk]⟩
  | classDecl node name superclass methods =>
    exact MadeAt.exists_extent_of_class ⟨rfl, trailing, after, items, visits⟩
  | letDecl node name mutable ty initial foreign =>
    cases initial <;> simp [Piece.items, Stmt.items] at listed
  | ret node value =>
    cases value with
    | none => simp [Piece.items, Stmt.items] at listed
    | some value =>
      cases inside : context.function <;> simp [Piece.items, Stmt.items, inside] at listed
  | _ => simp [Piece.items, Stmt.items] at listed

/-- Where the walk closes a scope, it is behind the extent of one. -/
theorem exists_extent {first rest : List Step}
    (walked : Program.walk initializerName program = first ++ .closeScope :: rest) :
    ∃ extent, HasExtent initializerName program extent ∧ first = extent.closed := by
  rcases Program.exists_madeAt walked with ⟨-, same⟩ | ⟨rfl, -⟩ | ⟨piece, context, before, made⟩
  · cases same
  · exact ⟨_, .program, rfl⟩
  · obtain ⟨leading, made⟩ := made
    cases piece with
    | expr tree =>
      have listed := made.mem
      cases tree <;> simp [Piece.items, Expr.items] at listed
    | stmt tree => exact made.exists_extent_of_stmt
    | stmts trees =>
      have listed := made.mem
      cases trees <;> simp [Piece.items] at listed
    | function kind decl =>
      obtain ⟨name, params, returnType, body, foreign, span⟩ := decl
      obtain ⟨rfl, trailing, after, items, visits⟩ := made
      obtain rfl := leading_of_closing
        (.step .openScope :: (Step.params foreign params).map .step ++
          [.visit (.stmts body) (context.insideFunction kind)]) items
        (by simp [Piece.items]) (by simp)
      exact ⟨_, .function visits, by simp [Extent.closed, Extent.ofStmts, Item.walk, Piece.walk]⟩

end NameResolution
