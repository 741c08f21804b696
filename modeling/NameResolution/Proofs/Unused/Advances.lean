import NameResolution.Proofs.Frame.Shape
import NameResolution.Proofs.Unused.Binders

/-!
# How far binders bring their names

The steps of a statement list move a name, in the scope in which they begin, as
far as the binders of its statements say. Steps in scopes further in leave it
alone, whatever they declare there.
-/

namespace NameResolution

variable {name : String}

/-- Steps that finish a name further in leave the scope alone. -/
theorem advanced_of_finishes {steps : List Step} {finished : Ident} {extra : Nat}
    (finishes : ∀ step ∈ steps, step.finishes finished = true) (deeper : 1 < extra) :
    advanced name extra steps = .declared := by
  induction steps with
  | nil => rfl
  | cons step rest ih =>
    rw [List.forall_mem_cons] at finishes
    have elsewhere : ¬ extra = 1 := by omega
    rw [advanced, Step.advancesAt, if_neg elsewhere, Step.height_of_finishes finishes.1,
      ih finishes.2]
    rfl

/-- A quiet step moves no name. -/
theorem Step.advances_of_quiet {step : Step} (quiet : step.quiet = true) :
    step.advances name = .declared := by
  cases step <;> first | rfl | cases quiet

/-- Steps of a walk leave a scope alone, unless they declare names in it. -/
theorem Shape.advanced {declares : Bool} {steps : List Step} (shape : Shape declares steps)
    {extra : Nat} (opened : 0 < extra) (deeper : declares = true → 1 < extra) :
    NameResolution.advanced name extra steps = .declared := by
  -- The body of a scope may declare names, but stands one scope further in.
  induction shape generalizing extra with
  | nil => rfl
  | append left right first second =>
    rw [advanced_append, first opened deeper, left.heightAfter, second opened deeper]
    rfl
  | quiet quiet =>
    rw [NameResolution.advanced, Step.advancesAt, Step.advances_of_quiet quiet, ite_self]
    rfl
  | scope inside body =>
    have within := body (Nat.succ_pos extra) fun _ => Nat.succ_lt_succ opened
    rw [NameResolution.advanced, Step.height, advanced_append, within]
    simp [NameResolution.advanced, Step.advancesAt, Step.advances]
  | pseudoScope pseudo span inside body =>
    have within := body (Nat.succ_pos extra) fun _ => Nat.succ_lt_succ opened
    simp only [NameResolution.advanced, Step.height, advanced_append, within]
    simp [Step.advancesAt, Step.advances, Nat.ne_of_gt opened]
  | declared declared mutable member valued finishes value =>
    have elsewhere := deeper rfl
    have within := value opened fun declares => absurd declares Bool.false_ne_true
    simp only [NameResolution.advanced, Step.height, advanced_append, within, valued.heightAfter,
      advanced_of_finishes finishes elsewhere]
    simp [Step.advancesAt, Step.advances]

/-- Steps that declare no name where they begin leave that scope alone. -/
theorem Shape.advanced_home {steps : List Step} (shape : Shape false steps) :
    NameResolution.advanced name 1 steps = .declared :=
  shape.advanced Nat.one_pos nofun

/-- Steps before which no name is declared. -/
theorem advanced_append_of_shape {first : List Step} (shape : Shape false first)
    (second : List Step) : advanced name 1 (first ++ second) = advanced name 1 second := by
  rw [advanced_append, shape.advanced_home, shape.heightAfter, BindingState.declared_later]

/-- Steps behind which no name is declared. -/
theorem advanced_append_shape {declares : Bool} {first second : List Step}
    (left : Shape declares first) (right : Shape false second) :
    advanced name 1 (first ++ second) = advanced name 1 first := by
  rw [advanced_append, left.heightAfter, right.advanced_home, BindingState.later_declared]

/-- A name that is bound at once holds a value. -/
theorem advanced_bind (bound : Ident) (mutable member : Bool) :
    advanced name 1 (Step.bind bound mutable member) =
      if bound.name = name then .defined else .declared := by
  simp [Step.bind, advanced, Step.advancesAt, Step.advances, Step.height]

/-- Parameters move names as their binders say. -/
theorem advanced_params (foreign : Bool) (params : List Param) :
    advanced name 1 (Step.params foreign params) =
      Binder.advanced name (params.map (Param.binder foreign)) := by
  induction params with
  | nil => rfl
  | cons param rest ih =>
    cases foreign <;>
      simp [Step.params, advanced, Step.advancesAt, Step.advances, Step.height, ih,
        Binder.advanced, Binder.advances, BinderKind.state, Param.binder, Param.declaration,
        Ident.declaration]

/-- The name of a function is moved as its binder says, if it has one. -/
theorem advanced_functionName (context : Context) (decl : FunctionDecl) :
    advanced name 1 (Step.functionName context decl) =
      Binder.advanced name (decl.name.toList.map (·.binder context.inStruct)) := by
  unfold Step.functionName
  split
  · rename_i unnamed
    rw [unnamed]
    rfl
  · rename_i own named
    rw [named, advanced_append_of_shape (.foreign .function decl.foreign own), advanced_bind]
    exact (Binder.advanced_singleton name (own.binder context.inStruct)).symm

/-- A variable without a first value, which is excused if it is reported. -/
theorem advanced_uninitialized (context : Context) (own : Ident) (mutable foreign : Bool) :
    advanced name 1 (Step.uninitialized context own mutable foreign) =
      if own.name = name then
        if mutable || context.inStruct || foreign then .defined else .read
      else .declared := by
  unfold Step.uninitialized
  split
  · simp [advanced, Step.advancesAt, Step.advances]
  · by_cases same : own.name = name <;>
      simp [advanced, Step.advancesAt, Step.advances, Step.height, same, BindingState.later,
        BindingState.rank]

/-- The counter of a loop is moved as its binder says, if there is one. -/
theorem advanced_counter (counter : Option Ident) :
    advanced name 1 (counter.elim [] (Step.bind · false false)) =
      Binder.advanced name (counter.toList.map Ident.loopBinder) := by
  cases counter with
  | none => rfl
  | some own =>
    exact (advanced_bind own false false).trans
      (Binder.advanced_singleton name own.loopBinder).symm

variable (initializerName : String)

/-- A statement moves a name as far as its binders say. -/
theorem Stmt.advanced (context : Context) : (stmt : Stmt) →
    NameResolution.advanced name 1 (stmt.walk initializerName context) =
      Binder.advanced name (stmt.binders context.inStruct)
  | .block node body => by
    have shape : Shape false ((Stmt.block node body).walk initializerName context) :=
      .scope (Stmt.shaped_all initializerName context body)
    exact shape.advanced_home
  | .breakLoop _ => rfl
  | .continueLoop _ => rfl
  | .letDecl node own mutable ty none foreign => by
    rw [Stmt.walk, advanced_append_of_shape (.foreign .variable foreign own)]
    simp only [NameResolution.advanced, Step.height, advanced_uninitialized]
    by_cases same : own.name = name <;>
      cases mutable <;> cases inside : context.inStruct <;> cases foreign <;>
        simp [Step.advancesAt, Step.advances, Stmt.binders, Binder.advanced, Binder.advances,
          BinderKind.state, Ident.declaration, same]
  | .letDecl node own mutable ty (some value) foreign => by
    rw [Stmt.walk, advanced_append_of_shape (.foreign .variable foreign own)]
    simp only [NameResolution.advanced, Step.height,
      advanced_append_of_shape (Expr.shaped initializerName context value)]
    simp [Step.advancesAt, Step.advances, Stmt.binders, Binder.advanced, Binder.advances,
      BinderKind.state, Ident.declaration]
  | .forRange node counter lower upper body => by
    have shape : Shape false
        ((Stmt.forRange node counter lower upper body).walk initializerName context) :=
      ((Expr.shaped initializerName context lower).append
        (Expr.shaped initializerName context upper)).append
          (.scope (((Shape.counter counter).append (.loopBody node.span body)).append
            (Stmt.shaped_all initializerName context body)))
    exact shape.advanced_home
  | .forEach node item collection body => by
    have shape : Shape false
        ((Stmt.forEach node item collection body).walk initializerName context) :=
      (Expr.shaped initializerName context collection).append
        (.scope (((Shape.bind item false false).append (.loopBody node.span body)).append
          (Stmt.shaped_all initializerName context body)))
    exact shape.advanced_home
  | .whileLoop node condition body => by
    have shape : Shape false
        ((Stmt.whileLoop node condition body).walk initializerName context) :=
      (Expr.shaped_opt initializerName context condition).append
        (.scope (Stmt.shaped_all initializerName context body))
    exact shape.advanced_home
  | .function node decl => by
    rw [Stmt.walk, advanced_append_shape (.functionName context decl)
      (FunctionDecl.shaped initializerName context .function decl)]
    exact advanced_functionName context decl
  | .expression _ value => (Expr.shaped initializerName context value).advanced_home
  | .print _ value => (Expr.shaped initializerName context value).advanced_home
  | .ifElse node condition thenBranch none => by
    rw [Stmt.walk, Stmt.walk?, List.append_nil,
      advanced_append_of_shape (Expr.shaped initializerName context condition), Stmt.binders]
    exact Stmt.advanced context thenBranch
  | .ifElse node condition thenBranch (some elseBranch) => by
    rw [Stmt.walk, Stmt.walk?, List.append_assoc,
      advanced_append_of_shape (Expr.shaped initializerName context condition),
      NameResolution.advanced_append, Stmt.binders, Binder.advanced_append,
      Stmt.advanced context thenBranch,
      (Stmt.shaped initializerName context thenBranch).heightAfter,
      Stmt.advanced context elseBranch]
  | .ret node value => by
    have shape : Shape false ((Stmt.ret node value).walk initializerName context) :=
      (Shape.returnFrom context node.span).append
        (Expr.shaped_returned initializerName context value)
    exact shape.advanced_home
  | .structDecl node own members => by
    rw [Stmt.walk, advanced_append_shape (.bind own false context.inStruct)
      (.scope (Stmt.shaped_all initializerName (context.enterStruct .struct) members)),
      advanced_bind]
    exact (Binder.advanced_singleton name (own.binder context.inStruct)).symm
  | .classDecl node own superclass methods => by
    have inside := Shape.classBody initializerName
      (context.enterClass (.ofSuperclass superclass)) own superclass methods
    have walked : (Stmt.classDecl node own superclass methods).walk initializerName context =
        Step.selfInheritance own superclass ++ (Step.bind own false context.inStruct ++
          (Expr.walkSuperclass initializerName (context.enterClass (.ofSuperclass superclass))
            superclass ++ [.openScope, .bindPseudo "this" own.span] ++
            FunctionDecl.walkMethods initializerName
              (context.enterClass (.ofSuperclass superclass)) methods ++ [.closeScope] ++
            superclass.elim [] fun _ => [.closeScope])) := by
      simp [Stmt.walk]
    rw [walked, advanced_append_of_shape (.selfInheritance own superclass),
      advanced_append_shape (.bind own false context.inStruct) inside, advanced_bind]
    exact (Binder.advanced_singleton name (own.binder context.inStruct)).symm
  termination_by stmt => sizeOf stmt

/-- A statement list moves a name as far as the binders of its statements say. -/
theorem Stmt.advanced_all (context : Context) (stmts : List Stmt) :
    NameResolution.advanced name 1 (Stmt.walkAll initializerName context stmts) =
      Binder.advanced name (stmts.flatMap (Stmt.binders context.inStruct)) := by
  induction stmts with
  | nil => rfl
  | cons stmt rest ih =>
    have between : Shape false (Step.between stmt rest) := .between stmt rest
    rw [Stmt.walkAll, NameResolution.advanced_append,
      advanced_append_shape (Stmt.shaped initializerName context stmt) between,
      heightAfter_append, (Stmt.shaped initializerName context stmt).heightAfter,
      between.heightAfter, ih, Stmt.advanced, List.flatMap_cons, Binder.advanced_append]

end NameResolution
