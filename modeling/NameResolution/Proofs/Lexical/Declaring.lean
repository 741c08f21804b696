import NameResolution.Proofs.Frame.Shape
import NameResolution.Proofs.Lexical.Sites
import NameResolution.Proofs.Walk.OwnSteps

/-!
# What steps declare where they begin

The shape of a walk says whether steps may declare names in the scope in which
they begin. Here it is said which ones: those that a statement declares as the
tree has them, in the same order.
-/

namespace NameResolution

/-- `Declaring valued declarations steps`: the steps make these declarations in
the scope in which they begin, in this order, and no others. With `valued`, each
of the names is defined before anything else is done in that scope. -/
inductive Declaring : Bool → List Declaration → List Step → Prop where
  | shape {valued : Bool} {steps : List Step} (shape : Shape false steps) :
      Declaring valued [] steps
  | append {valued : Bool} {earlier later : List Declaration} {first second : List Step}
      (left : Declaring valued earlier first) (right : Declaring valued later second) :
      Declaring valued (earlier ++ later) (first ++ second)
  | declared {valued : Bool} (name : Ident) (mutable member : Bool) {value finish : List Step}
      (shape : Shape false value) (finishes : ∀ step ∈ finish, step.finishes name = true)
      (defines : valued = true → .define name ∈ finish) :
      Declaring valued [name.declaration mutable member]
        (.declare name mutable member :: (value ++ finish))

namespace Declaring

variable {valued : Bool} {declarations : List Declaration} {first second : List Step}

/-- What steps declare, they declare where declarations may stand. -/
theorem shaped {steps : List Step} (declaring : Declaring valued declarations steps) :
    Shape true steps := by
  induction declaring with
  | shape shape => exact shape.mono
  | append left right first second => exact first.append second
  | declared name mutable member shape finishes defines =>
    exact .declared name mutable member shape finishes

/-- Steps that declare nothing may come first. -/
theorem behind (shape : Shape false first) (declaring : Declaring valued declarations second) :
    Declaring valued declarations (first ++ second) :=
  append (.shape shape) declaring

/-- Steps that declare nothing may come last. -/
theorem ahead (declaring : Declaring valued declarations first) (shape : Shape false second) :
    Declaring valued declarations (first ++ second) := by
  rw [← List.append_nil declarations]
  exact declaring.append (.shape shape)

/-- Steps that make no declaration declare no name where they begin. -/
theorem shape_of_nil {steps : List Step} (declaring : Declaring valued declarations steps)
    (none : declarations = []) : Shape false steps := by
  induction declaring with
  | shape shape => exact shape
  | append left right first second =>
    obtain ⟨earlier, later⟩ := List.append_eq_nil_iff.mp none
    exact (first earlier).append (second later)
  | declared name mutable member shape finishes defines => cases none

/-- A name that is bound at once. -/
theorem bind (name : Ident) (mutable member : Bool) :
    Declaring valued [name.declaration mutable member] (Step.bind name mutable member) :=
  .declared name mutable member .nil (by simp [Step.finishes]) fun _ => List.mem_cons_self

/-- The counter of a loop is what binding it declares. -/
theorem counter (counter : Option Ident) :
    Declaring valued (counter.toList.map (·.declaration false false))
      (counter.elim [] (Step.bind · false false)) := by
  cases counter with
  | none => exact .shape .nil
  | some name => exact bind name false false

/-- The parameters of a function. Those of a foreign one never get a value. -/
theorem params (foreign : Bool) (params : List Param) (known : valued = true → foreign = false) :
    Declaring valued (params.map Param.declaration) (Step.params foreign params) := by
  induction params with
  | nil => exact .shape .nil
  | cons param rest ih =>
    have taken : Declaring valued [param.declaration] (.declare param.name param.isMutable false ::
        ([] ++ if foreign then [] else [.define param.name])) := by
      refine .declared _ _ _ .nil ?_ ?_
      · cases foreign <;> simp [Step.finishes]
      · intro settled
        simp [known settled]
    exact taken.append ih

/-- The name of a function is what binding it declares. -/
theorem functionName (context : Context) (decl : FunctionDecl) :
    Declaring valued (decl.name.toList.map (·.declaration false context.inStruct))
      (Step.functionName context decl) := by
  unfold Step.functionName
  split
  · rename_i unnamed
    rw [unnamed]
    exact .shape .nil
  · rename_i name named
    rw [named]
    exact behind (.foreign .function decl.foreign name) (bind name false context.inStruct)

/-- A variable without a first value is defined on the spot. -/
theorem uninitialized (context : Context) (name : Ident) (mutable isForeign : Bool) :
    Declaring valued [name.declaration mutable context.inStruct]
      (.declare name mutable context.inStruct ::
        Step.uninitialized context name mutable isForeign) := by
  have defines : .define name ∈ Step.uninitialized context name mutable isForeign :=
    Step.mem_uninitialized.mpr (.inl rfl)
  exact .declared name mutable context.inStruct .nil
    (Shape.uninitialized context name mutable isForeign) fun _ => defines

end Declaring

variable (initializerName : String) {valued : Bool}

/-- The steps of a statement make the declarations that the statement makes. -/
theorem Stmt.declaring (context : Context) : (stmt : Stmt) →
    Declaring valued (stmt.declares context.inStruct) (stmt.walk initializerName context)
  | .block _ body => .shape (.scope (Stmt.shaped_all initializerName context body))
  | .breakLoop _ => .shape .nil
  | .continueLoop _ => .shape .nil
  | .letDecl _ name mutable _ none foreign =>
    .behind (.foreign .variable foreign name) (.uninitialized context name mutable foreign)
  | .letDecl _ name mutable _ (some value) foreign =>
    .behind (.foreign .variable foreign name)
      (.declared name mutable context.inStruct (Expr.shaped initializerName context value)
        (by simp [Step.finishes]) fun _ => List.mem_singleton_self _)
  | .forRange node counter lower upper body =>
    .shape (((Expr.shaped initializerName context lower).append
      (Expr.shaped initializerName context upper)).append
        (.scope (((Shape.counter counter).append (.loopBody node.span body)).append
          (Stmt.shaped_all initializerName context body))))
  | .forEach node item collection body =>
    .shape ((Expr.shaped initializerName context collection).append
      (.scope (((Shape.bind item false false).append (.loopBody node.span body)).append
        (Stmt.shaped_all initializerName context body))))
  | .whileLoop _ condition body =>
    .shape ((Expr.shaped_opt initializerName context condition).append
      (.scope (Stmt.shaped_all initializerName context body)))
  | .function _ decl =>
    (Declaring.functionName context decl).ahead
      (FunctionDecl.shaped initializerName context .function decl)
  | .expression _ value => .shape (Expr.shaped initializerName context value)
  | .print _ value => .shape (Expr.shaped initializerName context value)
  | .ifElse _ condition thenBranch none =>
    (Declaring.behind (Expr.shaped initializerName context condition)
      (Stmt.declaring context thenBranch)).ahead .nil
  | .ifElse _ condition thenBranch (some elseBranch) =>
    (Declaring.behind (Expr.shaped initializerName context condition)
      (Stmt.declaring context thenBranch)).append (Stmt.declaring context elseBranch)
  | .ret node value =>
    .shape ((Shape.returnFrom context node.span).append
      (Expr.shaped_returned initializerName context value))
  | .structDecl _ name members =>
    (Declaring.bind name false context.inStruct).ahead
      (.scope (Stmt.shaped_all initializerName (context.enterStruct .struct) members))
  | .classDecl _ name superclass methods => by
    have inside := Shape.classBody initializerName
      (context.enterClass (.ofSuperclass superclass)) name superclass methods
    have named : Declaring valued [name.declaration false context.inStruct]
        (Step.selfInheritance name superclass ++ Step.bind name false context.inStruct) :=
      .behind (.selfInheritance name superclass) (.bind name false context.inStruct)
    simpa only [Stmt.walk, Stmt.declares, List.append_assoc] using named.ahead inside
  termination_by stmt => sizeOf stmt

/-- The steps of a statement list make the declarations of its statements. -/
theorem Stmt.declaring_all (context : Context) (stmts : List Stmt) :
    Declaring valued (stmts.flatMap (Stmt.declares context.inStruct))
      (Stmt.walkAll initializerName context stmts) := by
  induction stmts with
  | nil => exact .shape .nil
  | cons stmt rest ih =>
    exact ((Stmt.declaring initializerName context stmt).ahead (.between stmt rest)).append ih

end NameResolution
