import NameResolution.Walk

/-!
# The shape of a walk

What a walk can look like, whatever the tree. Scopes are closed where they
were opened, `this` and `super` are bound first thing in a scope of their own,
and a declaration is followed by the steps of its value and by those that
finish it, between which nothing else is declared in the same scope. Facts
about all walks are proved by induction on this shape.
-/

namespace NameResolution

/-- Whether a step leaves the scopes and their names alone. -/
def Step.quiet : Step → Bool
  | .openScope => false
  | .closeScope => false
  | .declare .. => false
  | .define _ => false
  | .excuse _ => false
  | .bindPseudo .. => false
  | _ => true

/-- Whether a step finishes the declaration of a name. -/
def Step.finishes (name : Ident) : Step → Bool
  | .define other => other == name
  | .excuse other => other == name.name
  | .report _ => true
  | _ => false

/-- `Shape declares steps`: the steps can be those of a walk. Without `declares`
none of them declares a name in the scope in which they begin. -/
inductive Shape : Bool → List Step → Prop where
  | nil {declares : Bool} : Shape declares []
  | append {declares : Bool} {first second : List Step} (left : Shape declares first)
      (right : Shape declares second) : Shape declares (first ++ second)
  | quiet {declares : Bool} {step : Step} (quiet : step.quiet = true) : Shape declares [step]
  | scope {declares : Bool} {body : List Step} (inside : Shape true body) :
      Shape declares (.openScope :: (body ++ [.closeScope]))
  | pseudoScope {declares : Bool} (name : String) (span : Span) {body : List Step}
      (inside : Shape true body) :
      Shape declares (.openScope :: .bindPseudo name span :: (body ++ [.closeScope]))
  | declared (name : Ident) (mutable member : Bool) {value finish : List Step}
      (valued : Shape false value) (finishes : ∀ step ∈ finish, step.finishes name = true) :
      Shape true (.declare name mutable member :: (value ++ finish))

namespace Shape

/-- Steps that need not declare a name may stand where names are declared. -/
theorem mono {declares : Bool} {steps : List Step} (shape : Shape declares steps) :
    Shape true steps := by
  induction shape with
  | nil => exact .nil
  | append left right first second => exact first.append second
  | quiet quiet => exact .quiet quiet
  | scope inside => exact .scope inside
  | pseudoScope name span inside => exact .pseudoScope name span inside
  | declared name mutable member valued finishes =>
    exact .declared name mutable member valued finishes

/-- A list of quiet steps. -/
theorem quietly {declares : Bool} {steps : List Step} (quiet : ∀ step ∈ steps, step.quiet = true) :
    Shape declares steps := by
  induction steps with
  | nil => exact .nil
  | cons step rest ih =>
    have here : Shape declares [step] := .quiet (quiet step List.mem_cons_self)
    exact here.append (ih fun later listed => quiet later (List.mem_cons_of_mem _ listed))

/-- A name that is bound at once. -/
theorem bind (name : Ident) (mutable member : Bool) :
    Shape true (Step.bind name mutable member) :=
  .declared name mutable member .nil (by simp [Step.finishes])

/-- Parameters are declared in the scope of their function. -/
theorem params (foreign : Bool) (params : List Param) :
    Shape true (Step.params foreign params) := by
  induction params with
  | nil => exact .nil
  | cons param rest ih =>
    have taken : Shape true (.declare param.name param.isMutable false ::
        ([] ++ if foreign then [] else [.define param.name])) := by
      refine .declared _ _ _ .nil ?_
      cases foreign
      · simp [Step.finishes]
      · simp
    exact taken.append ih

/-- A question to the runtime declares nothing. -/
theorem foreign {declares : Bool} (kind : ForeignKind) (isForeign : Bool) (name : Ident) :
    Shape declares (Step.foreign kind isForeign name) := by
  cases isForeign with
  | false => exact .nil
  | true => exact .quiet rfl

/-- A function with a name declares it where it stands. -/
theorem functionName (context : Context) (decl : FunctionDecl) :
    Shape true (Step.functionName context decl) := by
  unfold Step.functionName
  split
  · exact .nil
  · rename_i name _
    exact (foreign .function decl.foreign name).append (bind name false context.inStruct)

/-- A variable without a first value is finished on the spot. -/
theorem uninitialized (context : Context) (name : Ident) (mutable isForeign : Bool) :
    ∀ step ∈ Step.uninitialized context name mutable isForeign, step.finishes name = true := by
  unfold Step.uninitialized
  split
  · simp [Step.finishes]
  · simp [Step.finishes]

/-- Reporting that a class names itself declares nothing. -/
theorem selfInheritance {declares : Bool} (name : Ident) (superclass : Option Expr) :
    Shape declares (Step.selfInheritance name superclass) := by
  unfold Step.selfInheritance
  split
  · exact .nil
  · split
    · exact .quiet rfl
    · exact .nil

/-- Reporting a `return` outside of every function declares nothing. -/
theorem returnFrom {declares : Bool} (context : Context) (span : Span) :
    Shape declares (Step.returnFrom context span) := by
  unfold Step.returnFrom
  split
  · exact .nil
  · exact .quiet rfl

/-- Reporting a loop without statements declares nothing. -/
theorem loopBody {declares : Bool} (span : Span) (body : List Stmt) :
    Shape declares (Step.loopBody span body) := by
  unfold Step.loopBody
  split
  · exact .quiet rfl
  · exact .nil

/-- What is reported between statements declares nothing. -/
theorem between {declares : Bool} (stmt : Stmt) (rest : List Stmt) :
    Shape declares (Step.between stmt rest) := by
  unfold Step.between
  split
  · exact .quiet rfl
  · exact .nil

/-- Checking the object of a member assignment declares nothing. -/
theorem setTarget {declares : Bool} (span : Span) (object : Expr) :
    Shape declares (Step.setTarget span object) := by
  cases object <;> exact quietly (by simp [Step.setTarget, Step.quiet])

/-- A reference to `this` declares nothing. -/
theorem this {declares : Bool} (context : Context) (node : Node) :
    Shape declares (Step.this context node) := by
  unfold Step.this
  split
  · exact .quiet rfl
  · exact .quiet rfl

/-- A reference to `super` declares nothing. -/
theorem super {declares : Bool} (context : Context) (node : Node) :
    Shape declares (Step.super context node) := by
  unfold Step.super
  split
  · exact .quiet rfl
  · exact .quiet rfl
  · exact .quiet rfl

/-- The counter of a loop is declared in the scope of its body. -/
theorem counter (counter : Option Ident) :
    Shape true (counter.elim [] (Step.bind · false false)) := by
  cases counter with
  | none => exact .nil
  | some name => exact bind name false false

end Shape

variable (initializerName : String)

mutual

/-- No step of an expression declares a name in the scope the expression stands in. -/
theorem Expr.shaped (context : Context) : (expr : Expr) →
    Shape false (expr.walk initializerName context)
  | .literal .. => .nil
  | .array _ elements => Expr.shaped_all context elements
  | .assign _ name value => by
    have checked : Shape false [.checkAssign name] := .quiet rfl
    exact checked.append ((Expr.shaped context value).append (.quiet rfl))
  | .var .. => .quiet rfl
  | .mutArg .. => .quiet rfl
  | .binary _ left _ right => (Expr.shaped context left).append (Expr.shaped context right)
  | .logical _ left _ right => (Expr.shaped context left).append (Expr.shaped context right)
  | .unary _ _ operand => Expr.shaped context operand
  | .grouping _ inner => Expr.shaped context inner
  | .call _ callee args => (Expr.shaped context callee).append (Expr.shaped_all context args)
  | .get _ object _ => Expr.shaped context object
  | .set node object _ value =>
    ((Expr.shaped context value).append (Expr.shaped context object)).append
      (.setTarget node.span object)
  | .index _ object index => (Expr.shaped context object).append (Expr.shaped context index)
  | .this node => .this context node
  | .super node _ => .super context node
  | .structInit _ _ fields => (FieldInit.shaped_all context fields).append (.quiet rfl)
  | .lambda _ decl => FunctionDecl.shaped context .function decl
  termination_by structural expr => expr

/-- Expressions declare nothing. -/
theorem Expr.shaped_all (context : Context) : (exprs : List Expr) →
    Shape false (Expr.walkAll initializerName context exprs)
  | [] => .nil
  | expr :: rest => (Expr.shaped context expr).append (Expr.shaped_all context rest)
  termination_by structural exprs => exprs

/-- The value of a field declares nothing. -/
theorem FieldInit.shaped (context : Context) : (field : FieldInit) →
    Shape false (field.walk initializerName context)
  | ⟨_, value⟩ => Expr.shaped context value
  termination_by structural field => field

/-- The values of fields declare nothing. -/
theorem FieldInit.shaped_all (context : Context) : (fields : List FieldInit) →
    Shape false (FieldInit.walkAll initializerName context fields)
  | [] => .nil
  | field :: rest => (FieldInit.shaped context field).append (FieldInit.shaped_all context rest)
  termination_by structural fields => fields

/-- A function declares its parameters and all else in a scope of its own. -/
theorem FunctionDecl.shaped {declares : Bool} (context : Context) (kind : FunctionKind) :
    (decl : FunctionDecl) → Shape declares (decl.walk initializerName context kind)
  | ⟨_, params, _, body, foreign, _⟩ =>
    .scope ((Shape.params foreign params).append
      (Stmt.shaped_all (context.insideFunction kind) body))
  termination_by structural decl => decl

/-- Methods declare nothing in the scope around them. -/
theorem FunctionDecl.shaped_methods {declares : Bool} (context : Context) :
    (methods : List FunctionDecl) →
    Shape declares (FunctionDecl.walkMethods initializerName context methods)
  | [] => .nil
  | method :: rest =>
    (FunctionDecl.shaped context (methodKind initializerName method) method).append
      (FunctionDecl.shaped_methods context rest)
  termination_by structural methods => methods

/-- An expression that may be missing declares nothing. -/
theorem Expr.shaped_opt (context : Context) : (expr : Option Expr) →
    Shape false (Expr.walk? initializerName context expr)
  | none => .nil
  | some expr => Expr.shaped context expr
  termination_by structural expr => expr

/-- A value that is returned declares nothing. -/
theorem Expr.shaped_returned (context : Context) : (value : Option Expr) →
    Shape false (Expr.walkReturned initializerName context value)
  | none => .nil
  | some value => by
    have walked := Expr.shaped context value
    unfold Expr.walkReturned
    cases context.function with
    | initializer => exact .quiet rfl
    | none => exact walked
    | function => exact walked
    | method => exact walked
  termination_by structural value => value

/-- A statement declares names in the scope it stands in, and closes the scopes it opens. -/
theorem Stmt.shaped (context : Context) : (stmt : Stmt) →
    Shape true (stmt.walk initializerName context)
  | .block _ body => .scope (Stmt.shaped_all context body)
  | .breakLoop _ => .nil
  | .continueLoop _ => .nil
  | .letDecl _ name mutable _ none foreign =>
    (Shape.foreign .variable foreign name).append
      (.declared name mutable context.inStruct .nil
        (Shape.uninitialized context name mutable foreign))
  | .letDecl _ name mutable _ (some value) foreign =>
    (Shape.foreign .variable foreign name).append
      (.declared name mutable context.inStruct (Expr.shaped context value)
        (by simp [Step.finishes]))
  | .forRange node counter lower upper body =>
    ((Expr.shaped context lower).append (Expr.shaped context upper)).mono.append
      (.scope (((Shape.counter counter).append (.loopBody node.span body)).append
        (Stmt.shaped_all context body)))
  | .forEach node item collection body =>
    (Expr.shaped context collection).mono.append
      (.scope (((Shape.bind item false false).append (.loopBody node.span body)).append
        (Stmt.shaped_all context body)))
  | .whileLoop _ condition body =>
    (Expr.shaped_opt context condition).mono.append (.scope (Stmt.shaped_all context body))
  | .function _ decl =>
    (Shape.functionName context decl).append (FunctionDecl.shaped context .function decl)
  | .expression _ value => (Expr.shaped context value).mono
  | .print _ value => (Expr.shaped context value).mono
  | .ifElse _ condition thenBranch elseBranch =>
    ((Expr.shaped context condition).mono.append (Stmt.shaped context thenBranch)).append
      (Stmt.shaped_opt context elseBranch)
  | .ret node value =>
    (Shape.returnFrom context node.span).append (Expr.shaped_returned context value).mono
  | .structDecl _ name members =>
    (Shape.bind name false context.inStruct).append
      (.scope (Stmt.shaped_all (context.enterStruct .struct) members))
  | .classDecl _ name superclass methods => by
    have named := (Shape.selfInheritance name superclass).append
      (Shape.bind name false context.inStruct)
    have members : Shape true _ := .pseudoScope "this" name.span
      (FunctionDecl.shaped_methods (context.enterClass (.ofSuperclass superclass)) methods)
    cases superclass with
    | none => simpa [Stmt.walk, Expr.walkSuperclass] using named.append members
    | some parent =>
      have inherited := named.append
        (Expr.shaped (context.enterClass (.ofSuperclass (some parent))) parent).mono
      simpa [Stmt.walk, Expr.walkSuperclass] using
        inherited.append (.pseudoScope "super" parent.span members)
  termination_by structural stmt => stmt

/-- A statement that may be missing may declare names where it stands. -/
theorem Stmt.shaped_opt (context : Context) : (stmt : Option Stmt) →
    Shape true (Stmt.walk? initializerName context stmt)
  | none => .nil
  | some stmt => Stmt.shaped context stmt
  termination_by structural stmt => stmt

/-- Statements may declare names where they stand. -/
theorem Stmt.shaped_all (context : Context) : (stmts : List Stmt) →
    Shape true (Stmt.walkAll initializerName context stmts)
  | [] => .nil
  | stmt :: rest =>
    ((Stmt.shaped context stmt).append (.between stmt rest)).append
      (Stmt.shaped_all context rest)
  termination_by structural stmts => stmts

end

/-- The steps of a class behind its name declare nothing outside of the class. -/
theorem Shape.classBody (context : Context) (own : Ident) (superclass : Option Expr)
    (methods : List FunctionDecl) :
    Shape false (Expr.walkSuperclass initializerName context superclass ++
      [.openScope, .bindPseudo "this" own.span] ++
        FunctionDecl.walkMethods initializerName context methods ++ [.closeScope] ++
          superclass.elim [] fun _ => [.closeScope]) := by
  have members {declares : Bool} : Shape declares _ := .pseudoScope "this" own.span
    (FunctionDecl.shaped_methods initializerName context methods)
  cases superclass with
  | none => simpa [Expr.walkSuperclass] using members
  | some parent =>
    simpa [Expr.walkSuperclass] using (Expr.shaped initializerName context parent).append
      (.pseudoScope "super" parent.span members)

/-- A program opens one scope, and closes it at its end. -/
theorem Program.shaped (program : Program) :
    Shape false (Program.walk initializerName program) :=
  .scope (Stmt.shaped_all initializerName Context.outermost program)

end NameResolution
