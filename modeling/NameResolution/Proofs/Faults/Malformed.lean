import NameResolution.Proofs.Run.Fault
import NameResolution.Proofs.Walk.OwnSteps

/-!
# Malformed member assignments

A member is assigned through a variable, a member, an element or `this`. The
objects of all other member assignments are listed here, in the order in which
a walk comes to them: the value of an assignment first, then its object, then
the assignment itself. The values that initializers return are left out.

The list is read off the tree alone, and the steps of a walk that abort are
those of its objects, one for one.
-/

namespace NameResolution

/-- The object of a member assignment, if no member can be assigned through it. -/
def Expr.malformedTarget (object : Expr) : List Expr :=
  if object.isAssignable then [] else [object]

mutual

/-- The malformed objects in an expression whose innermost enclosing function has the given kind. -/
def Expr.malformed (initializerName : String) (kind : FunctionKind) : Expr → List Expr
  | .literal .. => []
  | .array _ elements => Expr.malformedAll initializerName kind elements
  | .assign _ _ value => value.malformed initializerName kind
  | .var .. => []
  | .mutArg .. => []
  | .binary _ left _ right =>
    left.malformed initializerName kind ++ right.malformed initializerName kind
  | .logical _ left _ right =>
    left.malformed initializerName kind ++ right.malformed initializerName kind
  | .unary _ _ operand => operand.malformed initializerName kind
  | .grouping _ inner => inner.malformed initializerName kind
  | .call _ callee args =>
    callee.malformed initializerName kind ++ Expr.malformedAll initializerName kind args
  | .get _ object _ => object.malformed initializerName kind
  | .set _ object _ value =>
    value.malformed initializerName kind ++ object.malformed initializerName kind ++
      object.malformedTarget
  | .index _ object index =>
    object.malformed initializerName kind ++ index.malformed initializerName kind
  | .this _ => []
  | .super .. => []
  | .structInit _ _ fields => FieldInit.malformedAll initializerName kind fields
  | .lambda _ decl => decl.malformed initializerName .function
  termination_by structural expr => expr

/-- The malformed objects in expressions from left to right. -/
def Expr.malformedAll (initializerName : String) (kind : FunctionKind) : List Expr → List Expr
  | [] => []
  | expr :: rest =>
    expr.malformed initializerName kind ++ Expr.malformedAll initializerName kind rest
  termination_by structural exprs => exprs

/-- The malformed objects in the value of a field. -/
def FieldInit.malformed (initializerName : String) (kind : FunctionKind) :
    FieldInit → List Expr
  | ⟨_, value⟩ => value.malformed initializerName kind
  termination_by structural field => field

/-- The malformed objects in the values of fields from left to right. -/
def FieldInit.malformedAll (initializerName : String) (kind : FunctionKind) :
    List FieldInit → List Expr
  | [] => []
  | field :: rest =>
    field.malformed initializerName kind ++ FieldInit.malformedAll initializerName kind rest
  termination_by structural fields => fields

/-- The malformed objects in a function of the given kind. -/
def FunctionDecl.malformed (initializerName : String) (kind : FunctionKind) :
    FunctionDecl → List Expr
  | ⟨_, _, _, body, _, _⟩ => Stmt.malformedAll initializerName kind body
  termination_by structural decl => decl

/-- The malformed objects in the methods of a class, in order. -/
def FunctionDecl.malformedMethods (initializerName : String) : List FunctionDecl → List Expr
  | [] => []
  | method :: rest =>
    method.malformed initializerName (method.kindInClass initializerName) ++
      FunctionDecl.malformedMethods initializerName rest
  termination_by structural methods => methods

/-- The malformed objects in an expression that may be missing. -/
def Expr.malformed? (initializerName : String) (kind : FunctionKind) : Option Expr → List Expr
  | none => []
  | some expr => expr.malformed initializerName kind
  termination_by structural expr => expr

/-- The malformed objects in the value of a `return`, which is left alone in an initializer. -/
def Expr.malformedReturned (initializerName : String) (kind : FunctionKind) :
    Option Expr → List Expr
  | none => []
  | some value =>
    match kind with
    | .initializer => []
    | _ => value.malformed initializerName kind
  termination_by structural value => value

/-- The malformed objects in a statement. -/
def Stmt.malformed (initializerName : String) (kind : FunctionKind) : Stmt → List Expr
  | .block _ body => Stmt.malformedAll initializerName kind body
  | .breakLoop _ => []
  | .continueLoop _ => []
  | .letDecl _ _ _ _ initial _ => Expr.malformed? initializerName kind initial
  | .forRange _ _ lower upper body =>
    lower.malformed initializerName kind ++ upper.malformed initializerName kind ++
      Stmt.malformedAll initializerName kind body
  | .forEach _ _ collection body =>
    collection.malformed initializerName kind ++ Stmt.malformedAll initializerName kind body
  | .whileLoop _ condition body =>
    Expr.malformed? initializerName kind condition ++
      Stmt.malformedAll initializerName kind body
  | .function _ decl => decl.malformed initializerName .function
  | .expression _ value => value.malformed initializerName kind
  | .print _ value => value.malformed initializerName kind
  | .ifElse _ condition thenBranch elseBranch =>
    condition.malformed initializerName kind ++ thenBranch.malformed initializerName kind ++
      Stmt.malformed? initializerName kind elseBranch
  | .ret _ value => Expr.malformedReturned initializerName kind value
  | .structDecl _ _ members => Stmt.malformedAll initializerName kind members
  | .classDecl _ _ superclass methods =>
    Expr.malformed? initializerName kind superclass ++
      FunctionDecl.malformedMethods initializerName methods
  termination_by structural stmt => stmt

/-- The malformed objects in a statement that may be missing. -/
def Stmt.malformed? (initializerName : String) (kind : FunctionKind) : Option Stmt → List Expr
  | none => []
  | some stmt => stmt.malformed initializerName kind
  termination_by structural stmt => stmt

/-- The malformed objects in a statement list. -/
def Stmt.malformedAll (initializerName : String) (kind : FunctionKind) : List Stmt → List Expr
  | [] => []
  | stmt :: rest =>
    stmt.malformed initializerName kind ++ Stmt.malformedAll initializerName kind rest
  termination_by structural stmts => stmts

end

/-- The malformed objects in a program. -/
def Program.malformed (initializerName : String) (program : Program) : List Expr :=
  Stmt.malformedAll initializerName .none program

/-- The faults of the steps that abort, in order. -/
def faultsOf (steps : List Step) : List Fault := steps.filterMap Step.fault?

@[simp] theorem faultsOf_nil : faultsOf [] = [] := rfl

/-- The faults of two lists of steps are those of the first, then those of the second. -/
@[simp] theorem faultsOf_append (first second : List Step) :
    faultsOf (first ++ second) = faultsOf first ++ faultsOf second :=
  List.filterMap_append

/-- A step that does not abort adds no fault. -/
theorem faultsOf_cons {step : Step} (goesOn : step.fault? = none) (rest : List Step) :
    faultsOf (step :: rest) = faultsOf rest :=
  List.filterMap_cons_none goesOn

/-- Steps are cut at the first that aborts. -/
theorem cutAtFault_snd (steps : List Step) : (cutAtFault steps).2 = (faultsOf steps).head? := by
  induction steps with
  | nil => rfl
  | cons step rest ih =>
    cases goesOn : step.fault? with
    | none => rw [cutAtFault_cons rest goesOn, ih, faultsOf_cons goesOn]
    | some fault =>
      rw [cutAtFault_cons_of_fault rest goesOn, faultsOf, List.filterMap_cons_some goesOn]
      rfl

/-- Where steps are cut, one aborts that none before it does. -/
theorem exists_abort {steps : List Step} {fault : Fault}
    (aborts : (cutAtFault steps).2 = some fault) :
    ∃ done rest, steps = done ++ .abort fault :: rest ∧ faultsOf done = [] ∧
      (cutAtFault steps).1 = done := by
  induction steps with
  | nil => cases aborts
  | cons step rest ih =>
    cases goesOn : step.fault? with
    | none =>
      rw [cutAtFault_cons rest goesOn] at aborts ⊢
      obtain ⟨done, behind, same, clear, cut⟩ := ih aborts
      exact ⟨step :: done, behind, by rw [same, List.cons_append],
        by rw [faultsOf_cons goesOn, clear], by rw [cut]⟩
    | some own =>
      rw [cutAtFault_cons_of_fault rest goesOn] at aborts ⊢
      cases aborts
      cases step <;> cases goesOn
      exact ⟨[], rest, rfl, rfl, rfl⟩

/-- The object of a member assignment is a fault exactly if it is malformed. -/
@[simp] theorem faultsOf_setTarget (span : Span) (object : Expr) :
    faultsOf (Step.setTarget span object) = object.malformedTarget.map Expr.fault := by
  cases object <;> rfl

/-- Only steps that abort have faults. -/
theorem faultsOf_of_plain {steps : List Step} (plain : steps.all Step.plain = true) :
    faultsOf steps = [] := by
  refine List.filterMap_eq_nil_iff.mpr fun step listed => ?_
  have own := List.all_eq_true.mp plain step listed
  cases step <;> first | rfl | cases own

/-- The steps of a scope have the faults of what stands in it. -/
theorem faultsOf_scope (leading body : List Step) :
    faultsOf (.openScope :: (leading ++ body ++ [.closeScope])) =
      faultsOf leading ++ faultsOf body := by
  rw [faultsOf_cons rfl, faultsOf_append, faultsOf_append, faultsOf_cons rfl, faultsOf_nil,
    List.append_nil]

/-- What a piece of a tree aborts at: steps that have the faults of these objects, in order. -/
def Aborts (steps : List Step) (objects : List Expr) : Prop :=
  faultsOf steps = objects.map Expr.fault

namespace Aborts

theorem nil : Aborts [] [] := rfl

/-- Steps abort at the objects of their parts, in order. -/
theorem append {first second : List Step} {firstObjects secondObjects : List Expr}
    (left : Aborts first firstObjects) (right : Aborts second secondObjects) :
    Aborts (first ++ second) (firstObjects ++ secondObjects) := by
  rw [Aborts, faultsOf_append, left, right, List.map_append]

/-- Steps none of which aborts. -/
theorem clear {steps : List Step} (noFault : faultsOf steps = []) : Aborts steps [] := noFault

/-- Plain steps abort nowhere. -/
theorem plain {steps : List Step} (plain : steps.all Step.plain = true) : Aborts steps [] :=
  faultsOf_of_plain plain

/-- Steps in a scope of their own. -/
theorem scope {leading body : List Step} {objects : List Expr}
    (enters : leading.all Step.plain = true) (inside : Aborts body objects) :
    Aborts (.openScope :: (leading ++ body ++ [.closeScope])) objects := by
  rw [Aborts, faultsOf_scope, faultsOf_of_plain enters, inside, List.nil_append]

end Aborts

variable (initializerName : String)

mutual

/-- The walk of an expression aborts at its malformed objects, one for one. -/
theorem Expr.aborts (context : Context) : (expr : Expr) →
    Aborts (expr.walk initializerName context) (expr.malformed initializerName context.function)
  | .literal .. => .nil
  | .array _ elements => Expr.aborts_all context elements
  | .assign node name value => by
    have checked : Aborts [.checkAssign name] [] := .clear rfl
    have target : Aborts [.resolve node.id name .write] [] := .clear rfl
    simpa [Expr.walk, Expr.malformed] using
      checked.append ((Expr.aborts context value).append target)
  | .var .. => .clear rfl
  | .mutArg .. => .clear rfl
  | .binary _ left _ right => (Expr.aborts context left).append (Expr.aborts context right)
  | .logical _ left _ right => (Expr.aborts context left).append (Expr.aborts context right)
  | .unary _ _ operand => Expr.aborts context operand
  | .grouping _ inner => Expr.aborts context inner
  | .call _ callee args => (Expr.aborts context callee).append (Expr.aborts_all context args)
  | .get _ object _ => Expr.aborts context object
  | .set node object _ value =>
    ((Expr.aborts context value).append (Expr.aborts context object)).append
      (faultsOf_setTarget node.span object)
  | .index _ object index => (Expr.aborts context object).append (Expr.aborts context index)
  | .this node => .plain (Step.all_plain_this context node)
  | .super node _ => .plain (Step.all_plain_super context node)
  | .structInit node name fields => by
    have literal : Aborts [.resolve node.id name .read] [] := .clear rfl
    simpa [Expr.walk, Expr.malformed] using (FieldInit.aborts_all context fields).append literal
  | .lambda _ decl => FunctionDecl.aborts context .function decl
  termination_by structural expr => expr

/-- The steps of expressions abort at the malformed objects in them. -/
theorem Expr.aborts_all (context : Context) : (exprs : List Expr) →
    Aborts (Expr.walkAll initializerName context exprs)
      (Expr.malformedAll initializerName context.function exprs)
  | [] => .nil
  | expr :: rest => (Expr.aborts context expr).append (Expr.aborts_all context rest)
  termination_by structural exprs => exprs

/-- The steps of a field abort at the malformed objects in its value. -/
theorem FieldInit.aborts (context : Context) : (field : FieldInit) →
    Aborts (field.walk initializerName context)
      (field.malformed initializerName context.function)
  | ⟨_, value⟩ => Expr.aborts context value
  termination_by structural field => field

/-- The steps of fields abort at the malformed objects in their values. -/
theorem FieldInit.aborts_all (context : Context) : (fields : List FieldInit) →
    Aborts (FieldInit.walkAll initializerName context fields)
      (FieldInit.malformedAll initializerName context.function fields)
  | [] => .nil
  | field :: rest => (FieldInit.aborts context field).append (FieldInit.aborts_all context rest)
  termination_by structural fields => fields

/-- The walk of a function aborts where that of its body does. -/
theorem FunctionDecl.aborts (context : Context) (kind : FunctionKind) : (decl : FunctionDecl) →
    Aborts (decl.walk initializerName context kind) (decl.malformed initializerName kind)
  | ⟨_, params, _, body, foreign, _⟩ =>
    .scope (Step.all_plain_params foreign params)
      (Stmt.aborts_all (context.insideFunction kind) body)
  termination_by structural decl => decl

/-- The steps of methods abort at the malformed objects in them. -/
theorem FunctionDecl.aborts_methods (context : Context) : (methods : List FunctionDecl) →
    Aborts (FunctionDecl.walkMethods initializerName context methods)
      (FunctionDecl.malformedMethods initializerName methods)
  | [] => .nil
  | method :: rest =>
    (FunctionDecl.aborts context (methodKind initializerName method) method).append
      (FunctionDecl.aborts_methods context rest)
  termination_by structural methods => methods

/-- The steps of an expression that may be missing abort at the malformed objects in it. -/
theorem Expr.aborts_opt (context : Context) : (expr : Option Expr) →
    Aborts (Expr.walk? initializerName context expr)
      (Expr.malformed? initializerName context.function expr)
  | none => .nil
  | some expr => Expr.aborts context expr
  termination_by structural expr => expr

/-- The steps of a value that is returned abort at the malformed objects in it, unless an
initializer returns it. -/
theorem Expr.aborts_returned (context : Context) : (value : Option Expr) →
    Aborts (Expr.walkReturned initializerName context value)
      (Expr.malformedReturned initializerName context.function value)
  | none => .nil
  | some value => by
    have walked {kind : FunctionKind} (inside : context.function = kind) :
        Aborts (value.walk initializerName context) (value.malformed initializerName kind) :=
      inside ▸ Expr.aborts context value
    unfold Expr.walkReturned Expr.malformedReturned
    cases inside : context.function with
    | initializer => exact .clear rfl
    | none => exact walked inside
    | function => exact walked inside
    | method => exact walked inside
  termination_by structural value => value

/-- The scope of `super` is opened behind the superclass. -/
theorem Expr.aborts_superclass (context : Context) : (superclass : Option Expr) →
    Aborts (Expr.walkSuperclass initializerName context superclass)
      (Expr.malformed? initializerName context.function superclass)
  | none => .nil
  | some parent => by
    have opens : Aborts [.openScope, .bindPseudo "super" parent.span] [] := .clear rfl
    simpa [Expr.walkSuperclass, Expr.malformed?] using (Expr.aborts context parent).append opens
  termination_by structural superclass => superclass

/-- The walk of a statement aborts at its malformed objects, one for one. -/
theorem Stmt.aborts (context : Context) : (stmt : Stmt) →
    Aborts (stmt.walk initializerName context) (stmt.malformed initializerName context.function)
  | .block _ body => .scope List.all_nil (Stmt.aborts_all context body)
  | .breakLoop _ => .nil
  | .continueLoop _ => .nil
  | .letDecl _ name mutable _ none foreign => by
    have declared : Aborts [.declare name mutable context.inStruct] [] := .clear rfl
    exact (Aborts.plain (Step.all_plain_foreign .variable foreign name)).append
      (declared.append (.plain (Step.all_plain_uninitialized context name mutable foreign)))
  | .letDecl _ name mutable _ (some value) foreign => by
    have declared : Aborts [.declare name mutable context.inStruct] [] := .clear rfl
    have defined : Aborts [.define name] [] := .clear rfl
    have taken := (Aborts.plain (Step.all_plain_foreign .variable foreign name)).append declared
    simpa [Stmt.walk, Stmt.malformed, Expr.malformed?] using
      taken.append ((Expr.aborts context value).append defined)
  | .forRange node counter lower upper body => by
    have bounds := (Expr.aborts context lower).append (Expr.aborts context upper)
    have enters : (counter.elim [] (Step.bind · false false) ++
        Step.loopBody node.span body).all Step.plain = true := by simp
    exact bounds.append (.scope enters (Stmt.aborts_all context body))
  | .forEach node item collection body => by
    have enters : (Step.bind item false false ++
        Step.loopBody node.span body).all Step.plain = true := by simp
    exact (Expr.aborts context collection).append (.scope enters (Stmt.aborts_all context body))
  | .whileLoop _ condition body =>
    (Expr.aborts_opt context condition).append
      (.scope List.all_nil (Stmt.aborts_all context body))
  | .function _ decl =>
    (Aborts.plain (Step.all_plain_functionName context decl)).append
      (FunctionDecl.aborts context .function decl)
  | .expression _ value => Expr.aborts context value
  | .print _ value => Expr.aborts context value
  | .ifElse _ condition thenBranch elseBranch =>
    ((Expr.aborts context condition).append (Stmt.aborts context thenBranch)).append
      (Stmt.aborts_opt context elseBranch)
  | .ret node value =>
    (Aborts.plain (Step.all_plain_returnFrom context node.span)).append
      (Expr.aborts_returned context value)
  | .structDecl _ name members =>
    (Aborts.plain (Step.all_plain_bind name false context.inStruct)).append
      (.scope List.all_nil (Stmt.aborts_all (context.enterStruct .struct) members))
  | .classDecl _ name superclass methods => by
    have named := (Aborts.plain (Step.all_plain_selfInheritance name superclass)).append
      (Aborts.plain (Step.all_plain_bind name false context.inStruct))
    have parent := Expr.aborts_superclass (context.enterClass (.ofSuperclass superclass))
      superclass
    have opens : Aborts [.openScope, .bindPseudo "this" name.span] [] := .clear rfl
    have members := FunctionDecl.aborts_methods
      (context.enterClass (.ofSuperclass superclass)) methods
    have closes : Aborts [.closeScope] [] := .clear rfl
    have outer : Aborts (superclass.elim [] fun _ => [.closeScope]) [] := by
      cases superclass <;> exact .clear rfl
    simpa [Stmt.walk, Stmt.malformed, Context.enterClass] using
      ((((named.append parent).append opens).append members).append closes).append outer
  termination_by structural stmt => stmt

/-- The steps of a statement that may be missing abort at the malformed objects in it. -/
theorem Stmt.aborts_opt (context : Context) : (stmt : Option Stmt) →
    Aborts (Stmt.walk? initializerName context stmt)
      (Stmt.malformed? initializerName context.function stmt)
  | none => .nil
  | some stmt => Stmt.aborts context stmt
  termination_by structural stmt => stmt

/-- The steps of statements abort at the malformed objects in them. -/
theorem Stmt.aborts_all (context : Context) : (stmts : List Stmt) →
    Aborts (Stmt.walkAll initializerName context stmts)
      (Stmt.malformedAll initializerName context.function stmts)
  | [] => .nil
  | stmt :: rest => by
    have first := (Stmt.aborts context stmt).append (.plain (Step.all_plain_between stmt rest))
    simpa [Stmt.walkAll, Stmt.malformedAll] using first.append (Stmt.aborts_all context rest)
  termination_by structural stmts => stmts

end

/-- The walk of a program aborts at its malformed objects, one for one. -/
theorem Program.aborts (program : Program) :
    Aborts (Program.walk initializerName program) (Program.malformed initializerName program) :=
  .scope List.all_nil (Stmt.aborts_all initializerName Context.outermost program)

end NameResolution
