import NameResolution.Proofs.Walk.Visits

/-!
# The steps a piece makes by itself

Between the parts that it visits, the walk of a piece makes steps of its own.
Each list of such steps is said here by its members, so that what a step says
of the piece it is made at is read off by simplification.
-/

namespace NameResolution

/-- Whether a member can be assigned through an expression of this form. -/
def Expr.isAssignable : Expr → Bool
  | .var .. => true
  | .get .. => true
  | .index .. => true
  | .this _ => true
  | _ => false

/-- The fault of assigning a member of this object. -/
def Expr.fault (object : Expr) : Fault := ⟨object.shape, object.span⟩

variable {step : Step} {context : Context}

/-- A name is bound by a declaration and a definition. -/
@[simp] theorem Step.mem_bind {name : Ident} {mutable member : Bool} :
    step ∈ Step.bind name mutable member ↔
      step = .declare name mutable member ∨ step = .define name := by
  simp [Step.bind]

@[simp] theorem Step.mem_counter {counter : Option Ident} :
    step ∈ counter.elim [] (Step.bind · false false) ↔
      ∃ name, counter = some name ∧ (step = .declare name false false ∨ step = .define name) := by
  cases counter <;> simp

/-- A `this` is resolved like a name in a class, and reported outside of one. -/
@[simp] theorem Step.mem_this {node : Node} :
    step ∈ Step.this context node ↔
      (context.inClass = true ∧ step = .resolve node.id ⟨"this", node.span⟩ .read) ∨
        (context.inClass = false ∧ step = .report (.thisOutsideClass node.span)) := by
  unfold Step.this
  cases context.inClass <;> simp

/-- A `super` is resolved like a name in a subclass, and reported elsewhere. -/
@[simp] theorem Step.mem_super {node : Node} :
    step ∈ Step.super context node ↔
      (context.cls = .none ∧ step = .report (.superOutsideClass node.span)) ∨
        (context.cls = .base ∧ step = .report (.superWithoutSuperclass node.span)) ∨
        (context.cls = .subclass ∧ step = .resolve node.id ⟨"super", node.span⟩ .read) := by
  unfold Step.super
  cases context.cls <;> simp

/-- Each parameter is declared, and defined if the function is one of the program. -/
@[simp] theorem Step.mem_params {foreign : Bool} {params : List Param} :
    step ∈ Step.params foreign params ↔
      ∃ param ∈ params, step = .declare param.name param.isMutable false ∨
        (foreign = false ∧ step = .define param.name) := by
  induction params with
  | nil => simp [Step.params]
  | cons param rest ih => cases foreign <;> simp_all [Step.params, or_assoc]

/-- The runtime is asked for the name of a foreign declaration. -/
@[simp] theorem Step.mem_foreign {kind : ForeignKind} {isForeign : Bool} {name : Ident} :
    step ∈ Step.foreign kind isForeign name ↔
      isForeign = true ∧ step = .requireForeign kind name := by
  cases isForeign <;> simp [Step.foreign]

/-- A function with a name binds that name; the runtime is asked for it if the function is
foreign. -/
@[simp] theorem Step.mem_functionName {decl : FunctionDecl} :
    step ∈ Step.functionName context decl ↔
      ∃ name, decl.name = some name ∧
        ((decl.foreign = true ∧ step = .requireForeign .function name) ∨
          step = .declare name false context.inStruct ∨ step = .define name) := by
  unfold Step.functionName
  split
  · rename_i unnamed
    simp [unnamed]
  · rename_i name named
    simp [named]

/-- A variable without a first value is defined, or reported and excused if it must have one. -/
@[simp] theorem Step.mem_uninitialized {name : Ident} {mutable isForeign : Bool} :
    step ∈ Step.uninitialized context name mutable isForeign ↔
      step = .define name ∨
        ((mutable || context.inStruct || isForeign) = false ∧
          (step = .report (.uninitializedImmutable name.name name.span) ∨
            step = .excuse name.name)) := by
  unfold Step.uninitialized
  cases mutable || context.inStruct || isForeign with
  | true => simp
  | false => simp [or_left_comm]

/-- A class is reported if it names itself as its superclass. -/
@[simp] theorem Step.mem_selfInheritance {name : Ident} {superclass : Option Expr} :
    step ∈ Step.selfInheritance name superclass ↔
      ∃ parent, superclass.bind Expr.asVariable? = some parent ∧ parent.name = name.name ∧
        step = .report (.selfInheritance parent.name parent.span) := by
  unfold Step.selfInheritance
  split
  · rename_i unnamed
    simp [unnamed]
  · rename_i parent named
    by_cases same : parent.name = name.name <;> simp [named, same]

/-- A `return` outside a function is reported. -/
@[simp] theorem Step.mem_returnFrom {span : Span} :
    step ∈ Step.returnFrom context span ↔
      context.inFunction = false ∧ step = .report (.topLevelReturn span) := by
  unfold Step.returnFrom
  cases context.inFunction <;> simp

/-- A loop with an empty body is reported. -/
@[simp] theorem Step.mem_loopBody {span : Span} {body : List Stmt} :
    step ∈ Step.loopBody span body ↔ body = [] ∧ step = .report (.emptyLoopBody span) := by
  cases body <;> simp [Step.loopBody]

/-- Statements behind one that ends its list are unreachable. -/
@[simp] theorem Step.mem_between {stmt : Stmt} {rest : List Stmt} :
    step ∈ Step.between stmt rest ↔
      stmt.isTerminal = true ∧ rest ≠ [] ∧ step = .unreachable stmt.span := by
  unfold Step.between
  cases stmt.isTerminal <;> cases rest <;> simp

/-- A member is assigned through a variable that may change, and the walk aborts at a target
that is no place. -/
@[simp] theorem Step.mem_setTarget {span : Span} {object : Expr} :
    step ∈ Step.setTarget span object ↔
      (∃ name, object.asVariable? = some name ∧ step = .checkMutate name span) ∨
        (object.isAssignable = false ∧ step = .abort object.fault) := by
  cases object <;> simp [Step.setTarget, Expr.isAssignable, Expr.fault, Expr.asVariable?]

/-- Whether a step leaves the stack of scopes as high as it is and the run going:
it declares, defines, resolves or checks a name, or it reports something. -/
def Step.plain : Step → Bool
  | .openScope => false
  | .closeScope => false
  | .bindPseudo .. => false
  | .abort _ => false
  | _ => true

namespace Step

/-- Binding a name opens and closes no scope; the lemmas below say so of the other groups of
steps. -/
@[simp] theorem all_plain_bind (name : Ident) (mutable member : Bool) :
    (bind name mutable member).all plain = true := by
  simp [plain]

@[simp] theorem all_plain_counter (counter : Option Ident) :
    (counter.elim [] (bind · false false)).all plain = true := by
  cases counter <;> rfl

@[simp] theorem all_plain_this (context : Context) (node : Node) :
    (this context node).all plain = true := by
  unfold this
  split <;> rfl

@[simp] theorem all_plain_super (context : Context) (node : Node) :
    (super context node).all plain = true := by
  unfold super
  split <;> rfl

@[simp] theorem all_plain_params (foreign : Bool) (params : List Param) :
    (Step.params foreign params).all plain = true := by
  simp +contextual [or_imp, plain]

@[simp] theorem all_plain_foreign (kind : ForeignKind) (isForeign : Bool) (name : Ident) :
    (foreign kind isForeign name).all plain = true := by
  cases isForeign <;> rfl

@[simp] theorem all_plain_functionName (context : Context) (decl : FunctionDecl) :
    (functionName context decl).all plain = true := by
  simp +contextual [or_imp, plain]

@[simp] theorem all_plain_uninitialized (context : Context) (name : Ident)
    (mutable isForeign : Bool) :
    (uninitialized context name mutable isForeign).all plain = true := by
  simp +contextual [or_imp, plain]

@[simp] theorem all_plain_selfInheritance (name : Ident) (superclass : Option Expr) :
    (selfInheritance name superclass).all plain = true := by
  simp +contextual [plain]

@[simp] theorem all_plain_returnFrom (context : Context) (span : Span) :
    (returnFrom context span).all plain = true := by
  simp +contextual [plain]

@[simp] theorem all_plain_loopBody (span : Span) (body : List Stmt) :
    (loopBody span body).all plain = true := by
  simp +contextual [plain]

@[simp] theorem all_plain_between (stmt : Stmt) (rest : List Stmt) :
    (between stmt rest).all plain = true := by
  simp +contextual [plain]

end Step

/-- Whether an error says that a binding must not change. -/
def ResolutionError.forbidsChange : ResolutionError → Bool
  | .reassignImmutable .. => true
  | .mutateThroughImmutable .. => true
  | _ => false

/-- Whether an error is plain from the tree. -/
def ResolutionError.isPlain : ResolutionError → Bool
  | .uninitializedImmutable .. => true
  | .topLevelReturn _ => true
  | .initializerReturnValue _ => true
  | .thisOutsideClass _ => true
  | .superOutsideClass _ => true
  | .superWithoutSuperclass _ => true
  | .selfInheritance .. => true
  | .emptyLoopBody _ => true
  | _ => false

/-- What a step says of the piece it is made at. Mutability is checked where a
name is assigned and where a member is assigned through a variable, mutable
names are those of variables and of parameters, the walk aborts at a malformed
member assignment, and what is reported as plain from the tree is just that. -/
def Step.Origin (piece : Piece) : Step → Prop
  | .checkAssign name => ∃ node value, piece = .expr (.assign node name value)
  | .checkMutate name span => ∃ node object member value,
    piece = .expr (.set node object member value) ∧ object.asVariable? = some name ∧
      span = node.span
  | .declare name true _ =>
    (∃ node ty initial foreign, piece = .stmt (.letDecl node name true ty initial foreign)) ∨
      ∃ kind decl, piece = .function kind decl ∧
        ∃ param ∈ decl.params, param.name = name ∧ param.isMutable = true
  | .report error => error.isPlain = true
  | .abort fault => ∃ node object member value,
    piece = .expr (.set node object member value) ∧ object.isAssignable = false ∧
      object.fault = fault
  | _ => True

variable {initializerName : String}

/-- Each step that is made at an expression holds of that expression. -/
theorem Expr.origin {expr : Expr} (made : .step step ∈ expr.items context) :
    step.Origin (.expr expr) := by
  cases expr <;> simp [items] at made <;>
    grind [Step.Origin, ResolutionError.isPlain]

/-- Each step that is made at a statement holds of that statement. -/
theorem Stmt.origin {stmt : Stmt} (made : .step step ∈ stmt.items initializerName context) :
    step.Origin (.stmt stmt) := by
  cases stmt with
  | letDecl node name mutable ty initial foreign =>
    cases initial <;> cases mutable <;> simp [items] at made <;>
      grind [Step.Origin, ResolutionError.isPlain]
  | ret node value =>
    cases value <;> cases inside : context.function <;> simp [items, inside] at made <;>
      grind [Step.Origin, ResolutionError.isPlain]
  | _ => simp [items] at made <;> grind [Step.Origin, ResolutionError.isPlain]

/-- Every step that a piece makes by itself is made there rightly. -/
theorem Piece.origin {piece : Piece} (made : .step step ∈ piece.items initializerName context) :
    step.Origin piece := by
  cases piece with
  | expr tree => exact tree.origin made
  | stmt tree => exact tree.origin made
  | stmts trees =>
    cases trees with
    | nil => cases made
    | cons stmt rest =>
      obtain ⟨-, -, rfl⟩ : stmt.isTerminal = true ∧ rest ≠ [] ∧ step = .unreachable stmt.span := by
        simpa [items] using made
      trivial
  | function kind tree =>
    obtain ⟨name, params, returnType, body, foreign, span⟩ := tree
    simp only [items, List.cons_append, List.mem_cons, List.mem_append, List.mem_map,
      Step.mem_params, Item.step.injEq, exists_eq_right, reduceCtorEq, List.not_mem_nil,
      or_false, false_or] at made
    rcases made with rfl | ⟨param, listed, rfl | ⟨-, rfl⟩⟩ | rfl
    · trivial
    · cases mutable : param.isMutable with
      | false => trivial
      | true => exact .inr ⟨kind, _, rfl, param, listed, rfl, mutable⟩
    · trivial
    · trivial

end NameResolution
