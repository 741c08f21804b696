import Mathlib.Logic.Equiv.Basic
import NameResolution.Proofs.Correspondence.Trees
import NameResolution.Proofs.Unused.Exact

/-!
# Renaming

The names of a program carry no meaning besides being the same or not, being
global, foreign or discarded, and marking an initializer; `this` and `super`
are the only ones that resolution knows by itself. So if all names are changed
one to one, in a program and in the environment it is resolved in, the run
stays as it is but for the names that come out of it.
-/

namespace NameResolution

section Trees

variable (image : String → String)

/-- The same identifier under its new name. -/
def Ident.rename (name : Ident) : Ident := { name with name := image name.name }

mutual

/-- The same type annotation with all names renamed. -/
def Ty.rename : Ty → Ty
  | .any mutable span => .any mutable span
  | .named name mutable span => .named (name.rename image) mutable span
  | .array element mutable span => .array element.rename mutable span
  | .function params result mutable span =>
    .function (Ty.renameAll params) result.rename mutable span
  termination_by structural ty => ty

/-- The same type annotations with all names renamed. -/
def Ty.renameAll : List Ty → List Ty
  | [] => []
  | ty :: rest => ty.rename :: Ty.renameAll rest
  termination_by structural tys => tys

end

/-- The same parameter with all names renamed. -/
def Param.rename (param : Param) : Param :=
  ⟨param.name.rename image, param.ty.rename image⟩

mutual

/-- The same expression with all names renamed. -/
def Expr.rename : Expr → Expr
  | .literal node value => .literal node value
  | .array node elements => .array node (Expr.renameAll elements)
  | .assign node name value => .assign node (name.rename image) value.rename
  | .var node name => .var node (name.rename image)
  | .mutArg node name => .mutArg node (name.rename image)
  | .binary node left op right => .binary node left.rename op right.rename
  | .logical node left op right => .logical node left.rename op right.rename
  | .unary node op operand => .unary node op operand.rename
  | .grouping node inner => .grouping node inner.rename
  | .call node callee args => .call node callee.rename (Expr.renameAll args)
  | .get node object name => .get node object.rename (name.rename image)
  | .set node object name value => .set node object.rename (name.rename image) value.rename
  | .index node object index => .index node object.rename index.rename
  | .this node => .this node
  | .super node method => .super node (method.rename image)
  | .structInit node name fields =>
    .structInit node (name.rename image) (FieldInit.renameAll fields)
  | .lambda node decl => .lambda node decl.rename
  termination_by structural expr => expr

/-- The same expressions with all names renamed. -/
def Expr.renameAll : List Expr → List Expr
  | [] => []
  | expr :: rest => expr.rename :: Expr.renameAll rest
  termination_by structural exprs => exprs

/-- The same field with all names renamed. -/
def FieldInit.rename : FieldInit → FieldInit
  | ⟨name, value⟩ => ⟨name.rename image, value.rename⟩
  termination_by structural field => field

/-- The same fields with all names renamed. -/
def FieldInit.renameAll : List FieldInit → List FieldInit
  | [] => []
  | field :: rest => field.rename :: FieldInit.renameAll rest
  termination_by structural fields => fields

/-- The same function with all names renamed. -/
def FunctionDecl.rename : FunctionDecl → FunctionDecl
  | ⟨name, params, returnType, body, foreign, span⟩ =>
    ⟨name.map (Ident.rename image), params.map (Param.rename image),
      returnType.map (Ty.rename image), Stmt.renameAll body, foreign, span⟩
  termination_by structural decl => decl

/-- The same functions with all names renamed. -/
def FunctionDecl.renameAll : List FunctionDecl → List FunctionDecl
  | [] => []
  | decl :: rest => decl.rename :: FunctionDecl.renameAll rest
  termination_by structural decls => decls

/-- The same expression, if there is one, with all names renamed. -/
def Expr.rename? : Option Expr → Option Expr
  | none => none
  | some expr => some expr.rename
  termination_by structural expr => expr

/-- The same statement with all names renamed. -/
def Stmt.rename : Stmt → Stmt
  | .block node body => .block node (Stmt.renameAll body)
  | .breakLoop node => .breakLoop node
  | .continueLoop node => .continueLoop node
  | .letDecl node name mutable ty initial foreign =>
    .letDecl node (name.rename image) mutable (ty.map (Ty.rename image)) (Expr.rename? initial)
      foreign
  | .forRange node counter lower upper body =>
    .forRange node (counter.map (Ident.rename image)) lower.rename upper.rename
      (Stmt.renameAll body)
  | .forEach node item collection body =>
    .forEach node (item.rename image) collection.rename (Stmt.renameAll body)
  | .whileLoop node condition body =>
    .whileLoop node (Expr.rename? condition) (Stmt.renameAll body)
  | .function node decl => .function node decl.rename
  | .expression node value => .expression node value.rename
  | .print node value => .print node value.rename
  | .ifElse node condition thenBranch elseBranch =>
    .ifElse node condition.rename thenBranch.rename (Stmt.rename? elseBranch)
  | .ret node value => .ret node (Expr.rename? value)
  | .structDecl node name members =>
    .structDecl node (name.rename image) (Stmt.renameAll members)
  | .classDecl node name superclass methods =>
    .classDecl node (name.rename image) (Expr.rename? superclass)
      (FunctionDecl.renameAll methods)
  termination_by structural stmt => stmt

/-- The same statement, if there is one, with all names renamed. -/
def Stmt.rename? : Option Stmt → Option Stmt
  | none => none
  | some stmt => some stmt.rename
  termination_by structural stmt => stmt

/-- The same statements with all names renamed. -/
def Stmt.renameAll : List Stmt → List Stmt
  | [] => []
  | stmt :: rest => stmt.rename :: Stmt.renameAll rest
  termination_by structural stmts => stmts

end

/-- The same program with all names renamed. -/
def Program.rename (program : Program) : Program := Stmt.renameAll image program

end Trees

section Outcomes

variable (image prefixImage : String → String)

/-- The same error with its names renamed, and another prefix of discarded names. -/
def ResolutionError.rename : ResolutionError → ResolutionError
  | .duplicateDeclaration name span kept => .duplicateDeclaration (image name) span kept
  | .notDeclared name span => .notDeclared (image name) span
  | .selfReference name span => .selfReference (image name) span
  | .readOfDiscarded name unusedPrefix span =>
    .readOfDiscarded (image name) (prefixImage unusedPrefix) span
  | .reassignImmutable name span declared => .reassignImmutable (image name) span declared
  | .mutateThroughImmutable name span declared =>
    .mutateThroughImmutable (image name) span declared
  | .uninitializedImmutable name span => .uninitializedImmutable (image name) span
  | .topLevelReturn span => .topLevelReturn span
  | .initializerReturnValue span => .initializerReturnValue span
  | .thisOutsideClass span => .thisOutsideClass span
  | .superOutsideClass span => .superOutsideClass span
  | .superWithoutSuperclass span => .superWithoutSuperclass span
  | .selfInheritance name span => .selfInheritance (image name) span
  | .emptyLoopBody span => .emptyLoopBody span
  | .unregisteredForeignFunction name span => .unregisteredForeignFunction (image name) span
  | .unregisteredForeignVariable name span => .unregisteredForeignVariable (image name) span

/-- The same warning with its name renamed. -/
def Warning.rename : Warning → Warning
  | .unusedLocalVariable name span => .unusedLocalVariable (image name) span
  | .shadowedVariable name earlier span => .shadowedVariable (image name) earlier span
  | .unreachableCode span => .unreachableCode span

/-- The same diagnostic with its names renamed. -/
def Diagnostic.rename : Diagnostic → Diagnostic
  | .error cause => .error (cause.rename image prefixImage)
  | .warning cause => .warning (cause.rename image)

/-- The same line of the log with its name renamed. -/
def LogEntry.rename : LogEntry → LogEntry
  | .resolvedAt node name depth => .resolvedAt node (image name) depth
  | .resolvedGlobal node name => .resolvedGlobal node (image name)
  | entry => entry

/-- The same event with its names renamed. -/
def Event.rename : Event → Event
  | .log entry => .log (entry.rename image)
  | .diagnostic found => .diagnostic (found.rename image prefixImage)
  | .depth node hops => .depth node hops
  | .asked kind name answer => .asked kind (image name) answer

/-- The same resolution with the names in its report renamed. -/
def Resolution.rename (resolution : Resolution) : Resolution :=
  { resolution with report := resolution.report.map (Diagnostic.rename image prefixImage) }

/-- Nothing changes if every name and prefix is its own image. -/
theorem Event.rename_id (event : Event) : event.rename id id = event := by
  cases event with
  | log entry => cases entry <;> rfl
  | diagnostic found =>
    cases found with
    | error cause => cases cause <;> rfl
    | warning cause => cases cause <;> rfl
  | depth node hops => rfl
  | asked kind name answer => rfl

end Outcomes

/-- The environment of a renamed program. Its globals and its foreign names are
the images of the old ones. -/
structure Environment.Renamed (image : String → String) (env other : Environment) : Prop where
  isGlobal : ∀ name' : String, other.config.isGlobal name' = true ↔
    ∃ name, env.config.isGlobal name = true ∧ image name = name'
  registry : ∀ (kind : ForeignKind) (name' : String), other.registry kind name' = true ↔
    ∃ name, env.registry kind name = true ∧ image name = name'
  initializerName : other.config.initializerName = image env.config.initializerName
  /-- The new prefix marks a new name exactly when the old prefix marked the old one. -/
  isDiscarded : ∀ name : String,
    other.config.isDiscarded (image name) = env.config.isDiscarded name
  lints : other.config.lints = env.config.lints

/-- Names and prefixes correspond to their images. -/
def Correspondence.along (image prefixImage : String → String) : Correspondence where
  name name name' := image name = name'
  unusedPrefix unusedPrefix unusedPrefix' := prefixImage unusedPrefix = unusedPrefix'
  node := Eq
  span := Eq

variable {image : String → String} {env other : Environment}

/-- If a test holds of exactly the images of the names that another holds of, it
comes out on an image as the other does on the name. -/
theorem eq_of_image (injective : Function.Injective image) {test test' : String → Bool}
    (images : ∀ name' : String, test' name' = true ↔
      ∃ name, test name = true ∧ image name = name') (name : String) :
    test name = test' (image name) := by
  rw [Bool.eq_iff_iff, images]
  constructor
  · intro holds
    exact ⟨name, holds, rfl⟩
  · rintro ⟨same, holds, renamed⟩
    exact injective renamed ▸ holds

/-- A one-to-one renaming that leaves `this` and `super` alone keeps all that a run asks of
names. -/
theorem Environment.Renamed.faithful (renamed : env.Renamed image other)
    (injective : Function.Injective image) (this : image "this" = "this")
    (super : image "super" = "super") :
    (Correspondence.along image fun _ => other.config.unusedPrefix).Faithful env other where
  oneToOne one two := by
    obtain rfl := one
    obtain rfl := two
    exact injective.eq_iff.symm
  this := this
  super := super
  isGlobal named := named ▸ eq_of_image injective renamed.isGlobal _
  isDiscarded named := named ▸ (renamed.isDiscarded _).symm
  registry kind _ _ named := named ▸ eq_of_image injective (renamed.registry kind) _
  unusedPrefix := rfl
  lints := renamed.lints.symm

/-- A renamed type is mutable as before. -/
theorem Ty.mutable_rename (ty : Ty) : (ty.rename image).mutable = ty.mutable := by
  cases ty <;> rfl

section Correspond

variable {prefixImage : String → String}

/-- An identifier corresponds to its image. -/
theorem Ident.corresponds_rename (name : Ident) :
    name.Corresponds (.along image prefixImage) (name.rename image) :=
  ⟨rfl, rfl⟩

/-- A renaming leaves numbers and places alone. -/
theorem Node.corresponds_along (node : Node) : node.Corresponds (.along image prefixImage) node :=
  ⟨rfl, rfl⟩

/-- A name that may be missing corresponds to its image. -/
theorem rel_rename (name : Option Ident) :
    Option.Rel (Ident.Corresponds (.along image prefixImage)) name
      (name.map (Ident.rename image)) := by
  cases name with
  | none => exact .none
  | some name => exact .some name.corresponds_rename

/-- Parameters correspond to their images. -/
theorem Param.corresponds_rename (params : List Param) :
    List.Forall₂ (Param.Corresponds (.along image prefixImage)) params
      (params.map (Param.rename image)) := by
  rw [List.forall₂_map_right_iff, List.forall₂_same]
  intro param _
  exact ⟨param.name.corresponds_rename, param.ty.mutable_rename.symm⟩

/-- The same methods initialize, if the name that marks them is renamed too. -/
theorem methodKind_rename (injective : Function.Injective image) (init : String)
    (method : FunctionDecl) :
    methodKind init method = methodKind (image init) (method.rename image) := by
  obtain ⟨name, params, returnType, body, foreign, span⟩ := method
  cases name with
  | none => rfl
  | some name =>
    have marked : (name.name == init) = (image name.name == image init) := by
      rw [Bool.eq_iff_iff, beq_iff_eq, beq_iff_eq, injective.eq_iff]
    simp only [methodKind, FunctionDecl.rename, Option.map_some, Option.any_some, Ident.rename,
      marked]
    rfl

mutual

/-- Expressions correspond to their renamed forms. -/
theorem Expr.corresponds_rename (injective : Function.Injective image) (init : String) :
    (expr : Expr) → expr.Corresponds (.along image prefixImage) init (image init)
      (expr.rename image)
  | .literal node value => .literal node.corresponds_along value value
  | .array node elements =>
    .array node.corresponds_along (Expr.corresponds_renameAll injective init elements)
  | .assign node name value =>
    .assign node.corresponds_along name.corresponds_rename
      (Expr.corresponds_rename injective init value)
  | .var node name => .var node.corresponds_along name.corresponds_rename
  | .mutArg node name => .mutArg node.corresponds_along name.corresponds_rename
  | .binary node left op right =>
    .binary node.corresponds_along (Expr.corresponds_rename injective init left) op op
      (Expr.corresponds_rename injective init right)
  | .logical node left op right =>
    .logical node.corresponds_along (Expr.corresponds_rename injective init left) op op
      (Expr.corresponds_rename injective init right)
  | .unary node op operand =>
    .unary node.corresponds_along op op (Expr.corresponds_rename injective init operand)
  | .grouping node inner =>
    .grouping node.corresponds_along (Expr.corresponds_rename injective init inner)
  | .call node callee args =>
    .call node.corresponds_along (Expr.corresponds_rename injective init callee)
      (Expr.corresponds_renameAll injective init args)
  | .get node object name =>
    .get node.corresponds_along (Expr.corresponds_rename injective init object) name _
  | .set node object name value =>
    .set node.corresponds_along (Expr.corresponds_rename injective init object) name _
      (Expr.corresponds_rename injective init value)
  | .index node object index =>
    .index node.corresponds_along (Expr.corresponds_rename injective init object)
      (Expr.corresponds_rename injective init index)
  | .this node => .this node.corresponds_along
  | .super node method => .super node.corresponds_along method _
  | .structInit node name fields =>
    .structInit node.corresponds_along name.corresponds_rename
      (FieldInit.corresponds_renameAll injective init fields)
  | .lambda node decl =>
    .lambda node.corresponds_along (FunctionDecl.corresponds_rename injective init decl)
  termination_by structural expr => expr

/-- Expressions correspond to their images. -/
theorem Expr.corresponds_renameAll (injective : Function.Injective image) (init : String) :
    (exprs : List Expr) →
      List.Forall₂ (Expr.Corresponds (.along image prefixImage) init (image init)) exprs
        (Expr.renameAll image exprs)
  | [] => .nil
  | expr :: rest =>
    .cons (Expr.corresponds_rename injective init expr)
      (Expr.corresponds_renameAll injective init rest)
  termination_by structural exprs => exprs

/-- The value of a field corresponds to its image. -/
theorem FieldInit.corresponds_rename (injective : Function.Injective image) (init : String) :
    (field : FieldInit) → field.Corresponds (.along image prefixImage) init (image init)
      (field.rename image)
  | ⟨name, value⟩ => .of name _ (Expr.corresponds_rename injective init value)
  termination_by structural field => field

/-- The values of fields correspond to their images. -/
theorem FieldInit.corresponds_renameAll (injective : Function.Injective image) (init : String) :
    (fields : List FieldInit) →
      List.Forall₂ (FieldInit.Corresponds (.along image prefixImage) init (image init)) fields
        (FieldInit.renameAll image fields)
  | [] => .nil
  | field :: rest =>
    .cons (FieldInit.corresponds_rename injective init field)
      (FieldInit.corresponds_renameAll injective init rest)
  termination_by structural fields => fields

/-- Functions correspond to their renamed forms. -/
theorem FunctionDecl.corresponds_rename (injective : Function.Injective image) (init : String) :
    (decl : FunctionDecl) → decl.Corresponds (.along image prefixImage) init (image init)
      (decl.rename image)
  | ⟨name, params, returnType, body, foreign, span⟩ =>
    .of name _ returnType _ foreign span span (Param.corresponds_rename params)
      (Stmt.corresponds_renameAll injective init body)
  termination_by structural decl => decl

/-- The methods of a class correspond to their images, initializers to initializers. -/
theorem FunctionDecl.corresponds_renameAll (injective : Function.Injective image)
    (init : String) :
    (methods : List FunctionDecl) →
      List.Forall₂ (FunctionDecl.MethodsCorrespond (.along image prefixImage) init (image init))
        methods (FunctionDecl.renameAll image methods)
  | [] => .nil
  | method :: rest =>
    .cons (.of (methodKind_rename injective init method)
        (FunctionDecl.corresponds_rename injective init method))
      (FunctionDecl.corresponds_renameAll injective init rest)
  termination_by structural methods => methods

/-- An expression that may be missing corresponds to its image. -/
theorem Expr.corresponds_rename? (injective : Function.Injective image) (init : String) :
    (expr : Option Expr) →
      Option.Rel (Expr.Corresponds (.along image prefixImage) init (image init)) expr
        (Expr.rename? image expr)
  | none => .none
  | some expr => .some (Expr.corresponds_rename injective init expr)
  termination_by structural expr => expr

/-- Statements correspond to their renamed forms. -/
theorem Stmt.corresponds_rename (injective : Function.Injective image) (init : String) :
    (stmt : Stmt) → stmt.Corresponds (.along image prefixImage) init (image init)
      (stmt.rename image)
  | .block node body =>
    .block node.corresponds_along (Stmt.corresponds_renameAll injective init body)
  | .breakLoop node => .breakLoop node.corresponds_along
  | .continueLoop node => .continueLoop node.corresponds_along
  | .letDecl node name mutable ty initial foreign =>
    .letDecl node.corresponds_along name.corresponds_rename mutable ty _
      (Expr.corresponds_rename? injective init initial) foreign
  | .forRange node counter lower upper body =>
    .forRange node.corresponds_along (rel_rename counter)
      (Expr.corresponds_rename injective init lower)
      (Expr.corresponds_rename injective init upper)
      (Stmt.corresponds_renameAll injective init body)
  | .forEach node item collection body =>
    .forEach node.corresponds_along item.corresponds_rename
      (Expr.corresponds_rename injective init collection)
      (Stmt.corresponds_renameAll injective init body)
  | .whileLoop node condition body =>
    .whileLoop node.corresponds_along (Expr.corresponds_rename? injective init condition)
      (Stmt.corresponds_renameAll injective init body)
  | .function node decl => by
    refine .function node.corresponds_along ?_
      (FunctionDecl.corresponds_rename injective init decl)
    cases decl
    exact rel_rename _
  | .expression node value =>
    .expression node.corresponds_along (Expr.corresponds_rename injective init value)
  | .print node value =>
    .print node.corresponds_along (Expr.corresponds_rename injective init value)
  | .ifElse node condition thenBranch elseBranch =>
    .ifElse node.corresponds_along (Expr.corresponds_rename injective init condition)
      (Stmt.corresponds_rename injective init thenBranch)
      (Stmt.corresponds_rename? injective init elseBranch)
  | .ret node value =>
    .ret node.corresponds_along (Expr.corresponds_rename? injective init value)
  | .structDecl node name members =>
    .structDecl node.corresponds_along name.corresponds_rename
      (Stmt.corresponds_renameAll injective init members)
  | .classDecl node name superclass methods =>
    .classDecl node.corresponds_along name.corresponds_rename
      (Expr.corresponds_rename? injective init superclass)
      (FunctionDecl.corresponds_renameAll injective init methods)
  termination_by structural stmt => stmt

/-- A statement that may be missing corresponds to its image. -/
theorem Stmt.corresponds_rename? (injective : Function.Injective image) (init : String) :
    (stmt : Option Stmt) →
      Option.Rel (Stmt.Corresponds (.along image prefixImage) init (image init)) stmt
        (Stmt.rename? image stmt)
  | none => .none
  | some stmt => .some (Stmt.corresponds_rename injective init stmt)
  termination_by structural stmt => stmt

/-- Statements correspond to their images. -/
theorem Stmt.corresponds_renameAll (injective : Function.Injective image) (init : String) :
    (stmts : List Stmt) →
      List.Forall₂ (Stmt.Corresponds (.along image prefixImage) init (image init)) stmts
        (Stmt.renameAll image stmts)
  | [] => .nil
  | stmt :: rest =>
    .cons (Stmt.corresponds_rename injective init stmt)
      (Stmt.corresponds_renameAll injective init rest)
  termination_by structural stmts => stmts

end

/-- An error that corresponds to another along a renaming has it as its image. -/
theorem ResolutionError.eq_rename {cause cause' : ResolutionError}
    (same : cause.Corresponds (.along image prefixImage) cause') :
    cause' = cause.rename image prefixImage := by
  cases same <;> simp only [Correspondence.along] at * <;> subst_vars <;> rfl

/-- A warning that corresponds to another along a renaming has it as its image. -/
theorem Warning.eq_rename {cause cause' : Warning}
    (same : cause.Corresponds (.along image prefixImage) cause') :
    cause' = cause.rename image := by
  cases same <;> simp only [Correspondence.along] at * <;> subst_vars <;> rfl

/-- A fault holds no name, so it corresponds to itself only. -/
theorem Fault.eq_of_along {fault fault' : Fault}
    (same : fault.Corresponds (.along image prefixImage) fault') : fault' = fault := by
  cases fault
  cases fault'
  exact Fault.mk.injEq .. ▸ ⟨same.shape.symm, same.span.symm⟩

/-- A log entry that corresponds to another along a renaming has it as its image. -/
theorem LogEntry.eq_rename {entry entry' : LogEntry}
    (same : entry.Corresponds (.along image prefixImage) entry') :
    entry' = entry.rename image := by
  cases same with
  | resolving statements => rfl
  | pushScope depth => rfl
  | popScope depth bindings => rfl
  | resolvedAt numbered named depth =>
    obtain rfl := numbered
    obtain rfl := named
    rfl
  | resolvedGlobal numbered named =>
    obtain rfl := numbered
    obtain rfl := named
    rfl
  | aborted same => rw [Fault.eq_of_along same]; rfl
  | finished => rfl

/-- An event that corresponds to another along a renaming has it as its image. -/
theorem Event.eq_rename {event event' : Event}
    (same : event.Corresponds (.along image prefixImage) event') :
    event' = event.rename image prefixImage := by
  cases same with
  | log same => exact congrArg Event.log (LogEntry.eq_rename same)
  | diagnostic same =>
    cases same with
    | error same => exact congrArg Event.error (ResolutionError.eq_rename same)
    | warning same => exact congrArg Event.warning (Warning.eq_rename same)
  | depth numbered hops =>
    obtain rfl := numbered
    rfl
  | asked kind named answer =>
    obtain rfl := named
    rfl

/-- If names correspond to their images, so do runs: what happens in the second
is what happens in the first, renamed. -/
theorem Program.Corresponds.observe_eq_rename
    (faithful : (Correspondence.along image prefixImage).Faithful env other)
    {program program' : Program}
    (alike : program.Corresponds (.along image prefixImage) env.config.initializerName
      other.config.initializerName program') :
    NameResolution.observe other program' =
      ((NameResolution.observe env program).1.map (Event.rename image prefixImage),
        (NameResolution.observe env program).2) := by
  obtain ⟨events, fault⟩ := alike.observe faithful
  refine Prod.ext ?_ ?_
  · rw [← List.forall₂_eq_eq_eq, List.forall₂_map_right_iff]
    exact events.flip.imp fun _ _ same => Event.eq_rename same
  · rcases none_or_some_of_rel fault with ⟨whole, whole'⟩ | ⟨here, there, cut, cut', same⟩
    · rw [whole, whole']
    · rw [cut, cut', Fault.eq_of_along same]

end Correspond

/-- All that happens when a renamed program is resolved is what happens with the
program itself, with the names in it renamed. -/
theorem observe_rename (renamed : env.Renamed image other)
    (injective : Function.Injective image) (this : image "this" = "this")
    (super : image "super" = "super") (program : Program) :
    observe other (Program.rename image program) =
      ((observe env program).1.map (Event.rename image fun _ => other.config.unusedPrefix),
        (observe env program).2) := by
  have alike : program.Corresponds (.along image fun _ => other.config.unusedPrefix)
      env.config.initializerName other.config.initializerName (Program.rename image program) :=
    renamed.initializerName ▸ Stmt.corresponds_renameAll injective _ program
  exact alike.observe_eq_rename (renamed.faithful injective this super)

/-- The diagnostics of renamed events are their diagnostics, renamed. -/
theorem reportOf_rename (image prefixImage : String → String) (events : List Event) :
    reportOf (events.map (Event.rename image prefixImage)) =
      (reportOf events).map (Diagnostic.rename image prefixImage) := by
  rw [reportOf, reportOf, List.filterMap_map, List.map_filterMap]
  congr 1
  funext event
  cases event <;> rfl

/-- Renamed events enter the same depths. -/
theorem depthsOf_rename (image prefixImage : String → String) (events : List Event) :
    depthsOf (events.map (Event.rename image prefixImage)) = depthsOf events := by
  rw [depthsOf, depthsOf, List.filterMap_map]
  congr 1
  funext event
  cases event <;> rfl

/-- Resolution commutes with every one-to-one renaming that leaves `this` and
`super` alone. Resolving the renamed program, with the globals, the foreign
names and the name of initializers replaced by their images and with a prefix
that marks the images of the names that were marked, records the same depths in
the same order, ends in the same fault if it faults, and reports the same
diagnostics with all names replaced by their images. -/
theorem resolution_commutes_with_renaming (renamed : env.Renamed image other)
    (injective : Function.Injective image) (this : image "this" = "this")
    (super : image "super" = "super") (program : Program) :
    depthsOf (observe other (Program.rename image program)).1 =
        depthsOf (observe env program).1 ∧
      (observe other (Program.rename image program)).2 = (observe env program).2 ∧
      reportOf (observe other (Program.rename image program)).1 =
        (reportOf (observe env program).1).map
          (Diagnostic.rename image fun _ => other.config.unusedPrefix) ∧
      resolve other (Program.rename image program) =
        (resolve env program).map (Resolution.rename image fun _ => other.config.unusedPrefix) := by
  have same := observe_rename renamed injective this super program
  have depths := depthsOf_rename image (fun _ => other.config.unusedPrefix) (observe env program).1
  have report := reportOf_rename image (fun _ => other.config.unusedPrefix) (observe env program).1
  rw [same]
  refine ⟨depths, rfl, report, ?_⟩
  unfold resolve
  rw [same]
  generalize observe env program = observed at depths report ⊢
  obtain ⟨events, fault⟩ := observed
  cases fault with
  | some fault => rfl
  | none =>
    dsimp only at depths report ⊢
    rw [depths, report]
    rfl

/-- A name with its underscores and dollar signs exchanged. -/
def swapMarks (name : String) : String :=
  .ofList (name.toList.map (Equiv.swap '_' '$'))

/-- Exchanging the marks twice gives the old name. -/
theorem swapMarks_swapMarks (name : String) : swapMarks (swapMarks name) = name := by
  simp [swapMarks, Function.comp_def]

/-- A name starts with a dollar sign exactly when the old one started with an underscore. -/
theorem startsWith_swapMarks (name : String) :
    startsWith "$" (swapMarks name) = startsWith "_" name := by
  have marked : ∀ letters : List Char,
      ['$'].isPrefixOf (letters.map (Equiv.swap '_' '$')) = ['_'].isPrefixOf letters := by
    intro letters
    cases letters with
    | nil => rfl
    | cons letter rest =>
      simp only [List.map_cons, List.isPrefixOf, Bool.and_true]
      rw [Bool.eq_iff_iff, beq_iff_eq, beq_iff_eq, eq_comm, Equiv.swap_apply_eq_iff,
        Equiv.swap_apply_right, eq_comm]
  have letters : (swapMarks name).toList = name.toList.map (Equiv.swap '_' '$') :=
    String.toList_ofList
  rw [startsWith, letters]
  exact marked name.toList

/-- An environment with every check on, the given prefix and name of initializers, one global and
one foreign function. -/
def Environment.withNames (unusedPrefix initializerName globalName foreignName : String) :
    Environment where
  config := ⟨NameSet.ofList [globalName], unusedPrefix, initializerName, .all⟩
  registry kind name := kind == .function && name == foreignName

/-- The same names with underscores, and with dollar signs. -/
theorem withNames_renamed :
    (Environment.withNames "_" "set_up" "the_end" "read_file").Renamed swapMarks
      (.withNames "$" "set$up" "the$end" "read$file") where
  isGlobal name' := by
    have only (unusedPrefix initializerName globalName foreignName name : String) :
        (Environment.withNames unusedPrefix initializerName globalName foreignName).config.isGlobal
          name = true ↔ globalName = name := by
      simp [Environment.withNames, Config.isGlobal, NameSet.ofList]
    have image : swapMarks "the_end" = "the$end" := by decide
    simp only [only, image, exists_eq_left']
  registry kind name' := by
    have image : swapMarks "read_file" = "read$file" := by decide
    simp only [Environment.withNames, Bool.and_eq_true, beq_iff_eq]
    constructor
    · rintro ⟨rfl, rfl⟩
      exact ⟨"read_file", ⟨rfl, rfl⟩, image⟩
    · rintro ⟨name, ⟨rfl, rfl⟩, rfl⟩
      exact ⟨rfl, image⟩
  initializerName := by decide
  isDiscarded name := by
    exact startsWith_swapMarks name
  lints := rfl

/-- A variable, two foreign functions, a class with an initializer and a method, and a block that
hides the variable and reads a discarded name, the global and its own variable. -/
def underscores : Program :=
  [.letDecl default ⟨"my_x", ⟨1, 1⟩⟩ false none (some (.literal default .nil)) false,
    .function default ⟨some ⟨"read_file", ⟨2, 1⟩⟩, [], none, [], true, default⟩,
    .function default ⟨some ⟨"no_file", ⟨3, 1⟩⟩, [], none, [], true, default⟩,
    .classDecl default ⟨"A_b", ⟨4, 1⟩⟩ none
      [⟨some ⟨"set_up", default⟩, [], none,
          [.ret default (some (.var ⟨⟨10⟩, ⟨5, 1⟩⟩ ⟨"my_x", default⟩))], false, default⟩,
        ⟨some ⟨"go", default⟩, [], none,
          [.expression default (.var ⟨⟨11⟩, default⟩ ⟨"my_x", default⟩),
            .expression default (.this ⟨⟨12⟩, default⟩)], false, default⟩],
    .block default
      [.letDecl default ⟨"my_x", ⟨6, 1⟩⟩ false none (some (.literal default .nil)) false,
        .expression default (.var ⟨⟨13⟩, default⟩ ⟨"_a", ⟨7, 1⟩⟩),
        .expression default (.var ⟨⟨14⟩, default⟩ ⟨"the_end", default⟩),
        .expression default (.var ⟨⟨15⟩, default⟩ ⟨"my_x", default⟩)]]

/-- What is reported of this program if the names are written with the given mark. -/
def underscoresReport (mark : String) : Report :=
  [.error (.unregisteredForeignFunction ("no" ++ mark ++ "file") ⟨3, 1⟩),
    .error (.initializerReturnValue ⟨5, 1⟩),
    .warning (.shadowedVariable ("my" ++ mark ++ "x") ⟨1, 1⟩ ⟨6, 1⟩),
    .error (.readOfDiscarded (mark ++ "a") mark ⟨7, 1⟩),
    .warning (.unusedLocalVariable ("read" ++ mark ++ "file") ⟨2, 1⟩),
    .warning (.unusedLocalVariable ("no" ++ mark ++ "file") ⟨3, 1⟩),
    .warning (.unusedLocalVariable ("A" ++ mark ++ "b") ⟨4, 1⟩)]

/-- Dollar signs for underscores, in all names and in the prefix: the report has the new names,
and the depths are the old ones. -/
theorem resolution_commutes_with_swapMarks :
    let env := Environment.withNames "_" "set_up" "the_end" "read_file"
    let other := Environment.withNames "$" "set$up" "the$end" "read$file"
    reportOf (observe env underscores).1 = underscoresReport "_" ∧
      reportOf (observe other (Program.rename swapMarks underscores)).1 = underscoresReport "$" ∧
      depthsOf (observe other (Program.rename swapMarks underscores)).1 =
        [(⟨11⟩, 2), (⟨12⟩, 1), (⟨15⟩, 0)] ∧
      resolve other (Program.rename swapMarks underscores) =
        (resolve env underscores).map (Resolution.rename swapMarks fun _ => "$") := by
  have injective : Function.Injective swapMarks :=
    Function.LeftInverse.injective swapMarks_swapMarks
  obtain ⟨depths, -, report, same⟩ := resolution_commutes_with_renaming withNames_renamed injective
    (by decide) (by decide) underscores
  have before : reportOf (observe (.withNames "_" "set_up" "the_end" "read_file") underscores).1 =
      underscoresReport "_" := by decide +kernel
  refine ⟨before, ?_, depths.trans (by decide +kernel), same⟩
  rw [report, before]
  decide +kernel

end NameResolution
