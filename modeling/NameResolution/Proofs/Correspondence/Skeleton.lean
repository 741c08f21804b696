import NameResolution.Proofs.Correspondence.Renaming
import NameResolution.Syntax.Equality

/-!
# The scoping skeleton

Of a tree, resolution uses the shape, the names that bind or refer to something
and the flags of declarations. Node numbers and spans are handed on as they
are, so any relation that holds between the nodes and spans at the same places
of two trees holds between those that come out. Trees that compare equal are a
special case: they agree in all that resolution uses, and their nodes and spans
are the same.
-/

namespace NameResolution

/-- Names are the same, while nodes and spans are related in whatever way is asked for. -/
def Correspondence.byName (node : NodeId → NodeId → Prop) (span : Span → Span → Prop) :
    Correspondence where
  name := Eq
  unusedPrefix := Eq
  node := node
  span := span

/-- Everything is the same. -/
def Correspondence.identical : Correspondence := .byName Eq Eq

/-- An environment gives the same answers on the same names. -/
theorem Correspondence.byName_faithful (node : NodeId → NodeId → Prop)
    (span : Span → Span → Prop) (env : Environment) :
    (Correspondence.byName node span).Faithful env env where
  oneToOne one two := by
    obtain rfl := one
    obtain rfl := two
    exact Iff.rfl
  this := rfl
  super := rfl
  isGlobal named := congrArg env.config.isGlobal named
  isDiscarded named := congrArg env.config.isDiscarded named
  registry kind _ _ named := congrArg (env.registry kind) named
  unusedPrefix := rfl
  lints := rfl

/-- Every identifier is identical to itself. -/
theorem Ident.Corresponds.identical (name : Ident) : name.Corresponds .identical name :=
  ⟨rfl, rfl⟩

/-- Every node is identical to itself. -/
theorem Node.Corresponds.identical (node : Node) : node.Corresponds .identical node :=
  ⟨rfl, rfl⟩

/-- Types that compare equal are mutable alike. -/
theorem Ty.mutable_eq_of_same {ty ty' : Ty} (same : ty.same ty' = true) :
    ty.mutable = ty'.mutable := by
  cases ty <;> cases ty' <;>
    simp only [Ty.same, Bool.and_eq_true, beq_iff_eq, Bool.false_eq_true] at same
  case any.any => exact same.1
  case named.named => exact same.1.2
  case array.array => exact same.1.2
  case function.function => exact same.1.2

/-- Parameters that compare equal correspond. -/
theorem Param.corresponds_of_sameAll {params params' : List Param}
    (same : Param.sameAll params params' = true) :
    List.Forall₂ (Param.Corresponds .identical) params params' := by
  induction params generalizing params' with
  | nil =>
    cases params' with
    | nil => exact .nil
    | cons param' rest' => cases same
  | cons param rest ih =>
    cases params' with
    | nil => cases same
    | cons param' rest' =>
      simp only [Param.sameAll, Param.same, Bool.and_eq_true, beq_iff_eq] at same
      obtain ⟨⟨name, ty⟩, rest⟩ := same
      exact .cons ⟨name ▸ .identical _, Ty.mutable_eq_of_same ty⟩ (ih rest)

/-- Names that may be missing, and are the same, correspond. -/
theorem rel_identical (name : Option Ident) :
    Option.Rel (Ident.Corresponds .identical) name name := by
  cases name with
  | none => exact .none
  | some name => exact .some (.identical name)

/-- Functions that compare equal have the same name. -/
theorem FunctionDecl.name_eq_of_same {decl other : FunctionDecl}
    (same : decl.same other = true) : decl.name = other.name := by
  cases decl
  simp only [FunctionDecl.same, Bool.and_eq_true, beq_iff_eq] at same
  exact same.1.1.1.1.1

mutual

/-- Expressions that compare equal correspond. -/
theorem Expr.corresponds_of_same (init : String) : (expr other : Expr) →
    expr.same other = true → expr.Corresponds .identical init init other
  | .literal node value, other, same => by
    cases other <;>
      simp only [Expr.same, Bool.and_eq_true, beq_iff_eq, Bool.false_eq_true] at same
    obtain ⟨rfl, -⟩ := same
    exact .literal (.identical node) ..
  | .array node elements, other, same => by
    cases other <;>
      simp only [Expr.same, Bool.and_eq_true, beq_iff_eq, Bool.false_eq_true] at same
    obtain ⟨rfl, alike⟩ := same
    exact .array (.identical node) (Expr.corresponds_of_sameAll init elements _ alike)
  | .assign node name value, other, same => by
    cases other <;>
      simp only [Expr.same, Bool.and_eq_true, beq_iff_eq, Bool.false_eq_true] at same
    obtain ⟨⟨rfl, rfl⟩, alike⟩ := same
    exact .assign (.identical node) (.identical name) (Expr.corresponds_of_same init value _ alike)
  | .var node name, other, same => by
    cases other <;>
      simp only [Expr.same, Bool.and_eq_true, beq_iff_eq, Bool.false_eq_true] at same
    obtain ⟨rfl, rfl⟩ := same
    exact .var (.identical node) (.identical name)
  | .mutArg node name, other, same => by
    cases other <;>
      simp only [Expr.same, Bool.and_eq_true, beq_iff_eq, Bool.false_eq_true] at same
    obtain ⟨rfl, rfl⟩ := same
    exact .mutArg (.identical node) (.identical name)
  | .binary node left op right, other, same => by
    cases other <;>
      simp only [Expr.same, Bool.and_eq_true, beq_iff_eq, Bool.false_eq_true] at same
    obtain ⟨⟨⟨rfl, first⟩, rfl⟩, second⟩ := same
    exact .binary (.identical node) (Expr.corresponds_of_same init left _ first) op op
      (Expr.corresponds_of_same init right _ second)
  | .logical node left op right, other, same => by
    cases other <;>
      simp only [Expr.same, Bool.and_eq_true, beq_iff_eq, Bool.false_eq_true] at same
    obtain ⟨⟨⟨rfl, first⟩, rfl⟩, second⟩ := same
    exact .logical (.identical node) (Expr.corresponds_of_same init left _ first) op op
      (Expr.corresponds_of_same init right _ second)
  | .unary node op operand, other, same => by
    cases other <;>
      simp only [Expr.same, Bool.and_eq_true, beq_iff_eq, Bool.false_eq_true] at same
    obtain ⟨⟨rfl, rfl⟩, alike⟩ := same
    exact .unary (.identical node) op op (Expr.corresponds_of_same init operand _ alike)
  | .grouping node inner, other, same => by
    cases other <;>
      simp only [Expr.same, Bool.and_eq_true, beq_iff_eq, Bool.false_eq_true] at same
    obtain ⟨rfl, alike⟩ := same
    exact .grouping (.identical node) (Expr.corresponds_of_same init inner _ alike)
  | .call node callee args, other, same => by
    cases other <;>
      simp only [Expr.same, Bool.and_eq_true, beq_iff_eq, Bool.false_eq_true] at same
    obtain ⟨⟨rfl, called⟩, alike⟩ := same
    exact .call (.identical node) (Expr.corresponds_of_same init callee _ called)
      (Expr.corresponds_of_sameAll init args _ alike)
  | .get node object name, other, same => by
    cases other <;>
      simp only [Expr.same, Bool.and_eq_true, beq_iff_eq, Bool.false_eq_true] at same
    obtain ⟨⟨rfl, alike⟩, rfl⟩ := same
    exact .get (.identical node) (Expr.corresponds_of_same init object _ alike) name name
  | .set node object name value, other, same => by
    cases other <;>
      simp only [Expr.same, Bool.and_eq_true, beq_iff_eq, Bool.false_eq_true] at same
    obtain ⟨⟨⟨rfl, holder⟩, rfl⟩, alike⟩ := same
    exact .set (.identical node) (Expr.corresponds_of_same init object _ holder) name name
      (Expr.corresponds_of_same init value _ alike)
  | .index node object index, other, same => by
    cases other <;>
      simp only [Expr.same, Bool.and_eq_true, beq_iff_eq, Bool.false_eq_true] at same
    obtain ⟨⟨rfl, holder⟩, alike⟩ := same
    exact .index (.identical node) (Expr.corresponds_of_same init object _ holder)
      (Expr.corresponds_of_same init index _ alike)
  | .this node, other, same => by
    cases other <;>
      simp only [Expr.same, beq_iff_eq, Bool.false_eq_true] at same
    obtain rfl := same
    exact .this (.identical node)
  | .super node method, other, same => by
    cases other <;>
      simp only [Expr.same, Bool.and_eq_true, beq_iff_eq, Bool.false_eq_true] at same
    obtain ⟨rfl, rfl⟩ := same
    exact .super (.identical node) method method
  | .structInit node name fields, other, same => by
    cases other <;>
      simp only [Expr.same, Bool.and_eq_true, beq_iff_eq, Bool.false_eq_true] at same
    obtain ⟨⟨rfl, rfl⟩, alike⟩ := same
    exact .structInit (.identical node) (.identical name)
      (FieldInit.corresponds_of_sameAll init fields _ alike)
  | .lambda node decl, other, same => by
    cases other <;>
      simp only [Expr.same, Bool.and_eq_true, beq_iff_eq, Bool.false_eq_true] at same
    obtain ⟨rfl, alike⟩ := same
    exact .lambda (.identical node) (FunctionDecl.corresponds_of_same init decl _ alike)
  termination_by structural expr => expr

/-- Expressions with the same skeleton correspond. -/
theorem Expr.corresponds_of_sameAll (init : String) : (exprs others : List Expr) →
    Expr.sameAll exprs others = true →
      List.Forall₂ (Expr.Corresponds .identical init init) exprs others
  | [], [], _ => .nil
  | expr :: rest, other :: others, same => by
    simp only [Expr.sameAll, Bool.and_eq_true] at same
    exact .cons (Expr.corresponds_of_same init expr other same.1)
      (Expr.corresponds_of_sameAll init rest others same.2)
  termination_by structural exprs => exprs

/-- The values of fields with the same skeleton correspond. -/
theorem FieldInit.corresponds_of_same (init : String) : (field other : FieldInit) →
    field.same other = true → field.Corresponds .identical init init other
  | ⟨name, value⟩, ⟨name', value'⟩, same => by
    simp only [FieldInit.same, Bool.and_eq_true] at same
    exact .of name name' (Expr.corresponds_of_same init value value' same.2)
  termination_by structural field => field

/-- Lists of fields with the same skeleton correspond. -/
theorem FieldInit.corresponds_of_sameAll (init : String) : (fields others : List FieldInit) →
    FieldInit.sameAll fields others = true →
      List.Forall₂ (FieldInit.Corresponds .identical init init) fields others
  | [], [], _ => .nil
  | field :: rest, other :: others, same => by
    simp only [FieldInit.sameAll, Bool.and_eq_true] at same
    exact .cons (FieldInit.corresponds_of_same init field other same.1)
      (FieldInit.corresponds_of_sameAll init rest others same.2)
  termination_by structural fields => fields

/-- Functions that compare equal correspond. -/
theorem FunctionDecl.corresponds_of_same (init : String) : (decl other : FunctionDecl) →
    decl.same other = true → decl.Corresponds .identical init init other
  | ⟨name, params, returnType, body, foreign, span⟩,
      ⟨name', params', returnType', body', foreign', span'⟩, same => by
    simp only [FunctionDecl.same, Bool.and_eq_true, beq_iff_eq] at same
    obtain ⟨⟨⟨⟨⟨-, taken⟩, -⟩, alike⟩, rfl⟩, -⟩ := same
    exact .of name name' returnType returnType' foreign span span'
      (Param.corresponds_of_sameAll taken) (Stmt.corresponds_of_sameAll init body body' alike)
  termination_by structural decl => decl

/-- Methods with the same skeleton correspond, initializers to initializers. -/
theorem FunctionDecl.methodsCorrespond_of_sameAll (init : String) :
    (methods others : List FunctionDecl) → FunctionDecl.sameAll methods others = true →
      List.Forall₂ (FunctionDecl.MethodsCorrespond .identical init init) methods others
  | [], [], _ => .nil
  | method :: rest, other :: others, same => by
    simp only [FunctionDecl.sameAll, Bool.and_eq_true] at same
    exact .cons (.of (by simp only [methodKind, FunctionDecl.name_eq_of_same same.1])
        (FunctionDecl.corresponds_of_same init method other same.1))
      (FunctionDecl.methodsCorrespond_of_sameAll init rest others same.2)
  termination_by structural methods => methods

/-- Expressions that may be missing correspond if they have the same skeleton. -/
theorem Expr.corresponds_of_same? (init : String) : (expr other : Option Expr) →
    Expr.same? expr other = true → Option.Rel (Expr.Corresponds .identical init init) expr other
  | none, none, _ => .none
  | some expr, some other, same => .some (Expr.corresponds_of_same init expr other same)
  termination_by structural expr => expr

/-- Statements that compare equal correspond. -/
theorem Stmt.corresponds_of_same (init : String) : (stmt other : Stmt) →
    stmt.same other = true → stmt.Corresponds .identical init init other
  | .block node body, other, same => by
    cases other <;>
      simp only [Stmt.same, Bool.and_eq_true, beq_iff_eq, Bool.false_eq_true] at same
    obtain ⟨rfl, alike⟩ := same
    exact .block (.identical node) (Stmt.corresponds_of_sameAll init body _ alike)
  | .breakLoop node, other, same => by
    cases other <;>
      simp only [Stmt.same, beq_iff_eq, Bool.false_eq_true] at same
    obtain rfl := same
    exact .breakLoop (.identical node)
  | .continueLoop node, other, same => by
    cases other <;>
      simp only [Stmt.same, beq_iff_eq, Bool.false_eq_true] at same
    obtain rfl := same
    exact .continueLoop (.identical node)
  | .letDecl node name mutable ty initial foreign, other, same => by
    cases other <;>
      simp only [Stmt.same, Bool.and_eq_true, beq_iff_eq, Bool.false_eq_true] at same
    obtain ⟨⟨⟨⟨⟨rfl, rfl⟩, rfl⟩, -⟩, alike⟩, rfl⟩ := same
    exact .letDecl (.identical node) (.identical name) mutable ty _
      (Expr.corresponds_of_same? init initial _ alike) foreign
  | .forRange node counter lower upper body, other, same => by
    cases other <;>
      simp only [Stmt.same, Bool.and_eq_true, beq_iff_eq, Bool.false_eq_true] at same
    obtain ⟨⟨⟨⟨rfl, rfl⟩, first⟩, second⟩, alike⟩ := same
    exact .forRange (.identical node) (rel_identical counter)
      (Expr.corresponds_of_same init lower _ first)
      (Expr.corresponds_of_same init upper _ second)
      (Stmt.corresponds_of_sameAll init body _ alike)
  | .forEach node name collection body, other, same => by
    cases other <;>
      simp only [Stmt.same, Bool.and_eq_true, beq_iff_eq, Bool.false_eq_true] at same
    obtain ⟨⟨⟨rfl, rfl⟩, first⟩, alike⟩ := same
    exact .forEach (.identical node) (.identical name)
      (Expr.corresponds_of_same init collection _ first)
      (Stmt.corresponds_of_sameAll init body _ alike)
  | .whileLoop node condition body, other, same => by
    cases other <;>
      simp only [Stmt.same, Bool.and_eq_true, beq_iff_eq, Bool.false_eq_true] at same
    obtain ⟨⟨rfl, first⟩, alike⟩ := same
    exact .whileLoop (.identical node) (Expr.corresponds_of_same? init condition _ first)
      (Stmt.corresponds_of_sameAll init body _ alike)
  | .function node decl, other, same => by
    cases other <;>
      simp only [Stmt.same, Bool.and_eq_true, beq_iff_eq, Bool.false_eq_true] at same
    obtain ⟨rfl, alike⟩ := same
    exact .function (.identical node) (FunctionDecl.name_eq_of_same alike ▸ rel_identical _)
      (FunctionDecl.corresponds_of_same init decl _ alike)
  | .expression node value, other, same => by
    cases other <;>
      simp only [Stmt.same, Bool.and_eq_true, beq_iff_eq, Bool.false_eq_true] at same
    obtain ⟨rfl, alike⟩ := same
    exact .expression (.identical node) (Expr.corresponds_of_same init value _ alike)
  | .print node value, other, same => by
    cases other <;>
      simp only [Stmt.same, Bool.and_eq_true, beq_iff_eq, Bool.false_eq_true] at same
    obtain ⟨rfl, alike⟩ := same
    exact .print (.identical node) (Expr.corresponds_of_same init value _ alike)
  | .ifElse node condition thenBranch elseBranch, other, same => by
    cases other <;>
      simp only [Stmt.same, Bool.and_eq_true, beq_iff_eq, Bool.false_eq_true] at same
    obtain ⟨⟨⟨rfl, first⟩, second⟩, third⟩ := same
    exact .ifElse (.identical node) (Expr.corresponds_of_same init condition _ first)
      (Stmt.corresponds_of_same init thenBranch _ second)
      (Stmt.corresponds_of_same? init elseBranch _ third)
  | .ret node value, other, same => by
    cases other <;>
      simp only [Stmt.same, Bool.and_eq_true, beq_iff_eq, Bool.false_eq_true] at same
    obtain ⟨rfl, alike⟩ := same
    exact .ret (.identical node) (Expr.corresponds_of_same? init value _ alike)
  | .structDecl node name members, other, same => by
    cases other <;>
      simp only [Stmt.same, Bool.and_eq_true, beq_iff_eq, Bool.false_eq_true] at same
    obtain ⟨⟨rfl, rfl⟩, alike⟩ := same
    exact .structDecl (.identical node) (.identical name)
      (Stmt.corresponds_of_sameAll init members _ alike)
  | .classDecl node name superclass methods, other, same => by
    cases other <;>
      simp only [Stmt.same, Bool.and_eq_true, beq_iff_eq, Bool.false_eq_true] at same
    obtain ⟨⟨⟨rfl, rfl⟩, first⟩, alike⟩ := same
    exact .classDecl (.identical node) (.identical name)
      (Expr.corresponds_of_same? init superclass _ first)
      (FunctionDecl.methodsCorrespond_of_sameAll init methods _ alike)
  termination_by structural stmt => stmt

/-- Statements that may be missing correspond if they have the same skeleton. -/
theorem Stmt.corresponds_of_same? (init : String) : (stmt other : Option Stmt) →
    Stmt.same? stmt other = true → Option.Rel (Stmt.Corresponds .identical init init) stmt other
  | none, none, _ => .none
  | some stmt, some other, same => .some (Stmt.corresponds_of_same init stmt other same)
  termination_by structural stmt => stmt

/-- Statements with the same skeleton correspond. -/
theorem Stmt.corresponds_of_sameAll (init : String) : (stmts others : List Stmt) →
    Stmt.sameAll stmts others = true →
      List.Forall₂ (Stmt.Corresponds .identical init init) stmts others
  | [], [], _ => .nil
  | stmt :: rest, other :: others, same => by
    simp only [Stmt.sameAll, Bool.and_eq_true] at same
    exact .cons (Stmt.corresponds_of_same init stmt other same.1)
      (Stmt.corresponds_of_sameAll init rest others same.2)
  termination_by structural stmts => stmts

end

/-- What two runs have in common when their programs correspond. -/
structure SameOutcome (c : Correspondence) (left right : List Event × Option Fault) : Prop where
  /-- Both end in a fault of the same shape, at corresponding places, or neither does. -/
  fault : Option.Rel (Fault.Corresponds c) left.2 right.2
  /-- Entry by entry the same depths are recorded, for corresponding nodes. -/
  depths : List.Forall₂ (DepthsCorrespond c) (depthsOf left.1) (depthsOf right.1)
  /-- Diagnostic by diagnostic the kinds and names are the same, and the places correspond. -/
  report : List.Forall₂ (Diagnostic.Corresponds c) (reportOf left.1) (reportOf right.1)

/-- Programs that compare equal are observed to do the same. -/
theorem observe_eq_of_same (env : Environment) {program other : Program}
    (same : Program.same program other = true) : observe env program = observe env other := by
  -- What is the same is the image under the renaming that changes nothing.
  have faithful : (Correspondence.along id id).Faithful env env :=
    Correspondence.byName_faithful Eq Eq env
  have alike : program.Corresponds (.along id id) env.config.initializerName
      env.config.initializerName other := Stmt.corresponds_of_sameAll _ _ _ same
  rw [alike.observe_eq_rename faithful, funext Event.rename_id, List.map_id']

/-- Resolution depends on nothing of a tree but its scoping skeleton. If two
programs are of the same shape, with the same names wherever a name binds or
refers to something, then both runs fault or neither does, and they record the
same depths and report the same diagnostics, on the nodes and spans at the same
places: whatever relation holds between all those of the programs holds between
those of the outcomes. In particular programs that compare equal have the same
outcome. -/
theorem resolution_depends_on_the_skeleton (env : Environment) :
    (∀ (node : NodeId → NodeId → Prop) (span : Span → Span → Prop) (program other : Program),
      program.Corresponds (.byName node span) env.config.initializerName
          env.config.initializerName other →
        SameOutcome (.byName node span) (observe env program) (observe env other)) ∧
      ∀ program other : Program, Program.same program other = true →
        resolve env program = resolve env other := by
  constructor
  · intro node span program other alike
    obtain ⟨events, fault⟩ :=
      Program.Corresponds.observe (Correspondence.byName_faithful node span env) alike
    exact ⟨fault, depthsOf_corresponds events, reportOf_corresponds events⟩
  · intro program other same
    rw [resolve, resolve, observe_eq_of_same env same]

/-- A node with its number for an offset. -/
def nodeAt (number : Nat) : Node := ⟨⟨.ofNat number⟩, ⟨number, 1⟩⟩

/-- A variable that is assigned although it is immutable: `let a = value; a = op a;`,
with its nodes and names numbered from `first` on. -/
def reassigned (first : Nat) (value : Literal) (op : UnaryOp) (ty : Option Ty) : Program :=
  [.letDecl (nodeAt first) ⟨"a", (nodeAt (first + 1)).span⟩ false ty
      (some (.literal (nodeAt (first + 2)) value)) false,
    .expression (nodeAt (first + 3)) (.assign (nodeAt (first + 4))
      ⟨"a", (nodeAt (first + 5)).span⟩ (.unary (nodeAt (first + 6)) op
        (.var (nodeAt (first + 7)) ⟨"a", (nodeAt (first + 8)).span⟩)))]

/-- Two programs that differ in numbers, spans, a literal, an operator and a type. -/
theorem resolution_of_reassigned :
    (reassigned 0 .nil .neg none).Corresponds
        (.byName (fun left right => right.val = left.val + 10)
          fun left right => right.offset = left.offset + 10) "init" "init"
        (reassigned 10 (.bool true) .not (some (.any true default))) ∧
      SameOutcome (.byName (fun left right => right.val = left.val + 10)
          fun left right => right.offset = left.offset + 10)
        (observe .watchful (reassigned 0 .nil .neg none))
        (observe .watchful (reassigned 10 (.bool true) .not (some (.any true default)))) ∧
      depthsOf (observe .watchful (reassigned 10 (.bool true) .not none)).1 =
        [(⟨17⟩, 0), (⟨14⟩, 0)] ∧
      ∃ resolution, resolve .watchful (reassigned 0 .nil .neg none) = .ok resolution ∧
        resolution.depths.depthOf? ⟨7⟩ = some 0 ∧ resolution.depths.depthOf? ⟨4⟩ = some 0 ∧
        resolution.depths.size = 2 ∧
        resolution.report = [.error (.reassignImmutable "a" ⟨5, 1⟩ ⟨1, 1⟩)] := by
  have alike : (reassigned 0 .nil .neg none).Corresponds
      (.byName (fun left right => right.val = left.val + 10)
        fun left right => right.offset = left.offset + 10) "init" "init"
      (reassigned 10 (.bool true) .not (some (.any true default))) :=
    .cons (.letDecl ⟨rfl, rfl⟩ ⟨rfl, rfl⟩ false none _ (.some (.literal ⟨rfl, rfl⟩ _ _)) false)
      (.cons (.expression ⟨rfl, rfl⟩ (.assign ⟨rfl, rfl⟩ ⟨rfl, rfl⟩
        (.unary ⟨rfl, rfl⟩ .neg .not (.var ⟨rfl, rfl⟩ ⟨rfl, rfl⟩)))) .nil)
  have holds := resolution_depends_on_the_skeleton .watchful
  exact ⟨alike, holds.1 _ _ _ _ alike, rfl,
    _, (holds.2 _ (reassigned 0 .nil .neg none) rfl).trans rfl, rfl, rfl, rfl, rfl⟩

end NameResolution
