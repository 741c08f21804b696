import NameResolution.Proofs.Correspondence.Scopes

/-!
# Trees that correspond

Trees correspond if they are of the same shape, with corresponding nodes at the
same places and corresponding names wherever a name binds or refers to
something. Literal values, operators, the names of members, types other than
their mutable flag and the spans of declarations are left free, and so are the
names of methods as long as the same methods initialize. Trees that correspond
are walked by corresponding steps.
-/

namespace NameResolution

/-- Parameters of corresponding names that are mutable alike. -/
structure Param.Corresponds (c : Correspondence) (left right : Param) : Prop where
  name : left.name.Corresponds c right.name
  mutable : left.isMutable = right.isMutable

mutual

/-- Expressions that correspond, where `init` and `init'` are the names that mark
initializers. -/
inductive Expr.Corresponds (c : Correspondence) (init init' : String) : Expr → Expr → Prop where
  | literal {node node' : Node} (numbered : node.Corresponds c node') (value value' : Literal) :
      Expr.Corresponds c init init' (.literal node value) (.literal node' value')
  | array {node node' : Node} {elements elements' : List Expr}
      (numbered : node.Corresponds c node')
      (alike : List.Forall₂ (Expr.Corresponds c init init') elements elements') :
      Expr.Corresponds c init init' (.array node elements) (.array node' elements')
  | assign {node node' : Node} {name name' : Ident} {value value' : Expr}
      (numbered : node.Corresponds c node') (named : name.Corresponds c name')
      (alike : Expr.Corresponds c init init' value value') :
      Expr.Corresponds c init init' (.assign node name value) (.assign node' name' value')
  | var {node node' : Node} {name name' : Ident} (numbered : node.Corresponds c node')
      (named : name.Corresponds c name') :
      Expr.Corresponds c init init' (.var node name) (.var node' name')
  | mutArg {node node' : Node} {name name' : Ident} (numbered : node.Corresponds c node')
      (named : name.Corresponds c name') :
      Expr.Corresponds c init init' (.mutArg node name) (.mutArg node' name')
  | binary {node node' : Node} {left left' right right' : Expr}
      (numbered : node.Corresponds c node') (first : Expr.Corresponds c init init' left left')
      (op op' : BinaryOp) (second : Expr.Corresponds c init init' right right') :
      Expr.Corresponds c init init' (.binary node left op right) (.binary node' left' op' right')
  | logical {node node' : Node} {left left' right right' : Expr}
      (numbered : node.Corresponds c node') (first : Expr.Corresponds c init init' left left')
      (op op' : LogicalOp) (second : Expr.Corresponds c init init' right right') :
      Expr.Corresponds c init init' (.logical node left op right) (.logical node' left' op' right')
  | unary {node node' : Node} {operand operand' : Expr} (numbered : node.Corresponds c node')
      (op op' : UnaryOp) (alike : Expr.Corresponds c init init' operand operand') :
      Expr.Corresponds c init init' (.unary node op operand) (.unary node' op' operand')
  | grouping {node node' : Node} {inner inner' : Expr} (numbered : node.Corresponds c node')
      (alike : Expr.Corresponds c init init' inner inner') :
      Expr.Corresponds c init init' (.grouping node inner) (.grouping node' inner')
  | call {node node' : Node} {callee callee' : Expr} {args args' : List Expr}
      (numbered : node.Corresponds c node') (called : Expr.Corresponds c init init' callee callee')
      (alike : List.Forall₂ (Expr.Corresponds c init init') args args') :
      Expr.Corresponds c init init' (.call node callee args) (.call node' callee' args')
  | get {node node' : Node} {object object' : Expr} (numbered : node.Corresponds c node')
      (alike : Expr.Corresponds c init init' object object') (name name' : Ident) :
      Expr.Corresponds c init init' (.get node object name) (.get node' object' name')
  | set {node node' : Node} {object object' value value' : Expr}
      (numbered : node.Corresponds c node') (holder : Expr.Corresponds c init init' object object')
      (name name' : Ident) (alike : Expr.Corresponds c init init' value value') :
      Expr.Corresponds c init init' (.set node object name value) (.set node' object' name' value')
  | index {node node' : Node} {object object' index index' : Expr}
      (numbered : node.Corresponds c node') (holder : Expr.Corresponds c init init' object object')
      (alike : Expr.Corresponds c init init' index index') :
      Expr.Corresponds c init init' (.index node object index) (.index node' object' index')
  | this {node node' : Node} (numbered : node.Corresponds c node') :
      Expr.Corresponds c init init' (.this node) (.this node')
  | super {node node' : Node} (numbered : node.Corresponds c node') (method method' : Ident) :
      Expr.Corresponds c init init' (.super node method) (.super node' method')
  | structInit {node node' : Node} {name name' : Ident} {fields fields' : List FieldInit}
      (numbered : node.Corresponds c node') (named : name.Corresponds c name')
      (alike : List.Forall₂ (FieldInit.Corresponds c init init') fields fields') :
      Expr.Corresponds c init init' (.structInit node name fields) (.structInit node' name' fields')
  | lambda {node node' : Node} {decl decl' : FunctionDecl} (numbered : node.Corresponds c node')
      (alike : FunctionDecl.Corresponds c init init' decl decl') :
      Expr.Corresponds c init init' (.lambda node decl) (.lambda node' decl')

/-- Fields with values that correspond. -/
inductive FieldInit.Corresponds (c : Correspondence) (init init' : String) :
    FieldInit → FieldInit → Prop where
  | of (name name' : Ident) {value value' : Expr}
      (alike : Expr.Corresponds c init init' value value') :
      FieldInit.Corresponds c init init' ⟨name, value⟩ ⟨name', value'⟩

/-- Functions with parameters and bodies that correspond. -/
inductive FunctionDecl.Corresponds (c : Correspondence) (init init' : String) :
    FunctionDecl → FunctionDecl → Prop where
  | of (name name' : Option Ident) {params params' : List Param}
      (returnType returnType' : Option Ty) {body body' : List Stmt} (foreign : Bool)
      (span span' : Span)
      (taken : List.Forall₂ (Param.Corresponds c) params params')
      (alike : List.Forall₂ (Stmt.Corresponds c init init') body body') :
      FunctionDecl.Corresponds c init init' ⟨name, params, returnType, body, foreign, span⟩
        ⟨name', params', returnType', body', foreign, span'⟩

/-- Methods that correspond and that both initialize, or both do not. -/
inductive FunctionDecl.MethodsCorrespond (c : Correspondence) (init init' : String) :
    FunctionDecl → FunctionDecl → Prop where
  | of {method method' : FunctionDecl} (kind : methodKind init method = methodKind init' method')
      (alike : FunctionDecl.Corresponds c init init' method method') :
      FunctionDecl.MethodsCorrespond c init init' method method'

/-- Statements that correspond. -/
inductive Stmt.Corresponds (c : Correspondence) (init init' : String) : Stmt → Stmt → Prop where
  | block {node node' : Node} {body body' : List Stmt} (numbered : node.Corresponds c node')
      (alike : List.Forall₂ (Stmt.Corresponds c init init') body body') :
      Stmt.Corresponds c init init' (.block node body) (.block node' body')
  | breakLoop {node node' : Node} (numbered : node.Corresponds c node') :
      Stmt.Corresponds c init init' (.breakLoop node) (.breakLoop node')
  | continueLoop {node node' : Node} (numbered : node.Corresponds c node') :
      Stmt.Corresponds c init init' (.continueLoop node) (.continueLoop node')
  | letDecl {node node' : Node} {name name' : Ident} {initial initial' : Option Expr}
      (numbered : node.Corresponds c node') (named : name.Corresponds c name') (mutable : Bool)
      (ty ty' : Option Ty) (alike : Option.Rel (Expr.Corresponds c init init') initial initial')
      (foreign : Bool) :
      Stmt.Corresponds c init init' (.letDecl node name mutable ty initial foreign)
        (.letDecl node' name' mutable ty' initial' foreign)
  | forRange {node node' : Node} {counter counter' : Option Ident}
      {lower lower' upper upper' : Expr} {body body' : List Stmt}
      (numbered : node.Corresponds c node')
      (counted : Option.Rel (Ident.Corresponds c) counter counter')
      (first : Expr.Corresponds c init init' lower lower')
      (second : Expr.Corresponds c init init' upper upper')
      (alike : List.Forall₂ (Stmt.Corresponds c init init') body body') :
      Stmt.Corresponds c init init' (.forRange node counter lower upper body)
        (.forRange node' counter' lower' upper' body')
  | forEach {node node' : Node} {item item' : Ident} {collection collection' : Expr}
      {body body' : List Stmt} (numbered : node.Corresponds c node')
      (named : item.Corresponds c item')
      (first : Expr.Corresponds c init init' collection collection')
      (alike : List.Forall₂ (Stmt.Corresponds c init init') body body') :
      Stmt.Corresponds c init init' (.forEach node item collection body)
        (.forEach node' item' collection' body')
  | whileLoop {node node' : Node} {condition condition' : Option Expr} {body body' : List Stmt}
      (numbered : node.Corresponds c node')
      (first : Option.Rel (Expr.Corresponds c init init') condition condition')
      (alike : List.Forall₂ (Stmt.Corresponds c init init') body body') :
      Stmt.Corresponds c init init' (.whileLoop node condition body)
        (.whileLoop node' condition' body')
  | function {node node' : Node} {decl decl' : FunctionDecl} (numbered : node.Corresponds c node')
      (named : Option.Rel (Ident.Corresponds c) decl.name decl'.name)
      (alike : FunctionDecl.Corresponds c init init' decl decl') :
      Stmt.Corresponds c init init' (.function node decl) (.function node' decl')
  | expression {node node' : Node} {value value' : Expr} (numbered : node.Corresponds c node')
      (alike : Expr.Corresponds c init init' value value') :
      Stmt.Corresponds c init init' (.expression node value) (.expression node' value')
  | print {node node' : Node} {value value' : Expr} (numbered : node.Corresponds c node')
      (alike : Expr.Corresponds c init init' value value') :
      Stmt.Corresponds c init init' (.print node value) (.print node' value')
  | ifElse {node node' : Node} {condition condition' : Expr} {thenBranch thenBranch' : Stmt}
      {elseBranch elseBranch' : Option Stmt} (numbered : node.Corresponds c node')
      (first : Expr.Corresponds c init init' condition condition')
      (second : Stmt.Corresponds c init init' thenBranch thenBranch')
      (third : Option.Rel (Stmt.Corresponds c init init') elseBranch elseBranch') :
      Stmt.Corresponds c init init' (.ifElse node condition thenBranch elseBranch)
        (.ifElse node' condition' thenBranch' elseBranch')
  | ret {node node' : Node} {value value' : Option Expr} (numbered : node.Corresponds c node')
      (alike : Option.Rel (Expr.Corresponds c init init') value value') :
      Stmt.Corresponds c init init' (.ret node value) (.ret node' value')
  | structDecl {node node' : Node} {name name' : Ident} {members members' : List Stmt}
      (numbered : node.Corresponds c node') (named : name.Corresponds c name')
      (alike : List.Forall₂ (Stmt.Corresponds c init init') members members') :
      Stmt.Corresponds c init init' (.structDecl node name members)
        (.structDecl node' name' members')
  | classDecl {node node' : Node} {name name' : Ident} {superclass superclass' : Option Expr}
      {methods methods' : List FunctionDecl} (numbered : node.Corresponds c node')
      (named : name.Corresponds c name')
      (first : Option.Rel (Expr.Corresponds c init init') superclass superclass')
      (alike : List.Forall₂ (FunctionDecl.MethodsCorrespond c init init') methods methods') :
      Stmt.Corresponds c init init' (.classDecl node name superclass methods)
        (.classDecl node' name' superclass' methods')

end

/-- Programs of the same length, statement by statement corresponding. -/
def Program.Corresponds (c : Correspondence) (init init' : String) (left right : Program) : Prop :=
  List.Forall₂ (Stmt.Corresponds c init init') left right

variable {c : Correspondence} {init init' : String}

/-- Expressions that correspond have corresponding nodes. -/
theorem Expr.Corresponds.node {expr expr' : Expr} (alike : expr.Corresponds c init init' expr') :
    expr.node.Corresponds c expr'.node := by
  cases alike <;> assumption

/-- Statements that correspond have corresponding nodes. -/
theorem Stmt.Corresponds.node {stmt stmt' : Stmt} (alike : stmt.Corresponds c init init' stmt') :
    stmt.node.Corresponds c stmt'.node := by
  cases alike <;> assumption

/-- Statements that correspond are terminal alike. -/
theorem Stmt.Corresponds.isTerminal {stmt stmt' : Stmt}
    (alike : stmt.Corresponds c init init' stmt') : stmt.isTerminal = stmt'.isTerminal := by
  cases alike <;> rfl

/-- Expressions that correspond are variables alike. -/
theorem Expr.Corresponds.asVariable? {expr expr' : Expr}
    (alike : expr.Corresponds c init init' expr') :
    Option.Rel (Ident.Corresponds c) expr.asVariable? expr'.asVariable? := by
  cases alike with
  | var numbered named => exact .some named
  | _ => exact .none

/-- Lists that are related element by element are empty alike. -/
theorem isEmpty_eq_of_forall₂ {α β : Type} {related : α → β → Prop} {left : List α}
    {right : List β} (alike : List.Forall₂ related left right) :
    left.isEmpty = right.isEmpty := by
  cases alike <;> rfl

/-- Steps on either side, one by one corresponding. -/
abbrev StepsCorrespond (c : Correspondence) (left right : List Step) : Prop :=
  List.Forall₂ (Step.Corresponds c) left right

namespace StepsCorrespond

variable {name name' : Ident} {node node' : Node}

/-- Corresponding steps followed by corresponding steps correspond. -/
theorem append {first first' second second' : List Step} (one : StepsCorrespond c first first')
    (two : StepsCorrespond c second second') :
    StepsCorrespond c (first ++ second) (first' ++ second') :=
  List.rel_append one two

/-- Corresponding names are taken and given a value alike. -/
theorem bind (named : name.Corresponds c name') (mutable member : Bool) :
    StepsCorrespond c (Step.bind name mutable member) (Step.bind name' mutable member) :=
  .cons (.declare named mutable member) (.cons (.define named) .nil)

/-- References to `this` make corresponding steps in one context, if `this` corresponds to
itself. -/
theorem this (context : Context) (faithful : c.name "this" "this")
    (numbered : node.Corresponds c node') :
    StepsCorrespond c (Step.this context node) (Step.this context node') := by
  unfold Step.this
  split
  · exact .cons (.resolve numbered.id ⟨faithful, numbered.span⟩ .read) .nil
  · exact .cons (.report (.thisOutsideClass numbered.span)) .nil

/-- References to `super` make corresponding steps in one context, if `super` corresponds to
itself. -/
theorem super (context : Context) (faithful : c.name "super" "super")
    (numbered : node.Corresponds c node') :
    StepsCorrespond c (Step.super context node) (Step.super context node') := by
  unfold Step.super
  split
  · exact .cons (.report (.superOutsideClass numbered.span)) .nil
  · exact .cons (.report (.superWithoutSuperclass numbered.span)) .nil
  · exact .cons (.resolve numbered.id ⟨faithful, numbered.span⟩ .read) .nil

/-- Objects of the same form pass or fail the check of a member assignment alike. -/
theorem setTarget {span span' : Span} (place : c.span span span') {object object' : Expr}
    (alike : object.Corresponds c init init' object') :
    StepsCorrespond c (Step.setTarget span object) (Step.setTarget span' object') := by
  cases alike with
  | var numbered named => exact .cons (.checkMutate named place) .nil
  | get numbered alike name name' => exact .nil
  | index numbered holder alike => exact .nil
  | this numbered => exact .nil
  | _ => exact .cons (.abort ⟨rfl, Node.Corresponds.span ‹_›⟩) .nil

/-- Corresponding parameters are taken alike. -/
theorem params (foreign : Bool) {params params' : List Param}
    (taken : List.Forall₂ (Param.Corresponds c) params params') :
    StepsCorrespond c (Step.params foreign params) (Step.params foreign params') := by
  induction taken with
  | nil => exact .nil
  | cons here there ih =>
    simp only [Step.params, here.mutable]
    refine .cons (.declare here.name _ false) (append ?_ ih)
    split
    · exact .nil
    · exact .cons (.define here.name) .nil

/-- The runtime is asked for corresponding names, or for none. -/
theorem foreign (kind : ForeignKind) (isForeign : Bool) (named : name.Corresponds c name') :
    StepsCorrespond c (Step.foreign kind isForeign name) (Step.foreign kind isForeign name') := by
  unfold Step.foreign
  split
  · exact .cons (.requireForeign kind named) .nil
  · exact .nil

/-- Corresponding functions with corresponding names, or without any, bind them alike. -/
theorem functionName (context : Context) {decl decl' : FunctionDecl}
    (named : Option.Rel (Ident.Corresponds c) decl.name decl'.name)
    (alike : decl.Corresponds c init init' decl') :
    StepsCorrespond c (Step.functionName context decl) (Step.functionName context decl') := by
  cases alike with
  | of name name' returnType returnType' isForeign span span' taken alike =>
    cases named with
    | none => exact .nil
    | some named => exact (foreign .function isForeign named).append (bind named false _)

/-- Corresponding names without a first value make corresponding steps. -/
theorem uninitialized (context : Context) (named : name.Corresponds c name')
    (mutable isForeign : Bool) :
    StepsCorrespond c (Step.uninitialized context name mutable isForeign)
      (Step.uninitialized context name' mutable isForeign) := by
  unfold Step.uninitialized
  split
  · exact .cons (.define named) .nil
  · exact .cons (.report (.uninitializedImmutable named.name named.span))
      (.cons (.define named) (.cons (.excuse named.name) .nil))

/-- Classes that correspond name themselves as their superclass alike. -/
theorem selfInheritance {env other : Environment} (faithful : c.Faithful env other)
    (named : name.Corresponds c name') {superclass superclass' : Option Expr}
    (alike : Option.Rel (Expr.Corresponds c init init') superclass superclass') :
    StepsCorrespond c (Step.selfInheritance name superclass)
      (Step.selfInheritance name' superclass') := by
  cases alike with
  | none => exact .nil
  | some alike =>
    unfold Step.selfInheritance
    rw [Option.bind_some, Option.bind_some]
    rcases none_or_some_of_rel alike.asVariable? with
      ⟨other, other'⟩ | ⟨parent, parent', bare, bare', inherited⟩
    · rw [other, other']
      exact .nil
    · rw [bare, bare']
      dsimp only
      rw [faithful.beq inherited.name named.name]
      split
      · exact .cons (.report (.selfInheritance inherited.name inherited.span)) .nil
      · exact .nil

/-- A `return` outside of every function is reported at corresponding places. -/
theorem returnFrom (context : Context) {span span' : Span} (place : c.span span span') :
    StepsCorrespond c (Step.returnFrom context span) (Step.returnFrom context span') := by
  unfold Step.returnFrom
  split
  · exact .nil
  · exact .cons (.report (.topLevelReturn place)) .nil

/-- Corresponding bodies of loops are empty together, and that is reported at corresponding
places. -/
theorem loopBody {span span' : Span} (place : c.span span span') {body body' : List Stmt}
    (alike : List.Forall₂ (Stmt.Corresponds c init init') body body') :
    StepsCorrespond c (Step.loopBody span body) (Step.loopBody span' body') := by
  unfold Step.loopBody
  rw [isEmpty_eq_of_forall₂ alike]
  split
  · exact .cons (.report (.emptyLoopBody place)) .nil
  · exact .nil

/-- Corresponding statements hand control on alike, so the same is said between them and the
rest. -/
theorem between {stmt stmt' : Stmt} {rest rest' : List Stmt}
    (here : stmt.Corresponds c init init' stmt')
    (there : List.Forall₂ (Stmt.Corresponds c init init') rest rest') :
    StepsCorrespond c (Step.between stmt rest) (Step.between stmt' rest') := by
  unfold Step.between
  rw [here.isTerminal, isEmpty_eq_of_forall₂ there]
  split
  · exact .cons (.unreachable here.node.span) .nil
  · exact .nil

/-- Corresponding counters are bound alike, and missing counters are not bound. -/
theorem counter {counter counter' : Option Ident}
    (counted : Option.Rel (Ident.Corresponds c) counter counter') :
    StepsCorrespond c (counter.elim [] (Step.bind · false false))
      (counter'.elim [] (Step.bind · false false)) := by
  cases counted with
  | none => exact .nil
  | some named => exact bind named false false

end StepsCorrespond

/-- Superclasses that correspond make a class of the same kind. -/
theorem ofSuperclass_eq_of_rel {superclass superclass' : Option Expr}
    (alike : Option.Rel (Expr.Corresponds c init init') superclass superclass') :
    ClassKind.ofSuperclass superclass = ClassKind.ofSuperclass superclass' := by
  cases alike <;> rfl

variable {env other : Environment}

mutual

/-- Expressions that correspond are walked by corresponding steps. -/
theorem Expr.walk_corresponds (faithful : c.Faithful env other) (context : Context) :
    (expr expr' : Expr) → expr.Corresponds c init init' expr' →
      StepsCorrespond c (expr.walk init context) (expr'.walk init' context)
  | .literal .., _, .literal .. => .nil
  | .array _ elements, _, .array _ alike =>
    Expr.walkAll_corresponds faithful context elements _ alike
  | .assign _ _ value, _, .assign numbered named alike =>
    .cons (.checkAssign named) ((Expr.walk_corresponds faithful context value _ alike).append
      (.cons (.resolve numbered.id named .write) .nil))
  | .var .., _, .var numbered named => .cons (.readVariable numbered.id named) .nil
  | .mutArg .., _, .mutArg numbered named => .cons (.resolve numbered.id named .read) .nil
  | .binary _ left _ right, _, .binary _ first _ _ second =>
    (Expr.walk_corresponds faithful context left _ first).append
      (Expr.walk_corresponds faithful context right _ second)
  | .logical _ left _ right, _, .logical _ first _ _ second =>
    (Expr.walk_corresponds faithful context left _ first).append
      (Expr.walk_corresponds faithful context right _ second)
  | .unary _ _ operand, .unary _ _ operand', .unary _ _ _ alike =>
    Expr.walk_corresponds faithful context operand operand' alike
  | .grouping _ inner, .grouping _ inner', .grouping _ alike =>
    Expr.walk_corresponds faithful context inner inner' alike
  | .call _ callee args, _, .call _ called alike =>
    (Expr.walk_corresponds faithful context callee _ called).append
      (Expr.walkAll_corresponds faithful context args _ alike)
  | .get _ object _, .get _ object' _, .get _ alike _ _ =>
    Expr.walk_corresponds faithful context object object' alike
  | .set _ object _ value, _, .set numbered holder _ _ alike =>
    ((Expr.walk_corresponds faithful context value _ alike).append
      (Expr.walk_corresponds faithful context object _ holder)).append
        (.setTarget numbered.span holder)
  | .index _ object index, _, .index _ holder alike =>
    (Expr.walk_corresponds faithful context object _ holder).append
      (Expr.walk_corresponds faithful context index _ alike)
  | .this _, _, .this numbered => .this context faithful.this numbered
  | .super .., _, .super numbered _ _ => .super context faithful.super numbered
  | .structInit _ _ fields, _, .structInit numbered named alike =>
    (FieldInit.walkAll_corresponds faithful context fields _ alike).append
      (.cons (.resolve numbered.id named .read) .nil)
  | .lambda _ decl, _, .lambda _ alike =>
    FunctionDecl.walk_corresponds faithful context .function decl _ alike
  termination_by structural expr => expr

/-- The walks of corresponding expressions correspond. -/
theorem Expr.walkAll_corresponds (faithful : c.Faithful env other) (context : Context) :
    (exprs exprs' : List Expr) → List.Forall₂ (Expr.Corresponds c init init') exprs exprs' →
      StepsCorrespond c (Expr.walkAll init context exprs) (Expr.walkAll init' context exprs')
  | [], _, .nil => .nil
  | expr :: rest, _, .cons here there =>
    (Expr.walk_corresponds faithful context expr _ here).append
      (Expr.walkAll_corresponds faithful context rest _ there)
  termination_by structural exprs => exprs

/-- The walks of the values of corresponding fields correspond. -/
theorem FieldInit.walk_corresponds (faithful : c.Faithful env other) (context : Context) :
    (field field' : FieldInit) → field.Corresponds c init init' field' →
      StepsCorrespond c (field.walk init context) (field'.walk init' context)
  | ⟨_, value⟩, _, .of _ _ alike => Expr.walk_corresponds faithful context value _ alike
  termination_by structural field => field

/-- The walks of corresponding lists of fields correspond. -/
theorem FieldInit.walkAll_corresponds (faithful : c.Faithful env other) (context : Context) :
    (fields fields' : List FieldInit) →
      List.Forall₂ (FieldInit.Corresponds c init init') fields fields' →
      StepsCorrespond c (FieldInit.walkAll init context fields)
        (FieldInit.walkAll init' context fields')
  | [], _, .nil => .nil
  | field :: rest, _, .cons here there =>
    (FieldInit.walk_corresponds faithful context field _ here).append
      (FieldInit.walkAll_corresponds faithful context rest _ there)
  termination_by structural fields => fields

/-- Functions that correspond are walked by corresponding steps. -/
theorem FunctionDecl.walk_corresponds (faithful : c.Faithful env other) (context : Context)
    (kind : FunctionKind) :
    (decl decl' : FunctionDecl) → decl.Corresponds c init init' decl' →
      StepsCorrespond c (decl.walk init context kind) (decl'.walk init' context kind)
  | ⟨_, _, _, body, foreign, _⟩, _, .of _ _ _ _ _ _ _ taken alike =>
    .cons .openScope (((StepsCorrespond.params foreign taken).append
      (Stmt.walkAll_corresponds faithful (context.insideFunction kind) body _ alike)).append
        (.cons .closeScope .nil))
  termination_by structural decl => decl

/-- The walks of corresponding methods correspond. -/
theorem FunctionDecl.walkMethods_corresponds (faithful : c.Faithful env other)
    (context : Context) :
    (methods methods' : List FunctionDecl) →
      List.Forall₂ (FunctionDecl.MethodsCorrespond c init init') methods methods' →
      StepsCorrespond c (FunctionDecl.walkMethods init context methods)
        (FunctionDecl.walkMethods init' context methods')
  | [], _, .nil => .nil
  | method :: rest, _, .cons (.of kind here) there => by
    simp only [FunctionDecl.walkMethods, ← kind]
    exact (FunctionDecl.walk_corresponds faithful context _ method _ here).append
      (FunctionDecl.walkMethods_corresponds faithful context rest _ there)
  termination_by structural methods => methods

/-- The walks of corresponding expressions that may be missing correspond. -/
theorem Expr.walk?_corresponds (faithful : c.Faithful env other) (context : Context) :
    (expr expr' : Option Expr) → Option.Rel (Expr.Corresponds c init init') expr expr' →
      StepsCorrespond c (Expr.walk? init context expr) (Expr.walk? init' context expr')
  | none, _, .none => .nil
  | some expr, _, .some alike => Expr.walk_corresponds faithful context expr _ alike
  termination_by structural expr => expr

/-- The values that statements of the same function return are walked, or
reported, alike. -/
theorem Expr.walkReturned_corresponds (faithful : c.Faithful env other) (context : Context) :
    (value value' : Option Expr) → Option.Rel (Expr.Corresponds c init init') value value' →
      StepsCorrespond c (Expr.walkReturned init context value)
        (Expr.walkReturned init' context value')
  | none, _, .none => .nil
  | some value, _, .some alike => by
    simp only [Expr.walkReturned]
    split
    · exact .cons (.report (.initializerReturnValue alike.node.span)) .nil
    · exact Expr.walk_corresponds faithful context value _ alike
  termination_by structural value => value

/-- The walks of corresponding superclasses correspond. -/
theorem Expr.walkSuperclass_corresponds (faithful : c.Faithful env other) (context : Context) :
    (superclass superclass' : Option Expr) →
      Option.Rel (Expr.Corresponds c init init') superclass superclass' →
      StepsCorrespond c (Expr.walkSuperclass init context superclass)
        (Expr.walkSuperclass init' context superclass')
  | none, _, .none => .nil
  | some parent, _, .some alike =>
    (Expr.walk_corresponds faithful context parent _ alike).append
      (.cons .openScope (.cons (.bindPseudo faithful.super alike.node.span) .nil))
  termination_by structural superclass => superclass

/-- Statements that correspond are walked by corresponding steps. -/
theorem Stmt.walk_corresponds (faithful : c.Faithful env other) (context : Context) :
    (stmt stmt' : Stmt) → stmt.Corresponds c init init' stmt' →
      StepsCorrespond c (stmt.walk init context) (stmt'.walk init' context)
  | .block _ body, _, .block _ alike =>
    .cons .openScope ((Stmt.walkAll_corresponds faithful context body _ alike).append
      (.cons .closeScope .nil))
  | .breakLoop _, _, .breakLoop _ => .nil
  | .continueLoop _, _, .continueLoop _ => .nil
  | .letDecl _ _ _ _ (some value) _, _, .letDecl _ named mutable _ _ (.some alike) foreign =>
    (StepsCorrespond.foreign .variable foreign named).append
      (.cons (.declare named mutable context.inStruct)
        ((Expr.walk_corresponds faithful context value _ alike).append
          (.cons (.define named) .nil)))
  | .letDecl _ _ _ _ none _, _, .letDecl _ named mutable _ _ .none foreign =>
    (StepsCorrespond.foreign .variable foreign named).append
      (.cons (.declare named mutable context.inStruct)
        (StepsCorrespond.uninitialized context named mutable foreign))
  | .forRange _ _ lower upper body, _, .forRange numbered counted first second alike =>
    ((Expr.walk_corresponds faithful context lower _ first).append
      (Expr.walk_corresponds faithful context upper _ second)).append
        (.cons .openScope ((((StepsCorrespond.counter counted).append
          (.loopBody numbered.span alike)).append
            (Stmt.walkAll_corresponds faithful context body _ alike)).append
              (.cons .closeScope .nil)))
  | .forEach _ _ collection body, _, .forEach numbered named first alike =>
    (Expr.walk_corresponds faithful context collection _ first).append
      (.cons .openScope ((((StepsCorrespond.bind named false false).append
        (.loopBody numbered.span alike)).append
          (Stmt.walkAll_corresponds faithful context body _ alike)).append
            (.cons .closeScope .nil)))
  | .whileLoop _ condition body, _, .whileLoop _ first alike =>
    (Expr.walk?_corresponds faithful context condition _ first).append
      (.cons .openScope ((Stmt.walkAll_corresponds faithful context body _ alike).append
        (.cons .closeScope .nil)))
  | .function _ decl, _, .function _ named alike =>
    (StepsCorrespond.functionName context named alike).append
      (FunctionDecl.walk_corresponds faithful context .function decl _ alike)
  | .expression _ value, _, .expression _ alike =>
    Expr.walk_corresponds faithful context value _ alike
  | .print _ value, _, .print _ alike => Expr.walk_corresponds faithful context value _ alike
  | .ifElse _ condition thenBranch elseBranch, _, .ifElse _ first second third =>
    ((Expr.walk_corresponds faithful context condition _ first).append
      (Stmt.walk_corresponds faithful context thenBranch _ second)).append
        (Stmt.walk?_corresponds faithful context elseBranch _ third)
  | .ret _ value, _, .ret numbered alike =>
    (StepsCorrespond.returnFrom context numbered.span).append
      (Expr.walkReturned_corresponds faithful context value _ alike)
  | .structDecl _ _ members, _, .structDecl _ named alike =>
    (StepsCorrespond.bind named false context.inStruct).append
      (.cons .openScope
        ((Stmt.walkAll_corresponds faithful (context.enterStruct .struct) members _ alike).append
          (.cons .closeScope .nil)))
  | .classDecl _ name superclass methods, .classDecl _ _ superclass' _,
      .classDecl _ named first alike => by
    simp only [Stmt.walk, ← ofSuperclass_eq_of_rel first]
    refine .append (.append (.append (.append (.append (.append
      (.selfInheritance faithful named first) (.bind named false _))
      (Expr.walkSuperclass_corresponds faithful _ superclass _ first))
      (.cons .openScope (.cons (.bindPseudo faithful.this named.span) .nil)))
      (FunctionDecl.walkMethods_corresponds faithful _ methods _ alike))
      (.cons .closeScope .nil)) ?_
    cases first with
    | none => exact .nil
    | some alike => exact .cons .closeScope .nil
  termination_by structural stmt => stmt

/-- The walks of corresponding statements that may be missing correspond. -/
theorem Stmt.walk?_corresponds (faithful : c.Faithful env other) (context : Context) :
    (stmt stmt' : Option Stmt) → Option.Rel (Stmt.Corresponds c init init') stmt stmt' →
      StepsCorrespond c (Stmt.walk? init context stmt) (Stmt.walk? init' context stmt')
  | none, _, .none => .nil
  | some stmt, _, .some alike => Stmt.walk_corresponds faithful context stmt _ alike
  termination_by structural stmt => stmt

/-- The walks of corresponding statement lists correspond. -/
theorem Stmt.walkAll_corresponds (faithful : c.Faithful env other) (context : Context) :
    (stmts stmts' : List Stmt) → List.Forall₂ (Stmt.Corresponds c init init') stmts stmts' →
      StepsCorrespond c (Stmt.walkAll init context stmts) (Stmt.walkAll init' context stmts')
  | [], _, .nil => .nil
  | stmt :: rest, _, .cons here there =>
    ((Stmt.walk_corresponds faithful context stmt _ here).append (.between here there)).append
      (Stmt.walkAll_corresponds faithful context rest _ there)
  termination_by structural stmts => stmts

end

/-- Programs that correspond are observed to do corresponding things. -/
theorem Program.Corresponds.observe (faithful : c.Faithful env other) {program program' : Program}
    (alike : program.Corresponds c env.config.initializerName other.config.initializerName
      program') :
    List.Forall₂ (Event.Corresponds c) (NameResolution.observe env program).1
        (NameResolution.observe other program').1 ∧
      Option.Rel (Fault.Corresponds c) (NameResolution.observe env program).2
        (NameResolution.observe other program').2 := by
  apply observe_corresponds faithful alike.length_eq
  exact .cons .openScope ((Stmt.walkAll_corresponds faithful .outermost _ _ alike).append
    (.cons .closeScope .nil))

end NameResolution
