import NameResolution.Syntax.Draft

/-!
# Numbering drafts

Numbers and spans are handed out from two counters while a draft is turned
into a tree. Children come before their parent, so the number of a node is the
greatest of its subtree; the names of a node come after its children, and its
own number and span come last.
-/

namespace NameResolution

/-- What has been handed out so far: the next node number and the next offset. -/
structure Counter where
  nextId : UInt32
  nextOffset : Nat
deriving DecidableEq, Inhabited

namespace Counter

/-- Nothing has been handed out. -/
def start : Counter := ⟨0, 0⟩

/-- How many node numbers have been handed out. -/
def nodeCount (counter : Counter) : Nat := counter.nextId.toNat

end Counter

/-- A computation that draws numbers and spans. -/
abbrev Numbering := StateM Counter

namespace Numbering

/-- The next node number. -/
def nodeId : Numbering NodeId := fun counter =>
  (⟨counter.nextId⟩, { counter with nextId := counter.nextId + 1 })

/-- The next span, one unit long. -/
def span : Numbering Span := fun counter =>
  (⟨counter.nextOffset, 1⟩, { counter with nextOffset := counter.nextOffset + 1 })

/-- A number, then a span. -/
def node : Numbering Node := do
  let id ← nodeId
  let span ← span
  return ⟨id, span⟩

/-- A name at the next span. -/
def ident (name : String) : Numbering Ident := do
  let span ← span
  return ⟨name, span⟩

/-- Names at the next spans, from left to right. -/
def idents : List String → Numbering (List Ident)
  | [] => return []
  | name :: rest => do
    let first ← ident name
    let others ← idents rest
    return first :: others

/-- A name that may be missing, at the next span if it is there. -/
def ident? : Option String → Numbering (Option Ident)
  | none => return none
  | some name => do
    let ident ← ident name
    return some ident

end Numbering

namespace Draft

/-- Put `span` into an identifier, if there is one to put. -/
def respan (span : Option Span) (ident : Ident) : Ident :=
  { ident with span := span.getD ident.span }

/-- The node with the pinned number and span. -/
def Pin.onNode (pin : Pin) (node : Node) : Node :=
  ⟨pin.id.getD node.id, pin.span.getD node.span⟩

/-- The identifier with the pinned span. -/
def Pin.onName (pin : Pin) (name : Ident) : Ident :=
  respan pin.nameSpan name

/-- Replace the pinned positions of one expression. Its children stay as they are. -/
def Pin.onExpr (pin : Pin) : NameResolution.Expr → NameResolution.Expr
  | .literal node value => .literal (pin.onNode node) value
  | .array node elements => .array (pin.onNode node) elements
  | .assign node name value => .assign (pin.onNode node) (pin.onName name) value
  | .var node name => .var (pin.onNode node) (pin.onName name)
  | .mutArg node name => .mutArg (pin.onNode node) (pin.onName name)
  | .binary node left op right => .binary (pin.onNode node) left op right
  | .logical node left op right => .logical (pin.onNode node) left op right
  | .unary node op operand => .unary (pin.onNode node) op operand
  | .grouping node inner => .grouping (pin.onNode node) inner
  | .call node callee args => .call (pin.onNode node) callee args
  | .get node object name => .get (pin.onNode node) object (pin.onName name)
  | .set node object name value => .set (pin.onNode node) object (pin.onName name) value
  | .index node object index => .index (pin.onNode node) object index
  | .this node => .this (pin.onNode node)
  | .super node method => .super (pin.onNode node) (pin.onName method)
  | .structInit node name fields => .structInit (pin.onNode node) (pin.onName name) fields
  | .lambda node decl => .lambda (pin.onNode node) decl

/-- Replace the pinned positions of one statement. The name of a function
statement belongs to its declaration and is amended there. -/
def Pin.onStmt (pin : Pin) : NameResolution.Stmt → NameResolution.Stmt
  | .block node body => .block (pin.onNode node) body
  | .breakLoop node => .breakLoop (pin.onNode node)
  | .continueLoop node => .continueLoop (pin.onNode node)
  | .letDecl node name mutable ty initial foreign =>
    .letDecl (pin.onNode node) (pin.onName name) mutable ty initial foreign
  | .forRange node counter lower upper body =>
    .forRange (pin.onNode node) (counter.map pin.onName) lower upper body
  | .forEach node item collection body =>
    .forEach (pin.onNode node) (pin.onName item) collection body
  | .whileLoop node condition body => .whileLoop (pin.onNode node) condition body
  | .function node decl => .function (pin.onNode node) decl
  | .expression node value => .expression (pin.onNode node) value
  | .print node value => .print (pin.onNode node) value
  | .ifElse node condition thenBranch elseBranch =>
    .ifElse (pin.onNode node) condition thenBranch elseBranch
  | .ret node value => .ret (pin.onNode node) value
  | .structDecl node name members => .structDecl (pin.onNode node) (pin.onName name) members
  | .classDecl node name superclass methods =>
    .classDecl (pin.onNode node) (pin.onName name) superclass methods

mutual

/-- Number a type annotation. -/
def Ty.number : Ty → Numbering NameResolution.Ty
  | .any => do
    let span ← Numbering.span
    return .any false span
  | .named name => do
    let name ← Numbering.ident name
    let span ← Numbering.span
    return .named name false span
  | .array element => do
    let element ← element.number
    let span ← Numbering.span
    return .array element false span
  | .function params result => do
    let params ← Ty.numberAll params
    let result ← result.number
    let span ← Numbering.span
    return .function params result false span
  | .mutable inner => do
    let inner ← inner.number
    return inner.asMutable
  termination_by structural ty => ty

/-- Number type annotations from left to right. -/
def Ty.numberAll : List Ty → Numbering (List NameResolution.Ty)
  | [] => return []
  | ty :: rest => do
    let ty ← ty.number
    let rest ← Ty.numberAll rest
    return ty :: rest
  termination_by structural tys => tys

end

/-- Number a type annotation that may be missing. -/
def Ty.number? : Option Ty → Numbering (Option NameResolution.Ty)
  | none => return none
  | some ty => do
    let ty ← ty.number
    return some ty

/-- Number a parameter: its name, its plain type, then the annotation that
replaces that type. -/
def Param.number (param : Param) : Numbering NameResolution.Param := do
  let name ← Numbering.ident param.name
  let plain ← Numbering.span
  let ty ← Ty.number? param.ty
  return ⟨respan param.nameSpan name, ty.getD (.any param.mutable plain)⟩

/-- Number parameters from left to right. -/
def Param.numberAll : List Param → Numbering (List NameResolution.Param)
  | [] => return []
  | param :: rest => do
    let param ← param.number
    let rest ← Param.numberAll rest
    return param :: rest

/-- Change a numbered declaration. A return type takes its spans here. -/
def Amendment.apply (amendment : Amendment) (decl : NameResolution.FunctionDecl) :
    Numbering NameResolution.FunctionDecl := do
  let returnType ← Ty.number? amendment.returnType
  let name := if amendment.anonymous then none else decl.name
  return {
    decl with
    foreign := amendment.foreign.getD decl.foreign
    name := name.map (respan amendment.nameSpan)
    returnType := returnType.or decl.returnType
    span := amendment.declSpan.getD decl.span }

mutual

/-- Number an expression. -/
def Expr.number : Expr → Numbering NameResolution.Expr
  | .literal value => do
    let node ← Numbering.node
    return .literal node value
  | .array elements => do
    let elements ← Expr.numberAll elements
    let node ← Numbering.node
    return .array node elements
  | .assign name value => do
    let value ← value.number
    let name ← Numbering.ident name
    let node ← Numbering.node
    return .assign node name value
  | .var name => do
    let name ← Numbering.ident name
    let node ← Numbering.node
    return .var node name
  | .mutArg name => do
    let name ← Numbering.ident name
    let node ← Numbering.node
    return .mutArg node name
  | .binary left op right => do
    let left ← left.number
    let right ← right.number
    let node ← Numbering.node
    return .binary node left op right
  | .logical left op right => do
    let left ← left.number
    let right ← right.number
    let node ← Numbering.node
    return .logical node left op right
  | .unary op operand => do
    let operand ← operand.number
    let node ← Numbering.node
    return .unary node op operand
  | .grouping inner => do
    let inner ← inner.number
    let node ← Numbering.node
    return .grouping node inner
  | .call callee args => do
    let callee ← callee.number
    let args ← Expr.numberAll args
    let node ← Numbering.node
    return .call node callee args
  | .get object name => do
    let object ← object.number
    let name ← Numbering.ident name
    let node ← Numbering.node
    return .get node object name
  | .set object name value => do
    let object ← object.number
    let value ← value.number
    let name ← Numbering.ident name
    let node ← Numbering.node
    return .set node object name value
  | .index object index => do
    let object ← object.number
    let index ← index.number
    let node ← Numbering.node
    return .index node object index
  | .this => do
    let node ← Numbering.node
    return .this node
  | .super method => do
    let method ← Numbering.ident method
    let node ← Numbering.node
    return .super node method
  | .structInit name fields => do
    let values ← FieldInit.numberAll fields
    let labels ← Numbering.idents (fields.map FieldInit.name)
    let name ← Numbering.ident name
    let node ← Numbering.node
    return .structInit node name (labels.zipWith NameResolution.FieldInit.mk values)
  | .lambda decl => do
    let function ← decl.number
    let node ← Numbering.node
    let function ← decl.amendment.apply function
    return .lambda node function
  | .pinned pin inner => do
    let inner ← inner.number
    return pin.onExpr inner
  termination_by structural expr => expr

/-- Number expressions from left to right. -/
def Expr.numberAll : List Expr → Numbering (List NameResolution.Expr)
  | [] => return []
  | expr :: rest => do
    let expr ← expr.number
    let rest ← Expr.numberAll rest
    return expr :: rest
  termination_by structural exprs => exprs

/-- Number the value of a field. -/
def FieldInit.number : FieldInit → Numbering NameResolution.Expr
  | ⟨_, value⟩ => value.number
  termination_by structural field => field

/-- Number the values of fields from left to right; their names come later. -/
def FieldInit.numberAll : List FieldInit → Numbering (List NameResolution.Expr)
  | [] => return []
  | field :: rest => do
    let value ← field.number
    let rest ← FieldInit.numberAll rest
    return value :: rest
  termination_by structural fields => fields

/-- Number a function declaration: parameters, body, name, then its own span.
Its amendment is left to the caller, who may have a node to number first. -/
def FunctionDecl.number : FunctionDecl → Numbering NameResolution.FunctionDecl
  | ⟨name, params, body, foreign, _⟩ => do
    let params ← Param.numberAll params
    let body ← Stmt.numberAll body
    let name ← Numbering.ident? name
    let span ← Numbering.span
    return ⟨name, params, none, body, foreign, span⟩
  termination_by structural decl => decl

/-- Number methods from left to right, each with its amendment. -/
def FunctionDecl.numberAll : List FunctionDecl → Numbering (List NameResolution.FunctionDecl)
  | [] => return []
  | decl :: rest => do
    let function ← decl.number
    let function ← decl.amendment.apply function
    let rest ← FunctionDecl.numberAll rest
    return function :: rest
  termination_by structural decls => decls

/-- Number a parent that is an expression. -/
def Parent.numberValue : Parent → Numbering (Option NameResolution.Expr)
  | .absent => return none
  | .named _ => return none
  | .value expr => do
    let expr ← expr.number
    return some expr
  termination_by structural parent => parent

/-- Number a statement. -/
def Stmt.number : Stmt → Numbering NameResolution.Stmt
  | .block body => do
    let body ← Stmt.numberAll body
    let node ← Numbering.node
    return .block node body
  | .breakLoop => do
    let node ← Numbering.node
    return .breakLoop node
  | .continueLoop => do
    let node ← Numbering.node
    return .continueLoop node
  | .letDecl name mutable ty initial foreign => do
    let initial ← match initial with
      | none => pure none
      | some expr => some <$> expr.number
    let ty ← Ty.number? ty
    let name ← Numbering.ident name
    let node ← Numbering.node
    return .letDecl node name mutable ty initial foreign
  | .forRange counter lower upper body => do
    let lower ← lower.number
    let upper ← upper.number
    let body ← Stmt.numberAll body
    let counter ← Numbering.ident? counter
    let node ← Numbering.node
    return .forRange node counter lower upper body
  | .forEach item collection body => do
    let collection ← collection.number
    let body ← Stmt.numberAll body
    let item ← Numbering.ident item
    let node ← Numbering.node
    return .forEach node item collection body
  | .whileLoop condition body => do
    let condition ← match condition with
      | none => pure none
      | some expr => some <$> expr.number
    let body ← Stmt.numberAll body
    let node ← Numbering.node
    return .whileLoop node condition body
  | .function decl => do
    let function ← decl.number
    let node ← Numbering.node
    let function ← decl.amendment.apply function
    return .function node function
  | .expression value => do
    let value ← value.number
    let node ← Numbering.node
    return .expression node value
  | .print value => do
    let value ← value.number
    let node ← Numbering.node
    return .print node value
  | .ifElse condition thenBranch elseBranch => do
    let condition ← condition.number
    let thenBranch ← thenBranch.number
    let elseBranch ← match elseBranch with
      | none => pure none
      | some stmt => some <$> stmt.number
    let node ← Numbering.node
    return .ifElse node condition thenBranch elseBranch
  | .ret value => do
    let value ← match value with
      | none => pure none
      | some expr => some <$> expr.number
    let node ← Numbering.node
    return .ret node value
  | .structDecl name members => do
    let members ← Stmt.numberAll members
    let name ← Numbering.ident name
    let node ← Numbering.node
    return .structDecl node name members
  | .classDecl name parent methods => do
    let value ← parent.numberValue
    let methods ← FunctionDecl.numberAll methods
    let name ← Numbering.ident name
    let superclass ← match parent with
      | .named parentName => do
        let parentName ← Numbering.ident parentName
        let node ← Numbering.node
        pure (some (.var node parentName))
      | _ => pure value
    let node ← Numbering.node
    return .classDecl node name superclass methods
  | .pinned pin inner => do
    let inner ← inner.number
    return pin.onStmt inner
  termination_by structural stmt => stmt

/-- Number statements from left to right. -/
def Stmt.numberAll : List Stmt → Numbering (List NameResolution.Stmt)
  | [] => return []
  | stmt :: rest => do
    let stmt ← stmt.number
    let rest ← Stmt.numberAll rest
    return stmt :: rest
  termination_by structural stmts => stmts

end

/-- The tree of a draft, and the counter after it. -/
def Program.number (program : Program) (counter : Counter) :
    NameResolution.Program × Counter :=
  (Stmt.numberAll program).run counter

end Draft

end NameResolution
