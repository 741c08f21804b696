import NameResolution.Proofs.Lexical.Sites

/-!
# Occurrences

Every node of a tree, in the order in which a walk reaches it: operands and
arguments from left to right, the value of an assignment before its target,
the value of a member assignment before its object, and the fields of a struct
literal before the name of its type. A walk leaves one kind of subtree alone:
the value of a `return` whose innermost enclosing function is an initializer.
The occurrences inside such a value are listed like all others, and marked.

The sites of a tree are, in order, the references among its unmarked occurrences.
-/

namespace NameResolution

/-- A node of a tree, with the reference that it makes by itself. -/
structure Occurrence where
  node : Node
  reference? : Option Reference
  /-- A reference has the number of its node. -/
  numbered : ∀ reference ∈ reference?, reference.node = node.id
  /-- Whether it stands in a value that an initializer returns. -/
  skipped : Bool
deriving DecidableEq

namespace Occurrence

/-- The reference of an occurrence that the walk reaches. -/
def walked? (occurrence : Occurrence) : Option Reference :=
  if occurrence.skipped then none else occurrence.reference?

/-- The same occurrence in a value that an initializer returns. -/
def skip (occurrence : Occurrence) : Occurrence :=
  { occurrence with skipped := true }

end Occurrence

/-- The reference of an expression has the number of the expression. -/
theorem Expr.node_reference? (expr : Expr) :
    ∀ reference ∈ expr.reference?, reference.node = expr.node.id := by
  intro reference own
  cases expr <;> cases own <;> rfl

/-- The occurrence of an expression, apart from its parts. -/
def Expr.occurrence (expr : Expr) : Occurrence :=
  ⟨expr.node, expr.reference?, expr.node_reference?, false⟩

/-- The occurrence of a statement, apart from its parts. -/
def Stmt.occurrence (stmt : Stmt) : Occurrence := ⟨stmt.node, none, nofun, false⟩

mutual

/-- The occurrences in an expression whose innermost enclosing function has the given kind. -/
def Expr.occurrences (initializerName : String) (kind : FunctionKind) : Expr → List Occurrence
  | .literal node value => [(Expr.literal node value).occurrence]
  | .array node elements =>
    Expr.occurrencesAll initializerName kind elements ++ [(Expr.array node elements).occurrence]
  | .assign node name value =>
    value.occurrences initializerName kind ++ [(Expr.assign node name value).occurrence]
  | .var node name => [(Expr.var node name).occurrence]
  | .mutArg node name => [(Expr.mutArg node name).occurrence]
  | .binary node left op right =>
    left.occurrences initializerName kind ++ right.occurrences initializerName kind ++
      [(Expr.binary node left op right).occurrence]
  | .logical node left op right =>
    left.occurrences initializerName kind ++ right.occurrences initializerName kind ++
      [(Expr.logical node left op right).occurrence]
  | .unary node op operand =>
    operand.occurrences initializerName kind ++ [(Expr.unary node op operand).occurrence]
  | .grouping node inner =>
    inner.occurrences initializerName kind ++ [(Expr.grouping node inner).occurrence]
  | .call node callee args =>
    callee.occurrences initializerName kind ++ Expr.occurrencesAll initializerName kind args ++
      [(Expr.call node callee args).occurrence]
  | .get node object name =>
    object.occurrences initializerName kind ++ [(Expr.get node object name).occurrence]
  | .set node object name value =>
    value.occurrences initializerName kind ++ object.occurrences initializerName kind ++
      [(Expr.set node object name value).occurrence]
  | .index node object index =>
    object.occurrences initializerName kind ++ index.occurrences initializerName kind ++
      [(Expr.index node object index).occurrence]
  | .this node => [(Expr.this node).occurrence]
  | .super node method => [(Expr.super node method).occurrence]
  | .structInit node name fields =>
    FieldInit.occurrencesAll initializerName kind fields ++
      [(Expr.structInit node name fields).occurrence]
  | .lambda node decl =>
    decl.occurrences initializerName .function ++ [(Expr.lambda node decl).occurrence]
  termination_by structural expr => expr

/-- The occurrences in expressions from left to right. -/
def Expr.occurrencesAll (initializerName : String) (kind : FunctionKind) :
    List Expr → List Occurrence
  | [] => []
  | expr :: rest =>
    expr.occurrences initializerName kind ++ Expr.occurrencesAll initializerName kind rest
  termination_by structural exprs => exprs

/-- The occurrences in the value of a field. -/
def FieldInit.occurrences (initializerName : String) (kind : FunctionKind) :
    FieldInit → List Occurrence
  | ⟨_, value⟩ => value.occurrences initializerName kind
  termination_by structural field => field

/-- The occurrences in the values of fields from left to right. -/
def FieldInit.occurrencesAll (initializerName : String) (kind : FunctionKind) :
    List FieldInit → List Occurrence
  | [] => []
  | field :: rest =>
    field.occurrences initializerName kind ++ FieldInit.occurrencesAll initializerName kind rest
  termination_by structural fields => fields

/-- The occurrences in a function of the given kind. -/
def FunctionDecl.occurrences (initializerName : String) (kind : FunctionKind) :
    FunctionDecl → List Occurrence
  | ⟨_, _, _, body, _, _⟩ => Stmt.occurrencesAll initializerName kind body
  termination_by structural decl => decl

/-- The occurrences in the methods of a class, in order. -/
def FunctionDecl.occurrencesMethods (initializerName : String) :
    List FunctionDecl → List Occurrence
  | [] => []
  | method :: rest =>
    method.occurrences initializerName (method.kindInClass initializerName) ++
      FunctionDecl.occurrencesMethods initializerName rest
  termination_by structural methods => methods

/-- The occurrences in an expression that may be missing. -/
def Expr.occurrences? (initializerName : String) (kind : FunctionKind) :
    Option Expr → List Occurrence
  | none => []
  | some expr => expr.occurrences initializerName kind
  termination_by structural expr => expr

/-- The occurrences in a statement. -/
def Stmt.occurrences (initializerName : String) (kind : FunctionKind) : Stmt → List Occurrence
  | .block node body =>
    (Stmt.block node body).occurrence :: Stmt.occurrencesAll initializerName kind body
  | .breakLoop node => [(Stmt.breakLoop node).occurrence]
  | .continueLoop node => [(Stmt.continueLoop node).occurrence]
  | .letDecl node name mutable ty initial foreign =>
    (Stmt.letDecl node name mutable ty initial foreign).occurrence ::
      Expr.occurrences? initializerName kind initial
  | .forRange node counter lower upper body =>
    (Stmt.forRange node counter lower upper body).occurrence ::
      (lower.occurrences initializerName kind ++ upper.occurrences initializerName kind ++
        Stmt.occurrencesAll initializerName kind body)
  | .forEach node item collection body =>
    (Stmt.forEach node item collection body).occurrence ::
      (collection.occurrences initializerName kind ++
        Stmt.occurrencesAll initializerName kind body)
  | .whileLoop node condition body =>
    (Stmt.whileLoop node condition body).occurrence ::
      (Expr.occurrences? initializerName kind condition ++
        Stmt.occurrencesAll initializerName kind body)
  | .function node decl =>
    (Stmt.function node decl).occurrence :: decl.occurrences initializerName .function
  | .expression node value =>
    (Stmt.expression node value).occurrence :: value.occurrences initializerName kind
  | .print node value =>
    (Stmt.print node value).occurrence :: value.occurrences initializerName kind
  | .ifElse node condition thenBranch elseBranch =>
    (Stmt.ifElse node condition thenBranch elseBranch).occurrence ::
      (condition.occurrences initializerName kind ++
        thenBranch.occurrences initializerName kind ++
        Stmt.occurrences? initializerName kind elseBranch)
  | .ret node value =>
    let returned := Expr.occurrences? initializerName kind value
    (Stmt.ret node value).occurrence ::
      if kind = .initializer then returned.map Occurrence.skip else returned
  | .structDecl node name members =>
    (Stmt.structDecl node name members).occurrence ::
      Stmt.occurrencesAll initializerName kind members
  | .classDecl node name superclass methods =>
    (Stmt.classDecl node name superclass methods).occurrence ::
      (Expr.occurrences? initializerName kind superclass ++
        FunctionDecl.occurrencesMethods initializerName methods)
  termination_by structural stmt => stmt

/-- The occurrences in a statement that may be missing. -/
def Stmt.occurrences? (initializerName : String) (kind : FunctionKind) :
    Option Stmt → List Occurrence
  | none => []
  | some stmt => stmt.occurrences initializerName kind
  termination_by structural stmt => stmt

/-- The occurrences in statements, in order. -/
def Stmt.occurrencesAll (initializerName : String) (kind : FunctionKind) :
    List Stmt → List Occurrence
  | [] => []
  | stmt :: rest =>
    stmt.occurrences initializerName kind ++ Stmt.occurrencesAll initializerName kind rest
  termination_by structural stmts => stmts

end

namespace Program

/-- The occurrences in a program. -/
def occurrences (initializerName : String) (program : Program) : List Occurrence :=
  Stmt.occurrencesAll initializerName .none program

/-- The numbers of all nodes of a program. -/
def nodeIds (initializerName : String) (program : Program) : List NodeId :=
  (occurrences initializerName program).map (·.node.id)

/-- All references of a program, those that no walk reaches included. -/
def references (initializerName : String) (program : Program) : List Reference :=
  (occurrences initializerName program).filterMap Occurrence.reference?

/-- The references of a program that a walk reaches. -/
def walkedReferences (initializerName : String) (program : Program) : List Reference :=
  (occurrences initializerName program).filterMap Occurrence.walked?

end Program

/-- `Lists sites occurrences`: the sites are, in order, the references among the
occurrences that the walk reaches. -/
def Lists (sites : List Site) (occurrences : List Occurrence) : Prop :=
  sites.map Site.toReference = occurrences.filterMap Occurrence.walked?

namespace Lists

theorem nil : Lists [] [] := rfl

/-- Sites list occurrences part by part. -/
theorem append {firstSites secondSites : List Site} {first second : List Occurrence}
    (left : Lists firstSites first) (right : Lists secondSites second) :
    Lists (firstSites ++ secondSites) (first ++ second) := by
  unfold Lists at left right ⊢
  rw [List.map_append, List.filterMap_append, left, right]

/-- The occurrence of an expression lists the site of its own reference. -/
theorem own (context : Context) (scopes : LexicalScopes) (expr : Expr) :
    Lists (expr.ownSite context scopes) [expr.occurrence] := by
  have reached : expr.occurrence.walked? = expr.reference? := rfl
  unfold Lists Expr.ownSite
  rw [List.filterMap_cons, reached]
  cases expr.reference? <;> rfl

/-- A node that is no reference lists nothing behind its parts. -/
theorem behind {sites : List Site} {occurrences : List Occurrence} {last : Occurrence}
    (lists : Lists sites occurrences) (aside : last.walked? = none) :
    Lists sites (occurrences ++ [last]) := by
  unfold Lists at lists ⊢
  rw [lists, List.filterMap_append, List.filterMap_cons_none aside, List.filterMap_nil,
    List.append_nil]

/-- A node that is no reference lists nothing ahead of its parts. -/
theorem ahead {sites : List Site} {occurrences : List Occurrence} {first : Occurrence}
    (lists : Lists sites occurrences) (aside : first.walked? = none) :
    Lists sites (first :: occurrences) := by
  unfold Lists at lists ⊢
  rw [lists, List.filterMap_cons_none aside]

/-- What an initializer returns lists nothing. -/
theorem skipped (occurrences : List Occurrence) : Lists [] (occurrences.map Occurrence.skip) := by
  have unreached (occurrence : Occurrence) : occurrence.skip.walked? = none := rfl
  unfold Lists
  rw [List.filterMap_map]
  simp [unreached]

end Lists

variable (initializerName : String)

mutual

/-- The sites of an expression are its references that the walk reaches. -/
theorem Expr.lists (context : Context) (scopes : LexicalScopes) : (expr : Expr) →
    Lists (expr.sites initializerName context scopes)
      (expr.occurrences initializerName context.function)
  | .literal node value => .own context scopes (.literal node value)
  | .array _ elements => (Expr.lists_all context scopes elements).behind rfl
  | .assign _ _ value => (Expr.lists context scopes value).append (.own context scopes _)
  | .var node name => .own context scopes (.var node name)
  | .mutArg node name => .own context scopes (.mutArg node name)
  | .binary _ left _ right =>
    ((Expr.lists context scopes left).append (Expr.lists context scopes right)).behind rfl
  | .logical _ left _ right =>
    ((Expr.lists context scopes left).append (Expr.lists context scopes right)).behind rfl
  | .unary _ _ operand => (Expr.lists context scopes operand).behind rfl
  | .grouping _ inner => (Expr.lists context scopes inner).behind rfl
  | .call _ callee args =>
    ((Expr.lists context scopes callee).append (Expr.lists_all context scopes args)).behind rfl
  | .get _ object _ => (Expr.lists context scopes object).behind rfl
  | .set _ object _ value =>
    ((Expr.lists context scopes value).append (Expr.lists context scopes object)).behind rfl
  | .index _ object index =>
    ((Expr.lists context scopes object).append (Expr.lists context scopes index)).behind rfl
  | .this node => .own context scopes (.this node)
  | .super node method => .own context scopes (.super node method)
  | .structInit _ _ fields =>
    (FieldInit.lists_all context scopes fields).append (.own context scopes _)
  | .lambda _ decl => (FunctionDecl.lists context scopes .function decl).behind rfl
  termination_by structural expr => expr

/-- The sites in expressions list the occurrences in them. -/
theorem Expr.lists_all (context : Context) (scopes : LexicalScopes) : (exprs : List Expr) →
    Lists (Expr.sitesAll initializerName context scopes exprs)
      (Expr.occurrencesAll initializerName context.function exprs)
  | [] => .nil
  | expr :: rest => (Expr.lists context scopes expr).append (Expr.lists_all context scopes rest)
  termination_by structural exprs => exprs

/-- The sites in the value of a field list the occurrences in it. -/
theorem FieldInit.lists (context : Context) (scopes : LexicalScopes) : (field : FieldInit) →
    Lists (field.sites initializerName context scopes)
      (field.occurrences initializerName context.function)
  | ⟨_, value⟩ => Expr.lists context scopes value
  termination_by structural field => field

/-- The sites in the values of fields list the occurrences in them. -/
theorem FieldInit.lists_all (context : Context) (scopes : LexicalScopes) :
    (fields : List FieldInit) →
    Lists (FieldInit.sitesAll initializerName context scopes fields)
      (FieldInit.occurrencesAll initializerName context.function fields)
  | [] => .nil
  | field :: rest =>
    (FieldInit.lists context scopes field).append (FieldInit.lists_all context scopes rest)
  termination_by structural fields => fields

/-- The sites in a function list the occurrences in it. -/
theorem FunctionDecl.lists (context : Context) (scopes : LexicalScopes) (kind : FunctionKind) :
    (decl : FunctionDecl) →
    Lists (decl.sites initializerName context scopes kind) (decl.occurrences initializerName kind)
  | ⟨_, _, _, body, _, _⟩ => Stmt.lists_all (context.insideFunction kind) _ body
  termination_by structural decl => decl

/-- The sites in methods list the occurrences in them. -/
theorem FunctionDecl.lists_methods (context : Context) (scopes : LexicalScopes) :
    (methods : List FunctionDecl) →
    Lists (FunctionDecl.sitesMethods initializerName context scopes methods)
      (FunctionDecl.occurrencesMethods initializerName methods)
  | [] => .nil
  | method :: rest =>
    (FunctionDecl.lists context scopes (methodKind initializerName method) method).append
      (FunctionDecl.lists_methods context scopes rest)
  termination_by structural methods => methods

/-- The sites in an expression that may be missing list the occurrences in it. -/
theorem Expr.lists_opt (context : Context) (scopes : LexicalScopes) : (expr : Option Expr) →
    Lists (Expr.sites? initializerName context scopes expr)
      (Expr.occurrences? initializerName context.function expr)
  | none => .nil
  | some expr => Expr.lists context scopes expr
  termination_by structural expr => expr

/-- The sites in a value that is returned list the occurrences in it, which an initializer skips. -/
theorem Expr.lists_returned (context : Context) (scopes : LexicalScopes) :
    (value : Option Expr) →
    Lists (Expr.sitesReturned initializerName context scopes value)
      (if context.function = .initializer then
        (Expr.occurrences? initializerName context.function value).map Occurrence.skip
      else Expr.occurrences? initializerName context.function value)
  | none => by
    split
    · exact .nil
    · exact .nil
  | some value => by
    have walked := Expr.lists context scopes value
    unfold Expr.sitesReturned
    cases inside : context.function with
    | initializer => exact .skipped _
    | none => simpa [inside, Expr.occurrences?] using walked
    | function => simpa [inside, Expr.occurrences?] using walked
    | method => simpa [inside, Expr.occurrences?] using walked
  termination_by structural value => value

/-- The sites of a statement are its references that the walk reaches. -/
theorem Stmt.lists (context : Context) (scopes : LexicalScopes) : (stmt : Stmt) →
    Lists (stmt.sites initializerName context scopes)
      (stmt.occurrences initializerName context.function)
  | .block _ body => (Stmt.lists_all context scopes.enter body).ahead rfl
  | .breakLoop _ => Lists.nil.ahead rfl
  | .continueLoop _ => Lists.nil.ahead rfl
  | .letDecl _ _ _ _ initial _ => (Expr.lists_opt context _ initial).ahead rfl
  | .forRange _ _ lower upper body =>
    (((Expr.lists context scopes lower).append (Expr.lists context scopes upper)).append
      (Stmt.lists_all context _ body)).ahead rfl
  | .forEach _ _ collection body =>
    ((Expr.lists context scopes collection).append (Stmt.lists_all context _ body)).ahead rfl
  | .whileLoop _ condition body =>
    ((Expr.lists_opt context scopes condition).append
      (Stmt.lists_all context scopes.enter body)).ahead rfl
  | .function _ decl => (FunctionDecl.lists context _ .function decl).ahead rfl
  | .expression _ value => (Expr.lists context scopes value).ahead rfl
  | .print _ value => (Expr.lists context scopes value).ahead rfl
  | .ifElse _ condition thenBranch elseBranch =>
    (((Expr.lists context scopes condition).append (Stmt.lists context scopes thenBranch)).append
      (Stmt.lists_opt context _ elseBranch)).ahead rfl
  | .ret _ value => (Expr.lists_returned context scopes value).ahead rfl
  | .structDecl _ _ members =>
    (Stmt.lists_all (context.enterStruct .struct) _ members).ahead rfl
  | .classDecl _ _ superclass methods =>
    ((Expr.lists_opt (context.enterClass (.ofSuperclass superclass)) _ superclass).append
      (FunctionDecl.lists_methods (context.enterClass (.ofSuperclass superclass)) _
        methods)).ahead rfl
  termination_by structural stmt => stmt

/-- The sites in a statement that may be missing list the occurrences in it. -/
theorem Stmt.lists_opt (context : Context) (scopes : LexicalScopes) : (stmt : Option Stmt) →
    Lists (Stmt.sites? initializerName context scopes stmt)
      (Stmt.occurrences? initializerName context.function stmt)
  | none => .nil
  | some stmt => Stmt.lists context scopes stmt
  termination_by structural stmt => stmt

/-- The sites in statements list the occurrences in them. -/
theorem Stmt.lists_all (context : Context) (scopes : LexicalScopes) : (stmts : List Stmt) →
    Lists (Stmt.sitesAll initializerName context scopes stmts)
      (Stmt.occurrencesAll initializerName context.function stmts)
  | [] => .nil
  | stmt :: rest => (Stmt.lists context scopes stmt).append (Stmt.lists_all context _ rest)
  termination_by structural stmts => stmts

end

/-- The sites of a program are, in order, its references that a walk reaches. -/
theorem Program.walkedReferences_eq (program : Program) :
    (Program.sites initializerName program).map Site.toReference =
      Program.walkedReferences initializerName program :=
  Stmt.lists_all initializerName Context.outermost _ program

end NameResolution
