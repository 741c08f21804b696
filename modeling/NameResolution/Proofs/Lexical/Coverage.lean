import NameResolution.Proofs.Lexical.Trail

/-!
# The walk covers the sites

Every piece of a tree is walked by steps that cover its sites. An expression
leaves the lexical scopes as they were; a statement adds what it declares to
the scope it stands in.
-/

namespace NameResolution

variable (initializerName : String)

mutual

/-- Walking an expression settles its sites and changes no scope. -/
theorem Expr.covers (context : Context) (scopes : LexicalScopes) : (expr : Expr) →
    Covers (expr.walk initializerName context) scopes
      (expr.sites initializerName context scopes) scopes
  | .literal .. => .nil scopes
  | .array _ elements => Expr.covers_all context scopes elements
  | .assign node name value => by
    have checked : Covers [.checkAssign name] scopes [] scopes :=
      .silent (by simp [Step.settles]) rfl
    have target : Covers [.resolve node.id name .write] scopes
        (Expr.ownSite context scopes (.assign node name value)) scopes :=
      Expr.covers_ownSite (by simp [Expr.ownSite, Expr.reference?, Site.step]) rfl
    exact checked.append ((Expr.covers context scopes value).append target)
  | .var node name =>
    Expr.covers_ownSite (by simp [Expr.walk, Expr.ownSite, Expr.reference?, Site.step]) rfl
  | .mutArg node name =>
    Expr.covers_ownSite (by simp [Expr.walk, Expr.ownSite, Expr.reference?, Site.step]) rfl
  | .binary _ left _ right =>
    (Expr.covers context scopes left).append (Expr.covers context scopes right)
  | .logical _ left _ right =>
    (Expr.covers context scopes left).append (Expr.covers context scopes right)
  | .unary _ _ operand => Expr.covers context scopes operand
  | .grouping _ inner => Expr.covers context scopes inner
  | .call _ callee args =>
    (Expr.covers context scopes callee).append (Expr.covers_all context scopes args)
  | .get _ object _ => Expr.covers context scopes object
  | .set node object _ value => by
    have target := covers_setTarget node.span object scopes
    simpa [Expr.walk, Expr.sites] using ((Expr.covers context scopes value).append
      (Expr.covers context scopes object)).append target
  | .index _ object index =>
    (Expr.covers context scopes object).append (Expr.covers context scopes index)
  | .this node => by
    apply Expr.covers_ownSite _ rfl
    cases inside : context.cls <;>
      simp [Expr.walk, Expr.ownSite, Expr.reference?, Site.step, Step.this, Context.inClass,
        inside]
  | .super node method => by
    apply Expr.covers_ownSite _ rfl
    cases inside : context.cls <;>
      simp [Expr.walk, Expr.ownSite, Expr.reference?, Site.step, Step.super, inside]
  | .structInit node name fields => by
    have literal : Covers [.resolve node.id name .read] scopes
        (Expr.ownSite context scopes (.structInit node name fields)) scopes :=
      Expr.covers_ownSite (by simp [Expr.ownSite, Expr.reference?, Site.step]) rfl
    exact (FieldInit.covers_all context scopes fields).append literal
  | .lambda _ decl => FunctionDecl.covers context scopes .function decl
  termination_by structural expr => expr

/-- The walk of expressions covers the sites in them. -/
theorem Expr.covers_all (context : Context) (scopes : LexicalScopes) : (exprs : List Expr) →
    Covers (Expr.walkAll initializerName context exprs) scopes
      (Expr.sitesAll initializerName context scopes exprs) scopes
  | [] => .nil scopes
  | expr :: rest =>
    (Expr.covers context scopes expr).append (Expr.covers_all context scopes rest)
  termination_by structural exprs => exprs

/-- The walk of a field covers the sites in its value. -/
theorem FieldInit.covers (context : Context) (scopes : LexicalScopes) : (field : FieldInit) →
    Covers (field.walk initializerName context) scopes
      (field.sites initializerName context scopes) scopes
  | ⟨_, value⟩ => Expr.covers context scopes value
  termination_by structural field => field

/-- The walk of fields covers the sites in their values. -/
theorem FieldInit.covers_all (context : Context) (scopes : LexicalScopes) :
    (fields : List FieldInit) →
    Covers (FieldInit.walkAll initializerName context fields) scopes
      (FieldInit.sitesAll initializerName context scopes fields) scopes
  | [] => .nil scopes
  | field :: rest =>
    (FieldInit.covers context scopes field).append (FieldInit.covers_all context scopes rest)
  termination_by structural fields => fields

/-- Walking a function settles the sites of its body and leaves no scope open. -/
theorem FunctionDecl.covers (context : Context) (scopes : LexicalScopes) (kind : FunctionKind) :
    (decl : FunctionDecl) →
    Covers (decl.walk initializerName context kind) scopes
      (decl.sites initializerName context scopes kind) scopes
  | ⟨_, params, _, body, foreign, _⟩ =>
    .scope (covers_params foreign params scopes.enter)
      (Stmt.covers_all (context.insideFunction kind) _ body) (by simp [LexicalScopes.enter])
  termination_by structural decl => decl

/-- The walk of methods covers the sites in them. -/
theorem FunctionDecl.covers_methods (context : Context) (scopes : LexicalScopes) :
    (methods : List FunctionDecl) →
    Covers (FunctionDecl.walkMethods initializerName context methods) scopes
      (FunctionDecl.sitesMethods initializerName context scopes methods) scopes
  | [] => .nil scopes
  | method :: rest =>
    (FunctionDecl.covers context scopes (methodKind initializerName method) method).append
      (FunctionDecl.covers_methods context scopes rest)
  termination_by structural methods => methods

/-- The walk of an expression that may be missing covers the sites in it. -/
theorem Expr.covers_opt (context : Context) (scopes : LexicalScopes) : (expr : Option Expr) →
    Covers (Expr.walk? initializerName context expr) scopes
      (Expr.sites? initializerName context scopes expr) scopes
  | none => .nil scopes
  | some expr => Expr.covers context scopes expr
  termination_by structural expr => expr

/-- The walk of a value that is returned covers the sites in it, unless an initializer returns
it. -/
theorem Expr.covers_returned (context : Context) (scopes : LexicalScopes) :
    (value : Option Expr) →
    Covers (Expr.walkReturned initializerName context value) scopes
      (Expr.sitesReturned initializerName context scopes value) scopes
  | none => .nil scopes
  | some value => by
    have walked := Expr.covers context scopes value
    unfold Expr.walkReturned Expr.sitesReturned
    cases context.function with
    | initializer => exact .silent (by simp [Step.settles, ResolutionError.settlesReference]) rfl
    | none => exact walked
    | function => exact walked
    | method => exact walked
  termination_by structural value => value

/-- Walking a superclass settles its sites and opens the scope of `super` behind it. -/
theorem Expr.covers_superclass (context : Context) (scopes : LexicalScopes) :
    (superclass : Option Expr) →
    Covers (Expr.walkSuperclass initializerName context superclass) scopes
      (Expr.sites? initializerName context scopes superclass)
      (match superclass with
        | none => scopes
        | some parent => [⟨"super", parent.span, false, false⟩] :: scopes)
  | none => .nil scopes
  | some parent => by
    have opens : Covers [.openScope, .bindPseudo "super" parent.span] scopes []
        ([⟨"super", parent.span, false, false⟩] :: scopes) :=
      .silent (by simp [Step.settles]) rfl
    simpa [Expr.walkSuperclass, Expr.sites?] using
      (Expr.covers context scopes parent).append opens
  termination_by structural superclass => superclass

/-- Walking a statement settles its sites and declares what the statement declares. -/
theorem Stmt.covers (context : Context) (scopes : LexicalScopes) : (stmt : Stmt) →
    Covers (stmt.walk initializerName context) scopes
      (stmt.sites initializerName context scopes)
      (scopes.declareAll (stmt.declares context.inStruct))
  | .block _ body =>
    .scope (.nil scopes.enter) (Stmt.covers_all context scopes.enter body)
      (by simp [LexicalScopes.enter])
  | .breakLoop _ => .nil scopes
  | .continueLoop _ => .nil scopes
  | .letDecl _ name mutable _ initial foreign => by
    have registered := covers_foreign .variable foreign name scopes
    have declared : Covers [.declare name mutable context.inStruct] scopes []
        (scopes.declare (name.declaration mutable context.inStruct)) :=
      .silent (by simp [Step.settles]) rfl
    have again : (scopes.declare (name.declaration mutable context.inStruct)).declare
        (name.declaration false false) =
          scopes.declare (name.declaration mutable context.inStruct) :=
      LexicalScopes.declare_declare rfl
    cases initial with
    | none =>
      exact registered.append (declared.append
        (covers_uninitialized context name mutable foreign context.inStruct scopes))
    | some value =>
      have defined : Covers [.define name]
          (scopes.declare (name.declaration mutable context.inStruct)) []
          (scopes.declare (name.declaration mutable context.inStruct)) :=
        .silent (by simp [Step.settles]) again
      have initialized := (Expr.covers context _ value).append defined
      simpa [Stmt.walk, Stmt.sites, Expr.sites?, Stmt.declares] using
        registered.append (declared.append initialized)
  | .forRange node counter lower upper body => by
    have bounds := (Expr.covers context scopes lower).append (Expr.covers context scopes upper)
    have loop := Covers.scope
      ((covers_counter counter scopes.enter).append (covers_loopBody node.span body _))
      (Stmt.covers_all context _ body) (by simp [LexicalScopes.enter])
    exact bounds.append loop
  | .forEach node item collection body => by
    have loop := Covers.scope
      ((covers_bind item false false scopes.enter).append (covers_loopBody node.span body _))
      (Stmt.covers_all context _ body) (by simp [LexicalScopes.enter])
    exact (Expr.covers context scopes collection).append loop
  | .whileLoop _ condition body => by
    have loop := Covers.scope (.nil scopes.enter) (Stmt.covers_all context scopes.enter body)
      (by simp [LexicalScopes.enter])
    exact (Expr.covers_opt context scopes condition).append loop
  | .function _ decl =>
    (covers_functionName context decl scopes).append
      (FunctionDecl.covers context _ .function decl)
  | .expression _ value => Expr.covers context scopes value
  | .print _ value => Expr.covers context scopes value
  | .ifElse _ condition thenBranch none => by
    have chosen := (Expr.covers context scopes condition).append
      (Stmt.covers context scopes thenBranch)
    simpa [Stmt.walk, Stmt.walk?, Stmt.sites, Stmt.sites?, Stmt.declares] using chosen
  | .ifElse _ condition thenBranch (some elseBranch) => by
    have chosen := (Expr.covers context scopes condition).append
      (Stmt.covers context scopes thenBranch)
    have otherwise := Stmt.covers context
      (scopes.declareAll (thenBranch.declares context.inStruct)) elseBranch
    simpa [Stmt.walk, Stmt.walk?, Stmt.sites, Stmt.sites?, Stmt.declares] using
      chosen.append otherwise
  | .ret node value =>
    (covers_returnFrom context node.span scopes).append
      (Expr.covers_returned context scopes value)
  | .structDecl _ name members => by
    have body := Covers.scope (.nil _)
      (Stmt.covers_all (context.enterStruct .struct)
        (scopes.declare (name.declaration false context.inStruct)).enter members)
      (by simp [LexicalScopes.enter])
    exact (covers_bind name false context.inStruct scopes).append body
  | .classDecl _ name superclass methods => by
    have inherits := covers_selfInheritance name superclass scopes
    have named := covers_bind name false context.inStruct scopes
    have parent := Expr.covers_superclass (context.enterClass (.ofSuperclass superclass))
      (scopes.declare (name.declaration false context.inStruct)) superclass
    have members := FunctionDecl.covers_methods (context.enterClass (.ofSuperclass superclass))
      ((scopes.declare (name.declaration false context.inStruct)).enterClass name superclass)
      methods
    have opens (outer : LexicalScopes) : Covers [.openScope, .bindPseudo "this" name.span] outer []
        ([⟨"this", name.span, false, false⟩] :: outer) := .silent (by simp [Step.settles]) rfl
    have closes (here : LexicalScope) (outer : LexicalScopes) :
        Covers [.closeScope] (here :: outer) [] outer := .silent (by simp [Step.settles]) rfl
    have outside := (inherits.append named).append parent
    cases superclass with
    | none =>
      simpa [Stmt.walk, Stmt.sites, Stmt.declares] using
        ((outside.append (opens _)).append members).append (closes _ _)
    | some parent =>
      simpa [Stmt.walk, Stmt.sites, Stmt.declares] using
        (((outside.append (opens _)).append members).append (closes _ _)).append (closes _ _)
  termination_by structural stmt => stmt

/-- The walk of statements covers the sites in them, and leaves what they declare. -/
theorem Stmt.covers_all (context : Context) (scopes : LexicalScopes) : (stmts : List Stmt) →
    Covers (Stmt.walkAll initializerName context stmts) scopes
      (Stmt.sitesAll initializerName context scopes stmts)
      (scopes.declareAll (stmts.flatMap (Stmt.declares context.inStruct)))
  | [] => .nil scopes
  | stmt :: rest => by
    have first := (Stmt.covers context scopes stmt).append (covers_between stmt rest _)
    simpa [Stmt.walkAll, Stmt.sitesAll] using first.append (Stmt.covers_all context _ rest)
  termination_by structural stmts => stmts

end

end NameResolution
