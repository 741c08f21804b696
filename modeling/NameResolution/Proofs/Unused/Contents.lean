import NameResolution.Proofs.Unused.Extents

/-!
# What scopes hold

While a scope is open, the steps of its extent declare in it what its binders
declare, bring the names as far as its binders do, and settle the references of
its sites. They leave open what they find open, and nothing else.
-/

namespace NameResolution

/-- The steps inside an extent are those of its binders and its sites. -/
structure Extent.Contents (extent : Extent) : Prop where
  stays : StaysOpen 1 extent.inside
  height : heightAfter extent.inside 1 = 1
  covers : Covers extent.inside extent.around.enter extent.sites
    (extent.around.enter.declareAll (extent.binders.map Binder.toDeclaration))
  advanced : ∀ name, advanced name 1 extent.inside = Binder.advanced name extent.binders

variable {initializerName : String} {program : Program} {extent : Extent}

/-- A scope of statements holds what is bound at its head and what its statements declare. -/
theorem Extent.contents_ofStmts {before leading : List Step} {own : List Binder}
    (shape : Shape true leading)
    (covers : Covers leading (NameResolution.rescope before []).enter []
      ((NameResolution.rescope before []).enter.declareAll (own.map Binder.toDeclaration)))
    (advances : ∀ name, NameResolution.advanced name 1 leading = Binder.advanced name own)
    (context : Context) (body : List Stmt) :
    (ofStmts initializerName before leading own context body).Contents where
  stays := (shape.append (Stmt.shaped_all initializerName context body)).staysOpen Nat.one_pos
  height := (shape.append (Stmt.shaped_all initializerName context body)).heightAfter 1
  covers := by
    have whole := covers.append (Stmt.covers_all initializerName context _ body)
    rw [← LexicalScopes.declareAll_append, ← Stmt.map_binders_all, ← List.map_append] at whole
    exact whole
  advanced name := by
    simp only [ofStmts, NameResolution.advanced_append, shape.heightAfter, advances,
      Stmt.advanced_all, Binder.advanced_append]

/-- A scope for `this` or `super` holds that name alone. -/
theorem Extent.contents_ofPseudo {before : List Step} {name : String} {span : Span}
    {body : List Step} {sites : List Site} (shape : Shape false body)
    (covers : Covers body ([⟨name, span, false, false⟩] :: NameResolution.rescope before []) sites
      ([⟨name, span, false, false⟩] :: NameResolution.rescope before [])) :
    (ofPseudo before name span body sites).Contents where
  stays := ⟨Nat.one_pos, shape.staysOpen Nat.one_pos⟩
  height := shape.heightAfter 1
  covers := by
    have bound : Covers [.bindPseudo name span] (NameResolution.rescope before []).enter []
        ([⟨name, span, false, false⟩] :: NameResolution.rescope before []) :=
      .silent (by simp [Step.settles]) rfl
    exact bound.append covers
  advanced asked := by
    simp only [ofPseudo, NameResolution.advanced, Step.height, shape.advanced_home]
    rfl

/-- A scope that only binds `this` or `super` covers what is covered inside. -/
theorem covers_pseudoScope (name : String) (span : Span) {body : List Step}
    {scopes : LexicalScopes} {sites : List Site}
    (covers : Covers body ([⟨name, span, false, false⟩] :: scopes) sites
      ([⟨name, span, false, false⟩] :: scopes)) :
    Covers (.openScope :: .bindPseudo name span :: (body ++ [.closeScope])) scopes sites
      scopes := by
  have bound : Covers [.bindPseudo name span] scopes.enter []
      ([⟨name, span, false, false⟩] :: scopes) := .silent (by simp [Step.settles]) rfl
  exact .scope bound covers rfl

/-- Up to its superclass, a class declares its name. -/
theorem Stmt.rescope_classHead (context : Context) (name : Ident) (superclass : Option Expr)
    (scopes : LexicalScopes) :
    rescope (Stmt.classHead context name superclass) scopes =
      scopes.declare (name.declaration false context.inStruct) := by
  rw [Stmt.classHead, rescope_append, (covers_selfInheritance name superclass scopes).rescope,
    rescope_bind]

/-- The steps of every extent are those of its binders and its sites. -/
theorem HasExtent.contents (has : HasExtent initializerName program extent) :
    extent.Contents := by
  cases has with
  | program => exact Extent.contents_ofStmts .nil (.nil _) (fun _ => rfl) .outermost program
  | @block context _ _ _ body | @whileLoop context _ _ _ _ body =>
    exact Extent.contents_ofStmts .nil (.nil _) (fun _ => rfl) context body
  | @structDecl context _ _ _ _ members =>
    exact Extent.contents_ofStmts .nil (.nil _) (fun _ => rfl) (context.enterStruct .struct) members
  | @forRange context before _ node counter lower upper body =>
    have empty : Shape false (Step.loopBody node.span body) := .loopBody node.span body
    refine Extent.contents_ofStmts ((Shape.counter counter).append empty.mono) ?_ ?_ context body
    · rw [List.map_map]
      exact (covers_counter counter _).append (covers_loopBody node.span body _)
    · intro name
      rw [advanced_append_shape (.counter counter) empty, advanced_counter]
  | @forEach context before _ node item collection body =>
    have empty : Shape false (Step.loopBody node.span body) := .loopBody node.span body
    refine Extent.contents_ofStmts ((Shape.bind item false false).append empty.mono) ?_ ?_ context
      body
    · exact (covers_bind item false false _).append (covers_loopBody node.span body _)
    · intro name
      rw [advanced_append_shape (.bind item false false) empty]
      exact advanced_counter (some item)
  | @function context before _ kind decl =>
    refine Extent.contents_ofStmts (.params decl.foreign decl.params) ?_
      (fun _ => advanced_params decl.foreign decl.params) (context.insideFunction kind) decl.body
    rw [List.map_map]
    exact covers_params decl.foreign decl.params _
  | @this context before _ node name superclass methods =>
    refine Extent.contents_ofPseudo (FunctionDecl.shaped_methods initializerName _ methods) ?_
    have members := FunctionDecl.covers_methods initializerName
      (context.enterClass (.ofSuperclass superclass))
      (((rescope before []).declare (name.declaration false context.inStruct)).enterClass name
        superclass) methods
    have parent := Expr.covers_superclass initializerName
      (context.enterClass (.ofSuperclass superclass))
      ((rescope before []).declare (name.declaration false context.inStruct)) superclass
    rw [rescope_append, rescope_append, Stmt.rescope_classHead, parent.rescope]
    exact members
  | @super context before _ node name parent methods =>
    have inherits := Expr.covers initializerName (context.enterClass .subclass)
      ((rescope before []).declare (name.declaration false context.inStruct)) parent
    have around : rescope (before ++ (Stmt.classHead context name (some parent) ++
        parent.walk initializerName (context.enterClass .subclass))) [] =
          (rescope before []).declare (name.declaration false context.inStruct) := by
      rw [rescope_append, rescope_append, Stmt.rescope_classHead, inherits.rescope]
    refine Extent.contents_ofPseudo (.pseudoScope "this" name.span
      (FunctionDecl.shaped_methods initializerName _ methods)) ?_
    rw [around]
    exact covers_pseudoScope "this" name.span
      (FunctionDecl.covers_methods initializerName (context.enterClass .subclass) _ methods)

/-- Foreign functions have no body: the runtime implements them. -/
def Program.ForeignBodiesEmpty (initializerName : String) (program : Program) : Prop :=
  ∀ kind decl, Within initializerName (.stmts program) (.function kind decl) →
    decl.foreign = true → decl.body = []

/-- The head and the statements of a scope hold only what is meant to be read, if the head does. -/
theorem alike_append_binders {own : List Binder}
    (needed : ∀ binder ∈ own, binder.kind.needsReading = true) (inStruct : Bool)
    (body : List Stmt) : Binder.Alike (own ++ body.flatMap (Stmt.binders inStruct)) := by
  refine .inl fun binder listed => ?_
  rcases List.mem_append.mp listed with here | there
  · exact needed binder here
  · obtain ⟨stmt, -, declared⟩ := List.mem_flatMap.mp there
    exact stmt.needsReading declared

/-- Where foreign functions have no body, the binders of a scope are alike. -/
theorem HasExtent.alike (has : HasExtent initializerName program extent)
    (documented : Program.ForeignBodiesEmpty initializerName program) :
    Binder.Alike extent.binders := by
  cases has with
  | program | block | whileLoop | structDecl =>
    exact alike_append_binders (List.forall_mem_nil _) _ _
  | @forRange _ _ _ _ counter =>
    refine alike_append_binders ?_ _ _
    intro binder listed
    obtain ⟨name, -, rfl⟩ := List.mem_map.mp listed
    rfl
  | forEach =>
    refine alike_append_binders ?_ _ _
    intro binder listed
    obtain rfl := List.mem_singleton.mp listed
    rfl
  | @function _ _ _ kind decl visits =>
    cases foreign : decl.foreign with
    | false =>
      refine alike_append_binders ?_ _ _
      intro binder listed
      obtain ⟨param, -, rfl⟩ := List.mem_map.mp listed
      rfl
    | true =>
      have empty := documented kind decl visits.within foreign
      refine .inr (.inl ?_)
      intro binder listed
      simp only [Extent.ofStmts, empty, List.flatMap_nil, List.append_nil] at listed
      obtain ⟨param, -, rfl⟩ := List.mem_map.mp listed
      rfl
  | this | super =>
    refine .inr (.inr ?_)
    intro binder listed
    obtain rfl := List.mem_singleton.mp listed
    rfl

end NameResolution
