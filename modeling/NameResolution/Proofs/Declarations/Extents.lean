import NameResolution.Proofs.Lexical.Declaring
import NameResolution.Proofs.Unused.Extents

/-!
# What is declared in a scope

The steps inside the extent of a scope make the declarations of its binders in
that scope, in the order of the binders. In the scope of `this` or `super` they
declare nothing.
-/

namespace NameResolution

variable {initializerName : String} {program : Program}

/-- `extent.OfForeign initializerName program decl`: the scope is that of a foreign function. -/
def Extent.OfForeign (initializerName : String) (program : Program) (decl : FunctionDecl)
    (extent : Extent) : Prop :=
  decl.foreign = true ∧ ∃ kind context after,
    Visits initializerName program (.function kind decl) context extent.before after ∧
    extent.inside = Step.params true decl.params ++
      Stmt.walkAll initializerName (context.insideFunction kind) decl.body

/-- What is declared in a scope, in order. What `this` and `super` mean is not declared. -/
def Extent.declares (extent : Extent) : List Declaration :=
  (extent.binders.filter fun binder => binder.kind ≠ .pseudo).map Binder.toDeclaration

/-- A statement declares nothing that is not meant to be read. -/
theorem Stmt.declares_binders (inStruct : Bool) (stmts : List Stmt) :
    ((stmts.flatMap (Stmt.binders inStruct)).filter fun binder => binder.kind ≠ .pseudo) =
      stmts.flatMap (Stmt.binders inStruct) := by
  apply List.filter_eq_self.mpr
  intro binder listed
  obtain ⟨stmt, -, listed⟩ := List.mem_flatMap.mp listed
  have needed := stmt.needsReading listed
  apply decide_eq_true
  intro pseudo
  rw [pseudo] at needed
  cases needed

/-- The scope of a statement list that follows steps with declarations of their own. -/
theorem Extent.declaring_ofStmts {valued : Bool} {before leading : List Step} {own : List Binder}
    {context : Context} {body : List Stmt} (proper : ∀ binder ∈ own, binder.kind ≠ .pseudo)
    (declaring : Declaring valued (own.map Binder.toDeclaration) leading) :
    Declaring valued (ofStmts initializerName before leading own context body).declares
      (ofStmts initializerName before leading own context body).inside := by
  have behind : Declaring valued _ (Stmt.walkAll initializerName context body) :=
    Stmt.declaring_all initializerName context body
  have kept : (own.filter fun binder => binder.kind ≠ .pseudo) = own :=
    List.filter_eq_self.mpr fun binder listed => decide_eq_true (proper binder listed)
  rw [declares, ofStmts, List.filter_append, kept, Stmt.declares_binders, List.map_append,
    Stmt.map_binders_all]
  exact declaring.append behind

variable {extent : Extent}

/-- The steps of a scope make its declarations, and give the names values unless they
are the parameters of a foreign function. -/
theorem HasExtent.declaring (has : HasExtent initializerName program extent) {valued : Bool}
    (known : valued = true → ∀ decl, ¬ extent.OfForeign initializerName program decl) :
    Declaring valued extent.declares extent.inside ∨
      extent.declares = [] ∧
        ∃ name span body, extent.inside = .bindPseudo name span :: body ∧ Shape false body := by
  cases has with
  | program | block | whileLoop | structDecl =>
    exact .inl (Extent.declaring_ofStmts nofun (.shape .nil))
  | @forRange _ _ _ node counter _ _ body =>
    refine .inl (Extent.declaring_ofStmts (by simp [Ident.loopBinder]) ?_)
    rw [List.map_map]
    exact (Declaring.counter counter).ahead (.loopBody node.span body)
  | @forEach _ _ _ node item _ body =>
    exact .inl (Extent.declaring_ofStmts (by simp [Ident.loopBinder])
      ((Declaring.bind item false false).ahead (.loopBody node.span body)))
  | @function _ _ _ _ decl visits =>
    refine .inl (Extent.declaring_ofStmts (by simp [Param.binder]) ?_)
    rw [List.map_map]
    refine Declaring.params decl.foreign decl.params fun settled => ?_
    cases foreign : decl.foreign with
    | false => rfl
    | true =>
      refine absurd ⟨foreign, _, _, _, visits, ?_⟩ (known settled decl)
      rw [← foreign]
      rfl
  | this visits =>
    exact .inr ⟨rfl, _, _, _, rfl, FunctionDecl.shaped_methods initializerName _ _⟩
  | super visits =>
    exact .inr ⟨rfl, _, _, _, rfl,
      .pseudoScope "this" _ (FunctionDecl.shaped_methods initializerName _ _)⟩

end NameResolution
