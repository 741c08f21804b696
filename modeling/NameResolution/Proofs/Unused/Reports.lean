import NameResolution.Proofs.Unused.Extents
import NameResolution.Proofs.Walk.Events

/-!
# Declarations without a value

A variable that must have a value and has none is reported where it is
declared, and nothing else is reported for that. So while a scope is open, each
of its binders that lacks a value is reported.
-/

namespace NameResolution

variable {initializerName : String} {program : Program} {extent : Extent}

/-- The step that reports a declaration for having no value. -/
def Binder.report (binder : Binder) : Step :=
  .report (.uninitializedImmutable binder.name binder.span)

/-- A statement reports what it declares without a value that it must have. -/
theorem Stmt.report_mem {context : Context} {binder : Binder}
    (lacks : binder.kind.lacksValue = true) : (stmt : Stmt) →
    binder ∈ stmt.binders context.inStruct → binder.report ∈ stmt.walk initializerName context
  | .letDecl _ name mutable _ none foreign, listed => by
    obtain rfl := List.mem_singleton.mp listed
    have must : (mutable || context.inStruct || foreign) = false := by
      simpa [BinderKind.lacksValue] using lacks
    rw [Stmt.walk]
    exact List.mem_append_right _ (List.mem_cons_of_mem _
      (Step.mem_uninitialized.mpr (.inr ⟨must, .inl rfl⟩)))
  | .letDecl _ _ _ _ (some _) _, listed => by
    obtain rfl := List.mem_singleton.mp listed
    cases lacks
  | .function _ decl, listed => by
    obtain ⟨name, -, rfl⟩ := List.mem_map.mp listed
    cases lacks
  | .structDecl .., listed => by
    obtain rfl := List.mem_singleton.mp listed
    cases lacks
  | .classDecl .., listed => by
    obtain rfl := List.mem_singleton.mp listed
    cases lacks
  | .ifElse _ _ thenBranch none, listed => by
    have inside := Stmt.report_mem lacks thenBranch listed
    simp [Stmt.walk, inside]
  | .ifElse _ _ thenBranch (some elseBranch), listed => by
    rcases List.mem_append.mp listed with first | second
    · have inside := Stmt.report_mem lacks thenBranch first
      simp [Stmt.walk, inside]
    · have inside := Stmt.report_mem lacks elseBranch second
      simp [Stmt.walk, Stmt.walk?, inside]
  | .block .., listed => nomatch listed
  | .breakLoop _, listed => nomatch listed
  | .continueLoop _, listed => nomatch listed
  | .forRange .., listed => nomatch listed
  | .forEach .., listed => nomatch listed
  | .whileLoop .., listed => nomatch listed
  | .expression .., listed => nomatch listed
  | .print .., listed => nomatch listed
  | .ret .., listed => nomatch listed

/-- A variable without a value that statements declare is reported when they are walked. -/
theorem Stmt.report_mem_all {context : Context} {binder : Binder}
    (lacks : binder.kind.lacksValue = true) {stmts : List Stmt}
    (listed : binder ∈ stmts.flatMap (Stmt.binders context.inStruct)) :
    binder.report ∈ Stmt.walkAll initializerName context stmts := by
  induction stmts with
  | nil => cases listed
  | cons stmt rest ih =>
    rw [List.flatMap_cons, List.mem_append] at listed
    rw [Stmt.walkAll]
    rcases listed with here | there
    · exact List.mem_append_left _ (List.mem_append_left _ (stmt.report_mem lacks here))
    · exact List.mem_append_right _ (ih there)

/-- A variable without a value is reported while its scope is open, if what is bound at the head
of the scope has values. -/
theorem Extent.report_mem_ofStmts {before leading : List Step} {own : List Binder}
    {context : Context} {body : List Stmt} {binder : Binder}
    (valued : ∀ binder ∈ own, binder.kind.lacksValue = false)
    (lacks : binder.kind.lacksValue = true)
    (listed : binder ∈ (ofStmts initializerName before leading own context body).binders) :
    binder.report ∈ (ofStmts initializerName before leading own context body).inside := by
  rcases List.mem_append.mp listed with here | there
  · rw [valued binder here] at lacks
    cases lacks
  · exact List.mem_append_right _ (Stmt.report_mem_all lacks there)

/-- What is declared in a scope without a value that it must have is reported
while the scope is open. -/
theorem HasExtent.report_mem (has : HasExtent initializerName program extent) {binder : Binder}
    (listed : binder ∈ extent.binders) (lacks : binder.kind.lacksValue = true) :
    binder.report ∈ extent.inside := by
  cases has with
  | program | block | whileLoop | structDecl =>
    exact Extent.report_mem_ofStmts (List.forall_mem_nil _) lacks listed
  | forRange | forEach | function =>
    exact Extent.report_mem_ofStmts
      (by simp [Ident.loopBinder, Param.binder, BinderKind.lacksValue]) lacks listed
  | this | super =>
    obtain rfl := List.mem_singleton.mp listed
    cases lacks

/-- Only a variable that must have a value and has none is reported for that. -/
theorem MadeAt.uninitialized {first before : List Step} {piece : Piece} {context : Context}
    {leading : List Item} {name : String} {span : Span}
    (made : MadeAt initializerName program first (.report (.uninitializedImmutable name span)) piece
      context before leading) :
    ∃ node ty, piece = .stmt (.letDecl node ⟨name, span⟩ false ty none false) ∧
      context.inStruct = false := by
  have listed := made.mem
  cases piece with
  | expr tree => cases tree <;> simp [Piece.items, Expr.items] at listed
  | stmts trees => cases trees <;> simp [Piece.items] at listed
  | function kind decl =>
    obtain ⟨_, params, returnType, body, foreign, _⟩ := decl
    simp [Piece.items] at listed
  | stmt tree =>
    cases tree with
    | letDecl node own mutable ty initial foreign =>
      cases initial with
      | some value => simp [Piece.items, Stmt.items] at listed
      | none =>
        obtain ⟨⟨⟨rfl, outside⟩, rfl⟩, rfl, rfl⟩ : ((mutable = false ∧ context.inStruct = false) ∧
            foreign = false) ∧ name = own.name ∧ span = own.span := by
          simpa [Piece.items, Stmt.items] using listed
        exact ⟨node, ty, rfl, outside⟩
    | ret node value =>
      cases value with
      | none => simp [Piece.items, Stmt.items] at listed
      | some value =>
        cases inside : context.function <;> simp [Piece.items, Stmt.items, inside] at listed
    | _ => simp [Piece.items, Stmt.items] at listed

/-- Only the report of a step says that a variable has no value. -/
theorem Step.eq_report_of_uninitialized {step : Step} {name : String} {span : Span}
    (emits : step.Emits (.error (.uninitializedImmutable name span))) :
    step = .report (.uninitializedImmutable name span) := by
  generalize seen : Event.error (.uninitializedImmutable name span) = event at emits
  cases emits with
  | reported own =>
    cases seen
    rfl
  | resolved access lookUp => cases lookUp <;> cases seen
  | read lookUp => cases lookUp <;> cases seen
  | unregistered kind name => cases kind <;> cases seen
  | _ => cases seen

/-- An error that says so is that of a variable without a value. -/
theorem exists_visit_of_uninitialized {env : Environment} {events : List Event}
    (faultFree : observe env program = (events, none)) {earlier later : List Event}
    {name : String} {span : Span}
    (split : events = earlier ++ .error (.uninitializedImmutable name span) :: later) :
    ∃ context before after node ty, context.inStruct = false ∧
      Visits env.config.initializerName program
        (.stmt (.letDecl node ⟨name, span⟩ false ty none false)) context before after := by
  obtain ⟨first, step, rest, inside, behind, walked, emits, -, -⟩ :=
    exists_step_of_diagnostic faultFree split
  obtain rfl := Step.eq_report_of_uninitialized emits
  rcases Program.exists_madeAt walked with ⟨-, same⟩ | ⟨-, same⟩ | ⟨piece, context, before, made⟩
  · cases same
  · cases same
  · obtain ⟨leading, made⟩ := made
    obtain ⟨node, ty, rfl, outside⟩ := made.uninitialized
    obtain ⟨-, trailing, after, -, visits⟩ := made
    exact ⟨context, before, after, node, ty, outside, visits⟩

end NameResolution
