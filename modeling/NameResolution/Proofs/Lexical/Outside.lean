import NameResolution.Proofs.Frame.Confined
import NameResolution.Proofs.Lexical.Coverage

/-!
# References outside of functions

The references of an expression that stand outside of all functions in it are
its sites with no more scopes around them than the expression itself has.
-/

namespace NameResolution

mutual

/-- The references in an expression outside of all functions in it, in walk order. -/
def Expr.outside : Expr → List Reference
  | .literal .. => []
  | .array _ elements => Expr.outsideAll elements
  | .assign node name value => value.outside ++ [⟨.assign, node.id, name⟩]
  | .var node name => [⟨.var, node.id, name⟩]
  | .mutArg node name => [⟨.mutArg, node.id, name⟩]
  | .binary _ left _ right => left.outside ++ right.outside
  | .logical _ left _ right => left.outside ++ right.outside
  | .unary _ _ operand => operand.outside
  | .grouping _ inner => inner.outside
  | .call _ callee args => callee.outside ++ Expr.outsideAll args
  | .get _ object _ => object.outside
  | .set _ object _ value => value.outside ++ object.outside
  | .index _ object position => object.outside ++ position.outside
  | .this node => [⟨.this, node.id, ⟨"this", node.span⟩⟩]
  | .super node _ => [⟨.super, node.id, ⟨"super", node.span⟩⟩]
  | .structInit node name fields =>
    FieldInit.outsideAll fields ++ [⟨.structInit, node.id, name⟩]
  | .lambda .. => []
  termination_by structural expr => expr

/-- The references in expressions outside of all functions in them. -/
def Expr.outsideAll : List Expr → List Reference
  | [] => []
  | expr :: rest => expr.outside ++ Expr.outsideAll rest
  termination_by structural exprs => exprs

/-- The references in the value of a field outside of all functions in it. -/
def FieldInit.outside : FieldInit → List Reference
  | ⟨_, value⟩ => value.outside
  termination_by structural field => field

/-- The references in the values of fields outside of all functions in them. -/
def FieldInit.outsideAll : List FieldInit → List Reference
  | [] => []
  | field :: rest => field.outside ++ FieldInit.outsideAll rest
  termination_by structural fields => fields

end

/-- The steps of a walk leave as many lexical scopes as there were. -/
theorem Shape.length_rescope {declares : Bool} {steps : List Step} (shape : Shape declares steps)
    (scopes : LexicalScopes) : (rescope steps scopes).length = scopes.length := by
  rw [NameResolution.length_rescope, shape.heightAfter]

/-- Steps that give a name its value are made in at least the scopes that they begin in. -/
theorem length_trail_finishes {steps : List Step} {name : Ident}
    (finishes : ∀ step ∈ steps, step.finishes name = true) (scopes : LexicalScopes) :
    ∀ visit ∈ trail steps scopes, scopes.length ≤ visit.2.length := by
  induction steps generalizing scopes with
  | nil => exact nofun
  | cons step rest ih =>
    rw [List.forall_mem_cons] at finishes
    have level : (step.rescope scopes).length = scopes.length := by
      rw [step.length_rescope, Step.height_of_finishes finishes.1]
    intro visit listed
    rcases List.mem_cons.mp listed with rfl | later
    · exact Nat.le_refl _
    · rw [← level]
      exact ih finishes.2 _ visit later

/-- Where steps are made in at least the scopes that they begin in, so is the closing behind
them. -/
theorem Shape.length_trail_closed {body : List Step} (inside : Shape true body)
    {scopes : LexicalScopes} (deep : ∀ visit ∈ trail body scopes, scopes.length ≤ visit.2.length) :
    ∀ visit ∈ trail (body ++ [.closeScope]) scopes, scopes.length ≤ visit.2.length := by
  intro visit listed
  rw [trail_append] at listed
  rcases List.mem_append.mp listed with here | there
  · exact deep visit here
  · rw [List.mem_singleton.mp there]
    exact Nat.le_of_eq (inside.length_rescope scopes).symm

/-- No step of a walk stands in fewer scopes than its first. -/
theorem Shape.length_trail {declares : Bool} {steps : List Step} (shape : Shape declares steps)
    (scopes : LexicalScopes) : ∀ visit ∈ trail steps scopes, scopes.length ≤ visit.2.length := by
  induction shape generalizing scopes with
  | nil => exact nofun
  | @append declares firstSteps secondSteps left right first second =>
    intro visit listed
    rw [trail_append] at listed
    rcases List.mem_append.mp listed with here | there
    · exact first scopes visit here
    · rw [← left.length_rescope scopes]
      exact second _ visit there
  | quiet quiet =>
    intro visit listed
    obtain rfl := List.mem_singleton.mp listed
    exact Nat.le_refl _
  | scope inside body =>
    have closed := inside.length_trail_closed (body scopes.enter)
    intro visit listed
    rcases List.mem_cons.mp listed with rfl | listed
    · exact Nat.le_refl _
    · exact Nat.le_of_succ_le (closed visit listed)
  | pseudoScope name span inside body =>
    have closed := inside.length_trail_closed
      (body ((Step.bindPseudo name span).rescope scopes.enter))
    intro visit listed
    rcases List.mem_cons.mp listed with rfl | listed
    · exact Nat.le_refl _
    · rcases List.mem_cons.mp listed with rfl | listed
      · exact Nat.le_succ _
      · exact Nat.le_of_succ_le (closed visit listed)
  | declared name mutable member valued finishes value =>
    have taken := scopes.length_declare (name.declaration mutable member)
    have ended := valued.length_rescope (scopes.declare (name.declaration mutable member))
    intro visit listed
    rcases List.mem_cons.mp listed with rfl | listed
    · exact Nat.le_refl _
    · rw [trail_append] at listed
      rw [← taken]
      rcases List.mem_append.mp listed with here | there
      · exact value _ visit here
      · rw [← ended]
        exact length_trail_finishes finishes _ visit there

/-- The sites in a function have more scopes around them than the function. -/
theorem FunctionDecl.length_sites (initializerName : String) (context : Context)
    (scopes : LexicalScopes) (kind : FunctionKind) (decl : FunctionDecl) :
    ∀ site ∈ decl.sites initializerName context scopes kind,
      scopes.length < site.scopes.length := by
  have covers := decl.covers initializerName context scopes kind
  obtain ⟨name, params, returnType, body, foreign, span⟩ := decl
  have inside := (Shape.params foreign params).append
    (Stmt.shaped_all initializerName (context.insideFunction kind) body)
  intro site listed
  have settled : (site.step, site.scopes) ∈ settlements
      (FunctionDecl.walk initializerName context kind
        ⟨name, params, returnType, body, foreign, span⟩) scopes := by
    rw [covers.settlements]
    exact List.mem_map.mpr ⟨site, listed, rfl⟩
  obtain ⟨walked, settles⟩ := List.mem_filter.mp settled
  rcases List.mem_cons.mp walked with opens | behind
  · have same : site.step = .openScope := congrArg Prod.fst opens
    change site.step.settles = true at settles
    rw [same] at settles
    cases settles
  · exact inside.length_trail_closed (inside.length_trail scopes.enter) _ behind

/-- `Outermost scopes sites references`: the sites with no more scopes around
them than there are in `scopes` are, in order, those of the references. -/
def Outermost (scopes : LexicalScopes) (sites : List Site) (references : List Reference) : Prop :=
  (sites.filter fun site => site.scopes.length == scopes.length).map Site.toReference = references

namespace Outermost

variable {scopes : LexicalScopes}

theorem nil : Outermost scopes [] [] := rfl

/-- Where sites stand outermost, they do so part by part. -/
theorem append {firstSites secondSites : List Site} {first second : List Reference}
    (left : Outermost scopes firstSites first) (right : Outermost scopes secondSites second) :
    Outermost scopes (firstSites ++ secondSites) (first ++ second) := by
  unfold Outermost at left right ⊢
  rw [List.filter_append, List.map_append, left, right]

/-- The own site of an expression stands in no scope but those around the expression. -/
theorem own (context : Context) {expr : Expr} {reference : Reference}
    (makes : expr.reference? = some reference) :
    Outermost scopes (expr.ownSite context scopes) [reference] := by
  simp [Outermost, Expr.ownSite, makes]

/-- Sites with more scopes around them do not count. -/
theorem deeper {sites : List Site}
    (deep : ∀ site ∈ sites, scopes.length < site.scopes.length) : Outermost scopes sites [] := by
  unfold Outermost
  rw [List.filter_eq_nil_iff.mpr, List.map_nil]
  intro site listed same
  have equal : site.scopes.length = scopes.length := eq_of_beq same
  have more := deep site listed
  omega

end Outermost

variable (initializerName : String)

mutual

/-- The sites of an expression with no more scopes around them than the
expression has are its references outside of all functions in it. -/
theorem Expr.outermost (context : Context) (scopes : LexicalScopes) : (expr : Expr) →
    Outermost scopes (expr.sites initializerName context scopes) expr.outside
  | .literal .. => .nil
  | .array _ elements => Expr.outermost_all context scopes elements
  | .assign _ _ value => (Expr.outermost context scopes value).append (.own context rfl)
  | .var _ _ => .own context rfl
  | .mutArg _ _ => .own context rfl
  | .binary _ left _ right =>
    (Expr.outermost context scopes left).append (Expr.outermost context scopes right)
  | .logical _ left _ right =>
    (Expr.outermost context scopes left).append (Expr.outermost context scopes right)
  | .unary _ _ operand => Expr.outermost context scopes operand
  | .grouping _ inner => Expr.outermost context scopes inner
  | .call _ callee args =>
    (Expr.outermost context scopes callee).append (Expr.outermost_all context scopes args)
  | .get _ object _ => Expr.outermost context scopes object
  | .set _ object _ value =>
    (Expr.outermost context scopes value).append (Expr.outermost context scopes object)
  | .index _ object position =>
    (Expr.outermost context scopes object).append (Expr.outermost context scopes position)
  | .this _ => .own context rfl
  | .super _ _ => .own context rfl
  | .structInit _ _ fields =>
    (FieldInit.outermost_all context scopes fields).append (.own context rfl)
  | .lambda _ decl => .deeper (decl.length_sites initializerName context scopes .function)
  termination_by structural expr => expr

/-- The outermost sites in expressions are the references outside of their lambdas. -/
theorem Expr.outermost_all (context : Context) (scopes : LexicalScopes) : (exprs : List Expr) →
    Outermost scopes (Expr.sitesAll initializerName context scopes exprs) (Expr.outsideAll exprs)
  | [] => .nil
  | expr :: rest =>
    (Expr.outermost context scopes expr).append (Expr.outermost_all context scopes rest)
  termination_by structural exprs => exprs

/-- The outermost sites in the value of a field are the references outside of its lambdas. -/
theorem FieldInit.outermost (context : Context) (scopes : LexicalScopes) : (field : FieldInit) →
    Outermost scopes (field.sites initializerName context scopes) field.outside
  | ⟨_, value⟩ => Expr.outermost context scopes value
  termination_by structural field => field

/-- The outermost sites in the values of fields are the references outside of their lambdas. -/
theorem FieldInit.outermost_all (context : Context) (scopes : LexicalScopes) :
    (fields : List FieldInit) →
    Outermost scopes (FieldInit.sitesAll initializerName context scopes fields)
      (FieldInit.outsideAll fields)
  | [] => .nil
  | field :: rest =>
    (FieldInit.outermost context scopes field).append
      (FieldInit.outermost_all context scopes rest)
  termination_by structural fields => fields

end

end NameResolution
