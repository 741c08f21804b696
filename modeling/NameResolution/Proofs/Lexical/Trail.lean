import NameResolution.Proofs.Lexical.Sites

/-!
# The trail of a walk

A walk is a list of steps, and each step acts on the lexical scopes in a way
that depends on the step alone. `trail` pairs every step with the scopes in
force when its turn comes. The steps that settle references are, in order and
with their scopes, exactly those of the sites of the tree: `Stmt.covers` and
its companions prove it by induction on the tree, with what a piece declares
as the other half of the induction hypothesis.
-/

namespace NameResolution

/-- What a step does to the lexical scopes. -/
def Step.rescope (scopes : LexicalScopes) : Step → LexicalScopes
  | .openScope => scopes.enter
  | .closeScope => scopes.tail
  | .declare name mutable member => scopes.declare (name.declaration mutable member)
  | .define name => scopes.declare (name.declaration false false)
  | .bindPseudo name span =>
    match scopes with
    | [] => []
    | here :: outer => here.put ⟨name, span, false, false⟩ :: outer
  | _ => scopes

/-- What steps do to the lexical scopes, one after another. -/
def rescope (steps : List Step) (scopes : LexicalScopes) : LexicalScopes :=
  steps.foldl Step.rescope scopes

@[simp] theorem rescope_nil (scopes : LexicalScopes) : rescope [] scopes = scopes := rfl

@[simp] theorem rescope_cons (step : Step) (rest : List Step) (scopes : LexicalScopes) :
    rescope (step :: rest) scopes = rescope rest (step.rescope scopes) := rfl

/-- Scopes change through two lists of steps one after the other. -/
@[simp] theorem rescope_append (first second : List Step) (scopes : LexicalScopes) :
    rescope (first ++ second) scopes = rescope second (rescope first scopes) :=
  List.foldl_append

/-- Steps, each with the lexical scopes in force when its turn comes. -/
def trail : List Step → LexicalScopes → List (Step × LexicalScopes)
  | [], _ => []
  | step :: rest, scopes => (step, scopes) :: trail rest (step.rescope scopes)

/-- The second of two lists of steps begins in the scopes that the first leaves. -/
theorem trail_append (first second : List Step) (scopes : LexicalScopes) :
    trail (first ++ second) scopes = trail first scopes ++ trail second (rescope first scopes) := by
  induction first generalizing scopes with
  | nil => rfl
  | cons step rest ih => simp [trail, ih]

/-- Whether an error is the whole outcome of a reference. -/
def ResolutionError.settlesReference : ResolutionError → Bool
  | .notDeclared _ _ => true
  | .selfReference _ _ => true
  | .readOfDiscarded _ _ _ => true
  | .thisOutsideClass _ => true
  | .superOutsideClass _ => true
  | .superWithoutSuperclass _ => true
  | _ => false

/-- Whether a step settles a reference. -/
def Step.settles : Step → Bool
  | .resolve .. => true
  | .readVariable .. => true
  | .report error => error.settlesReference
  | _ => false

/-- The step that settles the reference of a site. -/
def Site.step (site : Site) : Step :=
  match site.form with
  | .var => .readVariable site.node site.name
  | .assign => .resolve site.node site.name .write
  | .mutArg => .resolve site.node site.name .read
  | .structInit => .resolve site.node site.name .read
  | .this =>
    match site.cls with
    | .none => .report (.thisOutsideClass site.name.span)
    | _ => .resolve site.node site.name .read
  | .super =>
    match site.cls with
    | .none => .report (.superOutsideClass site.name.span)
    | .base => .report (.superWithoutSuperclass site.name.span)
    | .subclass => .resolve site.node site.name .read

/-- The steps among others that settle references, with their scopes. -/
def settlements (steps : List Step) (scopes : LexicalScopes) : List (Step × LexicalScopes) :=
  (trail steps scopes).filter (·.1.settles)

/-- Two lists of steps settle the references of the first, then those of the second. -/
theorem settlements_append (first second : List Step) (scopes : LexicalScopes) :
    settlements (first ++ second) scopes =
      settlements first scopes ++ settlements second (rescope first scopes) := by
  simp [settlements, trail_append]

/-- `Covers steps scopes sites after`: begun in `scopes`, the steps settle the
references of `sites` one for one and in order, each in its own scopes, and
end in the scopes `after`. -/
structure Covers (steps : List Step) (scopes : LexicalScopes) (sites : List Site)
    (after : LexicalScopes) : Prop where
  settlements : settlements steps scopes = sites.map fun site => (site.step, site.scopes)
  rescope : rescope steps scopes = after

namespace Covers

theorem nil (scopes : LexicalScopes) : Covers [] scopes [] scopes := ⟨rfl, rfl⟩

/-- What steps cover, they cover part by part. -/
theorem append {first second : List Step} {scopes middle after : LexicalScopes}
    {firstSites secondSites : List Site} (left : Covers first scopes firstSites middle)
    (right : Covers second middle secondSites after) :
    Covers (first ++ second) scopes (firstSites ++ secondSites) after where
  settlements := by
    rw [settlements_append, left.rescope, left.settlements, right.settlements, List.map_append]
  rescope := by rw [rescope_append, left.rescope, right.rescope]

/-- Steps that settle nothing only change the scopes. -/
theorem silent {steps : List Step} {scopes after : LexicalScopes}
    (quiet : ∀ step ∈ steps, step.settles = false)
    (changes : NameResolution.rescope steps scopes = after) :
    Covers steps scopes [] after where
  settlements := by
    have none_settles : ∀ visit ∈ trail steps scopes, visit.1.settles = false := by
      clear changes
      induction steps generalizing scopes with
      | nil => simp [trail]
      | cons step rest ih =>
        simp only [List.forall_mem_cons] at quiet
        simp only [trail, List.forall_mem_cons]
        exact ⟨quiet.1, ih quiet.2⟩
    simpa [NameResolution.settlements] using none_settles
  rescope := changes

/-- The one step of a site. -/
theorem site {site : Site} (settles : site.step.settles = true)
    (keeps : site.step.rescope site.scopes = site.scopes) :
    Covers [site.step] site.scopes [site] site.scopes where
  settlements := by simp [NameResolution.settlements, trail, settles]
  rescope := keeps

/-- Nothing that is declared in a scope outlives it. -/
theorem scope {leading body : List Step} {scopes inside after : LexicalScopes} {sites : List Site}
    (enters : Covers leading scopes.enter [] inside) (covers : Covers body inside sites after)
    (outer : after.tail = scopes) :
    Covers (.openScope :: (leading ++ body ++ [.closeScope])) scopes sites scopes := by
  have opens : Covers [.openScope] scopes [] scopes.enter := silent (by simp [Step.settles]) rfl
  have closes : Covers [.closeScope] after [] scopes :=
    silent (by simp [Step.settles]) outer
  simpa using opens.append ((enters.append covers).append closes)

end Covers

/-- A site's own step settles a reference. -/
@[simp] theorem Site.settles_step (site : Site) : site.step.settles = true := by
  obtain ⟨⟨form, node, name⟩, cls, scopes⟩ := site
  cases form <;> cases cls <;> rfl

/-- A site's own step changes no scope. -/
@[simp] theorem Site.rescope_step (site : Site) (scopes : LexicalScopes) :
    site.step.rescope scopes = scopes := by
  obtain ⟨⟨form, node, name⟩, cls, around⟩ := site
  cases form <;> cases cls <;> rfl

/-- A bare reference is covered by its step. -/
theorem Expr.covers_ownSite {context : Context} {scopes : LexicalScopes} {expr : Expr}
    {steps : List Step}
    (own : ∀ site ∈ expr.ownSite context scopes, steps = [site.step])
    (references : expr.reference?.isSome) :
    Covers steps scopes (expr.ownSite context scopes) scopes := by
  obtain ⟨reference, found⟩ := Option.isSome_iff_exists.mp references
  have only : expr.ownSite context scopes = [⟨reference, context.cls, scopes⟩] := by
    simp [Expr.ownSite, found]
  rw [only] at own ⊢
  rw [own _ List.mem_cons_self]
  exact Covers.site (Site.settles_step _) (Site.rescope_step _ _)

/-- Taking a name and giving it a value declares it. -/
theorem rescope_bind (name : Ident) (mutable member : Bool) (scopes : LexicalScopes) :
    rescope (Step.bind name mutable member) scopes =
      scopes.declare (name.declaration mutable member) :=
  LexicalScopes.declare_declare rfl

/-- Taking a name and giving it a value settles no reference. -/
theorem covers_bind (name : Ident) (mutable member : Bool) (scopes : LexicalScopes) :
    Covers (Step.bind name mutable member) scopes []
      (scopes.declare (name.declaration mutable member)) :=
  .silent (by simp [Step.bind, Step.settles]) (rescope_bind ..)

/-- Taking parameters declares each of them, with or without a value. -/
theorem covers_params (foreign : Bool) (params : List Param) (scopes : LexicalScopes) :
    Covers (Step.params foreign params) scopes []
      (scopes.declareAll (params.map Param.declaration)) := by
  induction params generalizing scopes with
  | nil => exact .nil scopes
  | cons param rest ih =>
    have takes : Covers
        (.declare param.name param.isMutable false ::
          if foreign then [] else [.define param.name]) scopes []
        (scopes.declare param.declaration) := by
      cases foreign with
      | false => exact covers_bind ..
      | true => exact .silent (by simp [Step.settles]) rfl
    simpa [Step.params] using takes.append (ih (scopes.declare param.declaration))

/-- Asking the runtime settles no reference and declares nothing. -/
theorem covers_foreign (kind : ForeignKind) (isForeign : Bool) (name : Ident)
    (scopes : LexicalScopes) : Covers (Step.foreign kind isForeign name) scopes [] scopes := by
  cases isForeign with
  | false => exact .nil scopes
  | true => exact .silent (by simp [Step.foreign, Step.settles]) rfl

/-- A function with a name declares it and settles no reference. -/
theorem covers_functionName (context : Context) (decl : FunctionDecl) (scopes : LexicalScopes) :
    Covers (Step.functionName context decl) scopes []
      (scopes.declareAll (decl.name.toList.map (·.declaration false context.inStruct))) := by
  unfold Step.functionName
  split
  · rename_i unnamed
    simpa [unnamed] using Covers.nil scopes
  · rename_i name named
    simpa [named] using
      (covers_foreign .function decl.foreign name scopes).append
        (covers_bind name false context.inStruct scopes)

/-- A variable without a first value is defined on the spot. -/
theorem covers_uninitialized (context : Context) (name : Ident) (mutable isForeign member : Bool)
    (scopes : LexicalScopes) :
    Covers (Step.uninitialized context name mutable isForeign)
      (scopes.declare (name.declaration mutable member)) []
      (scopes.declare (name.declaration mutable member)) := by
  have again : (scopes.declare (name.declaration mutable member)).declare
      (name.declaration false false) = scopes.declare (name.declaration mutable member) :=
    LexicalScopes.declare_declare rfl
  unfold Step.uninitialized
  split
  · exact .silent (by simp [Step.settles]) again
  · exact .silent (by simp [Step.settles, ResolutionError.settlesReference]) again

/-- Checking a class for its own name settles no reference and declares nothing. -/
theorem covers_selfInheritance (name : Ident) (superclass : Option Expr)
    (scopes : LexicalScopes) : Covers (Step.selfInheritance name superclass) scopes [] scopes := by
  unfold Step.selfInheritance
  split
  · exact .nil scopes
  · split
    · exact .silent (by simp [Step.settles, ResolutionError.settlesReference]) rfl
    · exact .nil scopes

/-- Checking where a `return` stands settles no reference and declares nothing. -/
theorem covers_returnFrom (context : Context) (span : Span) (scopes : LexicalScopes) :
    Covers (Step.returnFrom context span) scopes [] scopes := by
  unfold Step.returnFrom
  split
  · exact .nil scopes
  · exact .silent (by simp [Step.settles, ResolutionError.settlesReference]) rfl

/-- Checking a loop for statements settles no reference and declares nothing. -/
theorem covers_loopBody (span : Span) (body : List Stmt) (scopes : LexicalScopes) :
    Covers (Step.loopBody span body) scopes [] scopes := by
  unfold Step.loopBody
  split
  · exact .silent (by simp [Step.settles, ResolutionError.settlesReference]) rfl
  · exact .nil scopes

/-- What is reported between statements settles no reference and declares nothing. -/
theorem covers_between (stmt : Stmt) (rest : List Stmt) (scopes : LexicalScopes) :
    Covers (Step.between stmt rest) scopes [] scopes := by
  unfold Step.between
  split
  · exact .silent (by simp [Step.settles]) rfl
  · exact .nil scopes

/-- Checking the object of a member assignment settles no reference and declares nothing. -/
theorem covers_setTarget (span : Span) (object : Expr) (scopes : LexicalScopes) :
    Covers (Step.setTarget span object) scopes [] scopes := by
  cases object <;> exact .silent (by simp [Step.setTarget, Step.settles]) rfl

/-- The counter of a loop is declared and settles no reference. -/
theorem covers_counter (counter : Option Ident) (scopes : LexicalScopes) :
    Covers (counter.elim [] (Step.bind · false false)) scopes []
      (scopes.declareAll (counter.toList.map (·.declaration false false))) := by
  cases counter with
  | none => exact .nil scopes
  | some name => exact covers_bind name false false scopes

/-- The steps up to one that settles a reference settle those before it. -/
theorem split_of_settlements {steps : List Step} {scopes around : LexicalScopes} {step : Step}
    {earlier later : List (Step × LexicalScopes)}
    (settled : settlements steps scopes = earlier ++ (step, around) :: later) :
    ∃ first rest, steps = first ++ step :: rest ∧ settlements first scopes = earlier ∧
      rescope first scopes = around := by
  induction steps generalizing scopes earlier with
  | nil => simp [settlements, trail] at settled
  | cons next rest ih =>
    cases settles : next.settles with
    | false =>
      have passed (steps : List Step) :
          settlements (next :: steps) scopes = settlements steps (next.rescope scopes) := by
        simp [settlements, trail, settles]
      rw [passed] at settled
      obtain ⟨first, behind, same, before, reached⟩ := ih settled
      refine ⟨next :: first, behind, by rw [same, List.cons_append], ?_, reached⟩
      rw [passed, before]
    | true =>
      have taken (steps : List Step) : settlements (next :: steps) scopes =
          (next, scopes) :: settlements steps (next.rescope scopes) := by
        simp [settlements, trail, settles]
      rw [taken] at settled
      cases earlier with
      | nil =>
        rw [List.nil_append, List.cons.injEq, Prod.mk.injEq] at settled
        obtain ⟨⟨rfl, rfl⟩, -⟩ := settled
        exact ⟨[], rest, rfl, rfl, rfl⟩
      | cons visit earlier =>
        rw [List.cons_append, List.cons.injEq] at settled
        obtain ⟨rfl, settled⟩ := settled
        obtain ⟨first, behind, same, before, reached⟩ := ih settled
        refine ⟨next :: first, behind, by rw [same, List.cons_append], ?_, reached⟩
        rw [taken, before]

/-- Covering steps come to each site, with the sites before it settled. -/
theorem Covers.reaches {steps : List Step} {scopes after : LexicalScopes} {sites : List Site}
    (covers : Covers steps scopes sites after) {earlier later : List Site} {site : Site}
    (split : sites = earlier ++ site :: later) :
    ∃ first rest, steps = first ++ site.step :: rest ∧
      NameResolution.settlements first scopes =
        earlier.map (fun other => (other.step, other.scopes)) ∧
      NameResolution.rescope first scopes = site.scopes := by
  have settled := covers.settlements
  rw [split, List.map_append, List.map_cons] at settled
  exact split_of_settlements settled

end NameResolution
