import NameResolution.Proofs.Context.Enclosures
import NameResolution.Proofs.Faults.Cut
import NameResolution.Proofs.Lexical.Depths
import NameResolution.Proofs.Walk.Events
import NameResolution.Proofs.Walk.OwnSteps

/-!
# Errors of structure

Some errors are plain from where a piece of a program stands: a `return`
outside of every function, a `this` outside of every class, a loop without
statements. They are computed here from the tree and the name of initializers,
piece by piece, and a run reports these and no others of their kinds, in the
same order, whatever is declared.
-/

namespace NameResolution

/-- Whether an error is plain from the tree and from where it stands. -/
def ResolutionError.isStructural : ResolutionError → Bool
  | .uninitializedImmutable _ _ => true
  | .topLevelReturn _ => true
  | .initializerReturnValue _ => true
  | .thisOutsideClass _ => true
  | .superOutsideClass _ => true
  | .superWithoutSuperclass _ => true
  | .selfInheritance _ _ => true
  | .emptyLoopBody _ => true
  | _ => false

/-- Whether a diagnostic is such an error. -/
def Diagnostic.isStructural : Diagnostic → Bool
  | .error cause => cause.isStructural
  | .warning _ => false

/-- What there is to check at a piece. -/
inductive Check where
  /-- An error of the piece itself. -/
  | report (error : ResolutionError)
  /-- A part of it, which stands in the given enclosures. -/
  | descend (part : Piece) (around : List Enclosure)

/-- The parts of a piece, one and all. -/
def Piece.descents (initializerName : String) (around : List Enclosure) (piece : Piece) :
    List Check :=
  (piece.parts initializerName).map fun part => .descend part (piece.enclosure part ++ around)

/-- The error of a loop over a range or a collection that has no statements. -/
def Check.loopBody (span : Span) (body : List Stmt) : List Check :=
  if body.isEmpty then [.report (.emptyLoopBody span)] else []

/-- The error of a class that names itself as its superclass. -/
def Check.selfInheritance (name : Ident) : Option Expr → List Check
  | some (.var _ parent) =>
    if parent.name = name.name then [.report (.selfInheritance parent.name parent.span)] else []
  | _ => []

/-- What there is to check at an expression that stands in the given enclosures, in order. -/
def Expr.checks (initializerName : String) (around : List Enclosure) : Expr → List Check
  | .this node =>
    match (Context.inside around).cls with
    | .none => [.report (.thisOutsideClass node.span)]
    | _ => []
  | .super node _ =>
    match (Context.inside around).cls with
    | .none => [.report (.superOutsideClass node.span)]
    | .base => [.report (.superWithoutSuperclass node.span)]
    | .subclass => []
  | expr => (Piece.expr expr).descents initializerName around

/-- What there is to check at a statement that stands in the given enclosures, in order. -/
def Stmt.checks (initializerName : String) (around : List Enclosure) : Stmt → List Check
  | .letDecl _ name mutable _ initial foreign =>
    match initial with
    | some value => [.descend (.expr value) around]
    | none =>
      if mutable || foreign || (Context.inside around).struct == .struct then []
      else [.report (.uninitializedImmutable name.name name.span)]
  | .forRange node _ lower upper body =>
    [.descend (.expr lower) around, .descend (.expr upper) around] ++
      Check.loopBody node.span body ++ [.descend (.stmts body) (.loop :: around)]
  | .forEach node _ collection body =>
    [.descend (.expr collection) around] ++ Check.loopBody node.span body ++
      [.descend (.stmts body) (.loop :: around)]
  | .ret node value =>
    (match (Context.inside around).function with
      | .none => [.report (.topLevelReturn node.span)]
      | _ => []) ++
    match value, (Context.inside around).function with
    | none, _ => []
    | some value, .initializer => [.report (.initializerReturnValue value.span)]
    | some value, _ => [.descend (.expr value) around]
  | .classDecl node name superclass methods =>
    Check.selfInheritance name superclass ++
      (Piece.stmt (.classDecl node name superclass methods)).descents initializerName around
  | stmt => (Piece.stmt stmt).descents initializerName around

/-- What there is to check at a piece that stands in the given enclosures, in order. -/
def Piece.checks (initializerName : String) (around : List Enclosure) : Piece → List Check
  | .expr tree => tree.checks initializerName around
  | .stmt tree => tree.checks initializerName around
  | piece => piece.descents initializerName around

variable {initializerName : String}

/-- Every part of a piece is gone down into, in the enclosures that the piece puts around it. -/
@[simp] theorem descend_mem_descents {piece part : Piece} {around inner : List Enclosure} :
    .descend part inner ∈ piece.descents initializerName around ↔
      part ∈ piece.parts initializerName ∧ inner = piece.enclosure part ++ around := by
  simp only [Piece.descents, List.mem_map, Check.descend.injEq]
  constructor
  · rintro ⟨part, listed, rfl, rfl⟩
    exact ⟨listed, rfl⟩
  · rintro ⟨listed, rfl⟩
    exact ⟨part, listed, rfl, rfl⟩

/-- Checking the body of a loop for statements goes down into nothing. -/
@[simp] theorem descend_not_mem_loopBody {span : Span} {body : List Stmt} {part : Piece}
    {inner : List Enclosure} : .descend part inner ∉ Check.loopBody span body := by
  cases body <;> simp [Check.loopBody]

/-- Checking a class for its own name goes down into nothing. -/
@[simp] theorem descend_not_mem_selfInheritance {name : Ident} {superclass : Option Expr}
    {part : Piece} {inner : List Enclosure} :
    .descend part inner ∉ Check.selfInheritance name superclass := by
  unfold Check.selfInheritance
  split
  · split <;> simp
  · exact List.not_mem_nil

/-- Only parts of an expression are gone down into. -/
theorem Expr.mem_parts_of_checks (expr : Expr) {part : Piece} {around inner : List Enclosure} :
    .descend part inner ∈ expr.checks initializerName around → part ∈ expr.parts := by
  cases expr with
  | this node | super node method =>
    cases kind : (Context.inside around).cls <;> simp [checks, kind]
  | _ => exact fun listed => (descend_mem_descents.mp listed).1

/-- Only parts of a statement are gone down into. -/
theorem Stmt.mem_parts_of_checks (stmt : Stmt) {part : Piece} {around inner : List Enclosure} :
    .descend part inner ∈ stmt.checks initializerName around →
      part ∈ stmt.parts initializerName := by
  cases stmt with
  | letDecl node name mutable ty initial foreign =>
    cases initial with
    | none =>
      dsimp only [checks]
      split <;> simp
    | some value => simp +contextual [checks, parts]
  | forRange node counter lower upper body => simp +contextual [checks, parts, or_imp]
  | forEach node item collection body => simp +contextual [checks, parts, or_imp]
  | ret node value =>
    cases value <;> cases kind : (Context.inside around).function <;>
      simp +contextual [checks, parts, kind]
  | classDecl node name superclass methods => simp +contextual [checks, Piece.parts]
  | _ => exact fun listed => (descend_mem_descents.mp listed).1

/-- Only parts of a piece are gone down into. -/
theorem Piece.mem_parts_of_checks (piece : Piece) {part : Piece} {around inner : List Enclosure} :
    .descend part inner ∈ piece.checks initializerName around →
      part ∈ piece.parts initializerName := by
  cases piece with
  | expr tree => exact tree.mem_parts_of_checks
  | stmt tree => exact tree.mem_parts_of_checks
  | _ => exact fun listed => (descend_mem_descents.mp listed).1

/-- The errors of structure in a piece that stands in the given enclosures. -/
def Piece.structureErrors (initializerName : String) (around : List Enclosure) (piece : Piece) :
    List ResolutionError :=
  (piece.checks initializerName around).attach.flatMap fun
    | ⟨.report error, _⟩ => [error]
    | ⟨.descend part inner, _⟩ => part.structureErrors initializerName inner
  termination_by piece.size
  decreasing_by exact piece.size_parts part (piece.mem_parts_of_checks ‹_›)

/-- The errors of structure that come of a check. -/
def Check.errors (initializerName : String) : Check → List ResolutionError
  | .report error => [error]
  | .descend part inner => part.structureErrors initializerName inner

/-- The errors of structure in a piece are those of its checks. -/
theorem Piece.structureErrors_eq (around : List Enclosure) (piece : Piece) :
    piece.structureErrors initializerName around =
      (piece.checks initializerName around).flatMap (Check.errors initializerName) := by
  have same (check : Check) (listed : check ∈ piece.checks initializerName around) :
      (match (⟨check, listed⟩ : {check // check ∈ piece.checks initializerName around}) with
        | ⟨.report error, _⟩ => [error]
        | ⟨.descend part inner, _⟩ => part.structureErrors initializerName inner) =
        check.errors initializerName := by
    cases check <;> rfl
  rw [structureErrors, List.flatMap_subtype same, List.unattach_attach]

/-- The errors of structure in a program. -/
def Program.structureErrors (initializerName : String) (program : Program) :
    List ResolutionError :=
  (Piece.stmts program).structureErrors initializerName []

/-- The error of structure that a step reports. -/
def Step.structureError? : Step → Option ResolutionError
  | .report error => if error.isStructural then some error else none
  | _ => none

/-- The errors of structure that come of an item in the walk of a piece. -/
def Item.errors (initializerName : String) (around : List Enclosure) (piece : Piece) :
    Item → List ResolutionError
  | .step own => own.structureError?.toList
  | .visit part _ => part.structureErrors initializerName (piece.enclosure part ++ around)

section OwnSteps

variable {context : Context} {name : Ident}

/-- Steps of which none reports an error of structure report none together. -/
theorem structureErrors_of_aside {steps : List Step}
    (aside : ∀ step ∈ steps, step.structureError? = none) :
    steps.filterMap Step.structureError? = [] :=
  List.filterMap_eq_nil_iff.mpr aside

/-- Taking a name and giving it a value is no error of structure. -/
@[simp] theorem structureErrors_bind (mutable member : Bool) :
    (Step.bind name mutable member).filterMap Step.structureError? = [] := rfl

/-- Binding the counter of a loop is no error of structure. -/
@[simp] theorem structureErrors_counter (counter : Option Ident) :
    (counter.elim [] (Step.bind · false false)).filterMap Step.structureError? = [] := by
  cases counter <;> rfl

/-- The object of a member assignment can be a fault, but no error of structure. -/
@[simp] theorem structureErrors_setTarget (span : Span) (object : Expr) :
    (Step.setTarget span object).filterMap Step.structureError? = [] := by
  cases object <;> rfl

/-- Taking the parameters of a function is no error of structure. -/
@[simp] theorem structureErrors_params (foreign : Bool) (params : List Param) :
    (Step.params foreign params).filterMap Step.structureError? = [] := by
  apply structureErrors_of_aside
  intro step listed
  obtain ⟨param, -, rfl | ⟨-, rfl⟩⟩ := Step.mem_params.mp listed <;> rfl

/-- A question to the runtime is no error of structure. -/
@[simp] theorem structureErrors_foreign (kind : ForeignKind) (isForeign : Bool) :
    (Step.foreign kind isForeign name).filterMap Step.structureError? = [] := by
  cases isForeign <;> rfl

/-- Binding the name of a function is no error of structure. -/
@[simp] theorem structureErrors_functionName (decl : FunctionDecl) :
    (Step.functionName context decl).filterMap Step.structureError? = [] := by
  apply structureErrors_of_aside
  intro step listed
  obtain ⟨name, -, ⟨-, rfl⟩ | rfl | rfl⟩ := Step.mem_functionName.mp listed <;> rfl

/-- What is reported between statements is no error of structure. -/
@[simp] theorem structureErrors_between (stmt : Stmt) (rest : List Stmt) :
    (Step.between stmt rest).filterMap Step.structureError? = [] := by
  apply structureErrors_of_aside
  intro step listed
  obtain ⟨-, -, rfl⟩ := Step.mem_between.mp listed
  rfl

/-- A loop without statements is reported exactly where the check of its body says so. -/
theorem structureErrors_loopBody (initializerName : String) (span : Span) (body : List Stmt) :
    (Step.loopBody span body).filterMap Step.structureError? =
      (Check.loopBody span body).flatMap (Check.errors initializerName) := by
  cases body <;> rfl

/-- A class that names itself is reported exactly where the check of it says so. -/
theorem structureErrors_selfInheritance (initializerName : String) (superclass : Option Expr) :
    (Step.selfInheritance name superclass).filterMap Step.structureError? =
      (Check.selfInheritance name superclass).flatMap (Check.errors initializerName) := by
  rcases superclass with _ | superclass
  · rfl
  · cases superclass with
    | var node parent =>
      by_cases same : parent.name = name.name <;>
        simp [Step.selfInheritance, Expr.asVariable?, Check.selfInheritance, same, Check.errors,
          Step.structureError?, ResolutionError.isStructural]
    | _ => rfl

end OwnSteps

section Items

variable {around : List Enclosure} {piece : Piece}

/-- The errors of the own steps of a piece are those that the steps report. -/
@[simp] theorem flatMap_errors_steps (steps : List Step) :
    (steps.map Item.step).flatMap (Item.errors initializerName around piece) =
      steps.filterMap Step.structureError? := by
  induction steps with
  | nil => rfl
  | cons step rest ih =>
    rw [List.map_cons, List.flatMap_cons, ih, Item.errors]
    cases reported : step.structureError? <;> simp [reported]

/-- The errors of visits are those of the pieces that are visited, in their enclosures. -/
@[simp] theorem flatMap_errors_visits {α : Type} (part : α → Piece) (inner : Context)
    (trees : List α) :
    (trees.map fun tree => Item.visit (part tree) inner).flatMap
        (Item.errors initializerName around piece) =
      (trees.map part).flatMap fun part =>
        part.structureErrors initializerName (piece.enclosure part ++ around) := by
  rw [List.flatMap_map, List.flatMap_map]
  rfl

/-- The errors of going down into all parts are those of the parts, in their enclosures. -/
@[simp] theorem flatMap_errors_descents :
    (piece.descents initializerName around).flatMap (Check.errors initializerName) =
      (piece.parts initializerName).flatMap fun part =>
        part.structureErrors initializerName (piece.enclosure part ++ around) := by
  rw [Piece.descents, List.flatMap_map]
  rfl

end Items

/-- What a piece reports by itself, and its parts, are the checks of it. -/
theorem Expr.flatMap_errors (expr : Expr) (around : List Enclosure) :
    (expr.items (.inside around)).flatMap (Item.errors initializerName around (.expr expr)) =
      (expr.checks initializerName around).flatMap (Check.errors initializerName) := by
  cases expr with
  | this node =>
    cases kind : (Context.inside around).cls <;>
      simp [items, checks, Step.this, Context.inClass, kind, Item.errors, Check.errors,
        Step.structureError?, ResolutionError.isStructural]
  | super node method =>
    cases kind : (Context.inside around).cls <;>
      simp [items, checks, Step.super, kind, Item.errors, Check.errors,
        Step.structureError?, ResolutionError.isStructural]
  | _ => simp [items, checks, parts, Piece.parts, Item.errors, Step.structureError?]

/-- What a statement reports by itself, and its parts, are the checks of it. -/
theorem Stmt.flatMap_errors (stmt : Stmt) (around : List Enclosure) :
    (stmt.items initializerName (.inside around)).flatMap
        (Item.errors initializerName around (.stmt stmt)) =
      (stmt.checks initializerName around).flatMap (Check.errors initializerName) := by
  cases stmt with
  | letDecl node name mutable ty initial foreign =>
    cases initial with
    | none =>
      cases mutable <;> cases foreign <;> cases kind : (Context.inside around).struct <;>
        simp [items, checks, Step.uninitialized, Context.inStruct, kind, Item.errors, Check.errors,
          Step.structureError?, ResolutionError.isStructural]
    | some value =>
      simp [items, checks, Piece.enclosure, Item.errors, Check.errors, Step.structureError?]
  | forRange node counter lower upper body =>
    simp [items, checks, structureErrors_loopBody initializerName, Piece.enclosure, Item.errors,
      Check.errors, Step.structureError?]
  | forEach node item collection body =>
    simp [items, checks, structureErrors_loopBody initializerName, Piece.enclosure, Item.errors,
      Check.errors, Step.structureError?]
  | whileLoop node condition body =>
    cases condition <;> simp [items, checks, parts, Piece.parts, Item.errors, Step.structureError?]
  | ifElse node condition thenBranch elseBranch =>
    cases elseBranch <;> simp [items, checks, parts, Piece.parts, Item.errors]
  | ret node value =>
    cases value <;> cases kind : (Context.inside around).function <;>
      simp [items, checks, kind, Step.returnFrom, Context.inFunction, Piece.enclosure, Item.errors,
        Check.errors, Step.structureError?, ResolutionError.isStructural]
  | classDecl node name superclass methods =>
    cases superclass <;>
      simp [items, checks, structureErrors_selfInheritance initializerName, parts, Piece.parts,
        Item.errors, Step.structureError?]
  | _ => simp [items, checks, parts, Piece.parts, Item.errors, Step.structureError?]

/-- What a piece reports by itself, and its parts, are the checks of it. -/
theorem Piece.flatMap_errors (piece : Piece) (around : List Enclosure) :
    (piece.items initializerName (.inside around)).flatMap
        (Item.errors initializerName around piece) =
      piece.structureErrors initializerName around := by
  rw [structureErrors_eq]
  cases piece with
  | expr tree => exact tree.flatMap_errors around
  | stmt tree => exact tree.flatMap_errors around
  | stmts trees => cases trees <;> simp [items, checks, parts, Item.errors]
  | function kind tree =>
    obtain ⟨name, params, returnType, body, foreign, span⟩ := tree
    simp [items, checks, parts, Item.errors, Step.structureError?]

/-- The walk of a piece reports the errors of structure in it. -/
theorem Piece.structureErrors_walk (piece : Piece) (around : List Enclosure) :
    (piece.walk initializerName (.inside around)).filterMap Step.structureError? =
      piece.structureErrors initializerName around := by
  have item (item : Item) (listed : item ∈ piece.items initializerName (.inside around)) :
      (item.walk initializerName).filterMap Step.structureError? =
        item.errors initializerName around piece := by
    cases item with
    | step own => cases reported : own.structureError? <;> simp [Item.walk, Item.errors, reported]
    | visit part inner =>
      have smaller : part.size < piece.size :=
        piece.size_parts part (piece.mem_parts_of_visit listed)
      rw [piece.inner_eq listed]
      exact part.structureErrors_walk _
  rw [← piece.flatMap_items, List.filterMap_flatMap, ← piece.flatMap_errors]
  exact List.flatMap_congr item
  termination_by piece.size

variable {env : Environment}

/-- What a step emits is no error of structure, unless the step reports it. -/
theorem Step.Emits.not_structural {step : Step} {event : Event} (emits : step.Emits event)
    (aside : ∀ error, step ≠ .report error) :
    ∀ found ∈ event.diagnostic?, found.isStructural = false := by
  cases emits with
  | reported error => exact absurd rfl (aside error)
  | resolved access lookUp | read lookUp =>
    cases lookUp with
    | notDeclared =>
      rintro _ ⟨⟩
      rfl
    | _ => rintro _ ⟨⟩
  | unregistered kind name => cases kind <;> rintro _ ⟨⟩ <;> rfl
  | _ => rintro _ ⟨⟩ <;> rfl

/-- A step gives no error of structure but the one that it reports. -/
theorem Step.structural_perform (step : Step) (stack : ScopeStack) :
    (reportOf (step.perform env stack).1).filter Diagnostic.isStructural =
      step.structureError?.toList.map .error := by
  by_cases reports : ∃ error, step = .report error
  · obtain ⟨error, rfl⟩ := reports
    cases structural : error.isStructural <;>
      simp [perform, structureError?, structural, reportOf, Event.diagnostic?, Event.error,
        Diagnostic.isStructural]
  · have aside : step.structureError? = none := by
      cases step <;> first | rfl | exact absurd ⟨_, rfl⟩ reports
    rw [aside, Option.toList_none, List.map_nil, List.filter_eq_nil_iff]
    intro found listed
    obtain ⟨event, said, diagnostic⟩ := List.mem_filterMap.mp listed
    have plain := (Step.emits_of_mem said).not_structural (fun error same => reports ⟨error, same⟩)
      found diagnostic
    simp [plain]

/-- A run gives no errors of structure but those that its steps report. -/
theorem structural_run (steps : List Step) (stack : ScopeStack) :
    (reportOf (run env steps stack).1).filter Diagnostic.isStructural =
      (steps.filterMap Step.structureError?).map .error := by
  induction steps generalizing stack with
  | nil => rfl
  | cons step rest ih =>
    rw [run_cons, reportOf, List.filterMap_append, List.filter_append, ← reportOf, ← reportOf, ih,
      step.structural_perform]
    cases reported : step.structureError? <;> simp [reported]

/-- While a piece is walked, its errors of structure are reported, whatever the scopes hold. -/
theorem Piece.structural_run (piece : Piece) (around : List Enclosure) (stack : ScopeStack) :
    (reportOf (run env (piece.walk env.config.initializerName (.inside around)) stack).1).filter
        Diagnostic.isStructural =
      (piece.structureErrors env.config.initializerName around).map .error := by
  rw [NameResolution.structural_run, piece.structureErrors_walk]

variable {program : Program}

/-- A run without a fault reports the errors of structure in its program. -/
theorem structural_observe {events : List Event}
    (faultFree : observe env program = (events, none)) :
    (reportOf events).filter Diagnostic.isStructural =
      (Program.structureErrors env.config.initializerName program).map .error := by
  have reported : reportOf events =
      reportOf (run env (Program.walk env.config.initializerName program) .empty).1 := by
    rw [observe_eq_run faultFree]
    exact filterMap_between (fun _ => rfl) _ _ _
  have inside : (Stmt.walkAll env.config.initializerName .outermost program).filterMap
      Step.structureError? = Program.structureErrors env.config.initializerName program :=
    (Piece.stmts program).structureErrors_walk []
  rw [reported, NameResolution.structural_run, Program.walk, List.filterMap_cons_none rfl,
    List.filterMap_append, inside, List.filterMap_cons_none rfl, List.filterMap_nil,
    List.append_nil]

/-- Among what a resolution reports, the errors that are plain from the tree are
those that are computed from the tree and the name of initializers, in the same
order. Neither the other settings nor the runtime have a part in them, and
neither have the names that are bound where a piece stands: whatever the scopes
hold when its walk begins, it reports those that are computed from the piece and
its enclosures. -/
theorem resolve_structure_errors {resolution : Resolution}
    (succeeds : resolve env program = .ok resolution) :
    resolution.report.filter Diagnostic.isStructural =
        (Program.structureErrors env.config.initializerName program).map .error ∧
      (∀ other : Environment, other.config.initializerName = env.config.initializerName →
        ∃ also, resolve other program = .ok also ∧
          also.report.filter Diagnostic.isStructural =
            resolution.report.filter Diagnostic.isStructural) ∧
      ∀ (piece : Piece) (around : List Enclosure) (stack : ScopeStack),
        (reportOf (run env (piece.walk env.config.initializerName (.inside around)) stack).1).filter
            Diagnostic.isStructural =
          (piece.structureErrors env.config.initializerName around).map .error := by
  obtain ⟨events, faultFree, rfl⟩ := resolve_eq_ok_iff.mp succeeds
  refine ⟨structural_observe faultFree, ?_, fun piece => piece.structural_run⟩
  intro other same
  have goesOn : (observe other program).2 = none := by
    have whole := congrArg Prod.snd faultFree
    rw [observe_snd_eq_head?] at whole ⊢
    rwa [same]
  have further : observe other program = ((observe other program).1, none) := Prod.ext rfl goesOn
  refine ⟨_, resolve_eq_ok_iff.mpr ⟨_, further, rfl⟩, ?_⟩
  rw [structural_observe further, structural_observe faultFree, same]

/-- An initializer that returns `this`: `init() { return this; }`. -/
def returningInit : FunctionDecl :=
  ⟨some ⟨"init", default⟩, [], none, [.ret default (some (.this ⟨default, ⟨1, 4⟩⟩))], false,
    default⟩

/-- A method with a struct and a variable in it, both without values, that goes on with
`super`, `this` and a loop over `this`:
`run() { struct S { x; } let y; super.go; this; for k in this {} }`. -/
def misplacingRun : FunctionDecl :=
  ⟨some ⟨"run", default⟩, [], none,
    [.structDecl default ⟨"S", default⟩ [.letDecl default ⟨"x", default⟩ false none none false],
      .letDecl default ⟨"y", ⟨2, 1⟩⟩ false none none false,
      .expression default (.super ⟨⟨1⟩, ⟨3, 5⟩⟩ ⟨"go", default⟩),
      .expression default (.this ⟨⟨2⟩, default⟩),
      .forEach ⟨default, ⟨4, 3⟩⟩ ⟨"k", default⟩ (.this ⟨⟨3⟩, default⟩) []], false, default⟩

/-- A method that reads `super` and `this`: `go() { super.run; this; }`. -/
def inheritingGo : FunctionDecl :=
  ⟨some ⟨"go", default⟩, [], none,
    [.expression default (.super ⟨⟨4⟩, default⟩ ⟨"run", default⟩),
      .expression default (.this ⟨⟨5⟩, default⟩)], false, default⟩

/-- A class `A` with the first two of these methods, a class `B` with the third that inherits
from `A`, a class that inherits from itself, and `super` and a `return` of `this` behind them. -/
def misplaced : Program :=
  [.classDecl default ⟨"A", default⟩ none [returningInit, misplacingRun],
    .classDecl default ⟨"B", default⟩ (some (.var ⟨⟨6⟩, default⟩ ⟨"A", default⟩)) [inheritingGo],
    .classDecl default ⟨"C", default⟩ (some (.var ⟨⟨7⟩, default⟩ ⟨"C", ⟨5, 1⟩⟩)) [],
    .expression default (.super ⟨⟨8⟩, ⟨6, 5⟩⟩ ⟨"run", default⟩),
    .ret ⟨default, ⟨7, 6⟩⟩ (some (.this ⟨⟨9⟩, ⟨8, 4⟩⟩))]

/-- The errors of structure in this program, of each kind one. -/
def misplacements : List ResolutionError :=
  [.initializerReturnValue ⟨1, 4⟩, .uninitializedImmutable "y" ⟨2, 1⟩,
    .superWithoutSuperclass ⟨3, 5⟩, .emptyLoopBody ⟨4, 3⟩, .selfInheritance "C" ⟨5, 1⟩,
    .superOutsideClass ⟨6, 5⟩, .topLevelReturn ⟨7, 6⟩, .thisOutsideClass ⟨8, 4⟩]

/-- Of the references to `this` and `super`, those in the methods of `A` and `B` are accepted,
but for `super` in `A`. -/
theorem resolve_structure_errors_misplaced :
    ∃ resolution, resolve .bare misplaced = .ok resolution ∧
      resolution.report.filter Diagnostic.isStructural =
        (Program.structureErrors "init" misplaced).map .error ∧
      Program.structureErrors "init" misplaced = misplacements ∧
      [⟨2⟩, ⟨3⟩, ⟨4⟩, ⟨5⟩].map resolution.depths.depthOf? = [some 1, some 1, some 2, some 1] ∧
      [⟨1⟩, ⟨8⟩, ⟨9⟩].map resolution.depths.depthOf? = [none, none, none] := by
  have faultFree : observe .bare misplaced = ((observe .bare misplaced).1, none) := rfl
  have succeeds := resolve_eq_ok_iff.mpr ⟨_, faultFree, rfl⟩
  have exact_errors := (resolve_structure_errors succeeds).1
  have reported : (reportOf (observe .bare misplaced).1).filter Diagnostic.isStructural =
      misplacements.map .error := by decide +kernel
  refine ⟨_, succeeds, exact_errors, ?_, ?_, ?_⟩
  · have listed := exact_errors.symm.trans reported
    exact (List.map_injective_iff.mpr fun _ _ => Diagnostic.error.inj) listed
  · decide +kernel
  · decide +kernel

end NameResolution
