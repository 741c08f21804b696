import NameResolution.Proofs.Context.Enclosures
import NameResolution.Proofs.Context.Reserved
import NameResolution.Proofs.Lexical.Sites

/-!
# The scopes of enclosures

Each enclosure opens scopes of its own: a class one for `this`, inside of one
for `super` if it has a superclass, and every other enclosure a single one. As
far as reserved names go, these are the scopes that are open where a piece stands.
-/

namespace NameResolution

/-- The steps that set up the scopes of an enclosure. -/
def Enclosure.opening : Enclosure → List Step
  | .cls name superclass =>
    (superclass.elim [] fun parent => [.openScope, .bindPseudo "super" parent.span]) ++
      [.openScope, .bindPseudo "this" name.span]
  | _ => [.openScope]

/-- The reserved part of the scopes that are open inside of enclosures. -/
def reservedScopes : List Enclosure → LexicalScopes
  | [] => [[]]
  | .cls name superclass :: around => (reservedScopes around).enterClass name superclass
  | _ :: around => (reservedScopes around).enter

/-- The reserved scopes of one more enclosure are those that its opening makes of the others. -/
theorem reservedScopes_cons (enclosure : Enclosure) (around : List Enclosure) :
    reservedScopes (enclosure :: around) = rescope enclosure.opening (reservedScopes around) := by
  cases enclosure with
  | cls name superclass => cases superclass <;> rfl
  | _ => rfl

@[simp] theorem reshaping_nil : reshaping [] = [] := rfl

/-- A step is kept exactly if it reshapes the scopes. -/
@[simp] theorem reshaping_cons (step : Step) (rest : List Step) :
    reshaping (step :: rest) =
      if step.reshapes then step :: reshaping rest else reshaping rest :=
  List.filter_cons

/-- Only steps on scopes and pseudo-names change the reserved part. -/
@[simp] theorem reshaping_of_plain {steps : List Step} (plain : steps.all Step.plain = true) :
    reshaping steps = [] := by
  refine List.filter_eq_nil_iff.mpr fun step listed => ?_
  have own := List.all_eq_true.mp plain step listed
  cases step <;> first | exact Bool.false_ne_true | cases own

/-- Checking the object of a member assignment does not reshape the scopes. -/
@[simp] theorem reshaping_setTarget (span : Span) (object : Expr) :
    reshaping (Step.setTarget span object) = [] := by
  cases object <;> rfl

/-- The step of an item, if it can change the reserved part. -/
def Item.reshaping? : Item → Option Step
  | .step only => if only.reshapes then some only else none
  | .visit _ _ => none

/-- The visits among items, each with the steps before it that can change the reserved part. -/
def Item.visitsAfter (done : List Step) : List Item → List (Piece × List Step)
  | [] => []
  | .visit part _ :: rest => (part, done) :: visitsAfter done rest
  | .step only :: rest => visitsAfter (done ++ reshaping [only]) rest

section Visits

variable {initializerName : String}

/-- Visits behind other items come after what those reshape. -/
theorem visitsAfter_append (done : List Step) (first second : List Item) :
    Item.visitsAfter done (first ++ second) =
      Item.visitsAfter done first ++
        Item.visitsAfter (done ++ first.filterMap Item.reshaping?) second := by
  induction first generalizing done with
  | nil => simp [Item.visitsAfter]
  | cons item rest ih =>
    cases item with
    | step only =>
      cases counts : only.reshapes <;>
        simp [Item.visitsAfter, ih, Item.reshaping?, counts, reshaping]
    | visit part inner => simp [Item.visitsAfter, ih, List.filterMap_cons, Item.reshaping?]

/-- Each visit among items is listed with what the items before it reshape. -/
theorem mem_visitsAfter {items leading trailing : List Item} {part : Piece} {inner : Context}
    (split : items = leading ++ .visit part inner :: trailing) :
    (part, leading.filterMap Item.reshaping?) ∈ Item.visitsAfter [] items := by
  rw [split, visitsAfter_append, List.nil_append]
  exact List.mem_append_right _ List.mem_cons_self

/-- Steps at the head of items are done before all visits behind them. -/
@[simp] theorem visitsAfter_steps (done steps : List Step) (rest : List Item) :
    Item.visitsAfter done (steps.map Item.step ++ rest) =
      Item.visitsAfter (done ++ reshaping steps) rest := by
  induction steps generalizing done with
  | nil => simp [reshaping]
  | cons step steps ih =>
    rw [List.map_cons, List.cons_append, Item.visitsAfter, ih, List.append_assoc,
      ← reshaping_append, List.singleton_append]

/-- Visits at the head of items come after what is done, and leave it as it is. -/
@[simp] theorem visitsAfter_visits {α : Type} (done : List Step) (part : α → Piece)
    (inner : Context) (trees : List α) (rest : List Item) :
    Item.visitsAfter done ((trees.map fun tree => .visit (part tree) inner) ++ rest) =
      trees.map (fun tree => (part tree, done)) ++ Item.visitsAfter done rest := by
  induction trees with
  | nil => rfl
  | cons tree trees ih => simp [Item.visitsAfter, ih]

/-- Steps alone make no visits. -/
@[simp] theorem visitsAfter_own (done steps : List Step) :
    Item.visitsAfter done (steps.map Item.step) = [] := by
  simpa [Item.visitsAfter] using visitsAfter_steps done steps []

/-- Visits alone come after what is done, one and all. -/
@[simp] theorem visitsAfter_parts {α : Type} (done : List Step) (part : α → Piece)
    (inner : Context) (trees : List α) :
    Item.visitsAfter done (trees.map fun tree => .visit (part tree) inner) =
      trees.map fun tree => (part tree, done) := by
  simpa [Item.visitsAfter] using visitsAfter_visits done part inner trees []

/-- Whether a part is the superclass of a class. -/
def Piece.IsSuperclass (part : Piece) : Piece → Prop
  | .stmt (.classDecl _ _ superclass _) => ∃ parent, superclass = some parent ∧ part = .expr parent
  | _ => False

/-- What has been set up before a part of a piece is visited, unless the part is a superclass. -/
def Piece.SetUp (piece part : Piece) (done : List Step) : Prop :=
  part.IsSuperclass piece ∨ done = (piece.enclosure part).flatMap Enclosure.opening

/-- The parts of an expression are set up by nothing. -/
theorem Expr.setUp (expr : Expr) (context : Context) :
    ∀ visit ∈ Item.visitsAfter [] (expr.items context),
      (Piece.expr expr).SetUp visit.1 visit.2 := by
  cases expr <;>
    simp [items, Item.visitsAfter, Piece.SetUp, Piece.enclosure, Step.reshapes]

/-- The parts of a statement are set up by what the statement opens around them. -/
theorem Stmt.setUp (stmt : Stmt) (context : Context) :
    ∀ visit ∈ Item.visitsAfter [] (stmt.items initializerName context),
      (Piece.stmt stmt).SetUp visit.1 visit.2 := by
  cases stmt with
  | letDecl node name mutable ty initial foreign =>
    cases initial <;>
      simp [items, Item.visitsAfter, Piece.SetUp, Piece.enclosure, Step.reshapes]
  | ret node value =>
    cases value <;> cases kind : context.function <;>
      simp [items, kind, Item.visitsAfter, Piece.SetUp, Piece.enclosure]
  | whileLoop node condition body =>
    cases condition <;>
      simp [items, Item.visitsAfter, Piece.SetUp, Piece.enclosure, Enclosure.opening,
        Step.reshapes]
  | ifElse node condition thenBranch elseBranch =>
    cases elseBranch <;> simp [items, Item.visitsAfter, Piece.SetUp, Piece.enclosure]
  | classDecl node name superclass methods =>
    cases superclass <;>
      simp [items, Item.visitsAfter, Piece.SetUp, Piece.enclosure, Piece.IsSuperclass,
        Enclosure.opening, Step.reshapes]
  | _ =>
    simp [items, Item.visitsAfter, Piece.SetUp, Piece.enclosure, Enclosure.opening, Step.reshapes]

/-- Before a part of a piece is visited, what the enclosures of the part ask for is set up. -/
theorem Piece.setUp (piece : Piece) (context : Context) :
    ∀ visit ∈ Item.visitsAfter [] (piece.items initializerName context),
      piece.SetUp visit.1 visit.2 := by
  cases piece with
  | expr tree => exact tree.setUp context
  | stmt tree => exact tree.setUp context
  | stmts trees =>
    cases trees <;> simp [items, Item.visitsAfter, SetUp, enclosure]
  | function kind tree =>
    obtain ⟨name, params, returnType, body, foreign, span⟩ := tree
    simp [items, Item.visitsAfter, SetUp, enclosure, Enclosure.opening, Step.reshapes]

/-- What items do to the reserved part, their own steps do. -/
theorem rescope_reshaping_items (items : List Item) (scopes : LexicalScopes) :
    rescope (reshaping (items.flatMap (Item.walk initializerName))) scopes =
      rescope (items.filterMap Item.reshaping?) scopes := by
  induction items generalizing scopes with
  | nil => rfl
  | cons item rest ih =>
    rw [List.flatMap_cons, reshaping_append, rescope_append, ih]
    cases item with
    | step only =>
      cases counts : only.reshapes <;> simp [Item.walk, Item.reshaping?, counts]
    | visit part inner =>
      rw [Item.walk, (part.shaped initializerName inner).rescope_reshaping,
        List.filterMap_cons_none rfl]

end Visits

variable {initializerName : String} {program : Program}

/-- In a program, superclasses are named. -/
def Program.NamesSuperclasses (initializerName : String) (program : Program) : Prop :=
  ∀ node name superclass methods,
    Within initializerName (.stmts program) (.stmt (.classDecl node name superclass methods)) →
      ∀ parent ∈ superclass, ∃ node name, parent = .var node name

/-- A part has at most one enclosure more than the whole. -/
theorem Piece.enclosure_eq (piece part : Piece) :
    piece.enclosure part = [] ∨ ∃ enclosure, piece.enclosure part = [enclosure] := by
  unfold enclosure
  split <;> simp

/-- The superclass of a class is a name. -/
theorem Program.NamesSuperclasses.superclass (named : program.NamesSuperclasses initializerName)
    {piece part : Piece} (within : Within initializerName (.stmts program) piece)
    (superclass : part.IsSuperclass piece) : ∃ node name, part = .expr (.var node name) := by
  unfold Piece.IsSuperclass at superclass
  split at superclass
  · obtain ⟨parent, same, rfl⟩ := superclass
    obtain ⟨node, name, rfl⟩ := named _ _ _ _ within parent same
    exact ⟨node, name, rfl⟩
  · exact superclass.elim

/-- The reserved part of the scopes that are open where a piece stands is that of
its enclosures, unless the piece is a superclass. -/
theorem Stands.reserved (named : program.NamesSuperclasses initializerName)
    (spares : program.SparesReserved initializerName) {piece : Piece} {around : List Enclosure}
    {before after : List Step}
    (stands : Stands initializerName program piece around before after) :
    (∃ node name, piece = .expr (.var node name)) ∨
      (rescope before []).reserved = reservedScopes around := by
  induction stands with
  | program => exact .inr rfl
  | @part piece part around inner before after leading trailing whole items ih =>
    rcases ih with ⟨node, name, rfl⟩ | same
    · -- A name has no parts.
      rcases List.singleton_eq_append_iff.mp items with ⟨-, none⟩ | ⟨-, none⟩ <;> cases none
    · have setUp : piece.SetUp part (leading.filterMap Item.reshaping?) :=
        piece.setUp _ _ (mem_visitsAfter items)
      rcases setUp with superclass | setUp
      · exact .inl (named.superclass whole.visits.within superclass)
      · right
        have proper : ∀ step ∈ leading.flatMap (Item.walk initializerName), step.Proper := by
          intro step listed
          apply Program.proper spares
          rw [(whole.part items).visits.walk]
          exact List.mem_append_left _ (List.mem_append_left _ (List.mem_append_right _ listed))
        rw [rescope_append, reserved_rescope proper, same, rescope_reshaping_items, setUp]
        rcases piece.enclosure_eq part with none | ⟨enclosure, one⟩
        · rw [none]
          rfl
        · rw [one, List.flatMap_singleton, List.singleton_append, reservedScopes_cons]

end NameResolution
