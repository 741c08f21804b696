import NameResolution.Proofs.Pending.Awaiting
import NameResolution.Proofs.Unused.Contents
import NameResolution.Proofs.Walk.Parts

/-!
# Names that await their values where parts are visited

Where a statement or an expression begins, only initializers keep names waiting.
Whatever else a piece declares before it comes to one of its parts is defined by
then, and the scopes it opens for the part are new.
-/

namespace NameResolution

variable {initializerName : String}

/-- Whether no name awaits its value in the innermost scope where a piece begins. -/
def Piece.BeginsSettled : Piece → Prop
  | .stmt _ => True
  | .stmts (_ :: _) => True
  | _ => False

/-- A piece leaves the names that await their values as they were. -/
theorem Piece.awaitingAfter_walk (piece : Piece) (context : Context) (here : List String)
    (outer : List (List String)) (settled : piece.BeginsSettled → here = []) :
    awaitingAfter (piece.walk initializerName context) (here :: outer) = here :: outer := by
  cases piece with
  | expr tree => exact (tree.shaped initializerName context).awaitingAfter_eq here outer
  | stmt tree =>
    rw [settled trivial]
    exact (tree.declaring initializerName context).awaitingAfter outer
  | stmts trees =>
    cases trees with
    | nil => rfl
    | cons first rest =>
      rw [settled trivial]
      exact (Stmt.declaring_all initializerName context (first :: rest)).awaitingAfter outer
  | function kind tree =>
    exact (tree.shaped initializerName context kind).awaitingAfter_eq here outer

/-- The visits among items, each with the names that await their values there, if
parts leave these as they were. -/
def Item.arrivals (names : List (List String)) : List Item → List (Piece × List (List String))
  | [] => []
  | .visit part _ :: rest => (part, names) :: arrivals names rest
  | .step only :: rest => arrivals (only.awaiting names) rest

/-- A part is reached with the names that await their values behind the steps before it. -/
@[simp] theorem arrivals_steps (names : List (List String)) (steps : List Step)
    (rest : List Item) :
    Item.arrivals names (steps.map Item.step ++ rest) =
      Item.arrivals (awaitingAfter steps names) rest := by
  induction steps generalizing names with
  | nil => rfl
  | cons step steps ih => exact ih (step.awaiting names)

/-- Parts side by side are reached with the same names waiting. -/
@[simp] theorem arrivals_visits {α : Type} (names : List (List String)) (part : α → Piece)
    (inner : Context) (trees : List α) (rest : List Item) :
    Item.arrivals names ((trees.map fun tree => .visit (part tree) inner) ++ rest) =
      trees.map (fun tree => (part tree, names)) ++ Item.arrivals names rest := by
  induction trees with
  | nil => rfl
  | cons tree trees ih => simp [Item.arrivals, ih]

@[simp] theorem arrivals_own (names : List (List String)) (steps : List Step) :
    Item.arrivals names (steps.map Item.step) = [] := by
  simpa [Item.arrivals] using arrivals_steps names steps []

@[simp] theorem arrivals_parts {α : Type} (names : List (List String)) (part : α → Piece)
    (inner : Context) (trees : List α) :
    Item.arrivals names (trees.map fun tree => .visit (part tree) inner) =
      trees.map fun tree => (part tree, names) := by
  simpa [Item.arrivals] using arrivals_visits names part inner trees []

/-- Where an item visits a part, the names that await their values are those listed for it. -/
theorem mem_arrivals {items leading trailing : List Item} {part : Piece} {inner : Context}
    {names : List (List String)} (split : items = leading ++ .visit part inner :: trailing)
    (steady : ∀ visit ∈ Item.arrivals names items, ∃ here outer, visit.2 = here :: outer ∧
      (visit.1.BeginsSettled → here = [])) :
    (part, awaitingAfter (leading.flatMap (Item.walk initializerName)) names) ∈
      Item.arrivals names items := by
  subst split
  induction leading generalizing names with
  | nil => exact List.mem_cons_self
  | cons item rest ih =>
    cases item with
    | step only => exact ih steady
    | visit earlier context =>
      obtain ⟨first, others⟩ := List.forall_mem_cons.mp steady
      obtain ⟨here, outer, same, settled⟩ := first
      dsimp only at same settled
      rw [same] at others ⊢
      rw [List.flatMap_cons, awaitingAfter_append, Item.walk,
        earlier.awaitingAfter_walk context here outer settled]
      exact List.mem_cons_of_mem _ (ih others)

section OwnSteps

variable (outer : List (List String)) {context : Context}

/-- A name that is bound at once awaits nothing afterwards. -/
@[simp] theorem awaitingAfter_bind (name : Ident) (mutable member : Bool) :
    awaitingAfter (Step.bind name mutable member) ([] :: outer) = [] :: outer :=
  (Declaring.bind name mutable member).awaitingAfter outer

@[simp] theorem awaitingAfter_counter (counter : Option Ident) :
    awaitingAfter (counter.elim [] (Step.bind · false false)) ([] :: outer) = [] :: outer :=
  (Declaring.counter counter).awaitingAfter outer

@[simp] theorem awaitingAfter_loopBody (span : Span) (body : List Stmt) :
    awaitingAfter (Step.loopBody span body) ([] :: outer) = [] :: outer :=
  (Shape.loopBody span body).awaitingAfter_eq [] outer

@[simp] theorem awaitingAfter_functionName (decl : FunctionDecl) :
    awaitingAfter (Step.functionName context decl) ([] :: outer) = [] :: outer :=
  (Declaring.functionName context decl).awaitingAfter outer

@[simp] theorem awaitingAfter_selfInheritance (name : Ident) (superclass : Option Expr) :
    awaitingAfter (Step.selfInheritance name superclass) ([] :: outer) = [] :: outer :=
  (Shape.selfInheritance name superclass).awaitingAfter_eq [] outer

@[simp] theorem awaitingAfter_returnFrom (span : Span) :
    awaitingAfter (Step.returnFrom context span) ([] :: outer) = [] :: outer :=
  (Shape.returnFrom context span).awaitingAfter_eq [] outer

@[simp] theorem awaitingAfter_foreign (kind : ForeignKind) (isForeign : Bool) (name : Ident) :
    awaitingAfter (Step.foreign kind isForeign name) ([] :: outer) = [] :: outer :=
  (Shape.foreign kind isForeign name).awaitingAfter_eq [] outer

@[simp] theorem awaitingAfter_between (stmt : Stmt) (rest : List Stmt) :
    awaitingAfter (Step.between stmt rest) ([] :: outer) = [] :: outer :=
  (Shape.between stmt rest).awaitingAfter_eq [] outer

/-- The parameters of a function of the program are defined at once. -/
@[simp] theorem awaitingAfter_params (params : List Param) :
    awaitingAfter (Step.params false params) ([] :: outer) = [] :: outer :=
  (Declaring.params false params fun _ => rfl).awaitingAfter outer

end OwnSteps

/-- What a piece adds to the names that await their values before it comes to a
part: a variable with an initializer adds its own name, a foreign function its
parameters, and nothing else adds any. -/
def Piece.Brings (piece : Piece) (names : List (List String)) (part : Piece)
    (there : List (List String)) : Prop :=
  match piece with
  | .expr _ => there = names ∧ ¬ part.BeginsSettled
  | .stmt (.letDecl _ name _ _ (some value) _) =>
    part = .expr value ∧ there = names.modifyHead (name.name :: ·)
  | .stmt _ => there = names ∨ there = [] :: names ∨ there = [] :: [] :: names
  | .stmts [] => False
  | .stmts (_ :: _) => there = names
  | .function _ _ => there = [] :: names ∨ part = .stmts [] ∧ ∃ inner, there = inner :: names

/-- An expression adds nothing to the names that await their values. -/
theorem Expr.brings (expr : Expr) (context : Context) (names : List (List String)) :
    ∀ visit ∈ Item.arrivals names (expr.items context),
      (Piece.expr expr).Brings names visit.1 visit.2 := by
  cases expr <;> simp [items, Item.arrivals, Piece.Brings, Piece.BeginsSettled, Step.awaiting]

/-- A statement that begins with nothing waiting in its scope adds its own name to those that
wait at its initializer, and none at its other parts. -/
theorem Stmt.brings (stmt : Stmt) (context : Context) (outer : List (List String)) :
    ∀ visit ∈ Item.arrivals ([] :: outer) (stmt.items initializerName context),
      (Piece.stmt stmt).Brings ([] :: outer) visit.1 visit.2 := by
  cases stmt with
  | letDecl node name mutable ty initial foreign =>
    cases initial <;> simp [items, Item.arrivals, Piece.Brings, Step.awaiting]
  | ret node value =>
    cases value <;> cases kind : context.function <;>
      simp [items, kind, Item.arrivals, Piece.Brings]
  | whileLoop node condition body =>
    cases condition <;> simp [items, Item.arrivals, Piece.Brings, Step.awaiting]
  | ifElse node condition thenBranch elseBranch =>
    cases elseBranch <;> simp [items, Item.arrivals, Piece.Brings]
  | classDecl node name superclass methods =>
    cases superclass <;> simp [items, Item.arrivals, Piece.Brings, Step.awaiting]
  | _ => simp [items, Item.arrivals, Piece.Brings, Step.awaiting]

/-- What a piece brings, if the body of every foreign function in it is empty. -/
theorem Piece.brings {piece : Piece} {here : List String} (outer : List (List String))
    (settled : piece.BeginsSettled → here = [])
    (documented : ∀ kind decl, piece = .function kind decl → decl.foreign = true → decl.body = [])
    (context : Context) :
    ∀ visit ∈ Item.arrivals (here :: outer) (piece.items initializerName context),
      piece.Brings (here :: outer) visit.1 visit.2 := by
  cases piece with
  | expr tree => exact tree.brings context (here :: outer)
  | stmt tree =>
    rw [settled trivial]
    exact tree.brings context outer
  | stmts trees =>
    cases trees with
    | nil => exact nofun
    | cons first rest =>
      rw [settled trivial]
      simp [items, Item.arrivals, Brings]
  | function kind tree =>
    have bodiless := documented kind tree rfl
    obtain ⟨name, params, returnType, body, foreign, span⟩ := tree
    cases foreign with
    | false => simp [items, Item.arrivals, Brings, Step.awaiting]
    | true =>
      have none : body = [] := bodiless rfl
      obtain ⟨inner, taken, -⟩ := (Shape.params true params).awaitingAfter [] (here :: outer)
      simp [items, Item.arrivals, Brings, none, Step.awaiting, taken]

/-- Where a part begins, the innermost of the scopes is as the part needs it. -/
theorem Piece.Brings.begins {piece part : Piece} {here : List String}
    {outer there : List (List String)} (brings : piece.Brings (here :: outer) part there)
    (settled : piece.BeginsSettled → here = []) :
    ∃ inner further, there = inner :: further ∧ (part.BeginsSettled → inner = []) := by
  unfold Piece.Brings at brings
  split at brings
  · exact ⟨here, outer, brings.1, fun begins => absurd begins brings.2⟩
  · exact ⟨_, outer, brings.2, by rw [brings.1]; exact False.elim⟩
  · rcases brings with rfl | rfl | rfl
    · exact ⟨here, outer, rfl, fun _ => settled trivial⟩
    · exact ⟨[], _, rfl, fun _ => rfl⟩
    · exact ⟨[], _, rfl, fun _ => rfl⟩
  · exact brings.elim
  · exact ⟨here, outer, brings, fun _ => settled trivial⟩
  · rcases brings with rfl | ⟨rfl, inner, rfl⟩
    · exact ⟨[], _, rfl, fun _ => rfl⟩
    · exact ⟨inner, _, rfl, False.elim⟩

end NameResolution
