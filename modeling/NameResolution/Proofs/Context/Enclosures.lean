import NameResolution.Proofs.Walk.Parts

/-!
# Enclosures

What stands around a piece of a program, from the inside out: blocks, loop
bodies, functions, struct bodies and classes. The context in which a walk gets
to a piece is read off these, each slot by itself: the innermost enclosing
function, the innermost enclosing class, and whether a struct body encloses
more closely than any function.
-/

namespace NameResolution

/-- What a piece of a tree can stand in. -/
inductive Enclosure where
  | block
  /-- The body of a loop. -/
  | loop
  /-- The body of a function, a method or a lambda. -/
  | function (kind : FunctionKind)
  /-- The body of a struct. -/
  | struct
  /-- A class, with its superclass. -/
  | cls (name : Ident) (superclass : Option Expr)

namespace Enclosure

/-- The kind of a function. -/
def functionKind? : Enclosure → Option FunctionKind
  | .function kind => some kind
  | _ => none

/-- The kind of a class, which is a base class unless a superclass is written behind its name. -/
def classKind? : Enclosure → Option ClassKind
  | .cls _ none => some .base
  | .cls _ (some _) => some .subclass
  | _ => none

/-- Whether a struct body or a function is a struct body. -/
def structKind? : Enclosure → Option StructKind
  | .struct => some .struct
  | .function _ => some .none
  | _ => none

end Enclosure

/-- The context inside of enclosures, of which the innermost comes first. -/
def Context.inside (around : List Enclosure) : Context where
  function := (around.findSome? Enclosure.functionKind?).getD .none
  cls := (around.findSome? Enclosure.classKind?).getD .none
  struct := (around.findSome? Enclosure.structKind?).getD .none

section Inside

variable (around : List Enclosure)

/-- Outside of everything the context is the outermost one. -/
@[simp] theorem inside_nil : Context.inside [] = .outermost := rfl

/-- A block changes nothing in the context. -/
@[simp] theorem inside_block : Context.inside (.block :: around) = Context.inside around := rfl

/-- The body of a loop changes nothing in the context. -/
@[simp] theorem inside_loop : Context.inside (.loop :: around) = Context.inside around := rfl

/-- A function fills its own slot and clears that of structs. -/
@[simp] theorem inside_function (kind : FunctionKind) :
    Context.inside (.function kind :: around) = (Context.inside around).insideFunction kind := rfl

/-- A struct body fills the slot of structs. -/
@[simp] theorem inside_struct :
    Context.inside (.struct :: around) = (Context.inside around).enterStruct .struct := rfl

/-- A class fills the slot of classes, by whether it inherits. -/
@[simp] theorem inside_cls (name : Ident) (superclass : Option Expr) :
    Context.inside (.cls name superclass :: around) =
      (Context.inside around).enterClass (.ofSuperclass superclass) := by
  cases superclass <;> rfl

end Inside

/-- What a piece puts around a part of it. The conditions and bounds of a loop
are no part of its body, and the superclass of a class is counted inside. -/
def Piece.enclosure : Piece → Piece → List Enclosure
  | .stmt (.block _ _), _ => [.block]
  | .stmt (.forRange _ _ _ _ _), .stmts _ => [.loop]
  | .stmt (.forEach _ _ _ _), .stmts _ => [.loop]
  | .stmt (.whileLoop _ _ _), .stmts _ => [.loop]
  | .stmt (.structDecl _ _ _), _ => [.struct]
  | .stmt (.classDecl _ name superclass _), _ => [.cls name superclass]
  | .function kind _, _ => [.function kind]
  | _, _ => []

variable {initializerName : String}

/-- What stands in an expression is walked in the context of the expression. -/
theorem Expr.inner_eq (expr : Expr) {context inner : Context} {part : Piece} :
    .visit part inner ∈ expr.items context → inner = context := by
  cases expr <;> simp +contextual [items, or_imp]

/-- What stands in a statement is walked in the context that its enclosures make. -/
theorem Stmt.inner_eq (stmt : Stmt) {around : List Enclosure} {inner : Context} {part : Piece} :
    .visit part inner ∈ stmt.items initializerName (.inside around) →
      inner = .inside (Piece.enclosure (.stmt stmt) part ++ around) := by
  cases stmt with
  | letDecl node name mutable ty initial foreign =>
    cases initial <;> simp +contextual [items, Piece.enclosure]
  | whileLoop node condition body =>
    cases condition <;> simp +contextual [items, Piece.enclosure, or_imp]
  | ifElse node condition thenBranch elseBranch =>
    cases elseBranch <;> simp +contextual [items, Piece.enclosure, or_imp]
  | ret node value =>
    cases value with
    | none => simp [items]
    | some value =>
      cases kind : (Context.inside around).function <;>
        simp +contextual [items, kind, Piece.enclosure]
  | classDecl node name superclass methods =>
    cases superclass <;> simp +contextual [items, Piece.enclosure, or_imp]
  | _ => simp +contextual [items, Piece.enclosure, or_imp]

/-- A part is walked in the context that its enclosures make. -/
theorem Piece.inner_eq (piece : Piece) {part : Piece} {around : List Enclosure} {inner : Context} :
    .visit part inner ∈ piece.items initializerName (.inside around) →
      inner = .inside (piece.enclosure part ++ around) := by
  cases piece with
  | expr tree => exact tree.inner_eq
  | stmt tree => exact tree.inner_eq
  | stmts trees => cases trees <;> simp +contextual [items, enclosure, or_imp]
  | function kind tree =>
    obtain ⟨name, params, returnType, body, foreign, span⟩ := tree
    simp +contextual [items, enclosure]

/-- `Stands initializerName program piece around before after`: the walk of the
program gets to the piece, which stands in the given enclosures, with the steps
of `before` behind it and those of `after` still to come when it leaves. -/
inductive Stands (initializerName : String) (program : Program) :
    Piece → List Enclosure → List Step → List Step → Prop where
  | program : Stands initializerName program (.stmts program) [] [.openScope] [.closeScope]
  | part {piece part : Piece} {around : List Enclosure} {inner : Context}
      {before after : List Step} {leading trailing : List Item}
      (whole : Stands initializerName program piece around before after)
      (items : piece.items initializerName (.inside around) =
        leading ++ .visit part inner :: trailing) :
      Stands initializerName program part (piece.enclosure part ++ around)
        (before ++ leading.flatMap (Item.walk initializerName))
        (trailing.flatMap (Item.walk initializerName) ++ after)

/-- A piece that stands in enclosures is visited in the context that they make. -/
theorem Stands.visits {program : Program} {piece : Piece} {around : List Enclosure}
    {before after : List Step}
    (stands : Stands initializerName program piece around before after) :
    Visits initializerName program piece (.inside around) before after := by
  induction stands with
  | program => exact .program
  | @part piece part around inner before after leading trailing whole items ih =>
    have listed : .visit part inner ∈ piece.items initializerName (.inside around) := by
      rw [items]
      exact List.mem_append_right _ List.mem_cons_self
    rw [← piece.inner_eq listed]
    exact ih.part items

/-- Every piece that is visited stands in enclosures, and they make its context. -/
theorem Visits.stands {program : Program} {piece : Piece} {context : Context}
    {before after : List Step}
    (visits : Visits initializerName program piece context before after) :
    ∃ around, context = .inside around ∧
      Stands initializerName program piece around before after := by
  induction visits with
  | program => exact ⟨[], rfl, .program⟩
  | part whole items ih =>
    obtain ⟨around, rfl, stands⟩ := ih
    refine ⟨_, ?_, stands.part items⟩
    apply Piece.inner_eq
    rw [items]
    exact List.mem_append_right _ List.mem_cons_self

end NameResolution
