import NameResolution.Proofs.Context.Enclosures
import NameResolution.Proofs.Walk.OwnSteps

/-!
# What can be read off the tree

Some of the steps of a walk are of interest, and what they are about can be
listed from the tree and the kind of the innermost function alone. A list that
has at each piece what the steps made there and the lists of its parts come to
is the list of all these steps.
-/

namespace NameResolution

variable {initializerName : String} {α : Type} {view : Step → Option α}

/-- A statement does not change which kind of function its parts stand in. -/
theorem Stmt.function_inner (stmt : Stmt) {context inner : Context} {part : Piece} :
    .visit part inner ∈ stmt.items initializerName context →
      inner.function = context.function := by
  cases stmt with
  | letDecl node name mutable ty initial foreign =>
    cases initial <;> simp +contextual [items]
  | ret node value =>
    cases value with
    | none => simp [items]
    | some value => cases kind : context.function <;> simp +contextual [items, kind]
  | classDecl node name superclass methods =>
    cases superclass <;> simp [items, Context.enterClass] <;> grind
  | _ => simp +contextual [items, or_imp, Context.enterStruct]

/-- What is of interest in an item, if `found` is what is of interest in the pieces. -/
def Item.viewed (view : Step → Option α) (found : Piece → List α) : Item → List α
  | .step only => (view only).toList
  | .visit part _ => found part

/-- What is of interest in the walk of items is so in one after another. -/
theorem filterMap_walk_items {items : List Item} {found : Piece → List α}
    (parts : ∀ part inner, .visit part inner ∈ items →
      (part.walk initializerName inner).filterMap view = found part) :
    (items.flatMap (Item.walk initializerName)).filterMap view =
      items.flatMap (Item.viewed view found) := by
  induction items with
  | nil => rfl
  | cons item rest ih =>
    rw [List.flatMap_cons, List.filterMap_append, List.flatMap_cons,
      ih fun part inner listed => parts part inner (List.mem_cons_of_mem _ listed)]
    congr 1
    cases item with
    | step step => cases seen : view step <;> simp [Item.walk, Item.viewed, seen]
    | visit part inner => exact parts part inner List.mem_cons_self

/-- Where no step is of interest by itself, only the parts are. -/
theorem Item.flatMap_viewed {items : List Item} {found : Piece → List α}
    (own : ∀ step, .step step ∈ items → view step = none) :
    items.flatMap (Item.viewed view found) = (Item.visited items).flatMap found := by
  induction items with
  | nil => rfl
  | cons item rest ih =>
    rw [List.flatMap_cons, ih fun step listed => own step (List.mem_cons_of_mem _ listed)]
    cases item with
    | step step => simp [viewed, own step List.mem_cons_self]
    | visit part inner => rfl

/-- What is of interest in walks can be read off the tree as `listed`, given the kind of the
innermost function. -/
structure ReadOff (initializerName : String) (view : Step → Option α)
    (listed : FunctionKind → Piece → List α) : Prop where
  expr : ∀ (tree : Expr) (context : Context),
    (tree.items context).flatMap (Item.viewed view (listed context.function)) =
      listed context.function (.expr tree)
  stmt : ∀ (tree : Stmt) (context : Context),
    (tree.items initializerName context).flatMap (Item.viewed view (listed context.function)) =
      listed context.function (.stmt tree)
  nil : ∀ kind, listed kind (.stmts []) = []
  cons : ∀ kind first rest, listed kind (.stmts (first :: rest)) =
    listed kind (.stmt first) ++
      ((Step.between first rest).filterMap view ++ listed kind (.stmts rest))
  function : ∀ kind own name params returnType body foreign span,
    listed kind (.function own ⟨name, params, returnType, body, foreign, span⟩) =
      listed own (.stmts body)
  opens : view .openScope = none
  closes : view .closeScope = none
  declares : ∀ name mutable member, view (.declare name mutable member) = none
  defines : ∀ name, view (.define name) = none

/-- What is of interest in the walk of a piece. -/
theorem ReadOff.filterMap_walk {listed : FunctionKind → Piece → List α}
    (reads : ReadOff initializerName view listed) (piece : Piece) (context : Context) :
    (piece.walk initializerName context).filterMap view = listed context.function piece := by
  match piece with
  | .expr tree =>
    rw [Piece.walk, ← tree.flatMap_items, ← reads.expr tree context]
    refine filterMap_walk_items fun part inner visited => ?_
    have inside : part ∈ (Piece.expr tree).parts initializerName :=
      Piece.mem_parts_of_visit visited
    have smaller : part.size < sizeOf tree := tree.size_parts part inside
    rw [reads.filterMap_walk part inner, tree.inner_eq visited]
  | .stmt tree =>
    rw [Piece.walk, ← tree.flatMap_items, ← reads.stmt tree context]
    refine filterMap_walk_items fun part inner visited => ?_
    have smaller : part.size < sizeOf tree :=
      (Piece.stmt tree).size_parts part (Piece.mem_parts_of_visit visited)
    rw [reads.filterMap_walk part inner, tree.function_inner visited]
  | .stmts [] => exact (reads.nil _).symm
  | .stmts (first :: rest) =>
    have head : (first.walk initializerName context).filterMap view = _ :=
      reads.filterMap_walk (.stmt first) context
    have tail : (Stmt.walkAll initializerName context rest).filterMap view = _ :=
      reads.filterMap_walk (.stmts rest) context
    rw [Piece.walk, Stmt.walkAll, List.filterMap_append, List.filterMap_append, head, tail,
      reads.cons, List.append_assoc]
  | .function own ⟨name, params, returnType, body, foreign, span⟩ =>
    have inside : (Stmt.walkAll initializerName (context.insideFunction own) body).filterMap
        view = listed own (.stmts body) :=
      reads.filterMap_walk (.stmts body) (context.insideFunction own)
    have leading : (Step.params foreign params).filterMap view = [] := by
      rw [List.filterMap_eq_nil_iff]
      intro step made
      obtain ⟨param, -, rfl | ⟨-, rfl⟩⟩ := Step.mem_params.mp made
      · exact reads.declares _ _ _
      · exact reads.defines _
    rw [Piece.walk, FunctionDecl.walk, List.filterMap_cons_none reads.opens,
      List.filterMap_append, List.filterMap_append, leading, inside,
      List.filterMap_cons_none reads.closes, List.filterMap_nil, List.nil_append, List.append_nil,
      reads.function]
  termination_by piece.size
  decreasing_by
    · exact smaller
    · exact smaller
    · simp only [Piece.size, List.cons.sizeOf_spec]; omega
    · simp only [Piece.size, List.cons.sizeOf_spec]; omega
    · simp only [Piece.size, FunctionDecl.mk.sizeOf_spec]; omega

end NameResolution
