import NameResolution.Proofs.Walk.Events
import NameResolution.Proofs.Walk.OwnSteps

/-!
# The numbers of nodes

The numbers of all nodes of a piece: those of its parts, and its own if it is
an expression or a statement. A run enters depths for nodes of its program and
for no others, whether or not a fault ends it.
-/

namespace NameResolution

/-- The number of a piece that is a node. -/
def Piece.ownId? : Piece → Option NodeId
  | .expr tree => some tree.id
  | .stmt tree => some tree.id
  | .stmts _ => none
  | .function _ _ => none

/-- The numbers of the nodes of a piece. Which name marks initializers makes no
difference here. -/
def Piece.ids (piece : Piece) : List NodeId :=
  (piece.parts "").attach.flatMap (fun ⟨part, _⟩ => part.ids) ++ piece.ownId?.toList
  termination_by piece.size
  decreasing_by exact piece.size_parts part ‹_›

/-- The numbers of the nodes of a program. -/
def Program.ids (program : Program) : List NodeId := (Piece.stmts program).ids

namespace Piece

/-- The numbers of a piece are those of its parts, and its own behind them. -/
theorem ids_eq_flatMap (piece : Piece) :
    piece.ids = (piece.parts "").flatMap ids ++ piece.ownId?.toList := by
  rw [ids, List.flatMap_subtype fun _ _ => rfl, List.unattach_attach]

/-- The number of an expression stands behind those of its parts. -/
@[simp] theorem ids_expr (tree : Expr) :
    (Piece.expr tree).ids = tree.parts.flatMap ids ++ [tree.id] :=
  ids_eq_flatMap _

/-- The number of a statement stands behind those of its parts. -/
@[simp] theorem ids_stmt (tree : Stmt) :
    (Piece.stmt tree).ids = (tree.parts "").flatMap ids ++ [tree.id] :=
  ids_eq_flatMap _

@[simp] theorem ids_stmts_nil : (Piece.stmts []).ids = [] := by
  rw [ids_eq_flatMap]
  rfl

@[simp] theorem ids_stmts_cons (first : Stmt) (rest : List Stmt) :
    (Piece.stmts (first :: rest)).ids = (Piece.stmt first).ids ++ (Piece.stmts rest).ids := by
  rw [ids_eq_flatMap]
  simp [parts, ownId?]

/-- The numbers of a function are those of its body. -/
@[simp] theorem ids_function (kind : FunctionKind) (decl : FunctionDecl) :
    (Piece.function kind decl).ids = (Piece.stmts decl.body).ids := by
  obtain ⟨name, params, returnType, body, foreign, span⟩ := decl
  rw [ids_eq_flatMap]
  simp [parts, ownId?]

/-- The nodes of a piece are those of its parts and the piece itself. -/
theorem ids_eq (initializerName : String) (piece : Piece) :
    piece.ids = (piece.parts initializerName).flatMap ids ++ piece.ownId?.toList := by
  rw [ids_eq_flatMap]
  cases piece with
  | expr tree => rfl
  | stmt tree =>
    cases tree with
    | classDecl node name superclass methods =>
      simp only [parts, Stmt.parts, List.flatMap_append, List.flatMap_map, ids_function]
    | _ => rfl
  | stmts trees => cases trees <;> rfl
  | function kind tree =>
    obtain ⟨name, params, returnType, body, foreign, span⟩ := tree
    rfl

end Piece

variable {initializerName : String}

/-- The nodes of what stands in a piece are nodes of the piece. -/
theorem Within.ids_subset {whole piece : Piece} (within : Within initializerName whole piece) :
    piece.ids ⊆ whole.ids := by
  induction within with
  | whole => exact List.Subset.refl _
  | @part piece part _ listed ih =>
    intro id own
    apply ih
    rw [Piece.ids_eq initializerName]
    exact List.mem_append_left _ (List.mem_flatMap.mpr ⟨part, listed, own⟩)

/-- The node for which a step looks a name up. -/
def Step.lookUpNode? : Step → Option NodeId
  | .resolve node _ _ => some node
  | .readVariable node _ => some node
  | _ => none

variable {context : Context} {step : Step} {node : NodeId}

/-- An expression looks names up for itself only. -/
theorem Expr.id_of_lookUp {expr : Expr} (made : .step step ∈ expr.items context)
    (looksUp : step.lookUpNode? = some node) : expr.id = node := by
  cases expr <;> simp [items] at made <;> grind [Step.lookUpNode?, Expr.id, Expr.node]

/-- A statement looks no name up by itself. -/
theorem Stmt.lookUpNode?_eq_none {stmt : Stmt}
    (made : .step step ∈ stmt.items initializerName context) : step.lookUpNode? = none := by
  cases stmt with
  | letDecl node name mutable ty initial foreign =>
    cases initial <;> simp [items] at made <;> grind [Step.lookUpNode?]
  | ret node value =>
    cases value <;> cases inside : context.function <;> simp [items, inside] at made <;>
      grind [Step.lookUpNode?]
  | _ => simp [items] at made <;> grind [Step.lookUpNode?]

/-- A piece looks names up for itself only, and only if it is a node. -/
theorem Piece.ownId?_of_lookUp {piece : Piece}
    (made : .step step ∈ piece.items initializerName context)
    (looksUp : step.lookUpNode? = some node) : piece.ownId? = some node := by
  cases piece with
  | expr tree => exact congrArg some (tree.id_of_lookUp made looksUp)
  | stmt tree =>
    rw [tree.lookUpNode?_eq_none made] at looksUp
    cases looksUp
  | stmts trees =>
    cases trees <;> simp [items] at made
    grind [Step.lookUpNode?]
  | function kind tree =>
    obtain ⟨name, params, returnType, body, foreign, span⟩ := tree
    simp [items] at made
    grind [Step.lookUpNode?]

/-- A depth is entered for a node of the program that is resolved. -/
theorem Program.mem_ids_of_mem_depthsOf {env : Environment} {program : Program}
    (entered : node ∈ (depthsOf (observe env program).1).map Prod.fst) :
    node ∈ Program.ids program := by
  obtain ⟨⟨node, hops⟩, listed, rfl⟩ := List.mem_map.mp entered
  obtain ⟨event, happened, depth⟩ := List.mem_filterMap.mp listed
  cases event <;> cases depth
  obtain ⟨earlier, later, split⟩ := List.append_of_mem happened
  obtain ⟨first, step, rest, -, -, walked, emits, -, -⟩ := exists_step_of_event split rfl
  have looksUp : step.lookUpNode? = some node := by
    cases emits with
    | resolved access lookUp => cases lookUp; rfl
    | read lookUp => cases lookUp; rfl
  rcases Program.exists_madeAt walked with
    ⟨-, rfl⟩ | ⟨-, rfl⟩ | ⟨piece, context, before, leading, made⟩
  · cases looksUp
  · cases looksUp
  · have own : piece.ownId? = some node := Piece.ownId?_of_lookUp made.mem looksUp
    obtain ⟨-, trailing, after, -, visits⟩ := made
    apply visits.within.ids_subset
    rw [Piece.ids_eq_flatMap, own]
    exact List.mem_append_right _ (List.mem_singleton_self node)

end NameResolution
