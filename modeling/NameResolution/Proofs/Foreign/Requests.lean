import NameResolution.Proofs.Unreachable.Terminators

/-!
# Foreign declarations

A foreign variable and a named foreign function need the runtime behind them.
The names for which it is asked are listed here in the order in which a walk
comes to the declarations, up to the first malformed member assignment. The list
is read off the tree and the name of initializers, and the steps that ask the
runtime are those of the list, one for one.
-/

namespace NameResolution

/-- A name that the runtime is asked for. -/
structure ForeignRequest where
  kind : ForeignKind
  name : Ident
deriving DecidableEq

/-- The name that a statement declares as foreign. Nothing else in a program is
foreign: the word has no effect on a method or on a function without a name. -/
def Stmt.request? : Stmt → Option ForeignRequest
  | .letDecl _ name _ _ _ foreign => if foreign then some ⟨.variable, name⟩ else none
  | .function _ decl => if decl.foreign then decl.name.map (ForeignRequest.mk .function) else none
  | _ => none

/-- What decides which names the runtime is asked for: where it is asked, and
where the walk ends. -/
inductive Landmark where
  | request (request : ForeignRequest)
  | fault (fault : Fault)

/-- The fault that an expression leads to by itself. -/
def Expr.ownFaults : Expr → List Landmark
  | .set _ object _ _ => if object.isAssignable then [] else [.fault object.fault]
  | _ => []

variable {initializerName : String}

/-- The landmarks of a piece in the order in which a walk comes to them, where the
innermost function around the piece is of the given kind. A declaration comes
before its parts, and a member assignment after them. -/
def Piece.landmarks (initializerName : String) (kind : FunctionKind) : Piece → List Landmark
  | .expr tree =>
    (tree.parts.attach.flatMap fun part => part.1.landmarks initializerName kind) ++
      tree.ownFaults
  | .stmt tree =>
    tree.request?.toList.map .request ++
      (tree.entered initializerName kind).attach.flatMap fun part =>
        part.1.landmarks initializerName kind
  | .stmts [] => []
  | .stmts (first :: rest) =>
    (Piece.stmt first).landmarks initializerName kind ++
      (Piece.stmts rest).landmarks initializerName kind
  | .function own ⟨_, _, _, body, _, _⟩ => (Piece.stmts body).landmarks initializerName own
  termination_by piece => piece.size
  decreasing_by
    · exact tree.size_parts part.1 part.2
    · exact tree.size_parts part.1 (Stmt.mem_parts_of_entered part.2)
    · simp only [Piece.size, List.cons.sizeOf_spec]; omega
    · simp only [Piece.size, List.cons.sizeOf_spec]; omega
    · simp only [Piece.size, FunctionDecl.mk.sizeOf_spec]; omega

/-- The requests before the first fault. -/
def Landmark.requests : List Landmark → List ForeignRequest
  | [] => []
  | .request wanted :: rest => wanted :: requests rest
  | .fault _ :: _ => []

/-- The names that the runtime is asked for in the course of a program. -/
def Program.requests (initializerName : String) (program : Program) : List ForeignRequest :=
  Landmark.requests ((Piece.stmts program).landmarks initializerName .none)

/-- The landmark that a step is. -/
def Step.landmark? : Step → Option Landmark
  | .requireForeign kind name => some (.request ⟨kind, name⟩)
  | .abort fault => some (.fault fault)
  | _ => none

/-- The name that a step asks the runtime for. -/
def Step.request? : Step → Option ForeignRequest
  | .requireForeign kind name => some ⟨kind, name⟩
  | _ => none

/-- The landmarks of an expression are those of its parts, and then its own faults. -/
theorem Expr.landmarks_eq {kind : FunctionKind} (expr : Expr) :
    (Piece.expr expr).landmarks initializerName kind =
      expr.parts.flatMap (Piece.landmarks initializerName kind) ++ expr.ownFaults := by
  rw [Piece.landmarks, List.flatMap_subtype fun _ _ => rfl, List.unattach_attach]

/-- The landmarks of a statement are its own request, and then those of the parts that are
entered. -/
theorem Stmt.landmarks_eq {kind : FunctionKind} (stmt : Stmt) :
    (Piece.stmt stmt).landmarks initializerName kind =
      stmt.request?.toList.map .request ++
        (stmt.entered initializerName kind).flatMap (Piece.landmarks initializerName kind) := by
  rw [Piece.landmarks, List.flatMap_subtype fun _ _ => rfl, List.unattach_attach]

/-- The landmarks of statements are those of each, in order. -/
theorem Piece.landmarks_cons {kind : FunctionKind} (first : Stmt) (rest : List Stmt) :
    (Piece.stmts (first :: rest)).landmarks initializerName kind =
      (Piece.stmt first).landmarks initializerName kind ++
        (Piece.stmts rest).landmarks initializerName kind := by
  conv_lhs => rw [Piece.landmarks]

/-- The landmarks at an expression are those of its parts, and then its own. -/
theorem Expr.flatMap_landmarks (expr : Expr) (context : Context)
    (found : Piece → List Landmark) :
    (expr.items context).flatMap (Item.viewed Step.landmark? found) =
      expr.parts.flatMap found ++ expr.ownFaults := by
  cases expr with
  | set node object member value =>
    cases object <;>
      simp [items, parts, ownFaults, isAssignable, fault, Step.setTarget, Item.viewed,
        Step.landmark?]
  | _ =>
    refine (Item.flatMap_viewed fun step made => ?_).trans ?_
    · simp [items] at made
      try grind [Step.landmark?]
    · rw [visited_items]
      exact (List.append_nil _).symm

/-- The landmark of a step that asks the runtime is the request. -/
theorem landmarks_foreign (kind : ForeignKind) (foreign : Bool) (name : Ident)
    (found : Piece → List Landmark) :
    ((Step.foreign kind foreign name).map Item.step).flatMap (Item.viewed Step.landmark? found) =
      (if foreign then some (ForeignRequest.mk kind name) else none).toList.map .request := by
  cases foreign <;> rfl

/-- The landmark at a foreign declaration stands before those of its parts, and
no other statement is one by itself. -/
theorem Stmt.flatMap_landmarks (stmt : Stmt) (context : Context)
    (found : Piece → List Landmark) :
    (stmt.items initializerName context).flatMap (Item.viewed Step.landmark? found) =
      stmt.request?.toList.map .request ++
        (stmt.entered initializerName context.function).flatMap found := by
  rw [← visited_eq_entered context]
  cases stmt with
  | letDecl node name mutable ty initial foreign =>
    rw [items.eq_def]
    dsimp only
    rw [List.flatMap_append, landmarks_foreign, visited_append, visited_steps, List.nil_append]
    congr 1
    refine Item.flatMap_viewed fun step made => ?_
    cases initial <;> simp at made <;> grind [Step.landmark?]
  | function node decl =>
    cases named : decl.name with
    | none => simp [items, request?, Step.functionName, named, Item.viewed]
    | some name =>
      rw [items, Step.functionName, named, List.map_append, List.append_assoc,
        List.flatMap_append, landmarks_foreign, visited_append, visited_steps, List.nil_append,
        request?, named]
      congr 1
  | ret node value =>
    refine Item.flatMap_viewed fun step made => ?_
    cases value <;> cases inside : context.function <;> simp [items, inside] at made <;>
      grind [Step.landmark?]
  | _ =>
    refine Item.flatMap_viewed fun step made => ?_
    simp [items] at made
    try grind [Step.landmark?]

/-- What is reported between statements is no landmark. -/
theorem filterMap_landmark_between (first : Stmt) (rest : List Stmt) :
    (Step.between first rest).filterMap Step.landmark? = [] := by
  rw [List.filterMap_eq_nil_iff]
  intro step listed
  obtain ⟨-, -, rfl⟩ := Step.mem_between.mp listed
  rfl

/-- The landmarks can be read off the tree. -/
theorem readOff_landmarks (initializerName : String) :
    ReadOff initializerName Step.landmark?
      fun kind piece => piece.landmarks initializerName kind where
  expr tree context := by rw [tree.landmarks_eq, tree.flatMap_landmarks]
  stmt tree context := by rw [tree.landmarks_eq, tree.flatMap_landmarks]
  nil kind := by simp [Piece.landmarks]
  cons kind first rest := by
    rw [Piece.landmarks_cons, filterMap_landmark_between, List.nil_append]
  function kind own name params returnType body foreign span := by rw [Piece.landmarks]
  opens := rfl
  closes := rfl
  declares _ _ _ := rfl
  defines _ := rfl

/-- The walk of a piece comes to the landmarks of the piece. -/
theorem Piece.filterMap_landmark (piece : Piece) (context : Context) :
    (piece.walk initializerName context).filterMap Step.landmark? =
      piece.landmarks initializerName context.function :=
  (readOff_landmarks initializerName).filterMap_walk piece context

/-- The steps before a fault ask for the names before it. -/
theorem filterMap_request_cutAtFault (steps : List Step) :
    (cutAtFault steps).1.filterMap Step.request? =
      Landmark.requests (steps.filterMap Step.landmark?) := by
  induction steps with
  | nil => rfl
  | cons step rest ih =>
    cases step with
    | abort fault => rfl
    | requireForeign kind name => exact congrArg (List.cons _) ih
    | _ => exact ih

/-- The steps of a program before its fault, if there is one, ask for just the
names that the program requests. -/
theorem Program.filterMap_request (program : Program) :
    (cutAtFault (Program.walk initializerName program)).1.filterMap Step.request? =
      Program.requests initializerName program := by
  have landmarks : (Program.walk initializerName program).filterMap Step.landmark? =
      (Piece.stmts program).landmarks initializerName .none := by
    rw [Program.walk, List.filterMap_cons_none rfl, List.filterMap_append]
    exact (List.append_nil _).trans ((Piece.stmts program).filterMap_landmark .outermost)
  rw [filterMap_request_cutAtFault, landmarks, requests]

variable (initializerName) in
/-- The first thing done at a foreign declaration is to ask the runtime. -/
theorem Stmt.items_of_request {stmt : Stmt} {request : ForeignRequest}
    (foreign : stmt.request? = some request) (context : Context) :
    ∃ rest, stmt.items initializerName context =
      .step (.requireForeign request.kind request.name) :: rest := by
  cases stmt with
  | letDecl node name mutable ty initial isForeign =>
    obtain ⟨rfl, rfl⟩ : isForeign = true ∧ ForeignRequest.mk .variable name = request := by
      simpa [request?] using foreign
    exact ⟨_, rfl⟩
  | function node decl =>
    obtain ⟨isForeign, name, named, rfl⟩ : decl.foreign = true ∧
        ∃ name, decl.name = some name ∧ ForeignRequest.mk .function name = request := by
      simpa [request?] using foreign
    simp only [items, Step.functionName, named, isForeign, Step.foreign]
    exact ⟨_, rfl⟩
  | _ => cases foreign

variable (initializerName) in
/-- The walk of a foreign declaration begins with the question. -/
theorem Stmt.walk_of_request {stmt : Stmt} {request : ForeignRequest}
    (foreign : stmt.request? = some request) (context : Context) :
    ∃ rest, stmt.walk initializerName context =
      .requireForeign request.kind request.name :: rest := by
  obtain ⟨rest, items⟩ := stmt.items_of_request initializerName foreign context
  refine ⟨rest.flatMap (Item.walk initializerName), ?_⟩
  rw [← stmt.flatMap_items, items]
  rfl

/-- No expression asks the runtime by itself. -/
theorem Expr.request_not_mem (expr : Expr) {request : ForeignRequest} :
    .request request ∉ expr.ownFaults := by
  unfold ownFaults
  split
  · split <;> simp
  · simp

/-- A step that asks the runtime is the first of a foreign declaration. -/
theorem MadeAt.request?_eq {program : Program} {first before : List Step} {kind : ForeignKind}
    {name : Ident} {piece : Piece} {context : Context} {leading : List Item}
    (made : MadeAt initializerName program first (.requireForeign kind name) piece context before
      leading) :
    ∃ stmt after, stmt.request? = some ⟨kind, name⟩ ∧ first = before ∧
      Visits initializerName program (.stmt stmt) context before after := by
  obtain ⟨rfl, trailing, after, items, visits⟩ := made
  have landmarks :
      (piece.items initializerName context).flatMap (Item.viewed Step.landmark? fun _ => []) =
      leading.flatMap (Item.viewed Step.landmark? fun _ => []) ++
        .request ⟨kind, name⟩ :: trailing.flatMap (Item.viewed Step.landmark? fun _ => []) := by
    rw [items, List.flatMap_append]
    rfl
  match piece with
  | .expr tree =>
    rw [Piece.items, tree.flatMap_landmarks] at landmarks
    have own : .request ⟨kind, name⟩ ∈ tree.ownFaults := by
      have listed : .request ⟨kind, name⟩ ∈ tree.parts.flatMap (fun _ => []) ++ tree.ownFaults :=
        landmarks ▸ List.mem_append_right _ List.mem_cons_self
      simpa using listed
    exact absurd own tree.request_not_mem
  | .stmt tree =>
    have nothing (pieces : List Piece) : pieces.flatMap (fun _ => ([] : List Landmark)) = [] := by
      simp
    rw [Piece.items, tree.flatMap_landmarks, nothing, List.append_nil] at landmarks
    cases asks : tree.request? with
    | none => simp [asks] at landmarks
    | some request =>
      rw [asks] at landmarks
      rcases List.singleton_eq_append_iff.mp landmarks with ⟨early, same⟩ | ⟨-, same⟩
      · obtain ⟨rfl⟩ := (List.cons.inj same).1
        have atOnce : leading = [] := by
          obtain ⟨rest, opens⟩ := tree.items_of_request initializerName asks context
          rw [Piece.items, opens] at items
          rcases List.cons_eq_append_iff.mp items with ⟨atOnce, -⟩ | ⟨others, rfl, -⟩
          · exact atOnce
          · cases early
        refine ⟨tree, after, asks, ?_, visits⟩
        rw [atOnce]
        exact List.append_nil before
      · cases same
  | .stmts [] => simp [Piece.items] at items
  | .stmts (stmt :: rest) =>
    have listed : .step (.requireForeign kind name) ∈
        (Piece.stmts (stmt :: rest)).items initializerName context :=
      items ▸ List.mem_append_right _ List.mem_cons_self
    simp [Piece.items] at listed
  | .function own ⟨named, params, returnType, body, foreign, place⟩ =>
    have listed : .step (.requireForeign kind name) ∈
        (Piece.function own ⟨named, params, returnType, body, foreign, place⟩).items
          initializerName context :=
      items ▸ List.mem_append_right _ List.mem_cons_self
    simp [Piece.items] at listed

end NameResolution
