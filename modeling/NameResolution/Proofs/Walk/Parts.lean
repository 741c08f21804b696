import NameResolution.Proofs.Walk.Visits

/-!
# Steps and parts

Two ways to get from a whole program to one of its pieces. Every step of a walk
but the first and the last is made at a piece that the walk visits, between the
items of that piece. And every piece that stands anywhere in a program is
visited, unless the walk reports that an initializer returns a value.
-/

namespace NameResolution

/-- The pieces directly inside an expression. -/
def Expr.parts : Expr → List Piece
  | .literal .. => []
  | .array _ elements => elements.map .expr
  | .assign _ _ value => [.expr value]
  | .var .. => []
  | .mutArg .. => []
  | .binary _ left _ right => [.expr left, .expr right]
  | .logical _ left _ right => [.expr left, .expr right]
  | .unary _ _ operand => [.expr operand]
  | .grouping _ inner => [.expr inner]
  | .call _ callee args => .expr callee :: args.map .expr
  | .get _ object _ => [.expr object]
  | .set _ object _ value => [.expr value, .expr object]
  | .index _ object position => [.expr object, .expr position]
  | .this _ => []
  | .super .. => []
  | .structInit _ _ fields => fields.map fun field => .expr field.value
  | .lambda _ decl => [.function .function decl]

/-- The pieces directly inside a statement. -/
def Stmt.parts (initializerName : String) : Stmt → List Piece
  | .block _ body => [.stmts body]
  | .breakLoop _ => []
  | .continueLoop _ => []
  | .letDecl _ _ _ _ initial _ => initial.toList.map .expr
  | .forRange _ _ lower upper body => [.expr lower, .expr upper, .stmts body]
  | .forEach _ _ collection body => [.expr collection, .stmts body]
  | .whileLoop _ condition body => condition.toList.map .expr ++ [.stmts body]
  | .function _ decl => [.function .function decl]
  | .expression _ value => [.expr value]
  | .print _ value => [.expr value]
  | .ifElse _ condition thenBranch elseBranch =>
    .expr condition :: .stmt thenBranch :: elseBranch.toList.map .stmt
  | .ret _ value => value.toList.map .expr
  | .structDecl _ _ members => [.stmts members]
  | .classDecl _ _ superclass methods =>
    superclass.toList.map .expr ++
      methods.map fun method => .function (method.kindInClass initializerName) method

/-- The pieces directly inside a piece. -/
def Piece.parts (initializerName : String) : Piece → List Piece
  | .expr tree => tree.parts
  | .stmt tree => tree.parts initializerName
  | .stmts [] => []
  | .stmts (first :: rest) => [.stmt first, .stmts rest]
  | .function _ ⟨_, _, _, body, _, _⟩ => [.stmts body]

/-- `Within initializerName whole piece`: the piece stands somewhere in the whole one. -/
inductive Within (initializerName : String) (whole : Piece) : Piece → Prop where
  | whole : Within initializerName whole whole
  | part {piece part : Piece} (within : Within initializerName whole piece)
      (listed : part ∈ piece.parts initializerName) : Within initializerName whole part

variable {initializerName : String}

/-- What stands in a piece is among any pieces that hold it and the parts of each of them. -/
theorem Within.mem_of_closed {whole piece : Piece} {pieces : List Piece}
    (within : Within initializerName whole piece) (listed : whole ∈ pieces)
    (closed : ∀ piece ∈ pieces, ∀ part ∈ piece.parts initializerName, part ∈ pieces) :
    piece ∈ pieces := by
  induction within with
  | whole => exact listed
  | part within inside ih => exact closed _ ih _ inside

/-- How large a piece is. -/
noncomputable def Piece.size : Piece → Nat
  | .expr tree => sizeOf tree
  | .stmt tree => sizeOf tree
  | .stmts trees => sizeOf trees
  | .function _ tree => sizeOf tree

/-- The value of a field is smaller than the field. -/
theorem FieldInit.sizeOf_value (field : FieldInit) : sizeOf field.value < sizeOf field := by
  obtain ⟨name, value⟩ := field
  simp only [FieldInit.mk.sizeOf_spec]
  omega

/-- A piece that may be missing is bigger than what is there. -/
theorem sizeOf_lt_of_mem_toList {α : Type} [SizeOf α] {inside : α} {piece : Option α}
    (listed : inside ∈ piece.toList) : sizeOf inside < sizeOf piece := by
  obtain rfl := Option.mem_toList.mp listed
  simp only [Option.some.sizeOf_spec]
  omega

/-- The parts of an expression are smaller than the expression. -/
theorem Expr.size_parts (expr : Expr) : ∀ part ∈ expr.parts, part.size < sizeOf expr := by
  cases expr with
  | array node elements =>
    simp only [parts, List.forall_mem_map, Piece.size, array.sizeOf_spec]
    intro element inside
    have smaller := List.sizeOf_lt_of_mem inside
    omega
  | call node callee args =>
    simp only [parts, List.forall_mem_cons, List.forall_mem_map, Piece.size, call.sizeOf_spec]
    refine ⟨by omega, ?_⟩
    intro arg inside
    have smaller := List.sizeOf_lt_of_mem inside
    omega
  | structInit node name fields =>
    simp only [parts, List.forall_mem_map, Piece.size, structInit.sizeOf_spec]
    intro field inside
    have smaller := List.sizeOf_lt_of_mem inside
    have value := field.sizeOf_value
    omega
  | _ =>
    simp [parts, Piece.size]
    try omega

/-- The parts of a statement are smaller than the statement. -/
theorem Stmt.size_parts (stmt : Stmt) :
    ∀ part ∈ stmt.parts initializerName, part.size < sizeOf stmt := by
  cases stmt with
  | letDecl node name mutable ty initial foreign =>
    cases initial <;> simp [parts, Piece.size]; omega
  | whileLoop node condition body =>
    cases condition <;> simp [parts, Piece.size]; omega
  | ifElse node condition thenBranch elseBranch =>
    cases elseBranch <;> simp [parts, Piece.size] <;> omega
  | ret node value =>
    cases value <;> simp [parts, Piece.size]; omega
  | classDecl node name superclass methods =>
    simp only [parts, List.forall_mem_append, List.forall_mem_map, Piece.size,
      classDecl.sizeOf_spec]
    refine ⟨?_, ?_⟩
    · intro parent inside
      have smaller := sizeOf_lt_of_mem_toList inside
      omega
    · intro method inside
      have smaller := List.sizeOf_lt_of_mem inside
      omega
  | _ =>
    simp [parts, Piece.size]
    try omega

/-- What stands directly inside a piece is smaller. -/
theorem Piece.size_parts (piece : Piece) :
    ∀ part ∈ piece.parts initializerName, part.size < piece.size := by
  cases piece with
  | expr tree => exact tree.size_parts
  | stmt tree => exact tree.size_parts
  | stmts trees => cases trees <;> simp [parts, size]; omega
  | function kind tree =>
    obtain ⟨name, params, returnType, body, foreign, span⟩ := tree
    simp [parts, size]
    omega

/-- The piece that an item visits. -/
def Item.part? : Item → Option Piece
  | .step _ => none
  | .visit part _ => some part

/-- Whether the walk leaves the part of a piece alone: an initializer returns it. -/
def Piece.Skips (context : Context) : Piece → Prop
  | .stmt (.ret _ (some _)) => context.function = .initializer
  | _ => False

/-- The pieces that items visit, in order. -/
def Item.visited (items : List Item) : List Piece := items.filterMap Item.part?

@[simp] theorem visited_nil : Item.visited [] = [] := rfl

@[simp] theorem visited_step (step : Step) (rest : List Item) :
    Item.visited (.step step :: rest) = Item.visited rest := rfl

@[simp] theorem visited_visit (part : Piece) (inner : Context) (rest : List Item) :
    Item.visited (.visit part inner :: rest) = part :: Item.visited rest := rfl

@[simp] theorem visited_append (first second : List Item) :
    Item.visited (first ++ second) = Item.visited first ++ Item.visited second :=
  List.filterMap_append

@[simp] theorem visited_steps (steps : List Step) : Item.visited (steps.map Item.step) = [] := by
  induction steps with
  | nil => rfl
  | cons step rest ih => exact ih

@[simp] theorem visited_visits {α : Type} (part : α → Piece) (inner : Context) (trees : List α) :
    Item.visited (trees.map fun tree => .visit (part tree) inner) = trees.map part := by
  induction trees with
  | nil => rfl
  | cons tree rest ih => simp [ih]

/-- The walk of an expression visits its parts, in order. -/
theorem Expr.visited_items (context : Context) (expr : Expr) :
    Item.visited (expr.items context) = expr.parts := by
  cases expr <;> simp [items, parts]

/-- The walk of a statement visits its parts, in order, unless it skips them. -/
theorem Stmt.visited_items {context : Context} {stmt : Stmt}
    (reached : ¬ (Piece.stmt stmt).Skips context) :
    Item.visited (stmt.items initializerName context) = stmt.parts initializerName := by
  cases stmt with
  | letDecl node name mutable ty initial foreign => cases initial <;> simp [items, parts]
  | whileLoop node condition body => cases condition <;> simp [items, parts]
  | ifElse node condition thenBranch elseBranch => cases elseBranch <;> simp [items, parts]
  | ret node value =>
    cases value with
    | none => simp [items, parts]
    | some value =>
      cases inside : context.function with
      | initializer => exact absurd inside reached
      | _ => simp [items, parts, inside]
  | classDecl node name superclass methods => cases superclass <;> simp [items, parts]
  | _ => simp [items, parts]

/-- The parts of a piece are visited one and all, in their order, unless they are skipped. -/
theorem Piece.visited_items {context : Context} {piece : Piece}
    (reached : ¬ piece.Skips context) :
    Item.visited (piece.items initializerName context) = piece.parts initializerName := by
  cases piece with
  | expr tree => exact tree.visited_items context
  | stmt tree => exact tree.visited_items reached
  | stmts trees => cases trees <;> simp [items, parts]
  | function kind tree =>
    obtain ⟨name, params, returnType, body, foreign, span⟩ := tree
    simp [items, parts]

/-- Where the part of a piece is skipped, that is reported and nothing is visited. -/
theorem Piece.items_of_skips {context : Context} {piece : Piece} (skips : piece.Skips context) :
    Item.visited (piece.items initializerName context) = [] ∧
      ∃ span, .step (.report (.initializerReturnValue span)) ∈
        piece.items initializerName context := by
  match piece, skips with
  | .stmt (.ret node (some value)), inside =>
    have initializer : context.function = .initializer := inside
    simp [items, Stmt.items, initializer]

/-- Only parts of a piece are visited in the course of its walk. -/
theorem Piece.mem_parts_of_visit {context inner : Context} {piece part : Piece}
    (listed : .visit part inner ∈ piece.items initializerName context) :
    part ∈ piece.parts initializerName := by
  have visited : part ∈ Item.visited (piece.items initializerName context) :=
    List.mem_filterMap.mpr ⟨_, listed, rfl⟩
  by_cases skips : piece.Skips context
  · rw [(items_of_skips skips).1] at visited
    cases visited
  · rwa [visited_items skips] at visited

/-- What is visited stands in the program. -/
theorem Visits.within {program : Program} {piece : Piece} {context : Context}
    {before after : List Step}
    (visits : Visits initializerName program piece context before after) :
    Within initializerName (.stmts program) piece := by
  induction visits with
  | program => exact .whole
  | @part piece part context inner before after leading trailing whole items ih =>
    have listed : .visit part inner ∈ piece.items initializerName context := by
      rw [items]
      exact List.mem_append_right _ List.mem_cons_self
    exact ih.part (piece.mem_parts_of_visit listed)

/-- An entry of lists that are joined is an entry of one of them. -/
theorem exists_of_flatMap_eq {α β : Type} (entries : α → List β) {items : List α}
    {first rest : List β} {entry : β} (split : items.flatMap entries = first ++ entry :: rest) :
    ∃ leading item trailing inside behind, items = leading ++ item :: trailing ∧
      entries item = inside ++ entry :: behind ∧ first = leading.flatMap entries ++ inside := by
  induction items generalizing first with
  | nil => simp at split
  | cons item items ih =>
    have later {between : List β} (same : first = entries item ++ between)
        (split : items.flatMap entries = between ++ entry :: rest) :
        ∃ leading other trailing inside behind, item :: items = leading ++ other :: trailing ∧
          entries other = inside ++ entry :: behind ∧
          first = leading.flatMap entries ++ inside := by
      obtain ⟨leading, other, trailing, inside, behind, rfl, here, rfl⟩ := ih split
      exact ⟨item :: leading, other, trailing, inside, behind, rfl, here,
        by rw [same, List.flatMap_cons, List.append_assoc]⟩
    rw [List.flatMap_cons, List.append_eq_append_iff] at split
    rcases split with ⟨between, same, split⟩ | ⟨behind, here, split⟩
    · exact later same split
    · rcases List.cons_eq_append_iff.mp split with ⟨rfl, split⟩ | ⟨behind, rfl, -⟩
      · rw [List.append_nil] at here
        have behind : items.flatMap entries = [] ++ entry :: rest := by simpa using split.symm
        exact later (by rw [here, List.append_nil]) behind
      · exact ⟨[], item, items, first, behind, rfl, here, rfl⟩

/-- `MadeAt initializerName program first step piece context before leading`: with the
steps `first` behind it, the walk of the program makes the step at a piece
that it got to behind the steps `before`, and there behind the items `leading`. -/
def MadeAt (initializerName : String) (program : Program) (first : List Step) (step : Step)
    (piece : Piece) (context : Context) (before : List Step) (leading : List Item) : Prop :=
  first = before ++ leading.flatMap (Item.walk initializerName) ∧
    ∃ trailing after, piece.items initializerName context = leading ++ .step step :: trailing ∧
      Visits initializerName program piece context before after

/-- The step is one of those that the piece makes. -/
theorem MadeAt.mem {program : Program} {first before : List Step} {step : Step} {piece : Piece}
    {context : Context} {leading : List Item}
    (made : MadeAt initializerName program first step piece context before leading) :
    .step step ∈ piece.items initializerName context := by
  obtain ⟨-, trailing, after, items, -⟩ := made
  rw [items]
  exact List.mem_append_right _ List.mem_cons_self

/-- Every step in the walk of a visited piece is made at a visited piece. -/
theorem Visits.exists_madeAt {program : Program} {piece : Piece} {context : Context}
    {before after : List Step} (visits : Visits initializerName program piece context before after)
    {first rest : List Step} {step : Step}
    (split : piece.walk initializerName context = first ++ step :: rest) :
    ∃ owner inner earlier leading,
      MadeAt initializerName program (before ++ first) step owner inner earlier leading := by
  rw [← piece.flatMap_items context] at split
  obtain ⟨leading, item, trailing, inside, behind, items, made, rfl⟩ :=
    exists_of_flatMap_eq _ split
  cases item with
  | step own =>
    rw [Item.walk, List.singleton_eq_append_iff] at made
    rcases made with ⟨rfl, made⟩ | ⟨-, made⟩
    · cases made
      exact ⟨piece, context, before, leading, by rw [List.append_nil], trailing, after, items,
        visits⟩
    · cases made
  | visit part inner =>
    have listed : .visit part inner ∈ piece.items initializerName context := by
      rw [items]
      exact List.mem_append_right _ List.mem_cons_self
    have smaller : part.size < piece.size := piece.size_parts part (piece.mem_parts_of_visit listed)
    obtain ⟨owner, around, earlier, ahead, here⟩ := (visits.part items).exists_madeAt made
    rw [List.append_assoc] at here
    exact ⟨owner, around, earlier, ahead, here⟩
  termination_by piece.size

/-- Every step in the walk of a program is made at a visited piece, but for the
first, which opens the scope of the program, and the last, which closes it. -/
theorem Program.exists_madeAt {program : Program} {first rest : List Step} {step : Step}
    (split : Program.walk initializerName program = first ++ step :: rest) :
    (first = [] ∧ step = .openScope) ∨
      (first = .openScope :: Stmt.walkAll initializerName .outermost program ∧
        step = .closeScope) ∨
      ∃ piece context before leading,
        MadeAt initializerName program first step piece context before leading := by
  rw [Program.walk] at split
  rcases List.cons_eq_append_iff.mp split with ⟨rfl, same⟩ | ⟨first, rfl, inner⟩
  · cases same
    exact .inl ⟨rfl, rfl⟩
  · rcases List.append_eq_append_iff.mp inner with ⟨between, rfl, last⟩ | ⟨behind, inside, last⟩
    · rcases List.singleton_eq_append_iff.mp last with ⟨rfl, same⟩ | ⟨-, same⟩
      · cases same
        exact .inr (.inl ⟨by rw [List.append_nil], rfl⟩)
      · cases same
    · rcases List.cons_eq_append_iff.mp last with ⟨rfl, same⟩ | ⟨behind, rfl, -⟩
      · cases same
        exact .inr (.inl ⟨by rw [inside, List.append_nil], rfl⟩)
      · exact .inr (.inr (Visits.program.exists_madeAt inside))

/-- What stands anywhere in a program is visited, if the walk reports no value
that an initializer returns. -/
theorem Within.visits {program : Program}
    (unreported : ∀ span,
      .report (.initializerReturnValue span) ∉ Program.walk initializerName program)
    {piece : Piece} (within : Within initializerName (.stmts program) piece) :
    ∃ context before after, Visits initializerName program piece context before after := by
  induction within with
  | whole => exact ⟨_, _, _, .program⟩
  | @part piece part _ listed ih =>
    obtain ⟨context, before, after, visits⟩ := ih
    have reached : ¬ piece.Skips context := by
      intro skips
      obtain ⟨span, reported⟩ := (Piece.items_of_skips skips).2
      apply unreported span
      rw [visits.walk, ← piece.flatMap_items context]
      exact List.mem_append_left _ (List.mem_append_right _
        (List.mem_flatMap.mpr ⟨_, reported, List.mem_singleton_self _⟩))
    rw [← Piece.visited_items reached] at listed
    obtain ⟨item, made, own⟩ := List.mem_filterMap.mp listed
    cases item with
    | step step => cases own
    | visit part inner =>
      cases own
      obtain ⟨leading, trailing, items⟩ := List.append_of_mem made
      exact ⟨inner, _, _, visits.part items⟩

end NameResolution
