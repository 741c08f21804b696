import NameResolution.Proofs.Numbering.Production
import NameResolution.Proofs.Session.Drafts

/-!
# Drafts that leave all positions alone

Unless a draft puts numbers or spans of its own in the place of those that are
handed out, its numbering makes its tree, in post-order and with fresh spans.
-/

namespace NameResolution

namespace Draft

/-- Whether a pin replaces nothing. -/
def Pin.keepsPositions (pin : Pin) : Bool :=
  pin.id.isNone && pin.span.isNone && pin.nameSpan.isNone

/-- Whether a parameter keeps the span that is handed out to its name. -/
def Param.keepsPositions (param : Param) : Bool := param.nameSpan.isNone

/-- Whether a declaration keeps its spans when it is amended. -/
def Amendment.keepsPositions (amendment : Amendment) : Bool :=
  amendment.nameSpan.isNone && amendment.declSpan.isNone

mutual

/-- Whether everything in an expression keeps the number and the span that are handed out to it. -/
def Expr.keepsPositions : Expr → Bool
  | .literal _ => true
  | .array elements => Expr.keepPositions elements
  | .assign _ value => value.keepsPositions
  | .var _ => true
  | .mutArg _ => true
  | .binary left _ right => left.keepsPositions && right.keepsPositions
  | .logical left _ right => left.keepsPositions && right.keepsPositions
  | .unary _ operand => operand.keepsPositions
  | .grouping inner => inner.keepsPositions
  | .call callee args => callee.keepsPositions && Expr.keepPositions args
  | .get object _ => object.keepsPositions
  | .set object _ value => object.keepsPositions && value.keepsPositions
  | .index object index => object.keepsPositions && index.keepsPositions
  | .this => true
  | .super _ => true
  | .structInit _ fields => FieldInit.keepPositions fields
  | .lambda decl => decl.keepsPositions
  | .pinned pin inner => pin.keepsPositions && inner.keepsPositions
  termination_by structural expr => expr

/-- Whether everything in some expressions keeps its positions. -/
def Expr.keepPositions : List Expr → Bool
  | [] => true
  | expr :: rest => expr.keepsPositions && Expr.keepPositions rest
  termination_by structural exprs => exprs

/-- Whether everything in an expression that may be missing keeps its positions. -/
def Expr.keepsPositions? : Option Expr → Bool
  | none => true
  | some expr => expr.keepsPositions
  termination_by structural expr => expr

/-- Whether everything in the value of a field keeps its positions. -/
def FieldInit.keepsPositions : FieldInit → Bool
  | ⟨_, value⟩ => value.keepsPositions
  termination_by structural field => field

/-- Whether everything in the values of fields keeps its positions. -/
def FieldInit.keepPositions : List FieldInit → Bool
  | [] => true
  | field :: rest => field.keepsPositions && FieldInit.keepPositions rest
  termination_by structural fields => fields

/-- Whether everything in a function keeps its positions. -/
def FunctionDecl.keepsPositions : FunctionDecl → Bool
  | ⟨_, params, body, _, amendment⟩ =>
    params.all Param.keepsPositions && Stmt.keepPositions body && amendment.keepsPositions
  termination_by structural decl => decl

/-- Whether everything in the methods of a class keeps its positions. -/
def FunctionDecl.keepPositions : List FunctionDecl → Bool
  | [] => true
  | decl :: rest => decl.keepsPositions && FunctionDecl.keepPositions rest
  termination_by structural decls => decls

/-- Whether everything in what a class inherits from keeps its positions. -/
def Parent.keepsPositions : Parent → Bool
  | .absent => true
  | .named _ => true
  | .value expr => expr.keepsPositions
  termination_by structural parent => parent

/-- Whether everything in a statement keeps the number and the span that are handed out to it. -/
def Stmt.keepsPositions : Stmt → Bool
  | .block body => Stmt.keepPositions body
  | .breakLoop => true
  | .continueLoop => true
  | .letDecl _ _ _ initial _ => Expr.keepsPositions? initial
  | .forRange _ lower upper body =>
    lower.keepsPositions && upper.keepsPositions && Stmt.keepPositions body
  | .forEach _ collection body => collection.keepsPositions && Stmt.keepPositions body
  | .whileLoop condition body => Expr.keepsPositions? condition && Stmt.keepPositions body
  | .function decl => decl.keepsPositions
  | .expression value => value.keepsPositions
  | .print value => value.keepsPositions
  | .ifElse condition thenBranch elseBranch =>
    condition.keepsPositions && thenBranch.keepsPositions && Stmt.keepsPositions? elseBranch
  | .ret value => Expr.keepsPositions? value
  | .structDecl _ members => Stmt.keepPositions members
  | .classDecl _ parent methods => parent.keepsPositions && FunctionDecl.keepPositions methods
  | .pinned pin inner => pin.keepsPositions && inner.keepsPositions
  termination_by structural stmt => stmt

/-- Whether everything in a statement that may be missing keeps its positions. -/
def Stmt.keepsPositions? : Option Stmt → Bool
  | none => true
  | some stmt => stmt.keepsPositions
  termination_by structural stmt => stmt

/-- Whether everything in some statements keeps its positions. -/
def Stmt.keepPositions : List Stmt → Bool
  | [] => true
  | stmt :: rest => stmt.keepsPositions && Stmt.keepPositions rest
  termination_by structural stmts => stmts

end

/-- Whether everything in a program keeps the number and the span that are handed out to it. -/
def Program.keepsPositions (program : Program) : Bool := Stmt.keepPositions program

/-- A function that keeps its positions has an amendment that does. -/
theorem FunctionDecl.keepsPositions_amendment : {decl : FunctionDecl} →
    decl.keepsPositions = true → decl.amendment.keepsPositions = true
  | ⟨_, _, _, _, _⟩, kept => (Bool.and_eq_true_iff.mp kept).2

/-- A pin that replaces nothing leaves everything as it is. -/
theorem Pin.eq_of_keepsPositions : {pin : Pin} → pin.keepsPositions = true →
    pin = ⟨none, none, none⟩
  | ⟨none, none, none⟩, _ => rfl

/-- A pin that replaces nothing leaves an expression as it is. -/
theorem Pin.onExpr_eq {pin : Pin} (kept : pin.keepsPositions = true)
    (tree : NameResolution.Expr) : pin.onExpr tree = tree := by
  rw [Pin.eq_of_keepsPositions kept]
  cases tree <;> rfl

/-- A pin that replaces nothing leaves a statement as it is. -/
theorem Pin.onStmt_eq {pin : Pin} (kept : pin.keepsPositions = true)
    (tree : NameResolution.Stmt) : pin.onStmt tree = tree := by
  rw [Pin.eq_of_keepsPositions kept]
  cases tree with
  | forRange node counter lower upper body => cases counter <;> rfl
  | _ => rfl

/-- The amended declaration, with the return type that was numbered for it. -/
def Amendment.change (amendment : Amendment) (decl : NameResolution.FunctionDecl)
    (returnType : Option NameResolution.Ty) : NameResolution.FunctionDecl := {
  decl with
  foreign := amendment.foreign.getD decl.foreign
  name := (if amendment.anonymous then none else decl.name).map (respan amendment.nameSpan)
  returnType := returnType.or decl.returnType
  span := amendment.declSpan.getD decl.span }

end Draft

open Draft (Amendment)

variable {initializerName : String}

/-- A type that is made mutable keeps its spans. -/
theorem Ty.spans_asMutable (ty : Ty) : ty.asMutable.spans = ty.spans := by
  cases ty <;> rfl

/-- The only part of a function is its body. -/
theorem Piece.parts_function (kind : FunctionKind) (decl : FunctionDecl) :
    (Piece.function kind decl).parts initializerName = [.stmts decl.body] := by
  cases decl
  rfl

/-- An amended declaration has no spans but those it had and those of its return type. -/
theorem FunctionDecl.ownSpans_change {amendment : Amendment}
    (kept : amendment.keepsPositions = true) (decl : FunctionDecl) (returnType : Option Ty) :
    (amendment.change decl returnType).ownSpans.Subperm
      (decl.ownSpans ++ returnType.toList.flatMap Ty.spans) := by
  obtain ⟨foreign, anonymous, drafted, nameSpan, declSpan⟩ := amendment
  obtain ⟨noName, noSpan⟩ := Bool.and_eq_true_iff.mp kept
  obtain rfl := Option.isNone_iff_eq_none.mp noName
  obtain rfl := Option.isNone_iff_eq_none.mp noSpan
  apply List.Sublist.subperm
  have name : ((if anonymous then none else decl.name).map (Draft.respan none)).toList.map
      Ident.span |>.Sublist (decl.name.toList.map Ident.span) := by
    cases anonymous <;> cases decl.name <;> simp [Draft.respan]
  have type : ((returnType.or decl.returnType).toList.flatMap Ty.spans).Sublist
      (decl.returnType.toList.flatMap Ty.spans ++ returnType.toList.flatMap Ty.spans) := by
    cases returnType <;> simp
  rw [ownSpans, ownSpans, List.append_assoc _ _ (returnType.toList.flatMap Ty.spans)]
  exact (((List.Sublist.refl _).append name).append (.refl _)).append type

namespace Piece.Amends

variable {before after : Piece} {added : List Span}

/-- An amended declaration may take the place of the declaration. -/
theorem function {amendment : Amendment} (kept : amendment.keepsPositions = true)
    (decl : FunctionDecl) (returnType : Option Ty) (kind later : FunctionKind) :
    (Piece.function kind decl).Amends initializerName
      (.function later (amendment.change decl returnType))
      (returnType.toList.flatMap Ty.spans) where
  ids := by rw [ids_function, ids_function, Amendment.change]
  ordered := by
    intro earlier count ordered
    refine .of_parts ?_ fun part listed => ?_
    · obtain ⟨low, size, above, below, consecutive⟩ := ordered _ .whole
      refine ⟨low, size, above, below, ?_, nofun⟩
      simpa [Amendment.change] using consecutive.numbers
    · rw [parts_function] at listed
      exact ordered.part (by rwa [parts_function])
  spans := by
    rw [spans_function, spans_function, Amendment.change, List.append_assoc]
    exact (List.Subperm.refl _).append (FunctionDecl.ownSpans_change kept decl returnType)

/-- A piece with a single part changes as that part does. -/
theorem around {whole changed : Piece} (amends : before.Amends initializerName after added)
    (parts : whole.parts initializerName = [before])
    (changedParts : changed.parts initializerName = [after])
    (own : changed.ownId? = whole.ownId?) (ownSpans : changed.ownSpans = whole.ownSpans) :
    whole.Amends initializerName changed added := by
  have ids : changed.ids = whole.ids := by
    rw [ids_eq initializerName, ids_eq initializerName whole, parts, changedParts, own]
    simp [amends.ids]
  refine ⟨ids, fun {earlier count} ordered => .of_parts ?_ fun part listed => ?_, ?_⟩
  · obtain ⟨low, size, above, below, consecutive⟩ := ordered _ .whole
    exact ⟨low, size, above, below, by rw [ids]; exact consecutive.numbers,
      by rw [own]; exact consecutive.root⟩
  · rw [changedParts, List.mem_singleton] at listed
    rw [listed]
    exact amends.ordered (ordered.part (by rw [parts]; exact List.mem_singleton_self before))
  · have others : ((before.spans ++ added) ++ whole.ownSpans).Perm
        ((before.spans ++ whole.ownSpans) ++ added) := by
      simp only [List.append_assoc]
      exact List.perm_append_comm.append_left _
    rw [spans_eq initializerName, spans_eq initializerName whole, parts, changedParts, ownSpans,
      List.flatMap_singleton, List.flatMap_singleton]
    exact (amends.spans.append (.refl _)).trans others.subperm

end Piece.Amends

namespace Draft

open NameResolution.Numbering (Produces Hands)

mutual

/-- The numbering of a type hands out the spans of the type. -/
theorem Ty.hands : (ty : Ty) → Hands initializerName ty.number NameResolution.Ty.spans
  | .any => .hand .span fun _ => .pure id
  | .named name => .hand (.ident name) fun _ => .hand .span fun _ => .pure id
  | .array element => .hand element.hands fun _ => .hand .span fun _ => .pure id
  | .function params result =>
    .hand (Ty.hands_all params) fun _ => .hand result.hands fun _ => .hand .span fun _ => .pure id
  | .mutable inner => .hand inner.hands fun _ => .pure fun since => by rwa [Ty.spans_asMutable]

/-- The numbering of types hands out their spans. -/
theorem Ty.hands_all : (tys : List Ty) →
    Hands initializerName (Ty.numberAll tys) NameResolution.Ty.spansAll
  | [] => .pure id
  | ty :: rest => .hand ty.hands fun _ => .hand (Ty.hands_all rest) fun _ => .pure id

end

/-- The numbering of a type that may be missing hands out its spans. -/
theorem Ty.hands? : (ty : Option Ty) → Hands initializerName (Ty.number? ty)
    fun ty => ty.toList.flatMap NameResolution.Ty.spans
  | none => .pure id
  | some ty => .hand ty.hands fun _ => .pure fun since => by simpa using since

/-- The plain type of a parameter is left out where an annotation replaces it. -/
theorem Param.hands (param : Param) (kept : param.keepsPositions = true) :
    Hands initializerName param.number NameResolution.Param.spans := by
  obtain ⟨name, mutable, ty, nameSpan⟩ := param
  obtain rfl := Option.isNone_iff_eq_none.mp kept
  refine .hand (.ident name) fun _ => .hand .span fun _ => .hand (Ty.hands? ty) fun counter =>
    .pure fun since => since.drop (List.Sublist.subperm ?_)
  cases ((Ty.number? ty).run counter).1 with
  | none => exact .refl _
  | some annotation => simp [NameResolution.Param.spans, respan]

/-- The numbering of parameters hands out their spans. -/
theorem Param.hands_all : (params : List Param) → params.all Param.keepsPositions = true →
    Hands initializerName (Param.numberAll params)
      fun params => params.flatMap NameResolution.Param.spans
  | [], _ => .pure id
  | param :: rest, kept =>
    have kept := Bool.and_eq_true_iff.mp kept
    .hand (param.hands kept.1) fun _ => .hand (Param.hands_all rest kept.2) fun _ => .pure id

/-- An amendment hands out the spans of the return type, and the amended declaration is what
the task goes on with. -/
theorem Amendment.produces {β : Type} {pieces : List Piece} {spans : List Span}
    {made : β → List Piece} {handed : β → List Span} (amendment : Amendment)
    (decl : NameResolution.FunctionDecl) {next : NameResolution.FunctionDecl → Numbering β}
    (behind : ∀ returnType, Produces initializerName pieces
      (spans ++ returnType.toList.flatMap NameResolution.Ty.spans)
      (next (amendment.change decl returnType)) made handed) :
    Produces initializerName pieces spans (amendment.apply decl >>= next) made handed := by
  have joined : Produces initializerName pieces spans (Ty.number? amendment.returnType >>=
      fun returnType => next (amendment.change decl returnType)) made handed :=
    .hand (Ty.hands? _) fun _ => behind _
  exact joined

end Draft

end NameResolution
