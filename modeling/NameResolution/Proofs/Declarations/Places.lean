import NameResolution.Proofs.Mutability.Origins
import NameResolution.Proofs.Lexical.Sites

/-!
# Where names are declared

A walk declares names at variables, at the counters and items of loops, at
functions and their parameters, and at structs and classes. Each of these places
is where one step of the walk declares the name, and there are no others.
-/

namespace NameResolution

/-- `DeclaredAt initializerName program declaration first`: with the steps `first`
behind it, the walk of the program comes to where the declaration is made. -/
inductive DeclaredAt (initializerName : String) (program : Program) :
    Declaration → List Step → Prop where
  | letDecl {context : Context} {before after : List Step} {node : Node} {name : Ident}
      {mutable foreign : Bool} {ty : Option Ty} {initial : Option Expr}
      (visits : Visits initializerName program
        (.stmt (.letDecl node name mutable ty initial foreign)) context before after) :
      DeclaredAt initializerName program (name.declaration mutable context.inStruct)
        (before ++ Step.foreign .variable foreign name)
  | counter {context : Context} {before after : List Step} {node : Node} {name : Ident}
      {lower upper : Expr} {body : List Stmt}
      (visits : Visits initializerName program
        (.stmt (.forRange node (some name) lower upper body)) context before after) :
      DeclaredAt initializerName program (name.declaration false false)
        (before ++ (lower.walk initializerName context ++ upper.walk initializerName context ++
          [.openScope]))
  | item {context : Context} {before after : List Step} {node : Node} {name : Ident}
      {collection : Expr} {body : List Stmt}
      (visits : Visits initializerName program
        (.stmt (.forEach node name collection body)) context before after) :
      DeclaredAt initializerName program (name.declaration false false)
        (before ++ (collection.walk initializerName context ++ [.openScope]))
  | function {context : Context} {before after : List Step} {node : Node} {name : Ident}
      {decl : FunctionDecl} (named : decl.name = some name)
      (visits : Visits initializerName program (.stmt (.function node decl)) context before after) :
      DeclaredAt initializerName program (name.declaration false context.inStruct)
        (before ++ Step.foreign .function decl.foreign name)
  | parameter {context : Context} {before after : List Step} {kind : FunctionKind}
      {decl : FunctionDecl} {earlier later : List Param} {param : Param}
      (visits : Visits initializerName program (.function kind decl) context before after)
      (listed : decl.params = earlier ++ param :: later) :
      DeclaredAt initializerName program param.declaration
        (before ++ .openScope :: Step.params decl.foreign earlier)
  | structDecl {context : Context} {before after : List Step} {node : Node} {name : Ident}
      {members : List Stmt}
      (visits : Visits initializerName program (.stmt (.structDecl node name members))
        context before after) :
      DeclaredAt initializerName program (name.declaration false context.inStruct) before
  | classDecl {context : Context} {before after : List Step} {node : Node} {name : Ident}
      {superclass : Option Expr} {methods : List FunctionDecl}
      (visits : Visits initializerName program (.stmt (.classDecl node name superclass methods))
        context before after) :
      DeclaredAt initializerName program (name.declaration false context.inStruct)
        (before ++ Step.selfInheritance name superclass)

variable {initializerName : String} {program : Program}

/-- Parameters are taken one after another. -/
theorem Step.params_append (foreign : Bool) (first second : List Param) :
    Step.params foreign (first ++ second) =
      Step.params foreign first ++ Step.params foreign second := by
  induction first with
  | nil => rfl
  | cons param rest ih => simp [Step.params, ih]

/-- Where a declaration is made, a step of the walk declares the name. -/
theorem DeclaredAt.walk {declaration : Declaration} {first : List Step}
    (declared : DeclaredAt initializerName program declaration first) :
    ∃ name mutable member rest, declaration = name.declaration mutable member ∧
      Program.walk initializerName program = first ++ .declare name mutable member :: rest := by
  cases declared with
  | @letDecl _ _ _ _ _ _ _ _ initial visits =>
    cases initial <;>
      exact ⟨_, _, _, _, rfl, by
        rw [visits.walk, Piece.walk, Stmt.walk]
        simp only [List.append_assoc, List.cons_append]
        rfl⟩
  | counter visits =>
    exact ⟨_, _, _, _, rfl, by
      rw [visits.walk, Piece.walk, Stmt.walk]
      simp only [Option.elim_some, Step.bind, List.append_assoc, List.cons_append, List.nil_append]
      rfl⟩
  | item visits | structDecl visits | classDecl visits =>
    exact ⟨_, _, _, _, rfl, by
      rw [visits.walk, Piece.walk, Stmt.walk]
      simp only [Step.bind, List.append_assoc, List.cons_append, List.nil_append]
      rfl⟩
  | function named visits =>
    exact ⟨_, _, _, _, rfl, by
      rw [visits.walk, Piece.walk, Stmt.walk, Step.functionName, named]
      simp only [Step.bind, List.append_assoc, List.cons_append]
      rfl⟩
  | @parameter _ _ _ _ decl earlier later param visits listed =>
    obtain ⟨name, params, returnType, body, foreign, span⟩ := decl
    dsimp only at listed
    exact ⟨param.name, param.isMutable, false, _, rfl, by
      rw [visits.walk, Piece.walk, FunctionDecl.walk, listed, Step.params_append, Step.params]
      simp only [List.append_assoc, List.cons_append]
      rfl⟩

/-- An entry that stands nowhere else in a list has all before it in front. -/
theorem leading_of_only (front : List Item) {items behind leading trailing : List Item}
    {entry : Item} (split : items = leading ++ entry :: trailing)
    (whole : items = front ++ entry :: behind) (ahead : entry ∉ front) (after : entry ∉ behind) :
    leading = front :=
  ((List.append_cons_inj_of_notMem ahead after).mp (whole.symm.trans split)).1.symm

section Made

variable {first before : List Step} {name : Ident} {mutable member : Bool} {context : Context}
  {leading : List Item}

/-- Where a statement declares a name, it is one that makes the declaration. -/
theorem MadeAt.declaredAt_stmt {stmt : Stmt}
    (made : MadeAt initializerName program first (.declare name mutable member) (.stmt stmt)
      context before leading) :
    DeclaredAt initializerName program (name.declaration mutable member) first := by
  have listed := made.mem
  obtain ⟨rfl, trailing, after, items, visits⟩ := made
  cases stmt with
  | letDecl node own flag ty initial foreign =>
    obtain ⟨rfl, rfl, rfl⟩ : name = own ∧ mutable = flag ∧ member = context.inStruct := by
      cases initial <;> simpa [Piece.items, Stmt.items] using listed
    obtain rfl := leading_of_only ((Step.foreign .variable foreign name).map .step) items rfl
      (by simp) (by cases initial <;> simp)
    rw [flatMap_walk_steps]
    exact .letDecl visits
  | forRange node counter lower upper body =>
    cases counter with
    | none => simp [Piece.items, Stmt.items] at listed
    | some counter =>
      obtain ⟨rfl, rfl, rfl⟩ : name = counter ∧ mutable = false ∧ member = false := by
        simpa [Piece.items, Stmt.items] using listed
      obtain rfl := leading_of_only
        [.visit (.expr lower) context, .visit (.expr upper) context, .step .openScope] items rfl
        (by simp) (by simp)
      simpa [Item.walk, Piece.walk] using DeclaredAt.counter visits
  | forEach node item collection body =>
    obtain ⟨rfl, rfl, rfl⟩ : name = item ∧ mutable = false ∧ member = false := by
      simpa [Piece.items, Stmt.items] using listed
    obtain rfl := leading_of_only [.visit (.expr collection) context, .step .openScope] items rfl
      (by simp) (by simp)
    simpa [Item.walk, Piece.walk] using DeclaredAt.item visits
  | function node decl =>
    obtain ⟨own, named, rfl, rfl, rfl⟩ : ∃ own, decl.name = some own ∧ name = own ∧
        mutable = false ∧ member = context.inStruct := by
      simpa [Piece.items, Stmt.items] using listed
    have whole : (Piece.stmt (.function node decl)).items initializerName context =
        (Step.foreign .function decl.foreign name).map .step ++
          .step (.declare name false context.inStruct) ::
            [.step (.define name), .visit (.function .function decl) context] := by
      simp [Piece.items, Stmt.items, Step.functionName, named, Step.bind]
    obtain rfl := leading_of_only _ items whole (by simp) (by simp)
    rw [flatMap_walk_steps]
    exact .function named visits
  | structDecl node own members =>
    obtain ⟨rfl, rfl, rfl⟩ : name = own ∧ mutable = false ∧ member = context.inStruct := by
      simpa [Piece.items, Stmt.items] using listed
    obtain rfl := leading_of_only [] items rfl (by simp) (by simp)
    simpa using DeclaredAt.structDecl visits
  | classDecl node own superclass methods =>
    obtain ⟨rfl, rfl, rfl⟩ : name = own ∧ mutable = false ∧ member = context.inStruct := by
      cases superclass <;> simpa [Piece.items, Stmt.items] using listed
    obtain rfl := leading_of_only ((Step.selfInheritance name superclass).map .step) items
      (by simp [Piece.items, Stmt.items, Step.bind]; rfl) (by simp) (by cases superclass <;> simp)
    rw [flatMap_walk_steps]
    exact .classDecl visits
  | ret node value =>
    cases value <;> cases inside : context.function <;>
      simp [Piece.items, Stmt.items, inside] at listed
  | _ => simp [Piece.items, Stmt.items] at listed

/-- Where a name is declared, a declaration is made. -/
theorem MadeAt.declaredAt {piece : Piece}
    (made : MadeAt initializerName program first (.declare name mutable member) piece context before
      leading) :
    DeclaredAt initializerName program (name.declaration mutable member) first := by
  have listed := made.mem
  cases piece with
  | expr tree => cases tree <;> simp [Piece.items, Expr.items] at listed
  | stmt tree => exact made.declaredAt_stmt
  | stmts trees => cases trees <;> simp [Piece.items] at listed
  | function kind decl =>
    obtain ⟨earlier, param, later, among, rfl, rfl, rfl, rfl⟩ := made.exists_param
    obtain ⟨-, trailing, after, items, visits⟩ := made
    exact .parameter visits among

end Made

/-- Whichever step of the walk declares a name, a declaration is made there. -/
theorem declaredAt_of_walk {first rest : List Step} {name : Ident} {mutable member : Bool}
    (walked : Program.walk initializerName program =
      first ++ .declare name mutable member :: rest) :
    DeclaredAt initializerName program (name.declaration mutable member) first := by
  rcases Program.exists_madeAt walked with ⟨-, same⟩ | ⟨-, same⟩ | ⟨piece, context, before, made⟩
  · cases same
  · cases same
  · obtain ⟨leading, made⟩ := made
    exact made.declaredAt

end NameResolution
