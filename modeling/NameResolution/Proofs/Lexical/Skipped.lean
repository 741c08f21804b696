import Mathlib.Data.List.Basic
import NameResolution.Proofs.Lexical.Occurrences

/-!
# What initializers return

The one kind of subtree that a walk leaves alone is the value that an
initializer returns, and each such value is reported. A walk that reports none
has reached every reference of its tree.
-/

namespace NameResolution

variable (initializerName : String)

/-- `Announces steps occurrences`: if a value that an initializer returns is
among the occurrences, the steps report one. -/
def Announces (steps : List Step) (occurrences : List Occurrence) : Prop :=
  ∀ occurrence ∈ occurrences, occurrence.skipped = true →
    ∃ span, .report (.initializerReturnValue span) ∈ steps

namespace Announces

variable {steps first second : List Step} {occurrences earlier later : List Occurrence}

theorem nil (steps : List Step) : Announces steps [] := by
  intro occurrence listed
  cases listed

/-- What steps announce of occurrences, they announce part by part. -/
theorem append (left : Announces first earlier) (right : Announces second later) :
    Announces (first ++ second) (earlier ++ later) := by
  intro occurrence listed skipped
  rcases List.mem_append.mp listed with here | there
  · obtain ⟨span, reported⟩ := left occurrence here skipped
    exact ⟨span, List.mem_append_left second reported⟩
  · obtain ⟨span, reported⟩ := right occurrence there skipped
    exact ⟨span, List.mem_append_right first reported⟩

/-- More steps announce no less. -/
theorem inside (leading trailing : List Step) (announces : Announces steps occurrences) :
    Announces (leading ++ steps ++ trailing) occurrences := by
  intro occurrence listed skipped
  obtain ⟨span, reported⟩ := announces occurrence listed skipped
  exact ⟨span, List.mem_append_left trailing (List.mem_append_right leading reported)⟩

/-- An occurrence that is reached needs no announcement behind others. -/
theorem behind {last : Occurrence} (announces : Announces steps occurrences)
    (reached : last.skipped = false) : Announces steps (occurrences ++ [last]) := by
  intro occurrence listed skipped
  rcases List.mem_append.mp listed with here | there
  · exact announces occurrence here skipped
  · rw [List.mem_singleton.mp there, reached] at skipped
    cases skipped

/-- An occurrence that is reached needs no announcement before others. -/
theorem ahead {first : Occurrence} (announces : Announces steps occurrences)
    (reached : first.skipped = false) : Announces steps (first :: occurrences) := by
  intro occurrence listed skipped
  rcases List.mem_cons.mp listed with here | there
  · rw [here, reached] at skipped
    cases skipped
  · exact announces occurrence there skipped

end Announces

mutual

/-- Walking an expression reports the values that its initializers return. -/
theorem Expr.announces (context : Context) : (expr : Expr) →
    Announces (expr.walk initializerName context)
      (expr.occurrences initializerName context.function)
  | .literal _ _ => (Announces.nil _).ahead rfl
  | .array _ elements => (Expr.announces_all context elements).behind rfl
  | .assign node name value =>
    ((Expr.announces context value).inside [.checkAssign name]
      [.resolve node.id name .write]).behind rfl
  | .var _ _ => (Announces.nil _).ahead rfl
  | .mutArg _ _ => (Announces.nil _).ahead rfl
  | .binary _ left _ right =>
    ((Expr.announces context left).append (Expr.announces context right)).behind rfl
  | .logical _ left _ right =>
    ((Expr.announces context left).append (Expr.announces context right)).behind rfl
  | .unary _ _ operand => (Expr.announces context operand).behind rfl
  | .grouping _ inner => (Expr.announces context inner).behind rfl
  | .call _ callee args =>
    ((Expr.announces context callee).append (Expr.announces_all context args)).behind rfl
  | .get _ object _ => (Expr.announces context object).behind rfl
  | .set node object _ value =>
    (((Expr.announces context value).append (Expr.announces context object)).inside []
      (Step.setTarget node.span object)).behind rfl
  | .index _ object index =>
    ((Expr.announces context object).append (Expr.announces context index)).behind rfl
  | .this _ => (Announces.nil _).ahead rfl
  | .super _ _ => (Announces.nil _).ahead rfl
  | .structInit node name fields =>
    ((FieldInit.announces_all context fields).inside [] [.resolve node.id name .read]).behind rfl
  | .lambda _ decl => (FunctionDecl.announces context .function decl).behind rfl
  termination_by structural expr => expr

/-- The walk of expressions announces what it skips in them. -/
theorem Expr.announces_all (context : Context) : (exprs : List Expr) →
    Announces (Expr.walkAll initializerName context exprs)
      (Expr.occurrencesAll initializerName context.function exprs)
  | [] => .nil _
  | expr :: rest => (Expr.announces context expr).append (Expr.announces_all context rest)
  termination_by structural exprs => exprs

/-- The walk of a field announces what it skips in its value. -/
theorem FieldInit.announces (context : Context) : (field : FieldInit) →
    Announces (field.walk initializerName context)
      (field.occurrences initializerName context.function)
  | ⟨_, value⟩ => Expr.announces context value
  termination_by structural field => field

/-- The walk of fields announces what it skips in their values. -/
theorem FieldInit.announces_all (context : Context) : (fields : List FieldInit) →
    Announces (FieldInit.walkAll initializerName context fields)
      (FieldInit.occurrencesAll initializerName context.function fields)
  | [] => .nil _
  | field :: rest =>
    (FieldInit.announces context field).append (FieldInit.announces_all context rest)
  termination_by structural fields => fields

/-- The walk of a function announces what it skips in it. -/
theorem FunctionDecl.announces (context : Context) (kind : FunctionKind) :
    (decl : FunctionDecl) →
    Announces (decl.walk initializerName context kind) (decl.occurrences initializerName kind)
  | ⟨_, params, _, body, foreign, _⟩ =>
    (Stmt.announces_all (context.insideFunction kind) body).inside
      (.openScope :: Step.params foreign params) [.closeScope]
  termination_by structural decl => decl

/-- The walk of methods announces what it skips in them. -/
theorem FunctionDecl.announces_methods (context : Context) : (methods : List FunctionDecl) →
    Announces (FunctionDecl.walkMethods initializerName context methods)
      (FunctionDecl.occurrencesMethods initializerName methods)
  | [] => .nil _
  | method :: rest =>
    (FunctionDecl.announces context (methodKind initializerName method) method).append
      (FunctionDecl.announces_methods context rest)
  termination_by structural methods => methods

/-- The walk of an expression that may be missing announces what it skips in it. -/
theorem Expr.announces_opt (context : Context) : (expr : Option Expr) →
    Announces (Expr.walk? initializerName context expr)
      (Expr.occurrences? initializerName context.function expr)
  | none => .nil _
  | some expr => Expr.announces context expr
  termination_by structural expr => expr

/-- The walk of a value that is returned announces that it is skipped, where an initializer
returns it. -/
theorem Expr.announces_returned (context : Context) : (value : Option Expr) →
    Announces (Expr.walkReturned initializerName context value)
      (if context.function = .initializer then
        (Expr.occurrences? initializerName context.function value).map Occurrence.skip
      else Expr.occurrences? initializerName context.function value)
  | none => by
    split
    · exact .nil _
    · exact .nil _
  | some value => by
    have walked := Expr.announces context value
    unfold Expr.walkReturned
    cases inside : context.function with
    | initializer => exact fun _ _ _ => ⟨value.span, List.mem_singleton.mpr rfl⟩
    | none => simpa [inside, Expr.occurrences?] using walked
    | function => simpa [inside, Expr.occurrences?] using walked
    | method => simpa [inside, Expr.occurrences?] using walked
  termination_by structural value => value

/-- The walk of a superclass announces what it skips in it. -/
theorem Expr.announces_superclass (context : Context) : (superclass : Option Expr) →
    Announces (Expr.walkSuperclass initializerName context superclass)
      (Expr.occurrences? initializerName context.function superclass)
  | none => .nil _
  | some parent =>
    (Expr.announces context parent).inside [] [.openScope, .bindPseudo "super" parent.span]
  termination_by structural superclass => superclass

/-- Walking a statement reports the values that its initializers return. -/
theorem Stmt.announces (context : Context) : (stmt : Stmt) →
    Announces (stmt.walk initializerName context)
      (stmt.occurrences initializerName context.function)
  | .block _ body =>
    ((Stmt.announces_all context body).inside [.openScope] [.closeScope]).ahead rfl
  | .breakLoop _ => (Announces.nil _).ahead rfl
  | .continueLoop _ => (Announces.nil _).ahead rfl
  | .letDecl _ _ _ _ none _ => (Announces.nil _).ahead rfl
  | .letDecl _ name mutable _ (some value) foreign => by
    have initial := (Expr.announces context value).inside
      (Step.foreign .variable foreign name ++ [.declare name mutable context.inStruct])
      [.define name]
    rw [List.append_assoc, List.append_assoc] at initial
    exact initial.ahead rfl
  | .forRange node counter lower upper body => by
    have loop := (Stmt.announces_all context body).inside
      (.openScope :: (counter.elim [] (Step.bind · false false) ++ Step.loopBody node.span body))
      [.closeScope]
    exact (((Expr.announces context lower).append (Expr.announces context upper)).append
      loop).ahead rfl
  | .forEach node item collection body => by
    have loop := (Stmt.announces_all context body).inside
      (.openScope :: (Step.bind item false false ++ Step.loopBody node.span body)) [.closeScope]
    exact ((Expr.announces context collection).append loop).ahead rfl
  | .whileLoop _ condition body =>
    ((Expr.announces_opt context condition).append
      ((Stmt.announces_all context body).inside [.openScope] [.closeScope])).ahead rfl
  | .function _ decl => by
    have body := (FunctionDecl.announces context .function decl).inside
      (Step.functionName context decl) []
    rw [List.append_nil] at body
    exact body.ahead rfl
  | .expression _ value => (Expr.announces context value).ahead rfl
  | .print _ value => (Expr.announces context value).ahead rfl
  | .ifElse _ condition thenBranch elseBranch =>
    (((Expr.announces context condition).append (Stmt.announces context thenBranch)).append
      (Stmt.announces_opt context elseBranch)).ahead rfl
  | .ret node value => by
    have returned := (Expr.announces_returned context value).inside
      (Step.returnFrom context node.span) []
    rw [List.append_nil] at returned
    exact returned.ahead rfl
  | .structDecl _ name members => by
    have body := (Stmt.announces_all (context.enterStruct .struct) members).inside
      (Step.bind name false context.inStruct ++ [.openScope]) [.closeScope]
    rw [List.append_assoc, List.append_assoc] at body
    exact body.ahead rfl
  | .classDecl node name superclass methods => by
    have parent := (Expr.announces_superclass (context.enterClass (.ofSuperclass superclass))
      superclass).inside
        (Step.selfInheritance name superclass ++ Step.bind name false context.inStruct) []
    have members := (FunctionDecl.announces_methods
      (context.enterClass (.ofSuperclass superclass)) methods).inside
        [.openScope, .bindPseudo "this" name.span]
        ([.closeScope] ++ superclass.elim [] fun _ => [.closeScope])
    have reached : (Stmt.classDecl node name superclass methods).occurrence.skipped = false := rfl
    simpa [Stmt.walk, Stmt.occurrences, Context.enterClass] using
      (parent.append members).ahead reached
  termination_by structural stmt => stmt

/-- The walk of a statement that may be missing announces what it skips in it. -/
theorem Stmt.announces_opt (context : Context) : (stmt : Option Stmt) →
    Announces (Stmt.walk? initializerName context stmt)
      (Stmt.occurrences? initializerName context.function stmt)
  | none => .nil _
  | some stmt => Stmt.announces context stmt
  termination_by structural stmt => stmt

/-- The walk of statements announces what it skips in them. -/
theorem Stmt.announces_all (context : Context) : (stmts : List Stmt) →
    Announces (Stmt.walkAll initializerName context stmts)
      (Stmt.occurrencesAll initializerName context.function stmts)
  | [] => .nil _
  | stmt :: rest => by
    have first := (Stmt.announces context stmt).inside [] (Step.between stmt rest)
    exact first.append (Stmt.announces_all context rest)
  termination_by structural stmts => stmts

end

/-- If no initializer's value is reported, a walk reaches every reference of a program. -/
theorem Program.walkedReferences_of_unreported {program : Program}
    (unreported : ∀ span, Step.report (.initializerReturnValue span) ∉
      Program.walk initializerName program) :
    Program.walkedReferences initializerName program =
      Program.references initializerName program := by
  have announces := (Stmt.announces_all initializerName Context.outermost program).inside
    [.openScope] [.closeScope]
  unfold Program.walkedReferences Program.references
  apply List.filterMap_congr
  intro occurrence listed
  have reached : occurrence.skipped = false := by
    apply Bool.eq_false_iff.mpr
    intro skipped
    obtain ⟨span, reported⟩ := announces occurrence listed skipped
    exact unreported span reported
  simp [Occurrence.walked?, reached]

end NameResolution
