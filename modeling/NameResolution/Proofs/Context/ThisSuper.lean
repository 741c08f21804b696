import NameResolution.Proofs.Context.Openings
import NameResolution.Proofs.Context.Unreported

/-!
# What `this` and `super` mean

Where a class encloses, `this` means what the innermost enclosing class binds,
and so does `super` if that class has a superclass. What is bound there counts
as read from the start, so no report is ever made of it.
-/

namespace NameResolution

/-- No class is among the enclosures. -/
def ClassFree (around : List Enclosure) : Prop :=
  ∀ enclosure ∈ around, enclosure.classKind? = none

section Depths

variable {inner outer : List Enclosure} {name : Ident}

/-- Each enclosure but a class opens one scope, without reserved names. -/
theorem reservedScopes_append (free : ClassFree inner) (around : List Enclosure) :
    reservedScopes (inner ++ around) =
      List.replicate inner.length [] ++ reservedScopes around := by
  induction inner with
  | nil => rfl
  | cons enclosure rest ih =>
    obtain ⟨here, there⟩ := List.forall_mem_cons.mp free
    rw [List.cons_append, List.length_cons, List.replicate_succ, List.cons_append, ← ih there]
    cases enclosure with
    | cls name superclass => cases superclass <;> cases here
    | _ => rfl

/-- Scopes without bindings are left on the way out. -/
theorem depth?_replicate_append (count : Nat) (scopes : LexicalScopes) (name : String) :
    LexicalScopes.depth? (List.replicate count [] ++ scopes) name =
      (scopes.depth? name).map (· + count) := by
  have passed : (List.replicate count []).findIdx? (LexicalScope.binds · name) = none := by
    rw [List.findIdx?_eq_none_iff]
    intro scope listed
    rw [List.eq_of_mem_replicate listed]
    rfl
  rw [LexicalScopes.depth?, List.findIdx?_append, passed, List.length_replicate]
  rfl

/-- The class kind is that of the innermost class. -/
theorem cls_inside (free : ClassFree inner) (around : List Enclosure) :
    (Context.inside (inner ++ around)).cls = (Context.inside around).cls := by
  have passed : inner.findSome? Enclosure.classKind? = none := List.findSome?_eq_none_iff.mpr free
  have split : (inner ++ around).findSome? Enclosure.classKind? =
      around.findSome? Enclosure.classKind? := by
    rw [List.findSome?_append, passed, Option.none_or]
  exact congrArg (·.getD .none) split

end Depths

section Innermost

variable {inner outer : List Enclosure} {name : Ident}

/-- The reserved scopes outside of enclosures without a class are those of what is around them. -/
theorem getElem?_reservedScopes (free : ClassFree inner) (around : List Enclosure) (depth : Nat) :
    (reservedScopes (inner ++ around))[inner.length + depth]? =
      (reservedScopes around)[depth]? := by
  have count : (List.replicate inner.length ([] : LexicalScope)).length = inner.length :=
    List.length_replicate
  rw [reservedScopes_append free, List.getElem?_append_right (by omega)]
  congr 1
  omega

/-- The scope of `this` has as many scopes inside of it as enclosures stand in the class. -/
theorem depth?_this (free : ClassFree inner) (superclass : Option Expr) :
    (reservedScopes (inner ++ .cls name superclass :: outer)).depth? "this" =
      some inner.length := by
  have here : (reservedScopes (.cls name superclass :: outer)).depth? "this" = some 0 := rfl
  rw [reservedScopes_append free, depth?_replicate_append, here, Option.map_some, Nat.zero_add]

/-- The scope of `super` lies right outside of that of `this`. -/
theorem depth?_super (free : ClassFree inner) (parent : Expr) :
    (reservedScopes (inner ++ .cls name (some parent) :: outer)).depth? "super" =
      some (inner.length + 1) := by
  have here : (reservedScopes (.cls name (some parent) :: outer)).depth? "super" = some 1 := rfl
  rw [reservedScopes_append free, depth?_replicate_append, here, Option.map_some, Nat.add_comm]

end Innermost

variable {env : Environment} {program : Program}

/-- `ScopeAt env before depth declaration`: behind the steps, so many scopes are
open inside of the one that holds this declaration of a reserved name. -/
def ScopeAt (env : Environment) (before : List Step) (depth : Nat) (declaration : Declaration) :
    Prop :=
  ∃ here, (run env before .empty).2.lexical[depth]? = some here ∧
    LexicalScope.reserved here = [declaration]

/-- Where the reserved scopes are those of the enclosures, so is what is declared there. -/
theorem scopeAt_of_reserved {before : List Step} {around : List Enclosure} {depth : Nat}
    {declaration : Declaration} (same : (rescope before []).reserved = reservedScopes around)
    (there : (reservedScopes around)[depth]? = some [declaration]) :
    ScopeAt env before depth declaration := by
  rw [← same, LexicalScopes.reserved, List.getElem?_map, Option.map_eq_some_iff] at there
  obtain ⟨here, position, holds⟩ := there
  refine ⟨here, ?_, holds⟩
  rw [lexical_run]
  exact position

/-- What happens at a piece that makes a single step, and stands before a fault. -/
theorem Stands.happens {piece : Piece} {around : List Enclosure} {before after : List Step}
    (stands : Stands env.config.initializerName program piece around before after)
    (reached : (cutAtFault before).2 = none) {step : Step}
    (walk : piece.walk env.config.initializerName (.inside around) = [step])
    (goesOn : step.fault? = none) :
    ∃ later, (observe env program).1 = eventsBefore env program before ++
      (step.perform env (run env before .empty).2).1 ++ later := by
  have whole : (cutAtFault (before ++ [step])).2 = none := by
    rw [cutAtFault_append_of_none _ reached, cutAtFault_cons _ goesOn]
    rfl
  obtain ⟨later, events⟩ := observe_eq_of_walk (walk ▸ stands.visits.walk) whole
  rw [run_singleton] at events
  exact ⟨later, events⟩

/-- A reference to `this` or `super` that stands before a fault is recorded with
the depth that its enclosures say. -/
theorem Stands.recorded (named : program.NamesSuperclasses env.config.initializerName)
    (spares : program.SparesReserved env.config.initializerName) {piece : Piece}
    {around : List Enclosure} {before after : List Step}
    (stands : Stands env.config.initializerName program piece around before after)
    (reached : (cutAtFault before).2 = none) {node : NodeId} {name : Ident} {depth : Nat}
    {declaration : Declaration} (taken : isReserved name.name = true)
    (walk : piece.walk env.config.initializerName (.inside around) = [.resolve node name .read])
    (found : (reservedScopes around).depth? name.name = some depth)
    (there : (reservedScopes around)[depth]? = some [declaration]) :
    ScopeAt env before depth declaration ∧
      ∃ later, (observe env program).1 = eventsBefore env program before ++
        [.log (.resolvedAt node name.name depth), .depth node depth] ++ later := by
  have same : (rescope before []).reserved = reservedScopes around := by
    rcases stands.reserved named spares with ⟨other, read, rfl⟩ | same
    · cases walk
    · exact same
  have meaning : (run env before .empty).2.lexical.depth? name.name = some depth := by
    rw [lexical_run, ← LexicalScopes.depth?_reserved taken]
    exact (congrArg (LexicalScopes.depth? · name.name) same).trans found
  obtain ⟨later, events⟩ := stands.happens reached walk rfl
  rw [Step.perform, ScopeStack.events_resolve, meaning] at events
  exact ⟨scopeAt_of_reserved same there, later, events⟩

/-- The walk of `this` inside of a class looks it up. -/
theorem walk_this {initializerName : String} {inner outer : List Enclosure}
    (free : ClassFree inner) (node : Node) (name : Ident) (superclass : Option Expr) :
    (Piece.expr (.this node)).walk initializerName
        (.inside (inner ++ .cls name superclass :: outer)) =
      [.resolve node.id ⟨"this", node.span⟩ .read] := by
  have inClass : (Context.inside (inner ++ .cls name superclass :: outer)).inClass = true := by
    rw [Context.inClass, cls_inside free]
    cases superclass <;> rfl
  simp only [Piece.walk, Expr.walk, Step.this, inClass, if_true]

/-- What the walk of `super` does depends on the innermost class. -/
theorem walk_super {initializerName : String} {inner around : List Enclosure}
    (free : ClassFree inner) (node : Node) (method : Ident) :
    (Piece.expr (.super node method)).walk initializerName (.inside (inner ++ around)) =
      Step.super (.inside around) node := by
  simp only [Piece.walk, Expr.walk, Step.super, cls_inside free]

/-- A reference to `this` or `super` that is turned away is reported where it stands. -/
theorem Stands.turned_away {piece : Piece} {around : List Enclosure} {before after : List Step}
    (stands : Stands env.config.initializerName program piece around before after)
    (reached : (cutAtFault before).2 = none) {error : ResolutionError}
    (walk : piece.walk env.config.initializerName (.inside around) = [.report error]) :
    ∃ later, (observe env program).1 =
      eventsBefore env program before ++ [.error error] ++ later :=
  stands.happens reached walk rfl

/-- `ReachesClasses env program`: in a run, `this` and `super` reach the innermost
class around them, wherever they stand before a fault. -/
structure ReachesClasses (env : Environment) (program : Program) : Prop where
  /-- Each piece that the walk gets to stands in enclosures, which make its context. -/
  placed : ∀ piece context before after,
    Visits env.config.initializerName program piece context before after →
      ∃ around, context = .inside around ∧
        Stands env.config.initializerName program piece around before after
  /-- Inside of a class, the depth of `this` is the number of scopes that are
  open inside of the scope of `this` of the innermost class. -/
  this : ∀ node inner name superclass outer before after, ClassFree inner →
    Stands env.config.initializerName program (.expr (.this node))
        (inner ++ .cls name superclass :: outer) before after →
      (cutAtFault before).2 = none →
        ScopeAt env before inner.length ⟨"this", name.span, false, false⟩ ∧
        ∃ later, (observe env program).1 = eventsBefore env program before ++
          [.log (.resolvedAt node.id "this" inner.length), .depth node.id inner.length] ++ later
  /-- If that class has a superclass, `super` is one scope further out. -/
  super : ∀ node method inner name parent outer before after, ClassFree inner →
    Stands env.config.initializerName program (.expr (.super node method))
        (inner ++ .cls name (some parent) :: outer) before after →
      (cutAtFault before).2 = none →
        ScopeAt env before (inner.length + 1) ⟨"super", parent.span, false, false⟩ ∧
        ∃ later, (observe env program).1 = eventsBefore env program before ++
          [.log (.resolvedAt node.id "super" (inner.length + 1)),
            .depth node.id (inner.length + 1)] ++ later
  /-- If it has none, that is reported of `super`. -/
  baseless : ∀ node method inner name outer before after, ClassFree inner →
    Stands env.config.initializerName program (.expr (.super node method))
        (inner ++ .cls name none :: outer) before after →
      (cutAtFault before).2 = none →
        ∃ later, (observe env program).1 = eventsBefore env program before ++
          [.error (.superWithoutSuperclass node.span)] ++ later
  /-- Outside of all classes, that is reported. -/
  thisOutside : ∀ node around before after, ClassFree around →
    Stands env.config.initializerName program (.expr (.this node)) around before after →
      (cutAtFault before).2 = none →
        ∃ later, (observe env program).1 = eventsBefore env program before ++
          [.error (.thisOutsideClass node.span)] ++ later
  superOutside : ∀ node method around before after, ClassFree around →
    Stands env.config.initializerName program (.expr (.super node method)) around before after →
      (cutAtFault before).2 = none →
        ∃ later, (observe env program).1 = eventsBefore env program before ++
          [.error (.superOutsideClass node.span)] ++ later
  /-- No binding of `this` or `super` is reported as unused, hidden or declared twice. -/
  unreported : ∀ found ∈ reportOf (observe env program).1, ∀ name ∈ found.binding?,
    isReserved name = false

/-- If superclasses are named and no declaration takes the name `this` or
`super`, both reach the innermost class around them, however deep in functions,
loops, structs and methods of other classes that class stands: the depth of
`this` is the number of scopes that are open inside of the scope in which that
class binds it, and `super` has one more. Each of the two is recorded so or
reported as standing outside of such a class, and what it means is never
reported as unused, hidden or declared twice. -/
theorem observe_reaches_classes
    (named : program.NamesSuperclasses env.config.initializerName)
    (spares : program.SparesReserved env.config.initializerName) :
    ReachesClasses env program where
  placed _ _ _ _ visits := visits.stands
  this node inner name superclass outer before after free stands reached := by
    refine stands.recorded named spares reached rfl (walk_this free node name superclass)
      (depth?_this free superclass) ?_
    exact getElem?_reservedScopes free (.cls name superclass :: outer) 0
  super node method inner name parent outer before after free stands reached := by
    refine stands.recorded named spares reached rfl (walk_super free node method)
      (depth?_super free parent) ?_
    exact getElem?_reservedScopes free (.cls name (some parent) :: outer) 1
  baseless node method inner name outer before after free stands reached :=
    stands.turned_away reached (walk_super free node method)
  thisOutside node around before after free stands reached := by
    refine stands.turned_away reached ?_
    have outside : (Context.inside around).inClass = false := by
      have kind := cls_inside free []
      rw [List.append_nil] at kind
      rw [Context.inClass, kind]
      rfl
    simp only [Piece.walk, Expr.walk, Step.this, outside]
    rfl
  superOutside node method around before after free stands reached := by
    refine stands.turned_away reached ?_
    have walk : (Piece.expr (.super node method)).walk env.config.initializerName
        (.inside (around ++ [])) = Step.super (.inside []) node := walk_super free node method
    rwa [List.append_nil] at walk
  unreported := NameResolution.unreported spares

/-- A method that reads a member of `super` and then `this`: `run() { super.go; this; }`. -/
def innerRun : FunctionDecl :=
  ⟨some ⟨"run", default⟩, [], none,
    [.expression default (.super ⟨⟨1⟩, default⟩ ⟨"go", default⟩),
      .expression default (.this ⟨⟨2⟩, default⟩)], false, default⟩

/-- A class with this method, which inherits from `A`. -/
def innerClass : Stmt :=
  .classDecl default ⟨"B", default⟩ (some (.var ⟨⟨0⟩, default⟩ ⟨"A", default⟩)) [innerRun]

/-- A method that declares this class. -/
def outerRun : FunctionDecl := ⟨some ⟨"run", default⟩, [], none, [innerClass], false, default⟩

/-- A class `A` with that method, which inherits from nothing. -/
def nestedClasses : Program := [.classDecl default ⟨"A", default⟩ none [outerRun]]

/-- What stands in this program. -/
def nestedPieces : List Piece :=
  [.stmts nestedClasses, .stmts [], .stmt (.classDecl default ⟨"A", default⟩ none [outerRun]),
    .function .method outerRun, .stmts [innerClass], .stmt innerClass,
    .expr (.var ⟨⟨0⟩, default⟩ ⟨"A", default⟩), .function .method innerRun, .stmts innerRun.body,
    .stmt (.expression default (.super ⟨⟨1⟩, default⟩ ⟨"go", default⟩)),
    .expr (.super ⟨⟨1⟩, default⟩ ⟨"go", default⟩),
    .stmts [.expression default (.this ⟨⟨2⟩, default⟩)],
    .stmt (.expression default (.this ⟨⟨2⟩, default⟩)), .expr (.this ⟨⟨2⟩, default⟩)]

/-- These are all the pieces of the program. -/
theorem within_nestedClasses {piece : Piece}
    (within : Within "init" (.stmts nestedClasses) piece) : piece ∈ nestedPieces :=
  within.mem_of_closed List.mem_cons_self (by
    simp [nestedPieces, Piece.parts, Stmt.parts, Expr.parts, FunctionDecl.kindInClass,
      nestedClasses, outerRun, innerClass, innerRun])

/-- The class that inherits names its superclass. -/
theorem nestedClasses_namesSuperclasses : Program.NamesSuperclasses "init" nestedClasses := by
  intro node name superclass methods within parent inherits
  have listed := within_nestedClasses within
  simp only [nestedPieces, innerClass, List.mem_cons, Piece.stmt.injEq, reduceCtorEq,
    Stmt.classDecl.injEq, List.not_mem_nil, or_false, false_or] at listed
  rcases listed with ⟨-, -, rfl, -⟩ | ⟨-, -, rfl, -⟩ <;> cases inherits
  exact ⟨_, _, rfl⟩

/-- Nothing in the program takes the name `this` or `super`. -/
theorem nestedClasses_sparesReserved : Program.SparesReserved "init" nestedClasses := by
  have spared : ∀ piece ∈ nestedPieces, ∀ name ∈ piece.introduces,
      isReserved name.name = false := by
    simp [nestedPieces, Piece.introduces, isReserved, outerRun, innerClass, innerRun]
  exact fun piece within => spared piece (within_nestedClasses within)

/-- In the inner class `super` is bound two scopes further out, and `this` one. -/
theorem observe_reaches_classes_nested :
    ReachesClasses .bare nestedClasses ∧
      depthsOf (observe .bare nestedClasses).1 = [(⟨0⟩, 2), (⟨1⟩, 2), (⟨2⟩, 1)] :=
  ⟨observe_reaches_classes nestedClasses_namesSuperclasses nestedClasses_sparesReserved, rfl⟩

end NameResolution
