import NameResolution.Proofs.Declarations.Extents
import NameResolution.Proofs.Declarations.Own
import NameResolution.Proofs.Declarations.Places
import NameResolution.Proofs.Declarations.Verdicts
import NameResolution.Proofs.Faults.Cut
import NameResolution.Proofs.Lexical.Depths
import NameResolution.Proofs.Unused.Closing
import NameResolution.Proofs.Walk.Events

/-!
# Duplicate and shadowing declarations

Each declaration is made in one scope. The first of a name in its scope counts:
it may hide a declaration farther out, and it is what the scope holds until it
is closed. Each further one is an error that points to the first.
-/

namespace NameResolution

/-- What is said of the declaration at a place. -/
def Place.verdict (place : Place) : List Event :=
  place.declaration.verdict (rescope place.before [])

/-- The places where the declarations of a scope are made, in order. -/
def Extent.places (extent : Extent) : List Place :=
  placesIn 1 (extent.before ++ [.openScope]) extent.inside

/-- The places where a scope declares a name. -/
def Extent.placesOf (extent : Extent) (name : String) : List Place :=
  extent.places.filter fun place => place.declaration.name == name

/-- Whether a diagnostic says that a declaration is a duplicate or hides another. -/
def Diagnostic.judgesDeclaration : Diagnostic → Bool
  | .error (.duplicateDeclaration ..) => true
  | .warning (.shadowedVariable ..) => true
  | _ => false

namespace LexicalScopes

/-- What a scope declares of a name is the first of what was declared in it. -/
theorem declarationAt?_declareAll (here : LexicalScope) (outer : LexicalScopes)
    (declarations : List Declaration) (name : String) :
    (declareAll (here :: outer) declarations).declarationAt? 0 name =
      LexicalScope.get? (here ++ declarations) name := by
  induction declarations generalizing here with
  | nil => rw [List.append_nil]; rfl
  | cons declaration rest ih =>
    have added := here.get?_declare declaration name
    rw [declareAll_cons, declare, ih, List.append_cons]
    simp only [LexicalScope.get?] at added ⊢
    rw [List.find?_append, added, ← List.find?_append]

end LexicalScopes

section Places

variable {initializerName : String} {program : Program} {extent : Extent} {name : String}
  {first : Place} {others : List Place}

/-- A scope either has its declarations made in it, or is that of `this` or `super`. -/
theorem HasExtent.declaring_or (has : HasExtent initializerName program extent) :
    Declaring false extent.declares extent.inside ∨ extent.declares = [] ∧ extent.places = [] := by
  have unvalued : false = true → ∀ decl, ¬ extent.OfForeign initializerName program decl := nofun
  rcases has.declaring unvalued with declaring | ⟨undeclared, pseudo, span, body, inside, shape⟩
  · exact .inl declaring
  · refine .inr ⟨undeclared, ?_⟩
    rw [Extent.places, inside]
    exact shape.placesIn_eq_nil Nat.one_pos nofun _

/-- The declarations of a scope are made in it, in their order. -/
theorem HasExtent.map_places (has : HasExtent initializerName program extent) :
    extent.places.map (fun place => place.declaration) = extent.declares := by
  rcases has.declaring_or with declaring | ⟨undeclared, unplaced⟩
  · exact declaring.map_places _
  · rw [undeclared, unplaced, List.map_nil]

/-- Where a declaration of a scope is made, the scope holds what was declared in it before. -/
theorem HasExtent.rescope_place (has : HasExtent initializerName program extent)
    {earlier later : List Place} {place : Place}
    (split : extent.places = earlier ++ place :: later) :
    rescope place.before [] =
      extent.around.enter.declareAll (earlier.map fun place => place.declaration) := by
  rcases has.declaring_or with declaring | ⟨-, unplaced⟩
  · rw [declaring.rescope_place split, rescope_append]
    rfl
  · simp [unplaced] at split

/-- What a scope holds of a name where one of its declarations is made. -/
theorem HasExtent.declarationAt?_place (has : HasExtent initializerName program extent)
    {earlier later : List Place} {place : Place}
    (split : extent.places = earlier ++ place :: later) (name : String) :
    (rescope place.before []).declarationAt? 0 name =
      (earlier.find? fun place => place.declaration.name == name).map
        fun place => place.declaration := by
  rw [has.rescope_place split, LexicalScopes.enter, LexicalScopes.declarationAt?_declareAll,
    List.nil_append, LexicalScope.get?, List.find?_map]
  rfl

/-- The first declaration of a name in a scope is made where the scope does not bind it. -/
theorem HasExtent.verdict_first (has : HasExtent initializerName program extent)
    (listed : extent.placesOf name = first :: others) :
    (rescope first.before []).declarationAt? 0 name = none ∧ first.declaration.name = name ∧
      first.verdict = first.declaration.shadowing extent.around := by
  obtain ⟨earlier, later, split, passed, named, -⟩ := List.filter_eq_cons_iff.mp listed
  have free : (rescope first.before []).declarationAt? 0 name = none := by
    rw [has.declarationAt?_place split, List.find?_eq_none.mpr passed, Option.map_none]
  have named : first.declaration.name = name := eq_of_beq named
  refine ⟨free, named, ?_⟩
  rw [← named] at free
  rw [Place.verdict, Declaration.verdict, free]
  dsimp only
  rw [has.rescope_place split, LexicalScopes.tail_declareAll]
  rfl

/-- Each further declaration of a name in a scope is a duplicate of the first. -/
theorem HasExtent.verdict_other (has : HasExtent initializerName program extent)
    (listed : extent.placesOf name = first :: others) {other : Place} (further : other ∈ others) :
    other.verdict = [other.declaration.duplicate first.declaration] := by
  obtain ⟨earlier, later, split, passed, named, rfl⟩ := List.filter_eq_cons_iff.mp listed
  obtain ⟨among, same⟩ := List.mem_filter.mp further
  obtain ⟨between, behind, rfl⟩ := List.append_of_mem among
  have here : extent.places = (earlier ++ first :: between) ++ other :: behind := by
    rw [split, List.append_assoc, List.cons_append]
  have kept : (rescope other.before []).declarationAt? 0 name = some first.declaration := by
    rw [has.declarationAt?_place here, List.find?_append, List.find?_eq_none.mpr passed,
      Option.none_or, List.find?_cons, named, Option.map_some]
  rw [← eq_of_beq same] at kept
  rw [Place.verdict, Declaration.verdict, kept]

/-- Of several declarations of a name in a scope all but the first are duplicates of that one. -/
theorem HasExtent.verdicts (has : HasExtent initializerName program extent)
    (listed : extent.placesOf name = first :: others) :
    (extent.placesOf name).flatMap Place.verdict =
      first.declaration.shadowing extent.around ++
        others.map fun other => other.declaration.duplicate first.declaration := by
  rw [listed, List.flatMap_cons, (has.verdict_first listed).2.2, List.map_eq_flatMap]
  congr 1
  exact List.flatMap_congr fun other further => has.verdict_other listed further

/-- What is declared in a scope is declared by the program. -/
theorem HasExtent.declaredAt (has : HasExtent initializerName program extent) {place : Place}
    (listed : place ∈ extent.places) :
    DeclaredAt initializerName program place.declaration place.before := by
  obtain ⟨first, name, mutable, member, rest, inside, -, here, own⟩ := mem_placesIn.mp listed
  obtain ⟨later, walked⟩ := has.walk
  have split : Program.walk initializerName program = extent.before ++ [.openScope] ++ first ++
      .declare name mutable member :: (rest ++ .closeScope :: later) := by
    rw [walked, Extent.closed, inside]
    simp only [List.append_assoc, List.cons_append, List.nil_append]
  rw [own, here]
  exact declaredAt_of_walk split

end Places

variable {env : Environment} {program : Program} {events : List Event}

/-- A declaration is made where it may be. -/
theorem DeclaredAt.regular {declaration : Declaration} {before : List Step}
    (declared : DeclaredAt env.config.initializerName program declaration before) :
    ∃ name mutable member rest, declaration = name.declaration mutable member ∧
      Program.walk env.config.initializerName program =
        before ++ .declare name mutable member :: rest ∧
      (Step.declare name mutable member).Regular env (run env before .empty).2 := by
  obtain ⟨name, mutable, member, rest, own, walked⟩ := declared.walk
  have whole := Program.runsRegularly env program
  rw [walked] at whole
  exact ⟨name, mutable, member, rest, own, walked, whole.step⟩

/-- Each declaration is made in a scope that the walk opens and closes. -/
theorem DeclaredAt.exists_extent {declaration : Declaration} {before : List Step}
    (declared : DeclaredAt env.config.initializerName program declaration before) :
    ∃ extent, HasExtent env.config.initializerName program extent ∧
      ⟨before, declaration⟩ ∈ extent.places := by
  obtain ⟨name, mutable, member, rest, rfl, walked, regular⟩ := declared.regular
  have innermost : 0 + 0 < heightAfter before 0 := by
    obtain ⟨scope, innermost, -⟩ := regular
    rw [← depth_run_empty env]
    exact List.length_pos_of_mem (List.mem_of_mem_head? innermost)
  -- The scope is the one that was opened last, and closed first of those that are open.
  obtain ⟨opening, inside, rfl, stays, height⟩ := exists_opening innermost
  have ends : heightAfter rest 1 = 0 := by
    have whole := (Program.shaped env.config.initializerName program).heightAfter 0
    rw [walked, heightAfter_append, heightAfter_cons] at whole
    exact Nat.le_zero.mp (Nat.le_trans (heightAfter_mono rest innermost) (Nat.le_of_eq whole))
  obtain ⟨inner, behind, rfl, open_still, closes⟩ := exists_closing_step Nat.one_pos ends
  have stays_whole : StaysOpen 1 (inside ++ .declare name mutable member :: inner) := by
    rw [staysOpen_append, height]
    exact ⟨stays, Nat.one_pos, open_still⟩
  have height_whole : heightAfter (inside ++ .declare name mutable member :: inner) 1 = 1 := by
    rw [heightAfter_append, height, heightAfter_cons]
    exact closes
  have split : Program.walk env.config.initializerName program =
      (opening ++ .openScope :: (inside ++ .declare name mutable member :: inner)) ++
        .closeScope :: behind := by
    rw [walked]
    simp only [List.append_assoc, List.cons_append]
  obtain ⟨extent, has, closed⟩ := NameResolution.exists_extent split
  obtain ⟨rfl, whole⟩ := opening_unique closed stays_whole height_whole has.contents.stays
    has.contents.height
  refine ⟨extent, has, mem_placesIn.mpr ⟨inside, name, mutable, member, inner, whole.symm, height,
    ?_, rfl⟩⟩
  rw [List.append_assoc, List.singleton_append]

/-- What happens where a declaration is made. -/
theorem DeclaredAt.happens (faultFree : observe env program = (events, none))
    (lint : env.config.lints.shadowing = true) {declaration : Declaration} {before : List Step}
    (declared : DeclaredAt env.config.initializerName program declaration before) :
    ∃ later, events = eventsBefore env program before ++
      (declaration.verdict (rescope before []) ++ later) := by
  obtain ⟨name, mutable, member, rest, rfl, walked, regular⟩ := declared.regular
  rw [List.append_cons] at walked
  obtain ⟨later, happens⟩ := events_eq_of_walk faultFree walked
  rw [run_singleton, Step.perform_declare lint regular, lexical_run, List.append_assoc] at happens
  exact ⟨later, happens⟩

/-- While its scope stays open, the first declaration of a name is what the scope holds of it. -/
theorem DeclaredAt.kept {declaration : Declaration} {before : List Step}
    (declared : DeclaredAt env.config.initializerName program declaration before)
    (free : (rescope before []).declarationAt? 0 declaration.name = none)
    {step : Step} {since rest : List Step}
    (walked : Program.walk env.config.initializerName program = before ++ step :: (since ++ rest))
    (stays : StaysOpen 1 since) {hops : Nat} (height : heightAfter since 1 = hops + 1) :
    ∃ binding, (run env (before ++ step :: since) .empty).2.bindingAt? hops declaration.name =
        some binding ∧ binding.declaration declaration.name = declaration := by
  obtain ⟨name, mutable, member, further, rfl, split, scope, innermost, -⟩ := declared.regular
  obtain ⟨rfl, -⟩ := List.cons.inj (List.append_cancel_left (split.symm.trans walked))
  have whole := Program.runsRegularly env program
  rw [walked, runsRegularly_append] at whole
  have taken : ((Step.declare name mutable member).perform env
      (run env before .empty).2).2.lexical.declarationAt? 0 name.name =
        some (name.declaration mutable member) := by
    rw [Step.lexical_perform]
    exact LexicalScopes.declarationAt?_declare_of_free
      (ScopeStack.lexical_ne_nil innermost) (by rwa [lexical_run])
  have held := declarationAt?_run (runsRegularly_append.mp whole.2.2).1 taken stays height
  rw [ScopeStack.declarationAt?_lexical, Option.map_eq_some_iff] at held
  rw [run_snd_append, run_snd_cons]
  exact held

/-- A step that reports a declaration makes it, or reports something as plain from the tree. -/
theorem Step.Emits.of_judgesDeclaration {step : Step} {found : Diagnostic}
    (emits : step.Emits (.diagnostic found)) (judges : found.judgesDeclaration = true) :
    (∃ name mutable member, step = .declare name mutable member) ∨
      ∃ error, step = .report error ∧ found = .error error := by
  generalize seen : Event.diagnostic found = event at emits
  cases emits with
  | duplicate name mutable member kept | shadowed name mutable member earlier =>
    exact .inl ⟨name, mutable, member, rfl⟩
  | reported error =>
    cases seen
    exact .inr ⟨error, rfl, rfl⟩
  | resolved access lookUp | read lookUp =>
    cases lookUp with
    | notDeclared =>
      cases seen
      cases judges
    | _ => cases seen
  | unregistered kind => cases kind <;> (cases seen; cases judges)
  | _ => cases seen <;> cases judges

/-- One thing is said of a declaration at most. -/
theorem Declaration.verdict_eq_of_split {scopes : LexicalScopes} {declaration : Declaration}
    {inside behind : List Event} {event : Event}
    (split : declaration.verdict scopes = inside ++ event :: behind) :
    inside = [] ∧ declaration.verdict scopes = [event] := by
  have short : (declaration.verdict scopes).length ≤ 1 := by
    unfold verdict shadowing
    split
    · exact Nat.le_refl 1
    · split <;> simp
  rw [split] at short ⊢
  simp only [List.length_append, List.length_cons] at short
  obtain rfl : inside = [] := List.eq_nil_of_length_eq_zero (by omega)
  obtain rfl : behind = [] := List.eq_nil_of_length_eq_zero (by omega)
  exact ⟨rfl, rfl⟩

/-- That a declaration is a duplicate or hides another is said where it is made. -/
theorem exists_declaredAt (faultFree : observe env program = (events, none))
    (lint : env.config.lints.shadowing = true) {earlier later : List Event} {found : Diagnostic}
    (split : events = earlier ++ .diagnostic found :: later)
    (judges : found.judgesDeclaration = true) :
    ∃ declaration before, DeclaredAt env.config.initializerName program declaration before ∧
      earlier = eventsBefore env program before ∧
      declaration.verdict (rescope before []) = [.diagnostic found] := by
  obtain ⟨first, step, rest, inside, behind, walked, emits, here, rfl⟩ :=
    exists_step_of_diagnostic faultFree split
  rcases emits.of_judgesDeclaration judges with ⟨name, mutable, member, rfl⟩ | ⟨error, rfl, rfl⟩
  · have whole := Program.runsRegularly env program
    rw [walked] at whole
    rw [Step.perform_declare lint whole.step, lexical_run] at here
    obtain ⟨rfl, one⟩ := Declaration.verdict_eq_of_split here
    exact ⟨_, first, declaredAt_of_walk walked, List.append_nil _, one⟩
  · have plain : error.isPlain = true := by
      rcases Program.exists_madeAt walked with
        ⟨-, same⟩ | ⟨-, same⟩ | ⟨piece, context, before, made⟩
      · cases same
      · cases same
      · obtain ⟨leading, made⟩ := made
        exact Piece.origin made.mem
    cases error with
    | duplicateDeclaration _ _ _ => cases plain
    | _ => cases judges

/-- How a run judges the declarations of a program. -/
structure JudgesDeclarations (env : Environment) (program : Program) (events : List Event) :
    Prop where
  /-- At each declaration a run says what the scopes that are open there ask for: that it is a
  duplicate of what its own scope holds, if that binds the name already, or else that it
  hides what the name means in the scopes around, if that is anything, or else nothing. -/
  verdict : ∀ declaration before,
    DeclaredAt env.config.initializerName program declaration before →
      ∃ later, events = eventsBefore env program before ++
        (declaration.verdict (rescope before []) ++ later)
  /-- Nothing of this kind is said anywhere else. -/
  only : ∀ earlier found later, events = earlier ++ .diagnostic found :: later →
    found.judgesDeclaration = true →
      ∃ declaration before, DeclaredAt env.config.initializerName program declaration before ∧
        earlier = eventsBefore env program before ∧
        declaration.verdict (rescope before []) = [.diagnostic found]
  /-- Each declaration is one of those of the scope it is made in. -/
  placed : ∀ declaration before,
    DeclaredAt env.config.initializerName program declaration before →
      ∃ extent, HasExtent env.config.initializerName program extent ∧
        ⟨before, declaration⟩ ∈ extent.places
  /-- A scope has its declarations made in it, in the order in which the program has them. -/
  places : ∀ extent, HasExtent env.config.initializerName program extent →
    extent.places.map (fun place => place.declaration) = extent.declares ∧
      ∀ place ∈ extent.places,
        DeclaredAt env.config.initializerName program place.declaration place.before
  /-- Of the declarations of a name in one scope the first may hide a declaration of the
  scopes around. Each of the others is a duplicate, and what is kept is the first. -/
  repeated : ∀ extent, HasExtent env.config.initializerName program extent →
    ∀ name first others, extent.placesOf name = first :: others →
      (extent.placesOf name).flatMap Place.verdict =
        first.declaration.shadowing extent.around ++
          others.map fun other => other.declaration.duplicate first.declaration
  /-- While the scope stays open after the first of them, with whatever scopes inside, it has a
  binding of the name with the span, the mutability and the membership of the first. -/
  kept : ∀ extent, HasExtent env.config.initializerName program extent →
    ∀ name first others, extent.placesOf name = first :: others →
      ∀ step since rest, Program.walk env.config.initializerName program =
          first.before ++ step :: (since ++ rest) → StaysOpen 1 since →
        ∃ binding, (run env (first.before ++ step :: since) .empty).2.bindingAt?
            (heightAfter since 1 - 1) name = some binding ∧
          binding.declaration name = first.declaration

/-- With the check for shadowing on, a resolution that succeeds says of each declaration that it
is a duplicate exactly if its own scope binds the name, and else that it hides another
exactly if a scope around binds the name, with the nearest such binding. So of several
declarations of a name in one scope all but the first are duplicates of the first, and
the name stays bound as the first declares it until the scope is closed. -/
theorem resolve_judges_declarations {resolution : Resolution}
    (succeeds : resolve env program = .ok resolution)
    (lint : env.config.lints.shadowing = true) :
    ∃ events, observe env program = (events, none) ∧ resolution.report = reportOf events ∧
      JudgesDeclarations env program events := by
  obtain ⟨events, faultFree, rfl⟩ := resolve_eq_ok_iff.mp succeeds
  refine ⟨events, faultFree, rfl, ?_⟩
  exact {
    verdict := fun declaration before declared => declared.happens faultFree lint
    only := fun earlier found later split judges => exists_declaredAt faultFree lint split judges
    placed := fun declaration before declared => declared.exists_extent
    places := fun extent has => ⟨has.map_places, fun place listed => has.declaredAt listed⟩
    repeated := fun extent has name first others listed => has.verdicts listed
    kept := by
      intro extent has name first others listed step since rest walked stays
      obtain ⟨free, named, -⟩ := has.verdict_first listed
      have among : first ∈ extent.placesOf name := listed ▸ List.mem_cons_self
      have declared := has.declaredAt (List.mem_of_mem_filter among)
      have height : heightAfter since 1 = heightAfter since 1 - 1 + 1 :=
        (Nat.sub_add_cancel stays.pos).symm
      rw [← named] at free ⊢
      exact declared.kept free walked stays height }

/-- A function that declares one name three times in its scope: `fn f(x, x) { fn x() {} }`. -/
def repeatsX : FunctionDecl :=
  ⟨some ⟨"f", default⟩, [⟨⟨"x", ⟨2, 1⟩⟩, .any false default⟩, ⟨⟨"x", ⟨3, 1⟩⟩, .any false default⟩],
    none, [.function default ⟨some ⟨"x", ⟨4, 1⟩⟩, [], none, [], false, default⟩], false, default⟩

/-- The function behind a variable of that name: `let mut x; fn f(x, x) { fn x() {} }`. -/
def repeatedX : Program :=
  [.letDecl default ⟨"x", ⟨1, 1⟩⟩ true none none false, .function default repeatsX]

/-- A name that is declared at the top, and three times in a function: the first of the three
hides the outer one, and the others are duplicates of it. -/
theorem resolve_judges_declarations_repeatedX :
    ∃ resolution events, resolve .watchful repeatedX = .ok resolution ∧
      resolution.report =
        [.warning (.shadowedVariable "x" ⟨1, 1⟩ ⟨2, 1⟩),
          .error (.duplicateDeclaration "x" ⟨3, 1⟩ ⟨2, 1⟩),
          .error (.duplicateDeclaration "x" ⟨4, 1⟩ ⟨2, 1⟩),
          .warning (.unusedLocalVariable "x" ⟨2, 1⟩), .warning (.unusedLocalVariable "x" ⟨1, 1⟩),
          .warning (.unusedLocalVariable "f" default)] ∧
      resolution.report = reportOf events ∧ JudgesDeclarations .watchful repeatedX events := by
  have succeeds : resolve .watchful repeatedX =
      .ok ⟨.empty, [.warning (.shadowedVariable "x" ⟨1, 1⟩ ⟨2, 1⟩),
        .error (.duplicateDeclaration "x" ⟨3, 1⟩ ⟨2, 1⟩),
        .error (.duplicateDeclaration "x" ⟨4, 1⟩ ⟨2, 1⟩),
        .warning (.unusedLocalVariable "x" ⟨2, 1⟩), .warning (.unusedLocalVariable "x" ⟨1, 1⟩),
        .warning (.unusedLocalVariable "f" default)]⟩ := rfl
  obtain ⟨events, -, reported, judges⟩ := resolve_judges_declarations succeeds rfl
  exact ⟨_, events, succeeds, rfl, reported, judges⟩

end NameResolution
