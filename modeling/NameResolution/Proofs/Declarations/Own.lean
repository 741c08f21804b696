import NameResolution.Proofs.Frame.Openings
import NameResolution.Proofs.Lexical.Declaring

/-!
# The declarations of a scope

The declarations that steps make in a scope itself, and not in one inside of
it, stand in an order, and what a scope declares when one of them is made is
what those before it have declared.
-/

namespace NameResolution

/-- A place where a declaration is made: what is declared, and the steps before that. -/
structure Place where
  before : List Step
  declaration : Declaration

/-- What a step declares in a scope, if it has so many scopes down to that one open. -/
def Step.places (extra : Nat) (before : List Step) : Step → List Place
  | .declare name mutable member =>
    if extra = 1 then [⟨before, name.declaration mutable member⟩] else []
  | _ => []

/-- The places where steps that follow on others declare names in a scope, in
order, if there are so many scopes down to that one open before the steps. -/
def placesIn : Nat → List Step → List Step → List Place
  | _, _, [] => []
  | extra, before, step :: rest =>
    step.places extra before ++ placesIn (step.height extra) (before ++ [step]) rest

/-- The places of two lists of steps are those of the first, then those of the second behind it. -/
theorem placesIn_append (extra : Nat) (before first second : List Step) :
    placesIn extra before (first ++ second) =
      placesIn extra before first ++
        placesIn (heightAfter first extra) (before ++ first) second := by
  induction first generalizing extra before with
  | nil => simp [placesIn]
  | cons step rest ih => simp [placesIn, ih]

/-- A step has a place only where the scope is innermost, and only if it declares a name. -/
theorem Step.mem_places {extra : Nat} {before : List Step} {step : Step} {place : Place} :
    place ∈ step.places extra before ↔ extra = 1 ∧ place.before = before ∧
      ∃ name mutable member, step = .declare name mutable member ∧
        place.declaration = name.declaration mutable member := by
  obtain ⟨first, declaration⟩ := place
  cases step with
  | declare name mutable member =>
    by_cases own : extra = 1
    · simp only [places, own, if_true, List.mem_singleton, Place.mk.injEq, true_and, declare.injEq]
      constructor
      · rintro ⟨rfl, rfl⟩
        exact ⟨rfl, name, mutable, member, ⟨rfl, rfl, rfl⟩, rfl⟩
      · rintro ⟨rfl, _, _, _, ⟨rfl, rfl, rfl⟩, rfl⟩
        exact ⟨rfl, rfl⟩
    · simp [places, own]
  | _ => simp [places]

/-- The places in a scope are those where a step declares a name with that scope innermost. -/
theorem mem_placesIn {extra : Nat} {before steps : List Step} {place : Place} :
    place ∈ placesIn extra before steps ↔
      ∃ first name mutable member rest, steps = first ++ .declare name mutable member :: rest ∧
        heightAfter first extra = 1 ∧ place.before = before ++ first ∧
        place.declaration = name.declaration mutable member := by
  induction steps generalizing extra before with
  | nil => simp [placesIn]
  | cons step steps ih =>
    rw [placesIn, List.mem_append, Step.mem_places, ih]
    constructor
    · rintro (⟨rfl, here, name, mutable, member, rfl, own⟩ |
        ⟨first, name, mutable, member, rest, rfl, height, here, own⟩)
      · exact ⟨[], name, mutable, member, steps, rfl, rfl, by rw [here, List.append_nil], own⟩
      · refine ⟨step :: first, name, mutable, member, rest, rfl, height, ?_, own⟩
        rw [here, List.append_assoc, List.singleton_append]
    · rintro ⟨first, name, mutable, member, rest, split, height, here, own⟩
      rcases List.cons_eq_append_iff.mp split with ⟨rfl, same⟩ | ⟨first, rfl, later⟩
      · cases same
        exact .inl ⟨height, by rw [here, List.append_nil], name, mutable, member, rfl, own⟩
      · refine .inr ⟨first, name, mutable, member, rest, later, height, ?_, own⟩
        rw [here, List.append_assoc, List.singleton_append]

/-- Steps that finish a name declare none. -/
theorem placesIn_finishes {steps : List Step} {name : Ident}
    (finishes : ∀ step ∈ steps, step.finishes name = true) (extra : Nat) (before : List Step) :
    placesIn extra before steps = [] := by
  induction steps generalizing extra before with
  | nil => rfl
  | cons step rest ih =>
    rw [List.forall_mem_cons] at finishes
    rw [placesIn, ih finishes.2, List.append_nil]
    cases step <;> first | rfl | cases finishes.1

/-- What the steps of a walk declare farther inside is no declaration of the scope. -/
theorem Shape.placesIn_eq_nil {declares : Bool} {steps : List Step} (shape : Shape declares steps)
    {extra : Nat} (opened : 0 < extra) (inner : declares = true → 1 < extra) (before : List Step) :
    placesIn extra before steps = [] := by
  induction shape generalizing extra before with
  | nil => rfl
  | append left right first second =>
    rw [placesIn_append, first opened inner, left.heightAfter, second opened inner, List.append_nil]
  | @quiet _ step quiet =>
    cases step <;> first | rfl | cases quiet
  | scope inside body =>
    have further : 1 < extra + 1 := Nat.succ_lt_succ opened
    rw [placesIn, placesIn_append]
    simp only [Step.height]
    rw [body (Nat.zero_lt_of_lt further) fun _ => further]
    rfl
  | pseudoScope name span inside body =>
    have further : 1 < extra + 1 := Nat.succ_lt_succ opened
    rw [placesIn, placesIn, placesIn_append]
    simp only [Step.height]
    rw [body (Nat.zero_lt_of_lt further) fun _ => further]
    rfl
  | declared name mutable member valued finishes value =>
    have other : extra ≠ 1 := Nat.ne_of_gt (inner rfl)
    rw [placesIn, placesIn_append, placesIn_finishes finishes, Step.places, if_neg other,
      List.append_nil]
    exact value opened (fun never => absurd never Bool.false_ne_true) _

/-- A declaration, the steps of its value and those that finish it are one place. -/
theorem placesIn_declared {name : Ident} {mutable member : Bool} {value finish : List Step}
    (shape : Shape false value) (finishes : ∀ step ∈ finish, step.finishes name = true)
    (before : List Step) :
    placesIn 1 before (.declare name mutable member :: (value ++ finish)) =
      [⟨before, name.declaration mutable member⟩] := by
  rw [placesIn, placesIn_append, placesIn_finishes finishes, Step.places, if_pos rfl,
    List.append_nil]
  exact congrArg (_ :: ·) (shape.placesIn_eq_nil Nat.one_pos nofun _)

/-- Steps that finish a name that is declared leave the lexical scopes as they are. -/
theorem rescope_finishes {steps : List Step} {name : Ident}
    (finishes : ∀ step ∈ steps, step.finishes name = true) {declaration : Declaration}
    (same : declaration.name = name.name) (scopes : LexicalScopes) :
    rescope steps (scopes.declare declaration) = scopes.declare declaration := by
  induction steps with
  | nil => rfl
  | cons step rest ih =>
    rw [List.forall_mem_cons] at finishes
    have still : step.rescope (scopes.declare declaration) = scopes.declare declaration := by
      cases step with
      | define other =>
        obtain rfl : other = name := eq_of_beq finishes.1
        exact LexicalScopes.declare_declare same.symm
      | excuse other => rfl
      | report error => rfl
      | _ => cases finishes.1
    rw [rescope_cons, still, ih finishes.2]

/-- The steps of a walk leave the lexical scopes as they are, but for what they
declare in the innermost. -/
theorem Shape.rescope_eq {declares : Bool} {steps : List Step} (shape : Shape declares steps)
    (scopes : LexicalScopes) :
    (rescope steps scopes).tail = scopes.tail ∧
      (declares = false → rescope steps scopes = scopes) := by
  induction shape generalizing scopes with
  | nil => exact ⟨rfl, fun _ => rfl⟩
  | append left right first second =>
    rw [rescope_append]
    refine ⟨(second _).1.trans (first scopes).1, fun silent => ?_⟩
    rw [(first scopes).2 silent, (second scopes).2 silent]
  | @quiet _ step quiet =>
    cases step <;> first | exact ⟨rfl, fun _ => rfl⟩ | cases quiet
  | @scope _ steps inside body =>
    have closed : rescope (.openScope :: (steps ++ [.closeScope])) scopes = scopes := by
      rw [rescope_cons, rescope_append]
      exact (body scopes.enter).1
    rw [closed]
    exact ⟨rfl, fun _ => rfl⟩
  | @pseudoScope _ name span steps inside body =>
    have closed :
        rescope (.openScope :: .bindPseudo name span :: (steps ++ [.closeScope])) scopes =
          scopes := by
      rw [rescope_cons, rescope_cons, rescope_append]
      exact (body _).1
    rw [closed]
    exact ⟨rfl, fun _ => rfl⟩
  | declared name mutable member valued finishes value =>
    refine ⟨?_, nofun⟩
    rw [rescope_cons, rescope_append, (value _).2 rfl, Step.rescope,
      rescope_finishes finishes rfl,
      LexicalScopes.tail_declare]

namespace Declaring

variable {valued : Bool} {declarations : List Declaration} {steps : List Step}

/-- The places in the scope in which steps begin are those of their declarations. -/
theorem map_places (declaring : Declaring valued declarations steps) (before : List Step) :
    (placesIn 1 before steps).map (fun place => place.declaration) = declarations := by
  induction declaring generalizing before with
  | shape shape => rw [shape.placesIn_eq_nil Nat.one_pos nofun, List.map_nil]
  | append left right first second =>
    rw [placesIn_append, left.shaped.heightAfter, List.map_append, first, second]
  | declared name mutable member shape finishes defines =>
    rw [placesIn_declared shape finishes, List.map_singleton]

/-- Steps leave what was declared before them and what they declare. -/
theorem rescope (declaring : Declaring valued declarations steps) (scopes : LexicalScopes) :
    NameResolution.rescope steps scopes = scopes.declareAll declarations := by
  induction declaring generalizing scopes with
  | shape shape => exact (shape.rescope_eq scopes).2 rfl
  | append left right first second =>
    rw [rescope_append, first, second, LexicalScopes.declareAll_append]
  | declared name mutable member shape finishes defines =>
    rw [rescope_cons, rescope_append, (shape.rescope_eq _).2 rfl, Step.rescope,
      rescope_finishes finishes rfl]
    rfl

/-- Where one of the declarations is made, those before it have been made. -/
theorem rescope_place (declaring : Declaring valued declarations steps) {before : List Step}
    {earlier later : List Place} {place : Place}
    (split : placesIn 1 before steps = earlier ++ place :: later) (scopes : LexicalScopes) :
    NameResolution.rescope place.before scopes =
      (NameResolution.rescope before scopes).declareAll
        (earlier.map fun place => place.declaration) := by
  induction declaring generalizing before earlier later with
  | shape shape =>
    rw [shape.placesIn_eq_nil Nat.one_pos nofun] at split
    simp at split
  | @append _ _ firstSteps secondSteps left right first second =>
    rw [placesIn_append, left.shaped.heightAfter] at split
    have behind {between : List Place} (same : earlier = placesIn 1 before firstSteps ++ between)
        (there : placesIn 1 (before ++ firstSteps) secondSteps = between ++ place :: later) :
        NameResolution.rescope place.before scopes =
          (NameResolution.rescope before scopes).declareAll
            (earlier.map fun place => place.declaration) := by
      rw [second there, rescope_append, left.rescope, same, List.map_append, left.map_places,
        LexicalScopes.declareAll_append]
    rcases List.append_eq_append_iff.mp split with ⟨between, same, there⟩ | ⟨more, here, there⟩
    · exact behind same there
    · rcases List.cons_eq_append_iff.mp there with ⟨rfl, there⟩ | ⟨more, rfl, -⟩
      · have same : earlier = placesIn 1 before firstSteps ++ [] := by
          rw [here, List.append_nil, List.append_nil]
        exact behind same there.symm
      · exact first here
  | declared name mutable member shape finishes defines =>
    rw [placesIn_declared shape finishes] at split
    rcases List.singleton_eq_append_iff.mp split with ⟨rfl, same⟩ | ⟨-, same⟩
    · cases same
      rfl
    · cases same

end Declaring

end NameResolution
