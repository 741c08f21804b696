import NameResolution.Proofs.Frame.Shape
import NameResolution.Proofs.Lexical.Trail

/-!
# Confined steps

Steps are confined if they close no scope but those they opened themselves,
and declare and define in no other. The steps of an expression are confined,
and so are the first ones of them, however many.
-/

namespace NameResolution

/-- How many scopes are open after a step, if so many are open before it. -/
def Step.height (count : Nat) : Step → Nat
  | .openScope => count + 1
  | .closeScope => count - 1
  | _ => count

/-- How many scopes are open after steps, if so many are open before them. -/
def heightAfter (steps : List Step) (count : Nat) : Nat :=
  steps.foldl Step.height count

@[simp] theorem heightAfter_nil (count : Nat) : heightAfter [] count = count := rfl

@[simp] theorem heightAfter_cons (step : Step) (rest : List Step) (count : Nat) :
    heightAfter (step :: rest) count = heightAfter rest (step.height count) := rfl

/-- The height behind two lists of steps is that of the second behind the first. -/
@[simp] theorem heightAfter_append (first second : List Step) (count : Nat) :
    heightAfter (first ++ second) count = heightAfter second (heightAfter first count) :=
  List.foldl_append

/-- A step changes as many lexical scopes as it opens or closes. -/
theorem Step.length_rescope (step : Step) (scopes : LexicalScopes) :
    (step.rescope scopes).length = step.height scopes.length := by
  cases step with
  | openScope => rfl
  | closeScope => exact List.length_tail
  | declare name mutable member => exact scopes.length_declare _
  | define name => exact scopes.length_declare _
  | bindPseudo name span => cases scopes <;> rfl
  | _ => rfl

/-- Steps change as many lexical scopes as they open and close. -/
theorem length_rescope (steps : List Step) (scopes : LexicalScopes) :
    (rescope steps scopes).length = heightAfter steps scopes.length := by
  induction steps generalizing scopes with
  | nil => rfl
  | cons step rest ih => rw [rescope_cons, ih, step.length_rescope, heightAfter_cons]

/-- Whether a step only concerns scopes that were opened since, of which there are so many. -/
def Step.Inside (extra : Nat) (step : Step) : Prop :=
  step = .openScope ∨ step.quiet = true ∨ 0 < extra

/-- Whether steps only concern scopes that were opened since, of which there
are so many before them. -/
def Confined : Nat → List Step → Prop
  | _, [] => True
  | extra, step :: rest => step.Inside extra ∧ Confined (step.height extra) rest

/-- Steps are confined exactly if the first of them are, and the rest behind these. -/
theorem confined_append {extra : Nat} {first second : List Step} :
    Confined extra (first ++ second) ↔
      Confined extra first ∧ Confined (heightAfter first extra) second := by
  induction first generalizing extra with
  | nil => simp [Confined]
  | cons step rest ih =>
    simp only [List.cons_append, Confined, ih, heightAfter_cons, and_assoc]

/-- A step counts the scopes opened since as it counts all of them. -/
theorem Step.height_add {step : Step} {extra : Nat} (inside : step.Inside extra) (level : Nat) :
    step.height (level + extra) = level + step.height extra := by
  cases step with
  | openScope => rfl
  | closeScope =>
    have further : 0 < extra := by simpa [Inside, quiet] using inside
    exact Nat.add_sub_assoc further level
  | _ => rfl

/-- Scopes beneath confined steps make no difference to how many are opened and closed. -/
theorem Confined.heightAfter_add {steps : List Step} {extra : Nat} (confined : Confined extra steps)
    (level : Nat) : heightAfter steps (level + extra) = level + heightAfter steps extra := by
  induction steps generalizing extra with
  | nil => rfl
  | cons step rest ih =>
    obtain ⟨inside, confined⟩ := confined
    rw [heightAfter_cons, heightAfter_cons, step.height_add inside level, ih confined]

/-- A quiet step opens and closes no scope. -/
theorem Step.height_of_quiet {step : Step} (quiet : step.quiet = true) (count : Nat) :
    step.height count = count := by
  cases step <;> first | rfl | cases quiet

/-- A step that gives a name its value opens and closes no scope. -/
theorem Step.height_of_finishes {step : Step} {name : Ident} (finishes : step.finishes name = true)
    (count : Nat) : step.height count = count := by
  cases step <;> first | rfl | cases finishes

/-- Steps that give a name its value open and close no scope. -/
theorem heightAfter_finishes {steps : List Step} {name : Ident}
    (finishes : ∀ step ∈ steps, step.finishes name = true) (count : Nat) :
    heightAfter steps count = count := by
  induction steps with
  | nil => rfl
  | cons step rest ih =>
    rw [List.forall_mem_cons] at finishes
    rw [heightAfter_cons, Step.height_of_finishes finishes.1, ih finishes.2]

/-- The steps of a walk leave as many scopes open as there were. -/
theorem Shape.heightAfter {declares : Bool} {steps : List Step} (shape : Shape declares steps)
    (count : Nat) : heightAfter steps count = count := by
  induction shape generalizing count with
  | nil => rfl
  | append left right first second => rw [heightAfter_append, first, second]
  | quiet quiet => exact Step.height_of_quiet quiet count
  | scope inside body =>
    rw [heightAfter_cons, heightAfter_append, body]
    exact Nat.add_sub_cancel count 1
  | pseudoScope name span inside body =>
    rw [heightAfter_cons, heightAfter_cons, heightAfter_append, body]
    exact Nat.add_sub_cancel count 1
  | declared name mutable member valued finishes value =>
    rw [heightAfter_cons, heightAfter_append, value, heightAfter_finishes finishes]
    rfl

/-- In a scope that was opened since, steps that finish a name are confined. -/
theorem confined_finishes {steps : List Step} {name : Ident} {extra : Nat}
    (finishes : ∀ step ∈ steps, step.finishes name = true) (room : 0 < extra) :
    Confined extra steps := by
  induction steps with
  | nil => trivial
  | cons step rest ih =>
    rw [List.forall_mem_cons] at finishes
    rw [Confined, Step.height_of_finishes finishes.1]
    exact ⟨.inr (.inr room), ih finishes.2⟩

/-- The steps of a walk are confined, if a scope was opened for the names they declare. -/
theorem Shape.confined {declares : Bool} {steps : List Step} (shape : Shape declares steps)
    {extra : Nat} (room : declares = true → 0 < extra) : Confined extra steps := by
  induction shape generalizing extra with
  | nil => trivial
  | append left right first second =>
    rw [confined_append, left.heightAfter]
    exact ⟨first room, second room⟩
  | quiet quiet => exact ⟨.inr (.inl quiet), trivial⟩
  | scope inside body =>
    have opened : 0 < extra + 1 := Nat.succ_pos extra
    rw [Confined, confined_append, inside.heightAfter]
    exact ⟨.inl rfl, body fun _ => opened, .inr (.inr opened), trivial⟩
  | pseudoScope name span inside body =>
    have opened : 0 < extra + 1 := Nat.succ_pos extra
    rw [Confined, Confined, confined_append, inside.heightAfter]
    exact ⟨.inl rfl, .inr (.inr opened), body fun _ => opened, .inr (.inr opened), trivial⟩
  | declared name mutable member valued finishes value =>
    have opened := room rfl
    rw [Confined, confined_append, valued.heightAfter]
    exact ⟨.inr (.inr opened), value nofun, confined_finishes finishes opened⟩

end NameResolution
