import Mathlib.Data.List.Induction
import NameResolution.Proofs.Frame.Confined

/-!
# Where an open scope was opened

Steps keep a scope open if more scopes stay open than were before it. Every
scope that is open behind some steps was opened by one of them, and the steps
since have kept it open.
-/

namespace NameResolution

/-- Whether some of the scopes opened since stay open throughout, of which there
are so many before the steps. -/
def StaysOpen : Nat → List Step → Prop
  | extra, [] => 0 < extra
  | extra, step :: rest => 0 < extra ∧ StaysOpen (step.height extra) rest

/-- Where a scope stays open, it was open to begin with. -/
theorem StaysOpen.opened {extra : Nat} {steps : List Step} (stays : StaysOpen extra steps) :
    0 < extra := by
  cases steps with
  | nil => exact stays
  | cons step rest => exact stays.1

/-- A scope stays open through steps exactly if it does through the first and then through the
rest. -/
theorem staysOpen_append {extra : Nat} {first second : List Step} :
    StaysOpen extra (first ++ second) ↔
      StaysOpen extra first ∧ StaysOpen (heightAfter first extra) second := by
  induction first generalizing extra with
  | nil =>
    have opened : StaysOpen extra second → 0 < extra := StaysOpen.opened
    simpa [StaysOpen] using opened
  | cons step rest ih =>
    simp only [List.cons_append, StaysOpen, ih, heightAfter_cons, and_assoc]

/-- A scope that stays open through steps is open behind them. -/
theorem StaysOpen.pos {steps : List Step} {extra : Nat} (stays : StaysOpen extra steps) :
    0 < heightAfter steps extra := by
  induction steps generalizing extra with
  | nil => exact stays
  | cons step rest ih => exact ih stays.2

/-- One more step that leaves a scope open. -/
theorem StaysOpen.snoc {steps : List Step} {extra : Nat} (stays : StaysOpen extra steps)
    {step : Step} (further : 0 < step.height (heightAfter steps extra)) :
    StaysOpen extra (steps ++ [step]) :=
  staysOpen_append.mpr ⟨stays, stays.pos, further⟩

/-- Steps that give a name its value leave an open scope open. -/
theorem staysOpen_finishes {steps : List Step} {name : Ident} {extra : Nat}
    (finishes : ∀ step ∈ steps, step.finishes name = true) (opened : 0 < extra) :
    StaysOpen extra steps := by
  induction steps with
  | nil => exact opened
  | cons step rest ih =>
    rw [List.forall_mem_cons] at finishes
    rw [StaysOpen, Step.height_of_finishes finishes.1]
    exact ⟨opened, ih finishes.2⟩

/-- The steps of a walk keep open what was open before them. -/
theorem Shape.staysOpen {declares : Bool} {steps : List Step} (shape : Shape declares steps)
    {extra : Nat} (opened : 0 < extra) : StaysOpen extra steps := by
  induction shape generalizing extra with
  | nil => exact opened
  | append left right first second =>
    rw [staysOpen_append, left.heightAfter]
    exact ⟨first opened, second opened⟩
  | quiet quiet =>
    rw [StaysOpen, Step.height_of_quiet quiet]
    exact ⟨opened, opened⟩
  | scope inside body =>
    have further : 0 < extra + 1 := Nat.succ_pos extra
    rw [StaysOpen, staysOpen_append, inside.heightAfter]
    exact ⟨opened, body further, further, opened⟩
  | pseudoScope name span inside body =>
    have further : 0 < extra + 1 := Nat.succ_pos extra
    rw [StaysOpen, StaysOpen, staysOpen_append, inside.heightAfter]
    exact ⟨opened, further, body further, further, opened⟩
  | declared name mutable member valued finishes value =>
    rw [StaysOpen, staysOpen_append, valued.heightAfter]
    exact ⟨opened, value opened, staysOpen_finishes finishes opened⟩

/-- A scope was opened by one of the steps, and has stayed open since. -/
theorem exists_opening {steps : List Step} {count hops : Nat}
    (still_open : count + hops < heightAfter steps count) :
    ∃ opening inside, steps = opening ++ .openScope :: inside ∧ StaysOpen 1 inside ∧
      heightAfter inside 1 = hops + 1 := by
  induction steps using List.reverseRecOn generalizing hops with
  | nil => exact absurd still_open (Nat.not_lt.mpr (Nat.le_add_right count hops))
  | append_singleton steps step ih =>
    rw [heightAfter_append, heightAfter_cons, heightAfter_nil] at still_open
    -- The scope was open before the step, with so many scopes inside of it.
    have earlier (inner : Nat) (open_before : count + inner < heightAfter steps count)
        (now : step.height (inner + 1) = hops + 1) :
        ∃ opening inside, steps ++ [step] = opening ++ .openScope :: inside ∧
          StaysOpen 1 inside ∧ heightAfter inside 1 = hops + 1 := by
      obtain ⟨opening, inside, rfl, stays, height⟩ := ih open_before
      have further : step.height (heightAfter inside 1) = hops + 1 := by rw [height, now]
      refine ⟨opening, inside ++ [step], ?_, stays.snoc (by omega), ?_⟩
      · rw [List.append_assoc, List.cons_append]
      · rw [heightAfter_append, heightAfter_cons, heightAfter_nil, further]
    cases step with
    | openScope =>
      rw [Step.height] at still_open
      cases hops with
      | zero => exact ⟨steps, [], rfl, Nat.one_pos, rfl⟩
      | succ inner => exact earlier inner (by omega) rfl
    | closeScope =>
      rw [Step.height] at still_open
      exact earlier (hops + 1) (by omega) rfl
    | _ => exact earlier hops still_open rfl

/-- Behind more open scopes there are no fewer. -/
theorem heightAfter_mono (steps : List Step) {count more : Nat} (le : count ≤ more) :
    heightAfter steps count ≤ heightAfter steps more := by
  induction steps generalizing count more with
  | nil => exact le
  | cons step rest ih =>
    apply ih
    cases step <;> simp only [Step.height] <;> omega

/-- Steps behind which none of the scopes is open close the last of them somewhere. -/
theorem exists_closing_step {steps : List Step} {extra : Nat} (opened : 0 < extra)
    (closed : heightAfter steps extra = 0) :
    ∃ inside rest, steps = inside ++ .closeScope :: rest ∧ StaysOpen extra inside ∧
      heightAfter inside extra = 1 := by
  induction steps generalizing extra with
  | nil => exact absurd closed (Nat.ne_of_gt opened)
  | cons step rest ih =>
    rcases Nat.eq_zero_or_pos (step.height extra) with last | further
    · obtain ⟨rfl, rfl⟩ : step = .closeScope ∧ extra = 1 := by
        cases step <;> simp only [Step.height] at last <;> first | omega | exact ⟨rfl, by omega⟩
      exact ⟨[], rest, rfl, opened, rfl⟩
    · obtain ⟨inside, behind, rfl, stays, height⟩ := ih further closed
      exact ⟨step :: inside, behind, rfl, ⟨opened, stays⟩, height⟩

/-- While a scope stays open, only what was opened since is closed. -/
theorem StaysOpen.confined {steps : List Step} {extra : Nat} (stays : StaysOpen extra steps) :
    Confined extra steps := by
  induction steps generalizing extra with
  | nil => trivial
  | cons step rest ih => exact ⟨.inr (.inr stays.1), ih stays.2⟩

/-- Where a scope is closed, all the steps are behind that have kept it open. -/
theorem StaysOpen.exists_more {steps inside behind rest : List Step} (stays : StaysOpen 1 steps)
    (height : heightAfter inside 1 = 1)
    (split : inside ++ .closeScope :: rest = steps ++ behind) :
    ∃ more, inside = steps ++ more ∧ behind = more ++ .closeScope :: rest := by
  rcases List.append_eq_append_iff.mp split with ⟨further, rfl, later⟩ | ⟨more, rfl, same⟩
  · rcases List.cons_eq_append_iff.mp later with ⟨rfl, same⟩ | ⟨closed, rfl, -⟩
    · exact ⟨[], by rw [List.append_nil, List.append_nil], same⟩
    · have opened := (staysOpen_append.mp stays).2.2.opened
      rw [height] at opened
      exact absurd opened (Nat.lt_irrefl 0)
  · exact ⟨more, rfl, same⟩

/-- A scope that is innermost behind steps is not opened outside of another that stays open. -/
theorem between_eq_nil {inside between other : List Step}
    (split : .openScope :: inside = between ++ .openScope :: other)
    (stays : StaysOpen 1 inside) (height : heightAfter inside 1 = 1) (stays' : StaysOpen 1 other)
    (height' : heightAfter other 1 = 1) : between = [] := by
  rcases List.cons_eq_append_iff.mp split with ⟨none, -⟩ | ⟨between, rfl, rfl⟩
  · exact none
  · have opened : 0 < heightAfter between 1 := (staysOpen_append.mp stays).1.pos
    rw [heightAfter_append, heightAfter_cons, Step.height,
      stays'.confined.heightAfter_add, height'] at height
    omega

/-- The innermost scope behind steps was opened by one of them alone. -/
theorem opening_unique {first second inside other : List Step}
    (split : first ++ .openScope :: inside = second ++ .openScope :: other)
    (stays : StaysOpen 1 inside) (height : heightAfter inside 1 = 1) (stays' : StaysOpen 1 other)
    (height' : heightAfter other 1 = 1) : first = second ∧ inside = other := by
  have same : first = second := by
    rcases List.append_eq_append_iff.mp split with ⟨between, rfl, later⟩ | ⟨between, rfl, later⟩
    · rw [between_eq_nil later stays height stays' height', List.append_nil]
    · rw [between_eq_nil later stays' height' stays height, List.append_nil]
  subst same
  exact ⟨rfl, (List.cons.inj (List.append_cancel_left split)).2⟩

end NameResolution
