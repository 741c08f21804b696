import NameResolution.Resolution

/-!
# Cutting a walk at its fault

Only the first step that aborts matters. What stands before it is a prefix of
the walk, and the cut of two lists of steps is decided by the first of them
that aborts.
-/

namespace NameResolution

/-- No globals, no lints and no runtime. -/
def Environment.bare : Environment where
  config := ⟨∅, "_", "init", ⟨false, false, false⟩⟩
  registry := fun _ _ => false

/-- An environment with every check on, and a runtime that backs every foreign name. -/
def Environment.watchful : Environment where
  config := { Environment.bare.config with lints := .all }
  registry := fun _ _ => true

/-- The fault of a step that aborts. -/
def Step.fault? : Step → Option Fault
  | .abort fault => some fault
  | _ => none

@[simp] theorem cutAtFault_nil : cutAtFault [] = ([], none) := rfl

/-- A step that does not abort stays. -/
theorem cutAtFault_cons {step : Step} (rest : List Step) (goesOn : step.fault? = none) :
    cutAtFault (step :: rest) = (step :: (cutAtFault rest).1, (cutAtFault rest).2) := by
  cases step with
  | abort fault => cases goesOn
  | openScope => rfl
  | closeScope => rfl
  | declare name mutable member => rfl
  | define name => rfl
  | excuse name => rfl
  | bindPseudo name span => rfl
  | resolve node name access => rfl
  | readVariable node name => rfl
  | checkAssign name => rfl
  | checkMutate name span => rfl
  | requireForeign kind name => rfl
  | report error => rfl
  | unreachable span => rfl

/-- Nothing behind a step that aborts counts. -/
theorem cutAtFault_cons_of_fault {step : Step} {fault : Fault} (rest : List Step)
    (aborts : step.fault? = some fault) : cutAtFault (step :: rest) = ([], some fault) := by
  cases step <;> cases aborts
  rfl

/-- Without a fault nothing is cut off. -/
theorem cutAtFault_fst_of_none {steps : List Step} (whole : (cutAtFault steps).2 = none) :
    (cutAtFault steps).1 = steps := by
  induction steps with
  | nil => rfl
  | cons step rest ih =>
    cases goesOn : step.fault? with
    | none =>
      rw [cutAtFault_cons rest goesOn] at whole ⊢
      rw [ih whole]
    | some fault =>
      rw [cutAtFault_cons_of_fault rest goesOn] at whole
      cases whole

/-- What is cut off is a last part. -/
theorem cutAtFault_fst_isPrefix (steps : List Step) : (cutAtFault steps).1 <+: steps := by
  induction steps with
  | nil => exact List.prefix_rfl
  | cons step rest ih =>
    cases goesOn : step.fault? with
    | none =>
      rw [cutAtFault_cons rest goesOn]
      exact (List.prefix_cons_inj step).mpr ih
    | some fault =>
      rw [cutAtFault_cons_of_fault rest goesOn]
      exact List.nil_prefix

/-- No step before the cut aborts. -/
theorem cutAtFault_fst_goesOn (steps : List Step) :
    (cutAtFault (cutAtFault steps).1).2 = none := by
  induction steps with
  | nil => rfl
  | cons step rest ih =>
    cases goesOn : step.fault? with
    | none =>
      rw [cutAtFault_cons rest goesOn, cutAtFault_cons _ goesOn]
      exact ih
    | some fault =>
      rw [cutAtFault_cons_of_fault rest goesOn]
      rfl

/-- If the first steps do not abort, the cut is made in the later ones. -/
theorem cutAtFault_append_of_none {first : List Step} (second : List Step)
    (whole : (cutAtFault first).2 = none) :
    cutAtFault (first ++ second) = (first ++ (cutAtFault second).1, (cutAtFault second).2) := by
  induction first with
  | nil => rfl
  | cons step rest ih =>
    cases goesOn : step.fault? with
    | none =>
      rw [cutAtFault_cons rest goesOn] at whole
      rw [List.cons_append, cutAtFault_cons _ goesOn, ih whole, List.cons_append]
    | some fault =>
      rw [cutAtFault_cons_of_fault rest goesOn] at whole
      cases whole

/-- If the first steps abort, the later ones do not count. -/
theorem cutAtFault_append_of_some {first : List Step} {fault : Fault} (second : List Step)
    (aborts : (cutAtFault first).2 = some fault) :
    cutAtFault (first ++ second) = cutAtFault first := by
  induction first with
  | nil => cases aborts
  | cons step rest ih =>
    cases goesOn : step.fault? with
    | none =>
      rw [cutAtFault_cons rest goesOn] at aborts
      rw [List.cons_append, cutAtFault_cons _ goesOn, ih aborts, cutAtFault_cons rest goesOn]
    | some fault =>
      rw [List.cons_append, cutAtFault_cons_of_fault _ goesOn,
        cutAtFault_cons_of_fault rest goesOn]

/-- Steps abort where the first of them do, or else where the others do. -/
theorem cutAtFault_snd_append (first second : List Step) :
    (cutAtFault (first ++ second)).2 = (cutAtFault first).2.or (cutAtFault second).2 := by
  cases aborts : (cutAtFault first).2 with
  | none => rw [cutAtFault_append_of_none second aborts, Option.none_or]
  | some fault => rw [cutAtFault_append_of_some second aborts, aborts, Option.some_or]

/-- What is observed of a run without a fault is its steps, one and all. -/
theorem observe_eq_run {env : Environment} {program : Program} {events : List Event}
    (faultFree : observe env program = (events, none)) :
    events = .log (.resolving program.length) ::
      ((run env (Program.walk env.config.initializerName program) .empty).1 ++
        [.log .finished]) := by
  have whole : (cutAtFault (Program.walk env.config.initializerName program)).2 = none :=
    congrArg Prod.snd faultFree
  have observed := congrArg Prod.fst faultFree
  simp only [observe, whole, cutAtFault_fst_of_none whole] at observed
  exact observed.symm

end NameResolution
