import NameResolution.Proofs.Frame.Growth
import NameResolution.Proofs.Frame.Shape

/-!
# Steps where they belong

Running the steps of a walk frames the stack it began with, and no step of a
walk is ever carried out where it would do anything unforeseen: a name is only
declared, defined or bound in an open scope, a binding is only inserted under
a name that is free, and only a name that was declared is defined.
-/

namespace NameResolution

/-- Whether a step is carried out where it belongs. Where the innermost scope
binds a name that is declared, the declaration changes nothing. -/
def Step.Regular (env : Environment) (stack : ScopeStack) : Step → Prop
  | .closeScope => 0 < stack.depth
  | .declare name mutable member =>
    ∃ scope, stack.innermost? = some scope ∧
      (scope.get? name.name = none ∨
        (stack.declare env.config.lints name mutable member).2 = stack)
  | .define name =>
    ∃ scope, stack.innermost? = some scope ∧ (scope.get? name.name).isSome = true
  | .excuse name => ∃ scope, stack.innermost? = some scope ∧ (scope.get? name).isSome = true
  | .bindPseudo name _ => ∃ scope, stack.innermost? = some scope ∧ scope.get? name = none
  | _ => True

/-- Whether each of some steps is carried out where it belongs. -/
def RunsRegularly (env : Environment) : List Step → ScopeStack → Prop
  | [], _ => True
  | step :: rest, stack =>
    step.Regular env stack ∧ RunsRegularly env rest (step.perform env stack).2

variable {env : Environment}

theorem run_snd_cons (env : Environment) (step : Step) (rest : List Step) (stack : ScopeStack) :
    (run env (step :: rest) stack).2 = (run env rest (step.perform env stack).2).2 := rfl

/-- Running steps in two parts leaves what running them in one go leaves. -/
theorem run_snd_append (env : Environment) (first second : List Step) (stack : ScopeStack) :
    (run env (first ++ second) stack).2 = (run env second (run env first stack).2).2 := by
  rw [run_append]

/-- Steps run regularly exactly if the first of them do, and the rest where these leave off. -/
theorem runsRegularly_append {first second : List Step} {stack : ScopeStack} :
    RunsRegularly env (first ++ second) stack ↔
      RunsRegularly env first stack ∧ RunsRegularly env second (run env first stack).2 := by
  induction first generalizing stack with
  | nil => simp [RunsRegularly, run]
  | cons step rest ih =>
    simp only [List.cons_append, RunsRegularly, ih, run_snd_cons, and_assoc]

/-- Every single step of a regular run is where it belongs. -/
theorem RunsRegularly.step {before after : List Step} {step : Step} {stack : ScopeStack}
    (regular : RunsRegularly env (before ++ step :: after) stack) :
    step.Regular env (run env before stack).2 :=
  (runsRegularly_append.mp regular).2.1

/-- A quiet step only evolves bindings. -/
theorem Step.framed_perform (env : Environment) {step : Step} (quiet : step.quiet = true)
    (stack : ScopeStack) : stack.Framed false (step.perform env stack).2 := by
  cases step with
  | resolve node name access => exact stack.framed_resolve env.config node name access
  | readVariable node name => exact stack.framed_readVariable env.config node name
  | checkAssign name => exact .refl false _
  | checkMutate name span => exact .refl false _
  | requireForeign kind name => exact .refl false _
  | report error => exact .refl false _
  | unreachable span => exact .refl false _
  | abort fault => exact .refl false _
  | openScope => cases quiet
  | closeScope => cases quiet
  | declare name mutable member => cases quiet
  | define name => cases quiet
  | excuse name => cases quiet
  | bindPseudo name span => cases quiet

/-- A quiet step is regular wherever it is carried out. -/
theorem Step.regular_of_quiet {step : Step} (quiet : step.quiet = true) (stack : ScopeStack) :
    step.Regular env stack := by
  cases step <;> first | exact trivial | cases quiet

/-- Where a scope is open, there is an innermost one. -/
theorem ScopeStack.innermost?_of_nonempty {stack : ScopeStack} (nonempty : 0 < stack.depth) :
    stack.innermost? = some stack.scopes[0] := by
  rw [innermost?, List.head?_eq_getElem?]
  exact List.getElem?_eq_getElem nonempty

/-- A name is declared where a scope is open, and where it is bound nothing changes. -/
theorem Step.regular_declare (name : Ident) (mutable member : Bool) {stack : ScopeStack}
    (nonempty : 0 < stack.depth) : (Step.declare name mutable member).Regular env stack := by
  have innermost := ScopeStack.innermost?_of_nonempty nonempty
  refine ⟨_, innermost, ?_⟩
  cases kept : stack.scopes[0].get? name.name with
  | none => exact .inl rfl
  | some binding =>
    refine .inr ?_
    simp only [ScopeStack.declare, innermost, kept]

/-- Closing a scope leaves the scopes around it. -/
theorem Step.scopes_closeScope (env : Environment) (stack : ScopeStack) :
    (Step.closeScope.perform env stack).2.scopes = stack.scopes.tail := by
  obtain ⟨scopes⟩ := stack
  cases scopes with
  | nil => rfl
  | cons scope outer => rfl

/-- A step that finishes a name that is held adds none. -/
theorem Step.framed_finish (env : Environment) {step : Step} {name : Ident}
    (finishes : step.finishes name = true) {stack : ScopeStack} (holds : stack.Holds name.name) :
    stack.Framed false (step.perform env stack).2 := by
  cases step with
  | define other =>
    have same : other = name := eq_of_beq finishes
    rw [same]
    exact ScopeStack.framed_define holds
  | excuse other =>
    exact stack.framed_modifyInnermost
      (fun scope => scope.grows_modify other (Binding.Evolves.advance · .read))
      fun scope => scope.size_modify other _
  | report error => exact .refl false _
  | _ => cases finishes

/-- A name can be given its value where it is bound. -/
theorem Step.regular_finish {step : Step} {name : Ident}
    (finishes : step.finishes name = true) {stack : ScopeStack} (holds : stack.Holds name.name)
    (nonempty : 0 < stack.depth) : step.Regular env stack := by
  have innermost := ScopeStack.innermost?_of_nonempty nonempty
  cases step with
  | define other =>
    have same : other = name := eq_of_beq finishes
    rw [same]
    exact ⟨_, innermost, holds _ innermost⟩
  | excuse other =>
    have same : other = name.name := eq_of_beq finishes
    rw [same]
    exact ⟨_, innermost, holds _ innermost⟩
  | report error => exact trivial
  | _ => cases finishes

/-- The steps that finish a name that is held add none. -/
theorem framed_finishes (env : Environment) {steps : List Step} {name : Ident}
    (finishes : ∀ step ∈ steps, step.finishes name = true) {stack : ScopeStack}
    (holds : stack.Holds name.name) : stack.Framed false (run env steps stack).2 := by
  induction steps generalizing stack with
  | nil => exact .refl false _
  | cons step rest ih =>
    rw [List.forall_mem_cons] at finishes
    have first := step.framed_finish env finishes.1 holds
    exact first.trans (ih finishes.2 (holds.framed first))

/-- Steps that give a name its value run regularly where it is bound. -/
theorem runsRegularly_finishes {steps : List Step} {name : Ident}
    (finishes : ∀ step ∈ steps, step.finishes name = true) {stack : ScopeStack}
    (holds : stack.Holds name.name) (nonempty : 0 < stack.depth) :
    RunsRegularly env steps stack := by
  induction steps generalizing stack with
  | nil => trivial
  | cons step rest ih =>
    rw [List.forall_mem_cons] at finishes
    have first := step.framed_finish env finishes.1 holds
    refine ⟨step.regular_finish finishes.1 holds nonempty, ih finishes.2 (holds.framed first) ?_⟩
    rw [ScopeStack.depth, first.depth]
    exact nonempty

/-- A pseudo binding is the first of the scope that is opened for it. -/
theorem framed_bindPseudo (env : Environment) (stack : ScopeStack) (name : String) (span : Span) :
    stack.push.Framed true
      ((Step.bindPseudo name span).perform env (Step.openScope.perform env stack).2).2 :=
  .head stack.scopes (Scope.grows_insert rfl _) nofun

/-- Running the steps of a walk frames the stack that it began with. -/
theorem Shape.framed {declares : Bool} {steps : List Step} (shape : Shape declares steps)
    (env : Environment) (stack : ScopeStack) : stack.Framed declares (run env steps stack).2 := by
  induction shape generalizing stack with
  | nil => exact .refl _ _
  | append left right first second =>
    rw [run_snd_append]
    exact (first stack).trans (second _)
  | quiet quiet => exact (Step.framed_perform env quiet stack).weaken
  | scope inside body =>
    have opened := body stack.push
    rw [run_snd_cons, run_snd_append]
    change ScopesFramed _ stack.scopes (Step.closeScope.perform env _).2.scopes
    rw [Step.scopes_closeScope]
    exact opened.tail
  | pseudoScope name span inside body =>
    have opened := (framed_bindPseudo env stack name span).trans (body _)
    rw [run_snd_cons, run_snd_cons, run_snd_append]
    change ScopesFramed _ stack.scopes (Step.closeScope.perform env _).2.scopes
    rw [Step.scopes_closeScope]
    exact opened.tail
  | declared name mutable member valued finishes value =>
    have taken := stack.framed_declare env.config.lints name mutable member
    have held := stack.holds_declare env.config.lints name mutable member
    have initialized := value (stack.declare env.config.lints name mutable member).2
    rw [run_snd_cons, run_snd_append]
    exact (taken.trans initialized.mono).trans
      (framed_finishes env finishes (held.framed initialized)).mono

/-- Every step of a walk is carried out where it belongs, if there is a scope
open for the names it declares. -/
theorem Shape.regular {declares : Bool} {steps : List Step} (shape : Shape declares steps)
    (env : Environment) {stack : ScopeStack} (room : declares = true → 0 < stack.depth) :
    RunsRegularly env steps stack := by
  induction shape generalizing stack with
  | nil => trivial
  | append left right first second =>
    rw [runsRegularly_append]
    refine ⟨first room, second ?_⟩
    intro named
    rw [ScopeStack.depth, (left.framed env stack).depth]
    exact room named
  | quiet quiet => exact ⟨Step.regular_of_quiet quiet stack, trivial⟩
  | scope inside body =>
    have opened : 0 < stack.push.depth := Nat.succ_pos stack.depth
    have behind := opened
    rw [ScopeStack.depth, ← (inside.framed env stack.push).depth] at behind
    exact ⟨trivial, runsRegularly_append.mpr ⟨body fun _ => opened, behind, trivial⟩⟩
  | pseudoScope name span inside body =>
    have bound := framed_bindPseudo env stack name span
    have opened : 0 < stack.push.depth := Nat.succ_pos stack.depth
    rw [ScopeStack.depth, ← bound.depth] at opened
    have behind := opened
    rw [← (inside.framed env _).depth] at behind
    exact ⟨trivial, ⟨Scope.empty, rfl, rfl⟩,
      runsRegularly_append.mpr ⟨body fun _ => opened, behind, trivial⟩⟩
  | declared name mutable member valued finishes value =>
    have nonempty := room rfl
    have taken : stack.Framed true ((Step.declare name mutable member).perform env stack).2 :=
      stack.framed_declare env.config.lints name mutable member
    have held : ((Step.declare name mutable member).perform env stack).2.Holds name.name :=
      stack.holds_declare env.config.lints name mutable member
    have initialized := valued.framed env ((Step.declare name mutable member).perform env stack).2
    refine ⟨Step.regular_declare name mutable member nonempty,
      runsRegularly_append.mpr ⟨value nofun, ?_⟩⟩
    refine runsRegularly_finishes finishes (held.framed initialized) ?_
    rw [ScopeStack.depth, initialized.depth, taken.depth]
    exact nonempty

/-- Every step of a program is carried out where it belongs. -/
theorem Program.runsRegularly (env : Environment) (program : Program) :
    RunsRegularly env (Program.walk env.config.initializerName program) .empty :=
  (Program.shaped env.config.initializerName program).regular env nofun

end NameResolution
