import NameResolution.Proofs.Faults.Malformed
import NameResolution.Proofs.Frame.Balance
import NameResolution.Proofs.Surroundings.Beneath
import NameResolution.Proofs.Unused.Exact
import NameResolution.Proofs.Walk.Views

/-!
# Programs in surroundings they do not mention

A program can be put into a block behind declarations of constants. If it
mentions none of them, it resolves there as it does alone: the scope of the
constants is never looked into, and all that is added is what is said when that
scope is closed.
-/

namespace NameResolution

/-- An immutable variable, not a foreign one, whose value is a literal. -/
structure Constant where
  node : Node
  name : Ident
  ty : Option Ty
  literal : Node
  value : Literal

namespace Constant

/-- The declaration of a constant: `let name: ty = value;`. -/
def stmt (constant : Constant) : Stmt :=
  .letDecl constant.node constant.name false constant.ty
    (some (.literal constant.literal constant.value)) false

/-- What a scope holds of a constant that nobody reads. -/
def entry (constant : Constant) : String × Binding :=
  (constant.name.name, ⟨constant.name.span, .defined, false, false⟩)

/-- The steps that declare constants. -/
def steps (constants : List Constant) : List Step :=
  constants.flatMap fun constant => Step.bind constant.name false false

/-- The warnings of constants that nobody reads. -/
def warnings (config : Config) (constants : List Constant) : Report :=
  if config.lints.unused then
    (constants.filter fun constant => !config.isDiscarded constant.name.name).map fun constant =>
      .warning (.unusedLocalVariable constant.name.name constant.name.span)
  else []

end Constant

/-- A program in a block behind the declarations of constants. -/
def Program.behind (constants : List Constant) (node : Node) (program : Program) : Program :=
  constants.map Constant.stmt ++ [.block node program]

/-- A program in blocks, one inside the other. -/
def Program.wrapped (nodes : List Node) (program : Program) : Program :=
  nodes.foldr (fun node inner => [.block node inner]) program

/-- The walk of a program behind constants declares them and walks the program,
all in one scope more. -/
theorem Program.walk_behind (init : String) (constants : List Constant) (node : Node)
    (program : Program) :
    Program.walk init (program.behind constants node) =
      (.openScope :: Constant.steps constants) ++ (Program.walk init program ++ [.closeScope]) := by
  have inside : Stmt.walkAll init .outermost (program.behind constants node) =
      Constant.steps constants ++ Program.walk init program := by
    induction constants with
    | nil => simp [behind, walk, Constant.steps, Stmt.walkAll, Stmt.walk, Step.between]
    | cons constant rest ih =>
      have walked : Stmt.walkAll init .outermost (program.behind (constant :: rest) node) =
          Step.bind constant.name false false ++
            Stmt.walkAll init .outermost (program.behind rest node) := by
        simp [behind, Constant.stmt, Stmt.walkAll, Stmt.walk, Expr.walk, Step.between, Step.foreign,
          Step.bind, Stmt.isTerminal, Context.inStruct, Context.outermost]
      rw [walked, ih, ← List.append_assoc]
      rfl
  rw [walk, inside, List.cons_append, List.append_assoc]

/-- Changing the binding of a free name that was just bound changes no other. -/
theorem Scope.modify_insert_of_free {scope : Scope} {name : String}
    (free : scope.get? name = none) (binding : Binding) (change : Binding → Binding) :
    (scope.insert name binding).modify name change =
      ⟨scope.bindings ++ [(name, change binding)]⟩ := by
  have kept : scope.bindings.map (fun entry =>
      if name == entry.1 then (entry.1, change entry.2) else (entry.1, entry.2)) =
        scope.bindings := by
    refine (List.map_congr_left fun entry listed => ?_).trans (List.map_id _)
    have other := List.lookup_eq_none_iff.mp free entry listed
    rw [bne_iff_ne] at other
    rw [if_neg (by simpa using other)]
    rfl
  simp only [modify, bindings_insert_of_free free, List.map_append, kept, List.map_cons,
    List.map_nil, beq_self_eq_true, if_true]

/-- In the only open scope, a free name that is bound and given its value at once
comes behind the others, and nothing is said of it. -/
theorem run_bind_of_free (env : Environment) {scope : Scope} {name : Ident}
    (free : scope.get? name.name = none) :
    run env (Step.bind name false false) ⟨[scope]⟩ =
      ([], ⟨[⟨scope.bindings ++ [(name.name, ⟨name.span, .defined, false, false⟩)]⟩]⟩) := by
  have taken := Scope.get?_insert_of_free free (.declared name.span false false)
  have changed := Scope.modify_insert_of_free free (.declared name.span false false) Binding.define
  simp [Step.bind, run, Step.perform, ScopeStack.declare, ScopeStack.define,
    ScopeStack.innermost?, ScopeStack.findEnclosing?, ScopeStack.findIn,
    ScopeStack.modifyInnermost, free, taken, changed]
  rfl

/-- Declaring constants says nothing and leaves them in the scope, in order. -/
theorem run_steps (env : Environment) {constants : List Constant} {scope : Scope}
    (distinct : (scope.names ++ constants.map (·.name.name)).Nodup) :
    run env (Constant.steps constants) ⟨[scope]⟩ =
      ([], ⟨[⟨scope.bindings ++ constants.map Constant.entry⟩]⟩) := by
  induction constants generalizing scope with
  | nil => simp [Constant.steps, run]
  | cons constant rest ih =>
    have free : scope.get? constant.name.name = none := by
      rw [← Option.not_isSome_iff_eq_none, ← Scope.mem_names_iff]
      intro taken
      exact (List.nodup_append.mp distinct).2.2 _ taken _ List.mem_cons_self rfl
    have behind : Constant.steps (constant :: rest) =
        Step.bind constant.name false false ++ Constant.steps rest := List.flatMap_cons
    rw [behind, run_append, run_bind_of_free env free, ih]
    · simp [Constant.entry]
    · simpa [Scope.names] using distinct

/-- The scope of constants, with nothing read. -/
def Constant.scope (constants : List Constant) : Scope := ⟨constants.map Constant.entry⟩

/-- A name that is none of the constants' is free in their scope. -/
theorem Constant.freeIn_scope {constants : List Constant} {name : String}
    (other : ∀ constant ∈ constants, constant.name.name ≠ name) :
    FreeIn [Constant.scope constants] name := by
  have free : (Constant.scope constants).get? name = none := by
    rw [← Option.not_isSome_iff_eq_none, ← Scope.mem_names_iff]
    intro taken
    obtain ⟨entry, listed, rfl⟩ := List.mem_map.mp taken
    obtain ⟨constant, declared, rfl⟩ := List.mem_map.mp listed
    exact other constant declared rfl
  simp only [FreeIn, ScopeStack.findIn, free, Option.map_none]

/-- When the scope of constants is closed, those are warned of that are not discarded. -/
theorem Constant.unusedWarnings_scope (config : Config) (constants : List Constant) :
    unusedWarnings config (Constant.scope constants).bindings =
      Constant.warnings config constants := by
  rw [unusedWarnings, Scope.unused, Constant.scope, List.filter_map, List.map_map]
  rfl

/-- What happens when constants are declared in a scope of their own. -/
theorem run_opening (env : Environment) {constants : List Constant}
    (distinct : (constants.map (·.name.name)).Nodup) :
    run env (.openScope :: Constant.steps constants) .empty =
      ([.log (.pushScope 1)], ScopeStack.empty.onto [Constant.scope constants]) := by
  have ran : run env (Constant.steps constants) ⟨[.empty]⟩ = ([], ⟨[Constant.scope constants]⟩) :=
    run_steps env distinct
  rw [run_cons]
  have opened : (Step.openScope.perform env .empty).2 = ⟨[.empty]⟩ := rfl
  rw [opened, ran]
  rfl

/-- Declaring constants does not abort. -/
theorem cutAtFault_opening (constants : List Constant) :
    (cutAtFault (.openScope :: Constant.steps constants)).2 = none := by
  have goOn : faultsOf (.openScope :: Constant.steps constants) = [] := by
    refine List.filterMap_eq_nil_iff.mpr fun step listed => ?_
    rcases List.mem_cons.mp listed with rfl | listed
    · rfl
    · obtain ⟨constant, -, made⟩ := List.mem_flatMap.mp listed
      rcases Step.mem_bind.mp made with rfl | rfl <;> rfl
  rw [cutAtFault_snd, goOn, List.head?_nil]

variable {env : Environment} {program : Program}

/-- Whether a program mentions none of some constants. -/
def Program.Spares (init : String) (program : Program) (constants : List Constant) : Prop :=
  ∀ constant ∈ constants,
    ¬ program.Mentions init constant.name.name ∧ isReserved constant.name.name = false

/-- The first steps of a program run behind constants that it does not mention as
they run alone. -/
theorem Program.Spares.run_behind {constants : List Constant}
    (spares : program.Spares env.config.initializerName constants)
    (distinct : (constants.map (·.name.name)).Nodup) {first : List Step}
    (leading : first <+: Program.walk env.config.initializerName program) :
    run env ((.openScope :: Constant.steps constants) ++ first) .empty =
      (.log (.pushScope 1) :: (run env first .empty).1.map (Event.deeper 1),
        (run env first .empty).2.onto [Constant.scope constants]) := by
  have confined : Confined ScopeStack.empty.depth first := by
    obtain ⟨rest, whole⟩ := leading
    have all : Confined 0 (Program.walk env.config.initializerName program) :=
      (Program.shaped env.config.initializerName program).confined nofun
    rw [← whole] at all
    exact (confined_append.mp all).1
  have free : ∀ step ∈ first, ∀ name, step.name? = some name →
      FreeIn [Constant.scope constants] name := by
    intro step listed name named
    refine Constant.freeIn_scope fun constant declared same => ?_
    obtain ⟨unmentioned, unreserved⟩ := spares constant declared
    rw [same] at unmentioned unreserved
    rcases Program.mentions_of_step (leading.subset listed) named with mentioned | reserved
    · exact unmentioned mentioned
    · rw [unreserved] at reserved
      cases reserved
  rw [run_append, run_opening env distinct, run_onto env confined free]
  rfl

/-- What is observed of a program when it is part of a larger one, which adds
nothing but diagnostics at the end. -/
structure SameWithin (env : Environment) (program whole : Program) (added : Report) : Prop where
  fault : (observe env whole).2 = (observe env program).2
  depths : depthsOf (observe env whole).1 = depthsOf (observe env program).1
  /-- Diagnostics are only added if there is no fault. -/
  report : reportOf (observe env whole).1 = reportOf (observe env program).1 ++
    if (observe env program).2.isSome then [] else added

/-- A program behind constants that it does not mention resolves as it does
alone, and then the constants are warned of. -/
theorem Program.Spares.sameWithin {constants : List Constant}
    (spares : program.Spares env.config.initializerName constants)
    (distinct : (constants.map (·.name.name)).Nodup) (node : Node) :
    SameWithin env program (program.behind constants node)
      (Constant.warnings env.config constants) := by
  have cut := cutAtFault_append_of_none
    (Program.walk env.config.initializerName program ++ [.closeScope])
    (cutAtFault_opening constants)
  rw [← Program.walk_behind _ constants node program] at cut
  cases aborts : (cutAtFault (Program.walk env.config.initializerName program)).2 with
  | some found =>
    have inside := spares.run_behind distinct
      (cutAtFault_fst_isPrefix (Program.walk env.config.initializerName program))
    rw [cutAtFault_append_of_some [.closeScope] aborts] at cut
    constructor
    · rw [fault_observe, fault_observe, cut]
    · rw [depthsOf_observe, cut, inside, depthsOf_observe]
      exact depthsOf_deeper 1 _
    · rw [reportOf_observe, cut, inside, reportOf_observe, fault_observe, aborts,
        Option.isSome_some, if_pos rfl, List.append_nil]
      exact reportOf_deeper 1 _
  | none =>
    have inside := spares.run_behind distinct List.prefix_rfl
    have closing : ((ScopeStack.empty.onto [Constant.scope constants]).close env.config).1 =
        .log (.popScope 1 (Constant.scope constants).size) ::
          (Constant.warnings env.config constants).map Event.diagnostic :=
      Constant.unusedWarnings_scope env.config constants ▸ ScopeStack.close_eq_warnings ..
    have whole := cutAtFault_fst_of_none aborts
    rw [cutAtFault_append_of_none [.closeScope] aborts, ← List.append_assoc] at cut
    have ran : (run env (cutAtFault (Program.walk env.config.initializerName
        (program.behind constants node))).1 .empty).1 =
          .log (.pushScope 1) :: ((run env (Program.walk env.config.initializerName program)
            .empty).1.map (Event.deeper 1) ++ .log (.popScope 1 (Constant.scope constants).size) ::
              (Constant.warnings env.config constants).map Event.diagnostic) := by
      rw [cut]
      simp only [cutAtFault]
      rw [run_append, inside, run_singleton, Program.run_walk_empty, Step.perform, closing]
      rfl
    constructor
    · rw [fault_observe, fault_observe, cut, aborts]
      rfl
    · rw [depthsOf_observe, ran, depthsOf_observe, whole]
      simp [depthsOf_deeper]
    · rw [reportOf_observe, ran, reportOf_observe, whole, fault_observe, aborts]
      simp [reportOf_deeper]

/-- A program in blocks resolves as it does alone. -/
theorem Program.sameWithin_wrapped (env : Environment) (nodes : List Node) (program : Program) :
    SameWithin env program (program.wrapped nodes) [] := by
  induction nodes with
  | nil => exact ⟨rfl, rfl, by simp [wrapped]⟩
  | cons node rest ih =>
    have none_added : Constant.warnings env.config [] = [] := by simp [Constant.warnings]
    have spares : (program.wrapped rest).Spares env.config.initializerName [] :=
      List.forall_mem_nil _
    have outer : SameWithin env (program.wrapped rest) (program.wrapped (node :: rest)) [] :=
      none_added ▸ spares.sameWithin List.nodup_nil node
    refine ⟨outer.fault.trans ih.fault, outer.depths.trans ih.depths, ?_⟩
    rw [outer.report, ih.report, ite_self, ite_self, List.append_nil]

/-- Surroundings that a program does not mention make no difference to it. Put
into a block behind declarations of constants, of distinct names that it
mentions nowhere, it ends in the same fault if it faults, its references have
the same depths, and its report is the same; if there is no fault and the check
for unused names is on, there follows a warning for each constant whose name is
not marked as intentionally unused, in order. Blocks alone change nothing. -/
theorem resolution_ignores_surroundings (env : Environment) (program : Program) :
    (∀ (constants : List Constant) (node : Node), (constants.map (·.name.name)).Nodup →
      program.Spares env.config.initializerName constants →
        SameWithin env program (program.behind constants node)
          (Constant.warnings env.config constants)) ∧
      ∀ nodes : List Node, SameWithin env program (program.wrapped nodes) [] :=
  ⟨fun _ node distinct spares => spares.sameWithin distinct node,
    fun nodes => program.sameWithin_wrapped env nodes⟩

/-- A variable that is read: `let z = nil; z;`. -/
def readZ : Program :=
  [.letDecl ⟨⟨0⟩, default⟩ ⟨"z", default⟩ false none (some (.literal ⟨⟨1⟩, default⟩ .nil)) false,
    .expression ⟨⟨2⟩, default⟩ (.var ⟨⟨3⟩, default⟩ ⟨"z", default⟩)]

/-- Two constants, one of them marked as unused: `let a = true; let _b = nil;`. -/
def constantsAB : List Constant :=
  [⟨⟨⟨4⟩, default⟩, ⟨"a", ⟨0, 1⟩⟩, none, ⟨⟨5⟩, default⟩, .bool true⟩,
    ⟨⟨⟨6⟩, default⟩, ⟨"_b", ⟨2, 2⟩⟩, none, ⟨⟨7⟩, default⟩, .nil⟩]

/-- The program mentions no name but one. -/
theorem readZ_mentions {name : String} (mentioned : readZ.Mentions "init" name) : name = "z" := by
  obtain ⟨piece, within, named⟩ := mentioned
  have listed : piece ∈
      ([.stmts readZ, .stmts readZ.tail, .stmts [], .stmt readZ[0], .stmt readZ[1],
        .expr (.literal ⟨⟨1⟩, default⟩ .nil),
        .expr (.var ⟨⟨3⟩, default⟩ ⟨"z", default⟩)] : List Piece) :=
    within.mem_of_closed List.mem_cons_self
      (by simp [Piece.parts, Stmt.parts, Expr.parts, readZ])
  simp only [readZ, List.mem_cons, List.not_mem_nil, or_false] at listed
  rcases listed with rfl | rfl | rfl | rfl | rfl | rfl | rfl <;>
    simp [Piece.mentions, Piece.introduces, Expr.reference?] at named <;> exact named

/-- The program mentions neither constant. -/
theorem readZ_spares : readZ.Spares "init" constantsAB := by
  have others : ∀ constant ∈ constantsAB,
      constant.name.name ≠ "z" ∧ isReserved constant.name.name = false := by decide
  intro constant listed
  obtain ⟨other, unreserved⟩ := others constant listed
  exact ⟨fun mentioned => other (readZ_mentions mentioned), unreserved⟩

/-- Behind the constants the depth stays as it is, and the one without a prefix is reported as
unused. -/
theorem resolution_ignores_constantsAB :
    depthsOf (observe .watchful (readZ.behind constantsAB default)).1 = [(⟨3⟩, 0)] ∧
      reportOf (observe .watchful (readZ.behind constantsAB default)).1 =
        [.warning (.unusedLocalVariable "a" ⟨0, 1⟩)] := by
  have same := (resolution_ignores_surroundings .watchful readZ).1 constantsAB default
    (by decide) readZ_spares
  exact ⟨same.depths, same.report⟩

end NameResolution
