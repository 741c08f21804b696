import NameResolution.Proofs.Lexical.Depths
import NameResolution.Proofs.Walk.ReadOff
import NameResolution.Proofs.Walk.Views

/-!
# Unreachable code

Statements that stand behind a `return`, a `break` or a `continue` in their list
are never reached. Which of these cut others off is computed here from the tree
and the name of initializers; a run warns of each of them once, after all that
happens at it and before anything that happens at the statement behind it, and
of nothing else.
-/

namespace NameResolution

/-- The span of a statement that cuts the rest of its list off: it hands control
on to no other statement of the list, and there is one. -/
def Stmt.cutOffs : Stmt → List Stmt → List Span
  | _, [] => []
  | .ret node _, _ :: _ => [node.span]
  | .breakLoop node, _ :: _ => [node.span]
  | .continueLoop node, _ :: _ => [node.span]
  | _, _ :: _ => []

/-- The parts of a statement that are gone into where the innermost function is
of the given kind. An initializer returns nothing, and a value that it names all
the same is left alone. -/
def Stmt.entered (initializerName : String) (kind : FunctionKind) : Stmt → List Piece
  | .ret _ (some value) => if kind = .initializer then [] else [.expr value]
  | stmt => stmt.parts initializerName

variable {initializerName : String}

/-- What a statement is entered at is one of its parts. -/
theorem Stmt.mem_parts_of_entered {kind : FunctionKind} {stmt : Stmt} {part : Piece}
    (gone : part ∈ stmt.entered initializerName kind) : part ∈ stmt.parts initializerName := by
  unfold entered at gone
  split at gone
  · split at gone
    · cases gone
    · exact gone
  · exact gone

/-- The spans of the statements in a piece that cut others off, in the order of
the tree, where the innermost function around the piece is of the given kind. -/
def Piece.terminators (initializerName : String) (kind : FunctionKind) : Piece → List Span
  | .expr tree => tree.parts.attach.flatMap fun part => part.1.terminators initializerName kind
  | .stmt tree =>
    (tree.entered initializerName kind).attach.flatMap fun part =>
      part.1.terminators initializerName kind
  | .stmts [] => []
  | .stmts (first :: rest) =>
    (Piece.stmt first).terminators initializerName kind ++
      (first.cutOffs rest ++ (Piece.stmts rest).terminators initializerName kind)
  | .function own ⟨_, _, _, body, _, _⟩ => (Piece.stmts body).terminators initializerName own
  termination_by piece => piece.size
  decreasing_by
    · exact tree.size_parts part.1 part.2
    · exact tree.size_parts part.1 (Stmt.mem_parts_of_entered part.2)
    · simp only [Piece.size, List.cons.sizeOf_spec]; omega
    · simp only [Piece.size, List.cons.sizeOf_spec]; omega
    · simp only [Piece.size, FunctionDecl.mk.sizeOf_spec]; omega

/-- The spans of the statements in a program that cut others off. -/
def Program.terminators (initializerName : String) (program : Program) : List Span :=
  (Piece.stmts program).terminators initializerName .none

/-- The span of the statement that a step finds others to be cut off by. -/
def Step.unreachable? : Step → Option Span
  | .unreachable span => some span
  | _ => none

/-- Whether a diagnostic warns of unreachable statements. -/
def Diagnostic.isUnreachable : Diagnostic → Bool
  | .warning (.unreachableCode _) => true
  | _ => false

/-- An expression cuts statements off where its parts do. -/
theorem Expr.terminators_eq {kind : FunctionKind} (expr : Expr) :
    (Piece.expr expr).terminators initializerName kind =
      expr.parts.flatMap (Piece.terminators initializerName kind) := by
  rw [Piece.terminators, List.flatMap_subtype fun _ _ => rfl, List.unattach_attach]

/-- In a list of statements the first may cut off the others, between what it and they hold. -/
theorem Piece.terminators_cons {kind : FunctionKind} (first : Stmt) (rest : List Stmt) :
    (Piece.stmts (first :: rest)).terminators initializerName kind =
      (Piece.stmt first).terminators initializerName kind ++
        (first.cutOffs rest ++ (Piece.stmts rest).terminators initializerName kind) := by
  conv_lhs => rw [Piece.terminators]

/-- A statement holds the terminators of the parts that are gone into. -/
theorem Stmt.terminators_eq {kind : FunctionKind} (stmt : Stmt) :
    (Piece.stmt stmt).terminators initializerName kind =
      (stmt.entered initializerName kind).flatMap (Piece.terminators initializerName kind) := by
  rw [Piece.terminators, List.flatMap_subtype fun _ _ => rfl, List.unattach_attach]

/-- The parts of a statement that are gone into are those that its walk visits. -/
theorem Stmt.visited_eq_entered (context : Context) (stmt : Stmt) :
    Item.visited (stmt.items initializerName context) =
      stmt.entered initializerName context.function := by
  by_cases skips : (Piece.stmt stmt).Skips context
  · have nothing : Item.visited ((Piece.stmt stmt).items initializerName context) = [] :=
      (Piece.items_of_skips skips).1
    match stmt, skips with
    | .ret node (some value), inside =>
      have initializer : context.function = .initializer := inside
      rw [entered, if_pos initializer]
      exact nothing
  · rw [Stmt.visited_items skips]
    unfold entered
    split
    · have other : context.function ≠ .initializer := skips
      rw [if_neg other]
      rfl
    · rfl

/-- Of the steps that a statement makes by itself, none finds others unreachable. -/
theorem Stmt.unreachable_not_mem (stmt : Stmt) {context : Context} {span : Span} :
    .step (.unreachable span) ∉ stmt.items initializerName context := by
  cases stmt with
  | letDecl node name mutable ty initial foreign => cases initial <;> simp [items]
  | ret node value =>
    cases value with
    | none => simp [items]
    | some value => cases kind : context.function <;> simp [items, kind]
  | _ => simp [items]

/-- No expression finds that statements are cut off. -/
theorem Expr.unreachable_not_mem (expr : Expr) {context : Context} {span : Span} :
    .step (.unreachable span) ∉ expr.items context := by
  cases expr <;> simp [items]

theorem Step.unreachable?_of_ne {step : Step} (other : ∀ span, step ≠ .unreachable span) :
    step.unreachable? = none := by
  cases step with
  | unreachable span => exact absurd rfl (other span)
  | _ => rfl

/-- Between two statements a span is reported if the first cuts off the others. -/
theorem filterMap_unreachable_between (first : Stmt) (rest : List Stmt) :
    (Step.between first rest).filterMap Step.unreachable? = first.cutOffs rest := by
  cases rest with
  | nil => cases first <;> rfl
  | cons second rest => cases first <;> rfl

/-- Which statements cut others off can be read off the tree. -/
theorem readOff_terminators (initializerName : String) :
    ReadOff initializerName Step.unreachable?
      fun kind piece => piece.terminators initializerName kind where
  expr tree context := by
    rw [tree.terminators_eq, ← tree.visited_items context]
    exact Item.flatMap_viewed fun step made => Step.unreachable?_of_ne fun span same =>
      tree.unreachable_not_mem (same ▸ made)
  stmt tree context := by
    rw [tree.terminators_eq, ← tree.visited_eq_entered context]
    exact Item.flatMap_viewed fun step made => Step.unreachable?_of_ne fun span same =>
      tree.unreachable_not_mem (same ▸ made)
  nil kind := by simp [Piece.terminators]
  cons kind first rest := by rw [Piece.terminators_cons, filterMap_unreachable_between]
  function kind own name params returnType body foreign span := by rw [Piece.terminators]
  opens := rfl
  closes := rfl
  declares _ _ _ := rfl
  defines _ := rfl

/-- The walk of a piece finds others cut off by the terminators of the piece. -/
theorem Piece.filterMap_unreachable (piece : Piece) (context : Context) :
    (piece.walk initializerName context).filterMap Step.unreachable? =
      piece.terminators initializerName context.function :=
  (readOff_terminators initializerName).filterMap_walk piece context

variable {env : Environment}

/-- What a step emits is no warning of unreachable statements, unless it finds some. -/
theorem Step.Emits.not_unreachable {step : Step} {event : Event} (emits : step.Emits event)
    (other : ∀ span, step ≠ .unreachable span) :
    ∀ found ∈ event.diagnostic?, found.isUnreachable = false := by
  cases emits with
  | unreachable span => exact absurd rfl (other span)
  | resolved access lookUp | read lookUp => cases lookUp <;> (rintro _ ⟨⟩; try rfl)
  | _ => rintro _ ⟨⟩ <;> rfl

/-- Only a step that finds statements unreachable warns of them. -/
theorem Step.Emits.eq_unreachable {step : Step} {span : Span}
    (emits : step.Emits (.warning (.unreachableCode span))) : step = .unreachable span := by
  cases emits with
  | unreachable => rfl
  | resolved access lookUp | read lookUp => cases lookUp

/-- With the lint on, a step warns of unreachable statements if that is what it finds. -/
theorem Step.unreachable_perform (lint : env.config.lints.unreachable = true) (step : Step)
    (stack : ScopeStack) :
    (reportOf (step.perform env stack).1).filter Diagnostic.isUnreachable =
      step.unreachable?.toList.map fun span => .warning (.unreachableCode span) := by
  by_cases finds : ∃ span, step = .unreachable span
  · obtain ⟨span, rfl⟩ := finds
    simp [perform, lint, unreachable?, reportOf, Event.warning, Event.diagnostic?,
      Diagnostic.isUnreachable]
  · have other : ∀ span, step ≠ .unreachable span := fun span same => finds ⟨span, same⟩
    rw [unreachable?_of_ne other, Option.toList_none, List.map_nil, List.filter_eq_nil_iff]
    intro found listed
    obtain ⟨event, said, diagnostic⟩ := List.mem_filterMap.mp listed
    have plain := (emits_of_mem said).not_unreachable other found diagnostic
    simp [plain]

/-- With the lint on, a run warns of the unreachable statements that its steps find. -/
theorem unreachable_run (lint : env.config.lints.unreachable = true) (steps : List Step)
    (stack : ScopeStack) :
    (reportOf (run env steps stack).1).filter Diagnostic.isUnreachable =
      (steps.filterMap Step.unreachable?).map fun span => .warning (.unreachableCode span) := by
  induction steps generalizing stack with
  | nil => rfl
  | cons step rest ih =>
    rw [run_cons, reportOf_append, List.filter_append, ih, step.unreachable_perform lint]
    cases found : step.unreachable? <;> simp [found]

/-- With the lint on, what stands between a statement and the rest of its list
warns if the statement cuts the rest off, and does nothing else. -/
theorem run_between (lint : env.config.lints.unreachable = true) (first : Stmt)
    (rest : List Stmt) (stack : ScopeStack) :
    run env (Step.between first rest) stack =
      ((first.cutOffs rest).map fun span => .warning (.unreachableCode span), stack) := by
  cases rest with
  | nil => cases first <;> rfl
  | cons second rest =>
    cases first <;>
      simp [Step.between, Stmt.isTerminal, Stmt.cutOffs, run, Step.perform, lint, Stmt.span,
        Stmt.node]

/-- Statements are only found unreachable behind a statement that cuts them off. -/
theorem MadeAt.cutOffs_eq {program : Program} {first before : List Step} {span : Span}
    {piece : Piece} {context : Context} {leading : List Item}
    (made : MadeAt initializerName program first (.unreachable span) piece context before leading) :
    ∃ stmt rest after,
      Visits initializerName program (.stmts (stmt :: rest)) context before after ∧
      stmt.cutOffs rest = [span] ∧ first = before ++ stmt.walk initializerName context := by
  obtain ⟨rfl, trailing, after, items, visits⟩ := made
  have listed : .step (.unreachable span) ∈ piece.items initializerName context := by
    rw [items]
    exact List.mem_append_right _ List.mem_cons_self
  match piece with
  | .expr tree => exact absurd listed tree.unreachable_not_mem
  | .stmt tree => exact absurd listed tree.unreachable_not_mem
  | .stmts [] => cases listed
  | .stmts (stmt :: rest) =>
    have own : .unreachable span ∈ Step.between stmt rest := by simpa [Piece.items] using listed
    obtain ⟨terminal, others, same⟩ := Step.mem_between.mp own
    have between : Step.between stmt rest = [.unreachable span] := by
      simp [Step.between, terminal, others, same]
    refine ⟨stmt, rest, after, visits, ?_, ?_⟩
    · rw [← filterMap_unreachable_between, between]
      rfl
    · rw [Piece.items, between] at items
      rcases leading with _ | ⟨visit, _ | ⟨other, others⟩⟩
      · cases items
      · cases items
        simp [Item.walk, Piece.walk]
      · simp [List.cons_eq_append_iff] at items
  | .function own ⟨name, params, returnType, body, foreign, place⟩ =>
    simp [Piece.items] at listed

/-- The warnings of unreachable code in a run are those that the tree gives. -/
structure WarnsOfUnreachable (env : Environment) (program : Program) (events : List Event) :
    Prop where
  /-- Among all that is reported, they are those of the terminators of the program, in order. -/
  whole : (reportOf events).filter Diagnostic.isUnreachable =
    (Program.terminators env.config.initializerName program).map fun span =>
      .warning (.unreachableCode span)
  /-- While a piece is walked, they are those of the terminators of that piece. -/
  within : ∀ {piece context before after},
    Visits env.config.initializerName program piece context before after →
      ∃ inside stack later,
        run env (piece.walk env.config.initializerName context) (run env before .empty).2 =
          (inside, stack) ∧
        events = eventsBefore env program before ++ inside ++ later ∧
        (reportOf inside).filter Diagnostic.isUnreachable =
          (piece.terminators env.config.initializerName context.function).map fun span =>
            .warning (.unreachableCode span)
  /-- Between all that happens at a statement and all that happens at the rest of
  its list, there is the warning of that statement if it cuts the rest off, and
  nothing else. -/
  between : ∀ {first rest context before after},
    Visits env.config.initializerName program (.stmts (first :: rest)) context before after →
      ∃ atFirst stack atRest last later,
        run env (first.walk env.config.initializerName context) (run env before .empty).2 =
          (atFirst, stack) ∧
        run env (Stmt.walkAll env.config.initializerName context rest) stack = (atRest, last) ∧
        events = eventsBefore env program before ++ atFirst ++
          ((first.cutOffs rest).map fun span => .warning (.unreachableCode span)) ++
          atRest ++ later
  /-- Each of them stands there: right behind all that happens at a statement that
  cuts the rest of its list off. -/
  only : ∀ {earlier span later}, events = earlier ++ .warning (.unreachableCode span) :: later →
    ∃ first rest context before after,
      Visits env.config.initializerName program (.stmts (first :: rest)) context before after ∧
      first.cutOffs rest = [span] ∧
      earlier = eventsBefore env program before ++
        (run env (first.walk env.config.initializerName context) (run env before .empty).2).1

/-- With the lint on, a resolution warns of unreachable code exactly where a
`return`, a `break` or a `continue` is followed by other statements of its list. -/
theorem resolve_warns_of_unreachable {env : Environment} {program : Program}
    {resolution : Resolution} (succeeds : resolve env program = .ok resolution)
    (lint : env.config.lints.unreachable = true) :
    ∃ events, observe env program = (events, none) ∧ resolution.report = reportOf events ∧
      WarnsOfUnreachable env program events := by
  obtain ⟨events, faultFree, rfl⟩ := resolve_eq_ok_iff.mp succeeds
  refine ⟨events, faultFree, rfl, ?_⟩
  have warned {piece : Piece} (context : Context) (stack : ScopeStack) :
      (reportOf (run env (piece.walk env.config.initializerName context) stack).1).filter
          Diagnostic.isUnreachable =
        (piece.terminators env.config.initializerName context.function).map fun span =>
          .warning (.unreachableCode span) := by
    rw [unreachable_run lint, piece.filterMap_unreachable]
  constructor
  case whole =>
    have walked : (Program.walk env.config.initializerName program).filterMap Step.unreachable? =
        Program.terminators env.config.initializerName program := by
      rw [Program.walk, List.filterMap_cons_none rfl, List.filterMap_append]
      exact (List.append_nil _).trans ((Piece.stmts program).filterMap_unreachable .outermost)
    rw [observe_eq_run faultFree, reportOf_log, reportOf_append, reportOf_log, reportOf_nil,
      List.append_nil, unreachable_run lint, walked]
  case within =>
    intro piece context before after visits
    obtain ⟨later, same⟩ := visits.happens faultFree
    exact ⟨_, _, later, rfl, same, warned _ _⟩
  case between =>
    intro first rest context before after visits
    obtain ⟨later, same⟩ := visits.happens faultFree
    rw [Piece.walk, Stmt.walkAll, run_append, run_append, run_between lint] at same
    refine ⟨_, _, _, _, later, rfl, rfl, ?_⟩
    simpa only [List.append_assoc] using same
  case only =>
    intro earlier span later split
    obtain ⟨made, step, rest, inside, behind, walked, emits, happens, rfl⟩ :=
      exists_step_of_diagnostic faultFree split
    obtain rfl := emits.eq_unreachable
    rcases Program.exists_madeAt walked with ⟨-, other⟩ | ⟨-, other⟩ | ⟨_, _, _, _, here⟩
    · cases other
    · cases other
    · obtain ⟨first, others, after, visits, cuts, rfl⟩ := here.cutOffs_eq
      have nothing : inside = [] := by
        simp only [Step.perform, lint, if_true, List.singleton_eq_append_iff] at happens
        rcases happens with ⟨nothing, -⟩ | ⟨-, other⟩
        · exact nothing
        · cases other
      refine ⟨first, others, _, _, after, visits, cuts, ?_⟩
      rw [nothing, List.append_nil, eventsBefore_append]

/-- A loop that is left at once, a `return` in a branch, and a `return` before the end:
`fn f() { while { break; continue; } if nil { return; } return; print nil; }`. -/
def leavingF : FunctionDecl :=
  ⟨some ⟨"f", default⟩, [], none,
    [.whileLoop default none [.breakLoop ⟨default, ⟨1, 6⟩⟩, .continueLoop ⟨default, ⟨2, 9⟩⟩],
      .ifElse default (.literal default .nil) (.ret ⟨default, ⟨3, 7⟩⟩ none) none,
      .ret ⟨default, ⟨4, 7⟩⟩ none, .print default (.literal default .nil)], false, default⟩

/-- The two terminators with statements behind them are reported, in the order of the tree. -/
theorem resolve_warns_of_unreachable_leavingF :
    ∃ resolution events, resolve .watchful [.function default leavingF] = .ok resolution ∧
      resolution.report =
        [.warning (.unreachableCode ⟨1, 6⟩), .warning (.unreachableCode ⟨4, 7⟩),
          .warning (.unusedLocalVariable "f" default)] ∧
      resolution.report = reportOf events ∧
      WarnsOfUnreachable .watchful [.function default leavingF] events := by
  have succeeds : resolve .watchful [.function default leavingF] =
      .ok ⟨.empty, [.warning (.unreachableCode ⟨1, 6⟩), .warning (.unreachableCode ⟨4, 7⟩),
        .warning (.unusedLocalVariable "f" default)]⟩ := rfl
  obtain ⟨events, -, reported, warns⟩ := resolve_warns_of_unreachable succeeds rfl
  exact ⟨_, events, succeeds, rfl, reported, warns⟩

end NameResolution
