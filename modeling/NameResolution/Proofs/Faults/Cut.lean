import NameResolution.Proofs.Faults.Malformed
import NameResolution.Proofs.Frame.Openings
import NameResolution.Proofs.Lexical.Outcomes
import NameResolution.Proofs.Run.Emissions
import NameResolution.Proofs.Walk.Parts

/-!
# What a fault cuts off

A resolution faults at the first malformed member assignment that its walk
comes to, whatever is declared and whatever the environment. All that happens
up to there has happened, and nothing else: statements that stand behind the
fault could as well be others, and a scope that is open at the fault has never
been looked through for bindings that are unused.
-/

namespace NameResolution

section Items

variable {initializerName : String} {context : Context}

/-- An object that no member can be assigned through aborts the walk. -/
theorem Step.setTarget_of_malformed {span : Span} {object : Expr}
    (malformed : object.isAssignable = false) :
    Step.setTarget span object = [.abort object.fault] := by
  cases object <;> first | rfl | cases malformed

/-- Only a member assignment is where a walk aborts, with its value and its
object behind it, if no member can be assigned through the object. -/
theorem Piece.abort_items {piece : Piece} {fault : Fault} {leading trailing : List Item}
    (items : piece.items initializerName context = leading ++ .step (.abort fault) :: trailing) :
    ∃ node object name value, piece = .expr (.set node object name value) ∧
      object.isAssignable = false ∧ object.fault = fault ∧
      leading = [.visit (.expr value) context, .visit (.expr object) context] := by
  have made : .step (.abort fault) ∈ piece.items initializerName context := by
    rw [items]
    exact List.mem_append_right _ List.mem_cons_self
  obtain ⟨node, object, name, value, rfl, malformed, same⟩ := Piece.origin made
  refine ⟨node, object, name, value, rfl, malformed, same, ?_⟩
  rw [Piece.items, Expr.items, Step.setTarget_of_malformed malformed] at items
  rcases leading with _ | ⟨first, _ | ⟨second, inside⟩⟩
  · cases items
  · cases items
  · obtain ⟨rfl, rfl, last⟩ : .visit (.expr value) context = first ∧
        .visit (.expr object) context = second ∧
        [.step (.abort object.fault)] = inside ++ .step (.abort fault) :: trailing := by
      simpa using items
    rcases List.singleton_eq_append_iff.mp last with ⟨rfl, -⟩ | ⟨-, none⟩
    · rfl
    · cases none

end Items

/-- `SideBySide initializerName program other piece otherPiece context before`:
the walks of two programs get to these pieces along the same way, with the same
steps behind them. What stands behind the pieces may differ at every turn. -/
inductive SideBySide (initializerName : String) (program other : Program) :
    Piece → Piece → Context → List Step → Prop where
  | programs : SideBySide initializerName program other (.stmts program) (.stmts other)
      .outermost [.openScope]
  | parts {piece otherPiece part otherPart : Piece} {context inner : Context}
      {before : List Step} {leading trailing otherTrailing : List Item}
      (wholes : SideBySide initializerName program other piece otherPiece context before)
      (items : piece.items initializerName context = leading ++ .visit part inner :: trailing)
      (otherItems : otherPiece.items initializerName context =
        leading ++ .visit otherPart inner :: otherTrailing) :
      SideBySide initializerName program other part otherPart inner
        (before ++ leading.flatMap (Item.walk initializerName))

/-- Both walks visit the pieces that they get to side by side. -/
theorem SideBySide.visits {initializerName : String} {program other : Program}
    {piece otherPiece : Piece} {context : Context} {before : List Step}
    (together : SideBySide initializerName program other piece otherPiece context before) :
    (∃ after, Visits initializerName program piece context before after) ∧
      ∃ after, Visits initializerName other otherPiece context before after := by
  induction together with
  | programs => exact ⟨⟨_, .program⟩, ⟨_, .program⟩⟩
  | parts wholes items otherItems ih =>
    obtain ⟨⟨_, visits⟩, ⟨_, otherVisits⟩⟩ := ih
    exact ⟨⟨_, visits.part items⟩, ⟨_, otherVisits.part otherItems⟩⟩

/-- Two programs that differ only behind a statement which is malformed are cut
at the same place. -/
theorem SideBySide.cutAtFault_eq {initializerName : String} {program other : Program}
    {stmt : Stmt} {rest others : List Stmt} {context : Context} {before : List Step}
    (together : SideBySide initializerName program other (.stmts (stmt :: rest))
      (.stmts (stmt :: others)) context before)
    (malformed : stmt.malformed initializerName context.function ≠ []) :
    cutAtFault (Program.walk initializerName other) =
      cutAtFault (Program.walk initializerName program) := by
  obtain ⟨⟨after, visits⟩, ⟨otherAfter, otherVisits⟩⟩ := together.visits
  have aborts : faultsOf (before ++ stmt.walk initializerName context) ≠ [] := by
    rw [faultsOf_append, stmt.aborts initializerName context]
    intro clear
    exact malformed (List.map_eq_nil_iff.mp (List.append_eq_nil_iff.mp clear).2)
  obtain ⟨fault, first⟩ : ∃ fault,
      (cutAtFault (before ++ stmt.walk initializerName context)).2 = some fault := by
    rw [cutAtFault_snd]
    exact ⟨_, List.head?_eq_some_head aborts⟩
  have through {trees : List Stmt} {steps : List Step} :
      cutAtFault (before ++ Stmt.walkAll initializerName context (stmt :: trees) ++ steps) =
        cutAtFault (before ++ stmt.walk initializerName context) := by
    rw [Stmt.walkAll, List.append_assoc (stmt.walk initializerName context),
      ← List.append_assoc before, List.append_assoc (before ++ _),
      cutAtFault_append_of_some _ first]
  rw [visits.walk, otherVisits.walk]
  exact through.trans through.symm

variable {env : Environment} {program : Program}

/-- What happens in a run that faults, up to the fault. -/
theorem observe_eq_of_fault {fault : Fault} (faults : (observe env program).2 = some fault) :
    (observe env program).1 = .log (.resolving program.length) ::
      ((run env (cutAtFault (Program.walk env.config.initializerName program)).1 .empty).1 ++
        [.log (.aborted fault)]) := by
  have cut : (cutAtFault (Program.walk env.config.initializerName program)).2 = some fault :=
    faults
  simp only [observe, cut]

/-- A resolution fails with a fault if the walk is cut at that fault. -/
theorem resolve_eq_error_iff {fault : Fault} :
    resolve env program = .error fault ↔ (observe env program).2 = some fault := by
  rw [resolve]
  rcases observe env program with ⟨events, found⟩
  cases found with
  | none => simp
  | some found => simp

/-- The fault of a run is that of the first malformed object. -/
theorem observe_snd_eq_head? (env : Environment) (program : Program) :
    (observe env program).2 =
      (Program.malformed env.config.initializerName program).head?.map Expr.fault := by
  change (cutAtFault (Program.walk env.config.initializerName program)).2 = _
  rw [cutAtFault_snd, Program.aborts env.config.initializerName program, List.head?_map]

/-- The first and the last line of the log add nothing to a view of other events. -/
theorem filterMap_between {α : Type} {view : Event → Option α}
    (aside : ∀ entry, view (.log entry) = none) (first last : LogEntry) (events : List Event) :
    (Event.log first :: (events ++ [.log last])).filterMap view = events.filterMap view := by
  rw [List.filterMap_cons_none (aside first), List.filterMap_append,
    List.filterMap_cons_none (aside last), List.filterMap_nil, List.append_nil]

/-- `CutAt env program fault done`: a run faults with `done` behind it, and leaves
what came of that and nothing else. -/
structure CutAt (env : Environment) (program : Program) (fault : Fault) (done : List Step) :
    Prop where
  /-- The walk came to a member assignment, and its value and its object were walked. -/
  reached : ∃ context before after node object name value,
    Visits env.config.initializerName program (.expr (.set node object name value)) context
        before after ∧
      object.isAssignable = false ∧ object.fault = fault ∧
      done = before ++ value.walk env.config.initializerName context ++
        object.walk env.config.initializerName context
  /-- Nothing before that aborts. -/
  first : faultsOf done = []
  events : (observe env program).1 =
    .log (.resolving program.length) :: ((run env done .empty).1 ++ [.log (.aborted fault)])
  report : reportOf (observe env program).1 = reportOf (run env done .empty).1
  depths : depthsOf (observe env program).1 = depthsOf (run env done .empty).1
  /-- Each scope that is open at the fault was opened, and has stayed open since. -/
  opened : ∀ hops < (run env done .empty).2.depth, ∃ opening inside,
    done = opening ++ .openScope :: inside ∧ StaysOpen 1 inside ∧ heightAfter inside 1 = hops + 1
  /-- A warning of what is unused has been given since only for a scope that was
  opened inside of it, and closed again. -/
  unwarned : ∀ opening inside, done = opening ++ .openScope :: inside → StaysOpen 1 inside →
    ∀ earlier step later, inside = earlier ++ step :: later → ∀ name span,
      .warning (.unusedLocalVariable name span) ∈
          (step.perform env (run env (opening ++ .openScope :: earlier) .empty).2).1 →
        step = .closeScope ∧ ∃ around body, earlier = around ++ .openScope :: body ∧
          StaysOpen 1 body ∧ heightAfter body 1 = 1

/-- As many scopes are open as steps have left open. -/
theorem depth_run_empty (env : Environment) (steps : List Step) :
    (run env steps .empty).2.depth = heightAfter steps 0 := by
  rw [← ScopeStack.length_lexical, lexical_run, length_rescope]
  rfl

/-- A scope that is closed while another stays open was opened inside of that one. -/
theorem exists_opening_of_staysOpen {earlier later : List Step}
    (stays : StaysOpen 1 (earlier ++ .closeScope :: later)) :
    ∃ around body, earlier = around ++ .openScope :: body ∧ StaysOpen 1 body ∧
      heightAfter body 1 = 1 := by
  have further : 0 < heightAfter earlier 1 - 1 := by
    have behind := (staysOpen_append.mp stays).2.2
    exact behind.opened
  have inner : 1 + 0 < heightAfter earlier 1 := by omega
  exact exists_opening inner

/-- A run that faults is cut at the malformed member assignment. -/
theorem exists_cutAt {fault : Fault} (faults : (observe env program).2 = some fault) :
    ∃ done, CutAt env program fault done := by
  have aborts : (cutAtFault (Program.walk env.config.initializerName program)).2 = some fault :=
    faults
  obtain ⟨done, rest, walked, first, cut⟩ := exists_abort aborts
  have events := observe_eq_of_fault faults
  rw [cut] at events
  have reached : ∃ context before after node object name value,
      Visits env.config.initializerName program (.expr (.set node object name value)) context
          before after ∧
        object.isAssignable = false ∧ object.fault = fault ∧
        done = before ++ value.walk env.config.initializerName context ++
          object.walk env.config.initializerName context := by
    rcases Program.exists_madeAt walked with ⟨-, same⟩ | ⟨-, same⟩ | ⟨piece, made⟩
    · cases same
    · cases same
    · obtain ⟨context, before, leading, steps, trailing, after, items, visits⟩ := made
      obtain ⟨node, object, name, value, rfl, malformed, own, rfl⟩ := Piece.abort_items items
      refine ⟨context, before, after, node, object, name, value, visits, malformed, own, ?_⟩
      rw [steps]
      simp [Item.walk, Piece.walk]
  refine ⟨done, reached, first, events, ?_, ?_, ?_, ?_⟩
  · rw [events]
    exact filterMap_between (fun _ => rfl) _ _ _
  · rw [events]
    exact filterMap_between (fun _ => rfl) _ _ _
  · intro hops open_now
    have further : 0 + hops < heightAfter done 0 := by rwa [Nat.zero_add, ← depth_run_empty env]
    exact exists_opening further
  · rintro opening inside - stays earlier step later rfl name span warned
    obtain rfl := Step.eq_closeScope_of_unused (Step.emits_of_mem warned)
    exact ⟨rfl, exists_opening_of_staysOpen stays⟩

/-- A resolution fails if and only if the part of the program that is walked
holds a malformed member assignment, and then with the fault of the first one.
That depends on the tree and on the name of initializers alone. What came before
the fault stands, and nothing else does: statements behind the one that faults,
in any statement list around the fault, could as well be others. -/
theorem resolve_faults_at_first_malformed (env : Environment) (program : Program) :
    let malformed := Program.malformed env.config.initializerName program
    ((∃ fault, resolve env program = .error fault) ↔ malformed ≠ []) ∧
      (∀ fault, resolve env program = .error fault ↔
        malformed.head?.map Expr.fault = some fault) ∧
      (∀ other : Environment, other.config.initializerName = env.config.initializerName →
        (observe other program).2 = (observe env program).2) ∧
      (∀ fault, resolve env program = .error fault → ∃ done, CutAt env program fault done) ∧
      ∀ other stmt rest others context before,
        SideBySide env.config.initializerName program other (.stmts (stmt :: rest))
            (.stmts (stmt :: others)) context before →
          stmt.malformed env.config.initializerName context.function ≠ [] →
            (observe env other).2 = (observe env program).2 ∧
              (observe env other).1.tail = (observe env program).1.tail ∧
              reportOf (observe env other).1 = reportOf (observe env program).1 ∧
              depthsOf (observe env other).1 = depthsOf (observe env program).1 := by
  intro malformed
  have at_first (fault : Fault) : resolve env program = .error fault ↔
      malformed.head?.map Expr.fault = some fault := by
    rw [resolve_eq_error_iff, observe_snd_eq_head?]
  refine ⟨?_, at_first, ?_, ?_, ?_⟩
  · simp only [at_first]
    cases malformed with
    | nil => simp
    | cons object rest => simp
  · intro other same
    rw [observe_snd_eq_head?, observe_snd_eq_head?, same]
  · intro fault faults
    exact exists_cutAt (resolve_eq_error_iff.mp faults)
  · intro other stmt rest others context before together faulty
    have cut := together.cutAtFault_eq faulty
    have fault : (observe env other).2 = (observe env program).2 := by
      simp only [observe, cut]
    have behind : (observe env other).1.tail = (observe env program).1.tail := by
      simp only [observe, cut, List.tail_cons]
    have reported (program : Program) :
        reportOf (observe env program).1 = reportOf (observe env program).1.tail := rfl
    have entered (program : Program) :
        depthsOf (observe env program).1 = depthsOf (observe env program).1.tail := rfl
    refine ⟨fault, behind, ?_, ?_⟩
    · rw [reported, behind, ← reported]
    · rw [entered, behind, ← entered]

/-- A member assignment on the result of a call: `f().field = nil`. -/
def callTarget : Stmt :=
  .expression ⟨⟨1⟩, default⟩ (.set ⟨⟨2⟩, default⟩
    (.call ⟨⟨3⟩, default⟩ (.var ⟨⟨4⟩, default⟩ ⟨"f", default⟩) []) ⟨"field", default⟩
    (.literal ⟨⟨5⟩, default⟩ .nil))

/-- A method that makes this assignment, before `rest`. -/
def faultyMethod (rest : List Stmt) : FunctionDecl :=
  ⟨some ⟨"run", default⟩, [], none, callTarget :: rest, false, default⟩

/-- A class with this method. -/
def faultyClass (rest : List Stmt) : Stmt :=
  .classDecl ⟨⟨0⟩, default⟩ ⟨"C", default⟩ none [faultyMethod rest]

/-- The fault is that of the method, whatever stands behind the assignment in it or behind its
class. -/
theorem resolve_faults_at_first_malformed_inMethod :
    resolve .bare [faultyClass [.breakLoop default]] = .error ⟨"call", default⟩ ∧
      (observe .bare [faultyClass [], callTarget]).2 =
        (observe .bare [faultyClass [.breakLoop default]]).2 ∧
      reportOf (observe .bare [faultyClass [], callTarget]).1 =
        reportOf (observe .bare [faultyClass [.breakLoop default]]).1 := by
  obtain ⟨-, at_first, -, -, replaced⟩ :=
    resolve_faults_at_first_malformed .bare [faultyClass [.breakLoop default]]
  -- The statements behind the assignment differ, in its method and in the program.
  have inProgram (rest after : List Stmt) :
      (Piece.stmts (faultyClass rest :: after)).items "init" .outermost =
        [] ++ .visit (.stmt (faultyClass rest)) .outermost ::
          [.visit (.stmts after) .outermost] := rfl
  have inClass (rest : List Stmt) :
      (Piece.stmt (faultyClass rest)).items "init" .outermost =
        [.step (.declare ⟨"C", default⟩ false false), .step (.define ⟨"C", default⟩),
            .step .openScope, .step (.bindPseudo "this" default)] ++
          .visit (.function .method (faultyMethod rest))
              ⟨.none, .base, .none⟩ :: [.step .closeScope] := rfl
  have inMethod (rest : List Stmt) :
      (Piece.function .method (faultyMethod rest)).items "init" ⟨.none, .base, .none⟩ =
        [.step .openScope] ++
          .visit (.stmts (callTarget :: rest)) ⟨.method, .base, .none⟩ ::
            [.step .closeScope] := rfl
  have together := ((SideBySide.programs.parts (inProgram [.breakLoop default] [])
    (inProgram [] [callTarget])).parts (inClass _) (inClass _)).parts (inMethod _) (inMethod _)
  have malformed : callTarget.malformed "init" .method ≠ [] := List.cons_ne_nil _ _
  obtain ⟨fault, -, report, -⟩ := replaced _ _ _ _ _ _ together malformed
  exact ⟨(at_first _).mpr rfl, fault, report⟩

end NameResolution
