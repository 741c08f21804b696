import NameResolution.Proofs.Session.Drafts
import NameResolution.Proofs.Session.NodeIds

/-!
# Sessions

In a session, drafts are numbered from one counter and resolved one after
another, whether or not a fault ends a run. What the session holds at its end is
what the runs would find alone: none loses or overwrites what another has found.
-/

namespace NameResolution

/-- One step of a session: a draft, and the environment in which it is resolved. -/
structure Request where
  env : Environment
  draft : Draft.Program

namespace Session

/-- The session after requests, one after another. A fault ends a run, not the session. -/
def advanceAll (session : Session) (requests : List Request) : Session :=
  requests.foldl (fun session request => (session.advance request.env request.draft).2) session

/-- The runs that requests come to: each draft is numbered where the one before ended. -/
def runs (counter : Counter) : List Request → List Run
  | [] => []
  | ⟨env, draft⟩ :: rest =>
    let (program, next) := draft.number counter
    ⟨env, program⟩ :: runs next rest

/-- To advance is to number a draft and take up its run. -/
theorem advance_eq (session : Session) (env : Environment) (draft : Draft.Program) :
    (session.advance env draft).2 =
      { session.take ⟨env, (draft.number session.counter).1⟩ with
        counter := (draft.number session.counter).2 } := rfl

/-- The counter plays no part in what runs leave. -/
theorem takeAll_counter (session : Session) (counter : Counter) (runs : List Run) :
    ({ session with counter }).takeAll runs = { session.takeAll runs with counter } := by
  induction runs generalizing session with
  | nil => rfl
  | cons run rest ih => exact ih (session.take run)

/-- Requests leave what their runs leave. -/
theorem advanceAll_eq (session : Session) (requests : List Request) :
    session.advanceAll requests =
      { session.takeAll (runs session.counter requests) with
        counter := (session.advanceAll requests).counter } := by
  induction requests generalizing session with
  | nil => rfl
  | cons request rest ih =>
    obtain ⟨env, draft⟩ := request
    have here : session.advanceAll (⟨env, draft⟩ :: rest) =
        (session.advance env draft).2.advanceAll rest := rfl
    rw [here, ih, advance_eq, takeAll_counter]
    rfl

/-- The runs of a session are those of a building in which nothing is left over. -/
theorem built_runs {requests : List Request} {counter : Counter} {count : Nat} {done : List Run}
    (kept : ∀ request ∈ requests, request.draft.keepsIds = true)
    (built : Built [] count done) (drawn : counter.nextId = .ofNat count) :
    ∃ later, Built [] later (done ++ runs counter requests) := by
  induction requests generalizing counter count done with
  | nil => exact ⟨count, by rwa [runs, List.append_nil]⟩
  | cons request rest ih =>
    obtain ⟨env, draft⟩ := request
    have keptHere : draft.keepsIds = true := kept _ List.mem_cons_self
    obtain ⟨next, built, drawn⟩ :=
      Draft.Stmt.builds_all draft keptHere [] count done counter built drawn
    obtain ⟨later, built⟩ := ih (fun request listed => kept request (List.mem_cons_of_mem _ listed))
      (built.resolve env) drawn
    refine ⟨later, ?_⟩
    rwa [List.append_assoc] at built

end Session

/-- Runs of one session do not interfere, whether or not a fault ends them: they
are separate. So it is for programs that are built in any order, while fewer
numbers have been drawn than there are words. And so it is for drafts that pin
no number and are numbered and resolved one after another. -/
theorem session_separate :
    (∀ {materials : List Material} {count : Nat} {runs : List Run},
      Built materials count runs → count < UInt32.size →
        Separate runs (Session.start.takeAll runs)) ∧
    ∀ requests : List Request, (∀ request ∈ requests, request.draft.keepsIds = true) →
      ((Session.runs .start requests).flatMap Run.ids).length < UInt32.size →
        Separate (Session.runs .start requests) (Session.start.advanceAll requests) := by
  constructor
  · intro materials count runs built room
    exact .of_distinct (built.distinct (Nat.le_of_lt room))
  · intro requests kept room
    obtain ⟨count, built⟩ : ∃ count, Built [] count ([] ++ Session.runs .start requests) :=
      Session.built_runs kept .start rfl
    rw [List.nil_append] at built
    rw [built.length_ids] at room
    have separate := Separate.of_distinct (built.distinct (Nat.le_of_lt room))
    rw [Session.advanceAll_eq]
    exact ⟨separate.report, separate.depths, separate.disjoint, separate.alone⟩

/-- Three requests: a variable that is printed, a member assignment to a call
behind an undeclared name, and a block with a variable of its own. -/
def threeRequests : List Request :=
  [⟨.bare, [.letDecl "x" false none (some (.literal .nil)) false, .print (.var "x")]⟩,
    ⟨.bare, [.print (.var "y"),
      .expression (.set (.call (.var "f") []) "name" (.literal .nil)), .print (.var "z")]⟩,
    ⟨.bare, [.block [.letDecl "x" false none (some (.literal .nil)) false,
      .block [.print (.var "x")]]]⟩]

/-- A program whose statement has the first number, and the expression inside it the second. -/
def earlyNumber : Program := [.print ⟨⟨0⟩, default⟩ (.literal ⟨⟨1⟩, default⟩ .nil)]

/-- The statement can be built although its number is the smaller one: the expression draws the
second number, and is put into the statement afterwards. -/
theorem built_earlyNumber : Built [] 2 [⟨.bare, earlyNumber⟩] := by
  have value : Built [.piece (.expr (.literal ⟨⟨1⟩, default⟩ .nil)), .number ⟨0⟩] 2 [] :=
    .assemble _ (.draw (.draw .start))
  have behind : Built [.piece (.stmts []),
      .piece (.stmt (.print ⟨⟨0⟩, default⟩ (.literal ⟨⟨1⟩, default⟩ .nil)))] 2 [] :=
    .assemble (.stmts []) (.assemble (.stmt (.print _ _)) value)
  have whole : Built [.piece (.stmts earlyNumber)] 2 [] :=
    .assemble (.stmts earlyNumber) (.reorder behind (.swap _ _ _))
  exact .resolve .bare whole

/-- The second run ends in a fault, after it has reported two names. The first and
the third print variables of one name: two nodes, at two depths. -/
theorem session_separate_threeRequests :
    Separate [⟨.bare, earlyNumber⟩] (Session.start.takeAll [⟨.bare, earlyNumber⟩]) ∧
    (Session.runs .start threeRequests).map (fun run => (observe run.env run.program).2) =
        [none, some ⟨"call", ⟨11, 1⟩⟩, none] ∧
      Separate (Session.runs .start threeRequests) (Session.start.advanceAll threeRequests) ∧
      (Session.start.advanceAll threeRequests).depths.depthOf? ⟨2⟩ = some 0 ∧
      (Session.start.advanceAll threeRequests).depths.depthOf? ⟨15⟩ = some 1 ∧
      (Session.start.advanceAll threeRequests).depths.size = 2 ∧
      (Session.start.advanceAll threeRequests).report =
        [.error (.notDeclared "y" ⟨6, 1⟩), .error (.notDeclared "f" ⟨9, 1⟩)] := by
  have kept : ∀ request ∈ threeRequests, request.draft.keepsIds = true := by decide
  have same := List.Perm.flatMap_left (Session.runs .start threeRequests) fun run _ =>
    Program.nodeIds_perm "" run.program
  have room : ((Session.runs .start threeRequests).flatMap Run.ids).length < UInt32.size :=
    calc _ = _ := same.length_eq.symm
      _ < UInt32.size := by decide +kernel
  refine ⟨session_separate.1 built_earlyNumber (by decide), ?_,
    session_separate.2 threeRequests kept room, ?_, ?_, ?_, ?_⟩ <;> decide +kernel

end NameResolution
