import NameResolution.Proofs.Exchange.Counting
import NameResolution.Proofs.Lexical.Accounting
import NameResolution.Proofs.Pending.SelfReference
import NameResolution.Proofs.Walk.Altered

/-!
# Statements that trade places

Two adjacent statements that declare nothing where they stand and hand control
on may trade places, wherever in a program they are. All that happens before
them, while each of them is walked and behind them happens all the same.
-/

namespace NameResolution

/-- A statement declares nothing in the scope it stands in, and hands control on. -/
structure Stmt.Movable (stmt : Stmt) : Prop where
  declares : ∀ member, stmt.declares member = []
  goesOn : stmt.isTerminal = false

/-- Blocks, loops, expressions and prints, and choices between such statements. -/
def Stmt.isPlain : Stmt → Bool
  | .block .. | .whileLoop .. | .forRange .. | .forEach .. | .expression .. | .print .. => true
  | .ifElse _ _ thenBranch none => thenBranch.isPlain
  | .ifElse _ _ thenBranch (some elseBranch) => thenBranch.isPlain && elseBranch.isPlain
  | _ => false

/-- A plain statement declares nothing. -/
theorem Stmt.declares_of_isPlain (member : Bool) : (stmt : Stmt) → stmt.isPlain = true →
    stmt.declares member = []
  | .block .., _ | .whileLoop .., _ | .forRange .., _ | .forEach .., _ | .expression .., _
  | .print .., _ => rfl
  | .ifElse _ _ thenBranch none, plain => Stmt.declares_of_isPlain member thenBranch plain
  | .ifElse _ _ thenBranch (some elseBranch), plain => by
    obtain ⟨left, right⟩ := Bool.and_eq_true_iff.mp plain
    rw [declares, Stmt.declares_of_isPlain member thenBranch left,
      Stmt.declares_of_isPlain member elseBranch right, List.append_nil]

/-- A plain statement is movable. -/
theorem Stmt.Movable.of_isPlain {stmt : Stmt} (plain : stmt.isPlain = true) : stmt.Movable where
  declares member := stmt.declares_of_isPlain member plain
  goesOn := by
    cases stmt with
    | ret node value => cases plain
    | breakLoop node => cases plain
    | continueLoop node => cases plain
    | _ => rfl

namespace Stmt.Movable

variable {stmt first second : Stmt}

/-- The walk of a movable statement declares nothing where it stands. -/
theorem shape (movable : stmt.Movable) (initializerName : String) (context : Context) :
    Shape false (stmt.walk initializerName context) := by
  have declaring : Declaring false (stmt.declares context.inStruct)
      (stmt.walk initializerName context) := stmt.declaring initializerName context
  exact declaring.shape_of_nil (movable.declares context.inStruct)

/-- A movable statement hands control on, so nothing is said behind it. -/
theorem between (movable : stmt.Movable) (rest : List Stmt) : Step.between stmt rest = [] := by
  rw [Step.between, movable.goesOn]
  rfl

/-- Two movable statements are walked one right behind the other, and then the rest of the list. -/
theorem walkAll (left : first.Movable) (right : second.Movable) (initializerName : String)
    (context : Context) (rest : List Stmt) :
    Stmt.walkAll initializerName context (first :: second :: rest) =
      first.walk initializerName context ++ second.walk initializerName context ++
        Stmt.walkAll initializerName context rest := by
  rw [Stmt.walkAll, Stmt.walkAll, left.between, right.between]
  simp only [List.append_assoc, List.nil_append]

end Stmt.Movable

/-- `Exchanged first second before after`: the two statements, with which a list
begins, trade places. -/
inductive Exchanged (first second : Stmt) : List Stmt → List Stmt → Prop where
  | intro (rest : List Stmt) :
      Exchanged first second (first :: second :: rest) (second :: first :: rest)

/-- Exchanging two statements leaves no list without statements. -/
theorem Exchanged.isEmpty_eq {first second : Stmt} {before after : List Stmt}
    (exchanged : Exchanged first second before after) : before.isEmpty = after.isEmpty := by
  cases exchanged
  rfl

/-- Wherever in a program two statements are adjacent, they can trade places. -/
theorem Program.exists_exchanged {initializerName : String} {program : Program}
    {first second : Stmt} {rest : List Stmt}
    (within : Within initializerName (.stmts program) (.stmts (first :: second :: rest))) :
    ∃ other, Piece.Altered initializerName (Exchanged first second) (.stmts program)
      (.stmts other) :=
  Program.exists_altered within (fun _ _ => Exchanged.isEmpty_eq) (.intro rest)

/-- No name of the innermost scope awaits its value where a statement begins. -/
theorem Visits.settled {env : Environment} {program : Program}
    (documented : Program.ForeignBodiesEmpty env.config.initializerName program) {piece : Piece}
    {context : Context} {before after : List Step}
    (visits : Visits env.config.initializerName program piece context before after)
    (begins : piece.BeginsSettled) : (run env before .empty).2.Settled := by
  obtain ⟨here, outer, names, settled⟩ := (visits.begins documented).settled
  have awaits := awaitsOnly_run_empty env before
  rw [names, settled begins] at awaits
  obtain ⟨scope, innermost, only⟩ := awaits.innermost?
  intro name
  rw [ScopeStack.getInnermost?, innermost, Option.bind_some]
  cases bound : scope.get? name with
  | none => rfl
  | some binding =>
    exact Bool.eq_false_iff.mpr fun awaiting =>
      List.not_mem_nil (only _ (Scope.mem_of_get? bound) awaiting)

/-- A program can be resolved if no step of its walk aborts, and the walk says how it is. -/
theorem resolve_eq_ok_iff_run {env : Environment} {program : Program} {resolution : Resolution} :
    resolve env program = .ok resolution ↔
      (cutAtFault (Program.walk env.config.initializerName program)).2 = none ∧
        resolution =
          ⟨DepthTable.empty.recordAll
            (depthsOf (run env (Program.walk env.config.initializerName program) .empty).1),
            reportOf (run env (Program.walk env.config.initializerName program) .empty).1⟩ := by
  have depths := depthsOf_observe env program
  have report := reportOf_observe env program
  rw [resolve_eq_ok_iff]
  constructor
  · rintro ⟨events, faultFree, rfl⟩
    have whole : (cutAtFault (Program.walk env.config.initializerName program)).2 = none :=
      congrArg Prod.snd faultFree
    rw [faultFree, cutAtFault_fst_of_none whole] at depths report
    exact ⟨whole, by rw [depths, report]⟩
  · rintro ⟨whole, rfl⟩
    rw [cutAtFault_fst_of_none whole] at depths report
    exact ⟨(observe env program).1, Prod.ext rfl whole, by rw [depths, report]⟩

/-- What happens while a statement is walked behind the steps `before`. -/
def Stmt.eventsBehind (env : Environment) (context : Context) (before : List Step)
    (stmt : Stmt) : List Event :=
  (run env (stmt.walk env.config.initializerName context) (run env before .empty).2).1

/-- What is reported meanwhile. -/
def Stmt.reportBehind (env : Environment) (context : Context) (before : List Step)
    (stmt : Stmt) : Report :=
  reportOf (stmt.eventsBehind env context before)

/-- What is reported when a scope is closed. -/
def Extent.closingReport (env : Environment) (extent : Extent) : Report :=
  reportOf (Step.closeScope.perform env (run env extent.closed .empty).2).1

/-- What comes of two statements that trade places where the walk gets to them, with the
steps `before` behind it. -/
structure TradePlaces (env : Environment) (program other : Program) (report also : Report)
    (first second : Stmt) (context : Context) (before : List Step) : Prop where
  /-- Both walks get to the statements in the same way. -/
  reached : ∃ rest after,
    Visits env.config.initializerName program (.stmts (first :: second :: rest)) context before
        after ∧
      Visits env.config.initializerName other (.stmts (second :: first :: rest)) context before
        after
  /-- What the two statements report trades places with them, and the same is reported before
  them and behind them. -/
  reports : ∃ later,
    report = reportOf (run env before .empty).1 ++
        (first.reportBehind env context before ++ second.reportBehind env context before) ++ later ∧
      also = reportOf (run env before .empty).1 ++
        (second.reportBehind env context before ++ first.reportBehind env context before) ++ later
  /-- Each scope that is open around the statements is closed behind both of them, after the
  same steps, and the same is reported of it then. -/
  enclosing : ∀ extent inside, HasExtent env.config.initializerName program extent →
    before = extent.before ++ .openScope :: inside → StaysOpen 1 inside →
      ∃ counterpart more, HasExtent env.config.initializerName other counterpart ∧
        counterpart.before = extent.before ∧
        extent.closed = before ++ (first.walk env.config.initializerName context ++
          second.walk env.config.initializerName context) ++ more ∧
        counterpart.closed = before ++ (second.walk env.config.initializerName context ++
          first.walk env.config.initializerName context) ++ more ∧
        counterpart.closingReport env = extent.closingReport env

/-- Where steps trade places between others, each scope that is open around them still is
opened and closed where it was. -/
theorem HasExtent.exists_counterpart {initializerName : String} {program other : Program}
    {extent : Extent} (has : HasExtent initializerName program extent)
    {before between swapped behind inside : List Step}
    (walked : Program.walk initializerName program = before ++ between ++ behind)
    (walked' : Program.walk initializerName other = before ++ swapped ++ behind)
    (shape : Shape false between) (shape' : Shape false swapped)
    (begun : before = extent.before ++ .openScope :: inside) (stays : StaysOpen 1 inside) :
    ∃ counterpart more, HasExtent initializerName other counterpart ∧
      counterpart.before = extent.before ∧ extent.closed = before ++ between ++ more ∧
      counterpart.closed = before ++ swapped ++ more := by
  obtain ⟨rest, closes⟩ := has.walk
  have contents := has.contents
  -- the scope is still open behind the steps between
  have opened : StaysOpen 1 (inside ++ between) :=
    staysOpen_append.mpr ⟨stays, shape.staysOpen stays.pos⟩
  have split : extent.inside ++ .closeScope :: rest = (inside ++ between) ++ behind := by
    rw [walked, begun, Extent.closed] at closes
    simpa using closes.symm
  obtain ⟨more, own, rfl⟩ := opened.exists_more contents.height split
  have closed : extent.closed = before ++ between ++ more := by
    rw [Extent.closed, own, begun]
    simp
  have walked' : Program.walk initializerName other =
      (before ++ swapped ++ more) ++ .closeScope :: rest := by
    rw [walked', ← List.append_assoc]
  obtain ⟨counterpart, also, there⟩ := exists_extent walked'
  -- and the one that is closed there was opened in the same place
  have opened' : StaysOpen 1 (inside ++ swapped ++ more) := by
    have stays' := contents.stays
    rw [own, staysOpen_append, heightAfter_append, shape.heightAfter] at stays'
    rw [staysOpen_append, heightAfter_append, shape'.heightAfter]
    exact ⟨staysOpen_append.mpr ⟨stays, shape'.staysOpen stays.pos⟩, stays'.2⟩
  have height : heightAfter (inside ++ swapped ++ more) 1 = 1 := by
    have height' := contents.height
    rw [own, heightAfter_append, heightAfter_append, shape.heightAfter] at height'
    rw [heightAfter_append, heightAfter_append, shape'.heightAfter, height']
  have same : counterpart.before ++ .openScope :: counterpart.inside =
      extent.before ++ .openScope :: (inside ++ swapped ++ more) := by
    rw [← Extent.closed, ← there, begun]
    simp
  obtain ⟨placed, -⟩ := opening_unique same also.contents.stays also.contents.height opened' height
  exact ⟨counterpart, more, also, placed, closed, there.symm⟩

section Reached

variable {env : Environment} {program other : Program} {first second : Stmt} {rest : List Stmt}
  {context : Context} {before after : List Step} (left : first.Movable) (right : second.Movable)

include left right

/-- Two movable statements that a walk gets to come one right behind the other. -/
theorem Visits.walk_movable {initializerName : String}
    (visits : Visits initializerName program (.stmts (first :: second :: rest)) context before
      after) :
    Program.walk initializerName program = before ++ (first.walk initializerName context ++
      second.walk initializerName context) ++
        (Stmt.walkAll initializerName context rest ++ after) := by
  rw [visits.walk, Piece.walk, left.walkAll right]
  simp only [List.append_assoc]

/-- If movable statements trade places, a walk without a fault stays without one. -/
theorem Visits.whole_traded {initializerName : String}
    (visits : Visits initializerName program (.stmts (first :: second :: rest)) context before
      after)
    (visits' : Visits initializerName other (.stmts (second :: first :: rest)) context before
      after)
    (whole : (cutAtFault (Program.walk initializerName program)).2 = none) :
    (cutAtFault (Program.walk initializerName other)).2 = none := by
  rw [visits.walk_movable left right] at whole
  rw [visits'.walk_movable right left]
  simp only [cutAtFault_snd_append, Option.or_eq_none_iff] at whole ⊢
  obtain ⟨⟨ahead, own, next⟩, behind⟩ := whole
  exact ⟨⟨ahead, next, own⟩, behind⟩

variable (documented : Program.ForeignBodiesEmpty env.config.initializerName program)
  (visits : Visits env.config.initializerName program (.stmts (first :: second :: rest)) context
    before after)
  (visits' : Visits env.config.initializerName other (.stmts (second :: first :: rest)) context
    before after)

include documented visits visits'

/-- If movable statements trade places, what happens while they are walked does so. -/
theorem Visits.traded :
    ∃ later,
      (run env (Program.walk env.config.initializerName program) .empty).1 =
          (run env before .empty).1 ++
            (first.eventsBehind env context before ++ second.eventsBehind env context before) ++
              later ∧
        (run env (Program.walk env.config.initializerName other) .empty).1 =
          (run env before .empty).1 ++
            (second.eventsBehind env context before ++ first.eventsBehind env context before) ++
              later := by
  obtain ⟨later, last, runs, runs'⟩ := run_traded env
    (left.shape env.config.initializerName context) (right.shape env.config.initializerName context)
    (visits.settled documented trivial)
    (Stmt.walkAll env.config.initializerName context rest ++ after)
  refine ⟨later, ?_, ?_⟩
  · rw [visits.walk_movable left right, runs]
    rfl
  · rw [visits'.walk_movable right left, runs']
    rfl

/-- All that happens happens all the same, if in another order. -/
theorem Visits.perm_traded :
    (run env (Program.walk env.config.initializerName other) .empty).1.Perm
      (run env (Program.walk env.config.initializerName program) .empty).1 := by
  obtain ⟨later, runs, runs'⟩ := visits.traded left right documented visits'
  rw [runs, runs']
  exact (List.perm_append_comm.append_left _).append_right _

/-- Movable statements that a walk gets to trade places. -/
theorem Visits.tradePlaces : TradePlaces env program other
    (reportOf (run env (Program.walk env.config.initializerName program) .empty).1)
    (reportOf (run env (Program.walk env.config.initializerName other) .empty).1)
    first second context before where
  reached := ⟨rest, after, visits, visits'⟩
  reports := by
    obtain ⟨later, runs, runs'⟩ := visits.traded left right documented visits'
    refine ⟨reportOf later, ?_, ?_⟩
    · rw [runs, reportOf_append, reportOf_append, reportOf_append]
      rfl
    · rw [runs', reportOf_append, reportOf_append, reportOf_append]
      rfl
  enclosing := by
    intro extent inside has begun stays
    have shape := left.shape env.config.initializerName context
    have shape' := right.shape env.config.initializerName context
    obtain ⟨counterpart, more, also, placed, closed, closed'⟩ :=
      has.exists_counterpart (visits.walk_movable left right) (visits'.walk_movable right left)
        (shape.append shape') (shape'.append shape) begun stays
    refine ⟨counterpart, more, also, placed, closed, closed', ?_⟩
    -- both scopes are closed on the same stack
    obtain ⟨later, last, runs, runs'⟩ :=
      run_traded env shape shape' (visits.settled documented trivial) more
    rw [Extent.closingReport, Extent.closingReport, closed, closed', runs, runs']

end Reached

/-- What becomes of a resolution when two statements of its program trade places. -/
structure Rearranged (env : Environment) (program other : Program) (first second : Stmt)
    (resolution also : Resolution) : Prop where
  /-- The depth table is the same. -/
  depths : also.depths = resolution.depths
  /-- The same is reported, all of it as often. -/
  report : also.report.Perm resolution.report
  /-- It is reported in the same order but for what the two statements report themselves, or the
  walks do not get to the statements and are the same. -/
  order : (Program.walk env.config.initializerName other =
        Program.walk env.config.initializerName program ∧ also.report = resolution.report) ∨
      ∃ context before,
        TradePlaces env program other resolution.report also.report first second context before

/-- Statements commute. If two adjacent statements that declare nothing where they stand and hand
control on trade places, anywhere in a program that can be resolved, whose foreign functions
have no bodies and whose nodes have numbers of their own, then the resolution stays as it is,
but for the order in which the two report. -/
theorem resolve_exchanged {env : Environment} {program other : Program} {first second : Stmt}
    {resolution : Resolution} (succeeds : resolve env program = .ok resolution)
    (documented : Program.ForeignBodiesEmpty env.config.initializerName program)
    (distinct : (Program.nodeIds env.config.initializerName program).Nodup)
    (left : first.Movable) (right : second.Movable)
    (exchanged : Piece.Altered env.config.initializerName (Exchanged first second) (.stmts program)
      (.stmts other)) :
    ∃ also, resolve env other = .ok also ∧
      Rearranged env program other first second resolution also := by
  obtain ⟨whole, rfl⟩ := resolve_eq_ok_iff_run.mp succeeds
  rcases Program.walk_eq_or_arrives exchanged fun _ _ => Exchanged.isEmpty_eq with same | arrives
  · rw [same] at whole ⊢
    exact ⟨_, resolve_eq_ok_iff_run.mpr ⟨whole, rfl⟩, rfl, .refl _, .inl ⟨same.symm, rfl⟩⟩
  · obtain ⟨_, _, context, before, after, ⟨rest⟩, visits, visits'⟩ := arrives
    have whole' := visits.whole_traded left right visits' whole
    have happens := visits.perm_traded left right documented visits'
    have traded := visits.tradePlaces left right documented visits'
    have entries : ((depthsOf
        (run env (Program.walk env.config.initializerName program) .empty).1).map
          Prod.fst).Nodup := by
      have faultFree : observe env program = ((observe env program).1, none) := Prod.ext rfl whole
      have recorded := Program.nodup_depths faultFree distinct
      rwa [depthsOf_observe, cutAtFault_fst_of_none whole] at recorded
    refine ⟨_, resolve_eq_ok_iff_run.mpr ⟨whole', rfl⟩, ?_, reportOf_perm happens,
      .inr ⟨context, before, traded⟩⟩
    exact (DepthTable.recordAll_perm entries (depthsOf_perm happens.symm) _).symm

/-- The declaration of a variable: `let x = nil;`. -/
def letX : Stmt :=
  .letDecl ⟨⟨0⟩, default⟩ ⟨"x", default⟩ false none (some (.literal ⟨⟨1⟩, default⟩ .nil)) false

/-- A statement that prints it: `print x;`. -/
def printX : Stmt := .print ⟨⟨3⟩, default⟩ (.var ⟨⟨4⟩, default⟩ ⟨"x", default⟩)

/-- A block with two more statements: `{ print x; first second }`. -/
def blockOf (first second : Stmt) : Stmt := .block ⟨⟨2⟩, default⟩ [printX, first, second]

/-- A program with two statements in a block: `let x = nil; { print x; first second }`. -/
def inBlock (first second : Stmt) : Program := [letX, blockOf first second]

/-- A statement that prints a variable: `print y;`. -/
def printY : Stmt := .print ⟨⟨5⟩, default⟩ (.var ⟨⟨6⟩, default⟩ ⟨"y", ⟨1, 1⟩⟩)

/-- A statement that reads another: `z;`. -/
def useZ : Stmt := .expression ⟨⟨7⟩, default⟩ (.var ⟨⟨8⟩, default⟩ ⟨"z", ⟨2, 1⟩⟩)

/-- The program has no foreign function with a body. -/
theorem inBlock_bodiesEmpty : Program.ForeignBodiesEmpty "init" (inBlock printY useZ) := by
  intro kind decl within foreign
  have listed : Piece.function kind decl ∈
      ([.stmts (inBlock printY useZ), .stmts [blockOf printY useZ], .stmts [],
        .stmt letX, .expr (.literal ⟨⟨1⟩, default⟩ .nil), .stmt (blockOf printY useZ),
        .stmts [printX, printY, useZ], .stmts [printY, useZ], .stmts [useZ], .stmt printX,
        .expr (.var ⟨⟨4⟩, default⟩ ⟨"x", default⟩), .stmt printY,
        .expr (.var ⟨⟨6⟩, default⟩ ⟨"y", ⟨1, 1⟩⟩), .stmt useZ,
        .expr (.var ⟨⟨8⟩, default⟩ ⟨"z", ⟨2, 1⟩⟩)] : List Piece) :=
    within.mem_of_closed List.mem_cons_self
      (by simp [Piece.parts, Stmt.parts, Expr.parts, inBlock, blockOf, letX, printX, printY, useZ])
  simp at listed

/-- The second program is the first with its two statements exchanged. -/
theorem inBlock_exchanged : Piece.Altered "init" (Exchanged printY useZ)
    (.stmts (inBlock printY useZ)) (.stmts (inBlock useZ printY)) := by
  have exchanged : Exchanged printY useZ [printY, useZ] [useZ, printY] := .intro []
  exact .inside (.inside (.inside (.inside (.here exchanged) (.tail _ _ _)) (.block _ _ _))
    (.head _ _ _)) (.tail _ _ _)

/-- Both programs report an undeclared name for each of the two statements, in their own order. -/
theorem resolve_exchanged_inBlock :
    ∃ resolution also, resolve .watchful (inBlock printY useZ) = .ok resolution ∧
      resolution.report = [.error (.notDeclared "y" ⟨1, 1⟩), .error (.notDeclared "z" ⟨2, 1⟩)] ∧
      resolve .watchful (inBlock useZ printY) = .ok also ∧
      also.report = [.error (.notDeclared "z" ⟨2, 1⟩), .error (.notDeclared "y" ⟨1, 1⟩)] ∧
      Rearranged .watchful (inBlock printY useZ) (inBlock useZ printY) printY useZ resolution
        also := by
  have succeeds : resolve .watchful (inBlock printY useZ) = .ok ⟨DepthTable.empty.record ⟨4⟩ 1,
      [.error (.notDeclared "y" ⟨1, 1⟩), .error (.notDeclared "z" ⟨2, 1⟩)]⟩ := rfl
  obtain ⟨also, traded, rearranged⟩ :=
    resolve_exchanged succeeds inBlock_bodiesEmpty (by decide) (.of_isPlain rfl)
      (.of_isPlain rfl) inBlock_exchanged
  refine ⟨_, also, succeeds, rfl, traded, ?_, rearranged⟩
  cases traded
  rfl

end NameResolution
