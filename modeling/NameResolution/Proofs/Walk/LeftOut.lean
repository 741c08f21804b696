import NameResolution.Proofs.Frame.Openings
import NameResolution.Proofs.Run.Fault
import NameResolution.Proofs.Walk.Altered

/-!
# A list without one of its statements

Where a statement that hands control on is left out of a list, the walk makes
all the other steps in the same order, but for one that says of the statement
before it that something follows. The scope of the list is closed in the same
place.
-/

namespace NameResolution

variable {initializerName : String} {context : Context} {front behind : List Stmt}

/-- The steps of the statements with which a list begins, if further statements follow. -/
def Stmt.walkAhead (initializerName : String) (context : Context) (front : List Stmt) :
    List Step :=
  front.flatMap fun stmt =>
    stmt.walk initializerName context ++ if stmt.isTerminal then [.unreachable stmt.span] else []

/-- A statement list is walked in two parts, if there is something in the second. -/
theorem Stmt.walkAll_append (front : List Stmt) (more : behind ≠ []) :
    Stmt.walkAll initializerName context (front ++ behind) =
      Stmt.walkAhead initializerName context front ++
        Stmt.walkAll initializerName context behind := by
  induction front with
  | nil => rfl
  | cons stmt rest ih =>
    have between : Step.between stmt (rest ++ behind) =
        if stmt.isTerminal then [.unreachable stmt.span] else [] := by
      simp [Step.between, more]
    rw [List.cons_append, walkAll, ih, between, walkAhead, walkAhead, List.flatMap_cons]
    simp only [List.append_assoc]

/-- A walk that gets to a list gets to what is behind the first of its statements. -/
theorem Visits.stmts_behind {program : Program} {before after : List Step} (more : behind ≠ [])
    (visits : Visits initializerName program (.stmts (front ++ behind)) context before after) :
    Visits initializerName program (.stmts behind) context
      (before ++ Stmt.walkAhead initializerName context front) after := by
  induction front generalizing before with
  | nil => simpa [Stmt.walkAhead] using visits
  | cons stmt rest ih =>
    have items : (Piece.stmts (stmt :: (rest ++ behind))).items initializerName context =
        (.visit (.stmt stmt) context :: (Step.between stmt (rest ++ behind)).map .step) ++
          .visit (.stmts (rest ++ behind)) context :: [] := rfl
    have further := ih (visits.part items)
    simpa [Stmt.walkAhead, Step.between, more, Item.walk, Piece.walk] using further

/-- `LeftOut decl before after`: the second list is the first without the statement `decl`, and not
empty. -/
inductive LeftOut (decl : Stmt) : List Stmt → List Stmt → Prop where
  | intro (front behind : List Stmt) (others : (front ++ behind).isEmpty = false) :
      LeftOut decl (front ++ decl :: behind) (front ++ behind)

/-- Leaving a statement out does not make a list empty. -/
theorem LeftOut.isEmpty_eq {decl : Stmt} {before after : List Stmt}
    (leftOut : LeftOut decl before after) : before.isEmpty = after.isEmpty := by
  obtain ⟨front, behind, others⟩ := leftOut
  rw [others]
  cases front <;> rfl

/-- Wherever in a program a statement stands among others in a list, it can be left out. -/
theorem Program.exists_leftOut {program : Program} {decl : Stmt}
    (within : Within initializerName (.stmts program) (.stmts (front ++ decl :: behind)))
    (others : (front ++ behind).isEmpty = false) :
    ∃ other, Piece.Altered initializerName (LeftOut decl) (.stmts program) (.stmts other) :=
  Program.exists_altered within (fun _ _ => LeftOut.isEmpty_eq) (.intro front behind others)

/-- If a statement is left out, the walk stays the same, or the walks are in step at the list in
which the statement stands. -/
theorem Program.walk_eq_or_inStep_leftOut {program other : Program} {decl : Stmt}
    (altered : Piece.Altered initializerName (LeftOut decl) (.stmts program) (.stmts other)) :
    Program.walk initializerName program = Program.walk initializerName other ∨
      ∃ front behind context before after,
        InStep initializerName program other (.stmts (front ++ decl :: behind))
          (.stmts (front ++ behind)) context before after := by
  rcases Program.walk_eq_or_inStep altered fun _ _ => LeftOut.isEmpty_eq with
    same | ⟨_, _, context, before, after, ⟨front, behind, -⟩, inStep⟩
  · exact .inl same
  · exact .inr ⟨front, behind, context, before, after, inStep⟩

/-- Steps that at most warn that what follows is unreachable, if nothing else follows. -/
def IsLink (behind : List Stmt) (steps : List Step) : Prop :=
  steps = [] ∨ behind = [] ∧ ∃ span, steps = [.unreachable span]

/-- With statements behind or without, those ahead of them are walked alike, but for a link. -/
theorem Stmt.exists_link (initializerName : String) (context : Context) (front behind : List Stmt) :
    ∃ lead link, IsLink behind link ∧
      Stmt.walkAhead initializerName context front = lead ++ link ∧
      Stmt.walkAll initializerName context (front ++ behind) =
        lead ++ Stmt.walkAll initializerName context behind := by
  by_cases more : behind = []
  · subst more
    rcases List.eq_nil_or_concat front with rfl | ⟨earlier, last, rfl⟩
    · exact ⟨[], [], .inl rfl, rfl, rfl⟩
    · refine ⟨walkAhead initializerName context earlier ++ last.walk initializerName context,
        if last.isTerminal then [.unreachable last.span] else [], ?_, ?_, ?_⟩
      · unfold IsLink
        split
        · exact .inr ⟨rfl, _, rfl⟩
        · exact .inl rfl
      · simp [walkAhead]
      · have between : Step.between last [] = [] := by simp [Step.between]
        rw [List.append_nil, List.concat_eq_append,
          walkAll_append earlier (List.cons_ne_nil last [])]
        simp [walkAll, between]
  · exact ⟨_, [], .inl rfl, (List.append_nil _).symm, walkAll_append front more⟩

/-- A link opens and closes no scope. -/
theorem IsLink.heightAfter {link : List Step} (isLink : IsLink behind link) (count : Nat) :
    NameResolution.heightAfter link count = count := by
  rcases isLink with rfl | ⟨-, span, rfl⟩ <;> rfl

/-- Two walks of programs of which one has the statement `decl` in a list and the other has not,
cut where they differ and where the scope of the list is closed. -/
structure Parting (initializerName : String) (program other : Program) (context : Context)
    (front behind : List Stmt) (decl : Stmt) (before : List Step) where
  /-- The steps that both walks make ahead of the statement. -/
  lead : List Step
  /-- What the one makes besides, as there is a statement behind. -/
  link : List Step
  /-- The steps from the end of the list on, while its scope is open. -/
  more : List Step
  /-- The steps behind the closing of the scope. -/
  rest : List Step
  isLink : IsLink behind link
  ahead : before ++ Stmt.walkAhead initializerName context front = lead ++ link
  list : before ++ Stmt.walkAll initializerName context (front ++ behind) =
    lead ++ Stmt.walkAll initializerName context behind
  walk : Program.walk initializerName program =
    lead ++ (link ++ (decl.walk initializerName context ++
      ((Stmt.walkAll initializerName context behind ++ more) ++ .closeScope :: rest)))
  walk_other : Program.walk initializerName other =
    lead ++ ((Stmt.walkAll initializerName context behind ++ more) ++ .closeScope :: rest)
  stays : StaysOpen 1 more
  closes : heightAfter more 1 = 1

/-- Walks that are in step at a list with a statement that hands control on and at the list
without it part there. -/
theorem InStep.exists_parting {program other : Program} {decl : Stmt} {before after : List Step}
    (inStep : InStep initializerName program other (.stmts (front ++ decl :: behind))
      (.stmts (front ++ behind)) context before after)
    (goesOn : decl.isTerminal = false)
    (opened : 0 < heightAfter (before ++ Stmt.walkAhead initializerName context front) 0) :
    Nonempty (Parting initializerName program other context front behind decl before) := by
  obtain ⟨lead, link, isLink, ahead, list⟩ :=
    Stmt.exists_link initializerName context front behind
  have walk_other : Program.walk initializerName other =
      before ++ (lead ++ Stmt.walkAll initializerName context behind) ++ after := by
    rw [inStep.visits_changed.walk, Piece.walk, list]
  -- the scope of the list is closed behind it
  have closed : heightAfter after 1 = 0 := by
    have shape := Stmt.shaped_all initializerName context behind
    have balanced := (Program.shaped initializerName other).heightAfter 0
    rw [walk_other, heightAfter_append, ← List.append_assoc, heightAfter_append,
      shape.heightAfter] at balanced
    rw [ahead, ← List.append_assoc, heightAfter_append, isLink.heightAfter] at opened
    exact Nat.le_zero.mp (balanced ▸ heightAfter_mono after opened)
  obtain ⟨more, rest, rfl, stays, closes⟩ := exists_closing_step Nat.one_pos closed
  refine ⟨⟨before ++ lead, link, more, rest, isLink, ?_, ?_, ?_, ?_, stays, closes⟩⟩
  · rw [ahead, List.append_assoc]
  · rw [list, List.append_assoc]
  · have between : Step.between decl behind = [] := by simp [Step.between, goesOn]
    rw [inStep.visits.walk, Piece.walk, Stmt.walkAll_append front (List.cons_ne_nil _ _), ahead,
      Stmt.walkAll, between]
    simp only [List.append_assoc, List.nil_append]
  · rw [walk_other]
    simp only [List.append_assoc]

namespace Parting

variable {program other : Program} {decl : Stmt} {before : List Step}
  (parting : Parting initializerName program other context front behind decl before)

/-- The steps behind the statement until the scope is closed. -/
def inside : List Step :=
  Stmt.walkAll initializerName context behind ++ parting.more

/-- The scope of the statement stays open until it is closed. -/
theorem staysOpen_inside : StaysOpen 1 parting.inside := by
  have shape := Stmt.shaped_all initializerName context behind
  rw [inside, staysOpen_append, shape.heightAfter]
  exact ⟨shape.staysOpen Nat.one_pos, parting.stays⟩

/-- The scopes opened behind the statement are closed again. -/
theorem heightAfter_inside : heightAfter parting.inside 1 = 1 := by
  rw [inside, heightAfter_append, (Stmt.shaped_all initializerName context behind).heightAfter,
    parting.closes]

include parting in
/-- If the one walk has no fault, the other has none. -/
theorem whole_other (whole : (cutAtFault (Program.walk initializerName program)).2 = none) :
    (cutAtFault (Program.walk initializerName other)).2 = none := by
  rw [parting.walk] at whole
  rw [parting.walk_other]
  simp only [cutAtFault_snd_append, Option.or_eq_none_iff] at whole ⊢
  exact ⟨whole.1, whole.2.2.2⟩

end Parting

end NameResolution
