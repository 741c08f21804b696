import Mathlib.Data.List.Induction
import NameResolution.Proofs.Lexical.Depths
import NameResolution.Proofs.Run.DepthTable
import NameResolution.Proofs.Session.Ids
import NameResolution.Session

/-!
# Runs that share a table and a report

The runs of a session enter their depths into one table and put what they
report into one report. If no node belongs to the programs of two runs, the
runs are separate: the report is what each would report alone, one after
another, and the table is the union of the tables that they would make alone,
no two of which speak of the same node.
-/

namespace NameResolution

/-- One run of a session. -/
structure Run where
  env : Environment
  program : Program

namespace Run

/-- What happens in a run. Another run never changes that. -/
def events (run : Run) : List Event := (observe run.env run.program).1

/-- The table that a run makes alone. -/
def table (run : Run) : DepthTable := DepthTable.empty.recordAll (depthsOf run.events)

/-- What a run reports alone. -/
def report (run : Run) : Report := reportOf run.events

/-- The numbers of the nodes of its program. -/
def ids (run : Run) : List NodeId := Program.ids run.program

/-- A run that comes to its end is the resolution of its program. -/
theorem resolve_eq {run : Run} {resolution : Resolution}
    (succeeds : resolve run.env run.program = .ok resolution) :
    resolution = ⟨run.table, run.report⟩ := by
  obtain ⟨events, faultFree, rfl⟩ := resolve_eq_ok_iff.mp succeeds
  rw [table, report, Run.events, faultFree]

/-- The table of a run speaks of nodes of its program. -/
theorem mem_ids_of_contains {run : Run} {node : NodeId}
    (entered : run.table.contains node = true) : node ∈ run.ids := by
  rw [DepthTable.contains_eq_isSome] at entered
  obtain ⟨depth, found⟩ := Option.isSome_iff_exists.mp entered
  exact Program.mem_ids_of_mem_depthsOf (DepthTable.mem_of_depthOf?_recordAll found)

end Run

namespace Session

/-- The session after one more run. Its counter is left as it is. -/
def take (session : Session) (run : Run) : Session :=
  { session with
    depths := session.depths.recordAll (depthsOf run.events)
    report := session.report ++ run.report }

/-- The session after further runs, one after another. -/
def takeAll (session : Session) (runs : List Run) : Session := runs.foldl take session

@[simp] theorem takeAll_nil (session : Session) : session.takeAll [] = session := rfl

@[simp] theorem takeAll_cons (session : Session) (run : Run) (rest : List Run) :
    session.takeAll (run :: rest) = (session.take run).takeAll rest := rfl

/-- A session takes runs one after another. -/
theorem takeAll_append (session : Session) (first second : List Run) :
    session.takeAll (first ++ second) = (session.takeAll first).takeAll second :=
  List.foldl_append

/-- A further run goes before what the table holds already. -/
theorem depthOf?_take (session : Session) (run : Run) (node : NodeId) :
    (session.take run).depths.depthOf? node =
      (run.table.depthOf? node).or (session.depths.depthOf? node) :=
  DepthTable.depthOf?_recordAll _ _ node

end Session

/-- No node is in both tables. -/
def DepthTable.Disjoint (first second : DepthTable) : Prop :=
  ∀ node, first.contains node = true → second.contains node = false

/-- A node with a depth in one of two disjoint tables has none in the other. -/
theorem DepthTable.Disjoint.depthOf?_eq_none {first second : DepthTable} {node : NodeId}
    {depth : Nat} (disjoint : first.Disjoint second)
    (found : first.depthOf? node = some depth) : second.depthOf? node = none := by
  have absent := disjoint node (by rw [contains_eq_isSome, found, Option.isSome_some])
  rwa [contains_eq_isSome, Option.isSome_eq_false_iff, Option.isNone_iff_eq_none] at absent

/-- Programs without a node in common have tables without one. -/
theorem Run.disjoint_table {first second : Run} (apart : first.ids.Disjoint second.ids) :
    first.table.Disjoint second.table := by
  intro node entered
  by_contra again
  rw [Bool.not_eq_false] at again
  exact apart (mem_ids_of_contains entered) (mem_ids_of_contains again)

/-- `Separate runs session`: after these runs, the session is what they make of it one by one. -/
structure Separate (runs : List Run) (session : Session) : Prop where
  /-- The report is what each run reports alone, in the order of the runs. -/
  report : session.report = runs.flatMap Run.report
  /-- The table has the entries that the runs make alone, and no others. -/
  depths : ∀ node depth, session.depths.depthOf? node = some depth ↔
    ∃ run ∈ runs, run.table.depthOf? node = some depth
  /-- No node has an entry by two runs. -/
  disjoint : runs.Pairwise fun first second => first.table.Disjoint second.table
  /-- What a run makes alone is its resolution, if there is no fault. -/
  alone : ∀ run ∈ runs, ∀ resolution, resolve run.env run.program = .ok resolution →
    resolution = ⟨run.table, run.report⟩

namespace Separate

variable {runs : List Run} {session : Session}

/-- A session that has just started is the union of no runs. -/
theorem start : Separate [] .start where
  report := rfl
  depths := by simp [Session.start]
  disjoint := .nil
  alone := nofun

/-- A run on nodes of its own leaves alone what the runs before it have found. -/
theorem take {run : Run} (separate : Separate runs session)
    (apart : ∀ earlier ∈ runs, earlier.table.Disjoint run.table) :
    Separate (runs ++ [run]) (session.take run) where
  report := by
    rw [List.flatMap_append, List.flatMap_singleton, ← separate.report]
    rfl
  depths := by
    intro node depth
    rw [Session.depthOf?_take, Option.or_eq_some_iff, separate.depths]
    constructor
    · rintro (found | ⟨-, earlier, listed, found⟩)
      · exact ⟨run, List.mem_append_right _ (List.mem_singleton_self run), found⟩
      · exact ⟨earlier, List.mem_append_left _ listed, found⟩
    · rintro ⟨other, listed, found⟩
      rcases List.mem_append.mp listed with earlier | last
      · exact .inr ⟨(apart other earlier).depthOf?_eq_none found, other, earlier, found⟩
      · obtain rfl := List.mem_singleton.mp last
        exact .inl found
  disjoint := by
    refine List.pairwise_append.mpr ⟨separate.disjoint, List.pairwise_singleton _ _, ?_⟩
    intro earlier listed _ last
    obtain rfl := List.mem_singleton.mp last
    exact apart earlier listed
  alone := fun _ _ _ => Run.resolve_eq

/-- Runs on programs that share no node are separate. -/
theorem of_distinct (distinct : (runs.flatMap Run.ids).Nodup) :
    Separate runs (Session.start.takeAll runs) := by
  induction runs using List.reverseRecOn with
  | nil => exact start
  | append_singleton runs run ih =>
    rw [List.flatMap_append, List.flatMap_singleton, List.nodup_append'] at distinct
    obtain ⟨before, -, apart⟩ := distinct
    rw [Session.takeAll_append]
    apply (ih before).take
    intro earlier listed
    apply Run.disjoint_table
    intro node inside
    exact apart (List.mem_flatMap.mpr ⟨earlier, listed, inside⟩)

end Separate

end NameResolution
