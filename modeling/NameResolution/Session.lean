import NameResolution.Resolution
import NameResolution.Syntax.Numbering

/-!
# Sessions

Several programs may be resolved one after another. Their nodes are numbered
from one counter, and their depths and diagnostics go into one table and one
report; each program is resolved from an empty stack of scopes.
-/

namespace NameResolution

/-- What the programs of a session share. -/
structure Session where
  counter : Counter
  depths : DepthTable
  report : Report
deriving DecidableEq, Inhabited

namespace Session

/-- A session in which nothing has been resolved. -/
def start : Session := ⟨.start, .empty, []⟩

/-- Number and resolve one more program. What was found before a fault stays. -/
def advance (session : Session) (env : Environment) (program : Draft.Program) :
    Option Fault × Session :=
  let (tree, counter) := program.number session.counter
  let (events, fault) := observe env tree
  (fault, {
    counter
    depths := session.depths.recordAll (depthsOf events)
    report := session.report ++ reportOf events })

end Session

end NameResolution
