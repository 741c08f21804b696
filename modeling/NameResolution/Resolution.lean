import NameResolution.Run

/-!
# Resolving a program

`observe` gives all that happens in the course of a resolution, up to a fault
if there is one. The result of a resolution is made from those events: a depth
table and a report, or the fault.
-/

namespace NameResolution

/-- All that happens when a program is resolved, and the fault that ended it, if one did. -/
def observe (env : Environment) (program : Program) : List Event × Option Fault :=
  let (steps, fault) := cutAtFault (Program.walk env.config.initializerName program)
  let last := match fault with
    | some fault => LogEntry.aborted fault
    | none => LogEntry.finished
  (.log (.resolving program.length) :: ((run env steps ScopeStack.empty).1 ++ [.log last]),
    fault)

/-- The outcome of a program that could be walked to its end. -/
structure Resolution where
  depths : DepthTable
  report : Report
deriving DecidableEq, Inhabited

/-- Whether the program may run. Warnings never keep it from running. -/
def Resolution.canProceed (resolution : Resolution) : Bool :=
  !resolution.report.hasErrors

/-- Resolve a program. -/
def resolve (env : Environment) (program : Program) : Except Fault Resolution :=
  match observe env program with
  | (_, some fault) => .error fault
  | (events, none) => .ok ⟨DepthTable.empty.recordAll (depthsOf events), reportOf events⟩

end NameResolution
