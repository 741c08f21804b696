import NameResolution.Diagnostic.Report
import NameResolution.DepthTable
import NameResolution.Natives

/-!
# Events

All that an observer sees of a run, in the order in which it happens: lines
of the log, questions to the runtime, diagnostics, and the depths of resolved
references. The report and the depth table of a run are views of its events.
-/

namespace NameResolution

/-- How much detail a line of the log gives. -/
inductive LogLevel where
  | debug
  | trace
deriving DecidableEq, Inhabited

/-- What a line of the log says. -/
inductive LogEntry where
  /-- A run begins on a program of so many top-level statements. -/
  | resolving (statements : Nat)
  /-- A scope was opened; so many are open now. -/
  | pushScope (depth : Nat)
  /-- A scope was closed; so many were open, and it bound so many names. -/
  | popScope (depth bindings : Nat)
  /-- A reference was found so many scopes out. -/
  | resolvedAt (node : NodeId) (name : String) (depth : Nat)
  /-- A reference means a global. -/
  | resolvedGlobal (node : NodeId) (name : String)
  /-- A fault ended the run. -/
  | aborted (fault : Fault)
  /-- The run came to its end. -/
  | finished
deriving DecidableEq, Inhabited

namespace LogEntry

/-- The beginning and the end of a run are of interest more often than its steps. -/
def level : LogEntry → LogLevel
  | .resolving _ => .debug
  | .pushScope _ => .trace
  | .popScope _ _ => .trace
  | .resolvedAt _ _ _ => .trace
  | .resolvedGlobal _ _ => .trace
  | .aborted _ => .debug
  | .finished => .debug

/-- The text of a line. -/
def text : LogEntry → String
  | .resolving statements => s!"resolving {statements} top-level statements"
  | .pushScope depth => s!"push scope (depth {depth})"
  | .popScope depth bindings => s!"pop scope (depth {depth}, {bindings} bindings)"
  | .resolvedAt node name depth => s!"{node.text} `{name}` resolved at depth {depth}"
  | .resolvedGlobal node name => s!"{node.text} `{name}` resolved as a global"
  | .aborted fault => s!"resolution aborted: {fault.describe.message}"
  | .finished => "resolution finished"

end LogEntry

/-- One thing that an observer sees. -/
inductive Event where
  | log (entry : LogEntry)
  | diagnostic (found : Diagnostic)
  /-- A reference means the binding this many scopes out. -/
  | depth (node : NodeId) (hops : Nat)
  /-- The runtime was asked for a foreign name and answered. -/
  | asked (kind : ForeignKind) (name : String) (answer : Bool)
deriving DecidableEq, Inhabited

namespace Event

/-- The event of an error. -/
def error (cause : ResolutionError) : Event := .diagnostic (.error cause)

/-- The event of a warning. -/
def warning (cause : Warning) : Event := .diagnostic (.warning cause)

/-- The diagnostic in an event, if it is one. -/
def diagnostic? : Event → Option Diagnostic
  | .diagnostic found => some found
  | _ => none

/-- The depth in an event, if it is one. -/
def depth? : Event → Option (NodeId × Nat)
  | .depth node hops => some (node, hops)
  | _ => none

end Event

/-- The diagnostics among events, in order. -/
def reportOf (events : List Event) : Report :=
  events.filterMap Event.diagnostic?

/-- The depths among events, in order. -/
def depthsOf (events : List Event) : List (NodeId × Nat) :=
  events.filterMap Event.depth?

/-- Enter depths into a table, in order. -/
def DepthTable.recordAll (table : DepthTable) (depths : List (NodeId × Nat)) : DepthTable :=
  depths.foldl (fun table (node, depth) => table.record node depth) table

end NameResolution
