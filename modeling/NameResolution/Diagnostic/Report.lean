import NameResolution.Diagnostic.Error

/-!
# Reports

The errors and warnings of a run in the order in which they were found.
-/

namespace NameResolution

/-- An error or a warning. -/
inductive Diagnostic where
  | error (cause : ResolutionError)
  | warning (cause : Warning)
deriving DecidableEq, Inhabited

namespace Diagnostic

/-- The place a diagnostic is about. -/
def span : Diagnostic → Span
  | .error cause => cause.span
  | .warning cause => cause.span

/-- How a diagnostic is shown. -/
def describe : Diagnostic → Description
  | .error cause => cause.describe
  | .warning cause => cause.describe

/-- Whether a diagnostic keeps the program from running. -/
def isError : Diagnostic → Bool
  | .error _ => true
  | .warning _ => false

/-- The line a report shows for a diagnostic. -/
def line : Diagnostic → String
  | .error cause => s!"error: {cause.describe.message}\n"
  | .warning cause => s!"warning: {cause.describe.message}\n"

end Diagnostic

/-- Diagnostics in the order in which they were found. -/
abbrev Report := List Diagnostic

namespace Report

/-- Add an error at the end. -/
def reportError (report : Report) (error : ResolutionError) : Report :=
  report ++ [.error error]

/-- Add a warning at the end. -/
def warn (report : Report) (warning : Warning) : Report :=
  report ++ [.warning warning]

/-- Whether some diagnostic keeps the program from running. -/
def hasErrors (report : Report) : Bool :=
  report.any Diagnostic.isError

/-- The errors, in order. -/
def errors (report : Report) : List ResolutionError :=
  report.filterMap fun
    | .error cause => some cause
    | .warning _ => none

/-- The warnings, in order. -/
def warnings (report : Report) : List Warning :=
  report.filterMap fun
    | .error _ => none
    | .warning cause => some cause

/-- One line for each diagnostic. -/
def render (report : Report) : String :=
  String.join (report.map Diagnostic.line)

end Report

end NameResolution
