import NameResolution.Syntax.Position

/-!
# Descriptions of problems

What a reader of a report is shown of a problem, whatever its cause: a
message, a code to look it up by, places in the program with a note at each,
and sometimes advice.
-/

namespace NameResolution

/-- A note at a place of the program. -/
structure Label where
  text : String
  span : Span
deriving DecidableEq, Inhabited

/-- A problem as it is shown. -/
structure Description where
  message : String
  /-- The code of the problem without its common part. -/
  topic : String
  help : Option String
  labels : List Label
deriving DecidableEq, Inhabited

/-- The full code of a problem. -/
def Description.code (description : Description) : String :=
  "vesper_resolve::" ++ description.topic

end NameResolution
