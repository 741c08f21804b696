import NameResolution.Diagnostic.Description
import NameResolution.Toml.Table

/-!
# Problems with a settings document

A document may be well formed and still not hold settings: a key may be
unknown, or a value of the wrong type. Such a problem is shown with the line it
is in, and the place is marked below.
-/

namespace NameResolution

/-- What is wrong at a place of a settings document. -/
inductive ConfigCause where
  /-- The key is none of the expected ones. -/
  | unknownField (name : String) (expected : List String)
  /-- The value, described in words, is not of the expected type. -/
  | wrongType (found expected : String)
deriving DecidableEq, Inhabited

/-- A name between the marks that messages put around names. -/
def marked (name : String) : String := s!"`{name}`"

/-- What is wrong, in words. -/
def ConfigCause.text : ConfigCause → String
  | .unknownField name expected =>
    let names := ", ".intercalate (expected.map marked)
    s!"unknown field {marked name}, expected one of {names}"
  | .wrongType found expected => s!"invalid type: {found}, expected {expected}"

/-- Something wrong at a place of a settings document. -/
structure ConfigProblem where
  extent : Toml.Extent
  cause : ConfigCause
deriving DecidableEq, Inhabited

/-- The line of a document that a place is in. -/
structure SourceLine where
  /-- The number of the line, from one. -/
  number : Nat
  /-- The column of the place, in characters from one. -/
  column : Nat
  /-- The text of the line, without the line feed that ends it. -/
  text : List Char
deriving DecidableEq, Inhabited

namespace SourceLine

/-- The number of bytes that characters take. -/
def byteCount (text : List Char) : Nat :=
  text.foldl (fun count char => count + char.utf8Size) 0

/-- Go on to a place that lies `offset` bytes ahead. `seen` is the part of the
line that is behind, last character first. -/
def locateFrom (number : Nat) (seen : List Char) : (offset : Nat) → List Char → SourceLine
  | 0, rest => ⟨number, seen.length + 1, seen.reverse ++ rest.takeWhile (· != '\n')⟩
  | _ + 1, [] => ⟨number, seen.length + 1, seen.reverse⟩
  | offset + 1, char :: rest =>
    let left := offset + 1 - char.utf8Size
    if char == '\n' then locateFrom (number + 1) [] left rest
    else locateFrom number (char :: seen) left rest
  termination_by _ rest => rest.length

/-- The line that holds the byte at an offset. -/
def locate (source : String) (offset : Nat) : SourceLine :=
  locateFrom 1 [] offset source.toList

end SourceLine

namespace ConfigProblem

/-- How many marks stand below a line that a place begins in: one for each byte
of the place, as far as the line goes, and at least one. How far it goes counts
the bytes of the whole line less the characters before the place. -/
def markLength (extent : Toml.Extent) (line : SourceLine) : Nat :=
  let room := SourceLine.byteCount line.text - (line.column - 1)
  max 1 (min (extent.stop - extent.start) room)

/-- A problem as it is shown: where it is, the line with the place marked below,
and what is wrong. -/
def render (problem : ConfigProblem) (source : String) : String :=
  let line := SourceLine.locate source problem.extent.start
  let number := toString line.number
  let margin := String.ofList (List.replicate (number.length + 1) ' ')
  let indent := String.ofList (List.replicate line.column ' ')
  let mark := String.ofList (List.replicate (markLength problem.extent line) '^')
  let text := String.ofList line.text
  let cause := problem.cause.text
  s!"TOML parse error at line {number}, column {line.column}\n" ++
    s!"{margin}|\n{number} | {text}\n{margin}|{indent}{mark}\n{cause}\n"

end ConfigProblem

/-- A settings document that could not be used, with the report on it. -/
structure ConfigError where
  report : String
deriving DecidableEq, Inhabited

/-- How an unusable settings document is shown. -/
def ConfigError.describe (error : ConfigError) : Description :=
  ⟨s!"Invalid resolver configuration: {error.report}", "config_parse",
    some "check the TOML syntax and the field names", []⟩

end NameResolution
