import NameResolution.Toml.DateTime
import NameResolution.Toml.Number
import NameResolution.Toml.Quoted
import NameResolution.Toml.Table

/-!
# Keys and values

What stands on the two sides of an equals sign. Arrays may run over several
lines and may end in a comma; tables in braces stand on one line and may not.
-/

namespace NameResolution.Toml

/-- Paths of keys, and containers within one another, go less than this deep. -/
def depthLimit : Nat := 80

namespace Reader

/-- Whether a character may stand in a key without quotes. -/
def isKeyChar (char : Char) : Bool :=
  char.isAlphanum || char == '_' || char == '-'

/-- A key without quotes. -/
def bareKey : Reader String := do
  let name ← charsWhile isKeyChar
  require !name.isEmpty
  return String.ofList name

/-- One key. -/
def key : Reader Key := do
  let (text, extent) ← withExtent (quotedLine '"' <|> quotedLine '\'' <|> bareKey)
  return ⟨text, extent⟩

/-- Keys with points between them: all but the last, and the last. -/
def keyPath : Reader (List Key × Key) := do
  let keys ← separated '.' do
    blanks
    let key ← key
    blanks
    return key
  require (keys.length < depthLimit)
  match keys.getLast? with
  | some last => return (keys.dropLast, last)
  | none => failure

/-- A value without parts. -/
def scalar : Reader Item := do
  let (value, extent) ← withExtent <|
    Scalar.string <$> quoted <|>
    (do dateTime; return .dateTime) <|>
    Scalar.float <$> float <|>
    Scalar.integer <$> integer <|>
    (do chars "true".toList; return .boolean true) <|>
    (do chars "false".toList; return .boolean false)
  return .scalar value extent

/-- An array of items. -/
def array (item : Reader Item) : Reader Item := do
  let (elements, extent) ← withExtent do
    char '['
    let elements ← optional do
      let elements ← separated ',' do
        blankLines
        let item ← item
        blankLines
        return item
      let _ ← optional (char ',')
      return elements
    blankLines
    char ']'
    return elements.getD []
  return .array elements extent

/-- A key path and the item assigned to it. -/
def assignment (item : Reader Item) : Reader (List Key × Key × Item) := do
  let (path, key) ← keyPath
  char '='
  blanks
  let item ← item
  return (path, key, item)

/-- Put assignments into a table, one after another. -/
def fill (table : Table) (assignments : List (List Key × Key × Item)) : Reader Table := do
  match assignments.foldlM (fun table (path, key, item) => table.insert path key item) table with
  | some table => return table
  | none => failure

/-- A table in braces. -/
def bracedTable (item : Reader Item) : Reader Item := do
  let (assignments, extent) ← withExtent do
    char '\x7b'
    let assignments ← optional <| separated ',' do
      let assignment ← assignment item
      blanks
      return assignment
    blanks
    char '\x7d'
    return assignments.getD []
  let table ← fill ⟨.braces extent, []⟩ assignments
  return .table table

/-- A value with containers up to so many levels deep. -/
def value : (levels : Nat) → Reader Item
  | 0 => scalar
  | levels + 1 => array (value levels) <|> bracedTable (value levels) <|> scalar

end Reader

end NameResolution.Toml
