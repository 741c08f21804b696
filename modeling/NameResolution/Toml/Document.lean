import NameResolution.Toml.Value

/-!
# Documents

A document is read line by line. A header begins a table, and the assignments
that follow go into it; when the next header or the end comes, the table takes
its place among the others.
-/

namespace NameResolution.Toml

/-- A document that is read up to some line. -/
structure Outline where
  /-- The tables that are complete. -/
  root : Table
  /-- The table that assignments go into. -/
  current : Table
  /-- Where that table belongs; at first it is the document's own. -/
  place : Option (List Key × Key)
  /-- Whether it is one of several tables of its name. -/
  repeated : Bool

namespace Outline

/-- Nothing has been read. -/
def start : Outline := ⟨⟨.path, []⟩, ⟨.path, []⟩, none, false⟩

/-- All tables, the current one in its place. -/
def close (outline : Outline) : Option Table :=
  match outline.place with
  | none => some outline.current
  | some (path, key) => do
    let (_, root) ← outline.root.inside false (fun parent =>
      if outline.repeated then
        match parent.find? key.text with
        | some (.tables elements) =>
          some ((), parent.replace key.text (.tables (elements ++ [outline.current])))
        | _ => none
      else some ((), parent.append key (.table outline.current))) path
    return root

/-- Begin a table under a header. A table that was so far only on the path of
other headers keeps what it holds. -/
def openTable (outline : Outline) (path : List Key) (key : Key) (extent : Extent) :
    Option Outline := do
  let root ← outline.close
  let (entries, root) ← root.inside false (fun parent =>
    match parent.find? key.text with
    | none => some ([], parent)
    | some (.table table) =>
      if table.origin == .path then some (table.entries, parent.erase key.text) else none
    | some _ => none) path
  return ⟨root, ⟨.header extent, entries⟩, some (path, key), false⟩

/-- Begin one more table of a name that stands in double brackets. -/
def openRepeated (outline : Outline) (path : List Key) (key : Key) (extent : Extent) :
    Option Outline := do
  let root ← outline.close
  let (_, root) ← root.inside false (fun parent =>
    match parent.find? key.text with
    | none => some ((), parent.append key (.tables []))
    | some (.tables _) => some ((), parent)
    | some _ => none) path
  return ⟨root, ⟨.header extent, []⟩, some (path, key), true⟩

/-- Put an assignment into the current table. The place of a table under a
header reaches to the last value assigned in it. -/
def assign (outline : Outline) (path : List Key) (key : Key) (item : Item) : Option Outline := do
  let origin := match outline.current.origin, item.extent? with
    | .header extent, some value => .header ⟨extent.start, value.stop⟩
    | origin, _ => origin
  let current ← Table.insert { outline.current with origin } path key item
  return { outline with current }

end Outline

namespace Reader

/-- The result of a check that may fail. -/
def ofOption {α : Type} (result : Option α) : Reader α := fun cursor =>
  result.map (·, cursor)

/-- A header in double brackets. -/
def repeatedHeader (outline : Outline) : Reader Outline := do
  let ((path, key), extent) ← withExtent do
    chars ['[', '[']
    let keys ← keyPath
    chars [']', ']']
    return keys
  restOfLine
  ofOption (outline.openRepeated path key extent)

/-- A header in single brackets. -/
def header (outline : Outline) : Reader Outline := do
  let ((path, key), extent) ← withExtent do
    char '['
    let keys ← keyPath
    char ']'
    return keys
  restOfLine
  ofOption (outline.openTable path key extent)

/-- An assignment on a line of its own. -/
def assignmentLine (outline : Outline) : Reader Outline := do
  let (path, key, item) ← assignment (value (depthLimit - 1))
  restOfLine
  ofOption (outline.assign path key item)

/-- A line without an assignment or a header. -/
def emptyLine (outline : Outline) : Reader Outline := do
  match ← optional comment with
  | some _ => lineEnd
  | none => newline
  return outline

/-- One line of a document, without the blanks it begins with. -/
def line (outline : Outline) : Reader Outline := do
  blanks
  let outline ← emptyLine outline <|> repeatedHeader outline <|> header outline <|> assignmentLine outline
  return outline

/-- A whole document. A byte order mark may come first. -/
def document : Reader Table := do
  let _ ← optional (char '\uFEFF')
  let outline ← iterate line Outline.start
  blanks
  atEnd
  ofOption outline.close

end Reader

/-- The table that a document writes, if the text is a document. -/
def parse (source : String) : Option Table :=
  (Reader.document (Cursor.start source)).map Prod.fst

end NameResolution.Toml
