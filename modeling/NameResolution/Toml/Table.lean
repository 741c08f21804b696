import NameResolution.Toml.Reader

/-!
# Tables

A document is a table of named items, some of which are tables again. A table
may be written in four ways, and how it was written decides what may be added
to it later: a table under a header of its own or in braces is complete, one
that only the path of a header or a dotted key mentions is still open.
-/

namespace NameResolution.Toml

/-- A name and the place where it is written, with its quotes if it has any. -/
structure Key where
  text : String
  extent : Extent
deriving DecidableEq, Inhabited

/-- A value without parts. Nothing looks into dates and times. -/
inductive Scalar where
  | string (text : String)
  | integer (value : Int)
  | float (value : Float)
  | boolean (value : Bool)
  | dateTime
deriving Inhabited

/-- How a table came to be. -/
inductive Origin where
  /-- Under a header of its own. -/
  | header (extent : Extent)
  /-- In braces. -/
  | braces (extent : Extent)
  /-- The path of a header goes through it. -/
  | path
  /-- A dotted key goes through it. -/
  | dotted
deriving DecidableEq, Inhabited

mutual

/-- A value under a key. -/
inductive Item where
  | scalar (value : Scalar) (extent : Extent)
  | array (elements : List Item) (extent : Extent)
  | table (inner : Table)
  /-- Tables under headers of the same name in double brackets. -/
  | tables (elements : List Table)

/-- Named items in the order in which their names came in. -/
structure Table where
  origin : Origin
  entries : List Entry

/-- An item and its name. -/
structure Entry where
  key : Key
  item : Item

end

instance : Inhabited Table := ⟨⟨.path, []⟩⟩
instance : Inhabited Item := ⟨.array [] default⟩

/-- The place of a table that has one. -/
def Origin.extent? : Origin → Option Extent
  | .header extent => some extent
  | .braces extent => some extent
  | .path => none
  | .dotted => none

/-- The place of an item that has one. A table that is only mentioned has none. -/
def Item.extent? : Item → Option Extent
  | .scalar _ extent => some extent
  | .array _ extent => some extent
  | .table inner => inner.origin.extent?
  | .tables elements => do
    let first ← elements.head?
    let last ← elements.getLast?
    return ⟨(← first.origin.extent?).start, (← last.origin.extent?).stop⟩

/-- Whether what a path leads on to may be inside a table of this origin. A
dotted key may only go through tables that are still open; the path of a header
may go through any but one in braces. -/
def Origin.admits (origin : Origin) (dotted : Bool) : Bool :=
  match origin with
  | .header _ => !dotted
  | .braces _ => false
  | .path => true
  | .dotted => true

namespace Table

/-- The item under a name. -/
def find? (table : Table) (name : String) : Option Item :=
  (table.entries.find? (·.key.text == name)).map Entry.item

/-- Add an item at the end. -/
def append (table : Table) (key : Key) (item : Item) : Table :=
  { table with entries := table.entries ++ [⟨key, item⟩] }

/-- Replace the item under a name, in its place. -/
def replace (table : Table) (name : String) (item : Item) : Table :=
  { table with
    entries := table.entries.map fun entry =>
      if entry.key.text == name then { entry with item } else entry }

/-- Take a name out. -/
def erase (table : Table) (name : String) : Table :=
  { table with entries := table.entries.filter (·.key.text != name) }

/-- Change the table at the end of a path, making the tables that are missing on
the way. A path through tables of one name goes through the last of them. -/
def inside {α : Type} (dotted : Bool) (change : Table → Option (α × Table)) :
    List Key → Table → Option (α × Table)
  | [], table => change table
  | key :: rest, table =>
    match table.find? key.text with
    | none => do
      let (result, inner) ← inside dotted change rest ⟨if dotted then .dotted else .path, []⟩
      return (result, table.append key (.table inner))
    | some (.table inner) =>
      if inner.origin.admits dotted then do
        let (result, inner) ← inside dotted change rest inner
        return (result, table.replace key.text (.table inner))
      else none
    | some (.tables elements) => do
      let (result, last) ← inside dotted change rest (← elements.getLast?)
      return (result, table.replace key.text (.tables (elements.dropLast ++ [last])))
    | some _ => none

/-- Add an item under a name, behind a dotted path that may be empty. The name
must be new, and a path must not end in a table that the path of a header made. -/
def insert (table : Table) (path : List Key) (key : Key) (item : Item) : Option Table := do
  let (_, table) ← table.inside true (fun target => do
    guard (path.isEmpty || target.origin == .dotted)
    guard (target.find? key.text).isNone
    return ((), target.append key item)) path
  return table

end Table

end NameResolution.Toml
