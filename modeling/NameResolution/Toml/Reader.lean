/-!
# Readers

A reader takes text from the front of what is left of a document and gives a
result, or fails. Places are counted in bytes of the document's encoding.
-/

namespace NameResolution.Toml

/-- A stretch of a document: the offset of its first byte and the one after its last. -/
structure Extent where
  start : Nat
  stop : Nat
deriving DecidableEq, Inhabited

/-- A place in a document: the bytes before it, the bytes of the whole document,
and the text that follows. -/
structure Cursor where
  offset : Nat
  size : Nat
  rest : List Char

/-- The beginning of a document. -/
def Cursor.start (source : String) : Cursor :=
  ⟨0, source.utf8ByteSize, source.toList⟩

/-- How many bytes follow. Nothing can be read more often than this. -/
def Cursor.left (cursor : Cursor) : Nat := cursor.size - cursor.offset

/-- The place after a character. -/
def Cursor.past (cursor : Cursor) (char : Char) (rest : List Char) : Cursor :=
  { cursor with offset := cursor.offset + char.utf8Size, rest }

/-- A reader of values of type `α`. -/
abbrev Reader := StateT Cursor Option

namespace Reader

/-- The next character, which is left in place. -/
def peek? : Reader (Option Char) := fun cursor => some (cursor.rest.head?, cursor)

/-- Take one character of a class. -/
def charWhere (accepts : Char → Bool) : Reader Char := fun cursor =>
  match cursor.rest with
  | [] => none
  | char :: rest =>
    if accepts char then some (char, cursor.past char rest) else none

/-- Take a given character. -/
def char (expected : Char) : Reader Unit := do
  let _ ← charWhere (· == expected)

/-- Take given characters, one after another. -/
def chars : List Char → Reader Unit
  | [] => return
  | first :: rest => do
    char first
    chars rest

/-- Take every character of a class up to the first that is not. -/
def charsWhile (accepts : Char → Bool) : Reader (List Char) := fun cursor =>
  let taken := cursor.rest.takeWhile accepts
  let bytes := taken.foldl (fun bytes char => bytes + char.utf8Size) 0
  some (taken, { cursor with
    offset := cursor.offset + bytes, rest := cursor.rest.drop taken.length })

/-- Read what a reader reads and put it back. -/
def lookAhead {α : Type} (reader : Reader α) : Reader α := fun cursor =>
  (reader cursor).map fun (value, _) => (value, cursor)

/-- Succeed at the end of the document only. -/
def atEnd : Reader Unit := do
  guard (← peek?).isNone

/-- Fail unless something holds. -/
def require (holds : Bool) : Reader Unit := guard holds

/-- Read something together with the stretch it covers. -/
def withExtent {α : Type} (reader : Reader α) : Reader (α × Extent) := fun cursor =>
  (reader cursor).map fun (value, next) => ((value, ⟨cursor.offset, next.offset⟩), next)

/-- Read items one after another, up to the first that fails or to a limit. -/
def manyUpTo {α : Type} (item : Reader α) : (limit : Nat) → Reader (List α)
  | 0 => return []
  | limit + 1 => do
    match ← optional item with
    | none => return []
    | some value =>
      let others ← manyUpTo item limit
      return value :: others

/-- Read items one after another, as many as there are. Every item must take
something, so there are no more of them than bytes. -/
def many {α : Type} (item : Reader α) : Reader (List α) := fun cursor =>
  manyUpTo item cursor.left cursor

/-- Change a state by one step after another, up to the first that fails or to a limit. -/
def iterateUpTo {σ : Type} (step : σ → Reader σ) : (limit : Nat) → σ → Reader σ
  | 0, state => return state
  | limit + 1, state => do
    match ← optional (step state) with
    | none => return state
    | some next => iterateUpTo step limit next

/-- Change a state by as many steps as succeed. Every step must take something. -/
def iterate {σ : Type} (step : σ → Reader σ) (state : σ) : Reader σ := fun cursor =>
  iterateUpTo step cursor.left state cursor

/-- Read at least one item, with a separator between each two. A separator that
no item follows is left in place. -/
def separated {α : Type} (separator : Char) (item : Reader α) : Reader (List α) := do
  let first ← item
  let others ← many do
    char separator
    item
  return first :: others

end Reader

end NameResolution.Toml
