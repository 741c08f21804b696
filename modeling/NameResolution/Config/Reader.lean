import NameResolution.Config.Basic
import NameResolution.Config.Problem
import NameResolution.Decimal.Shortest
import NameResolution.Text.Quoted
import NameResolution.Toml.Document

/-!
# Settings from a document

A document names the settings that differ from the standard ones. It is read
in its own order, and the first problem is the one that is reported.
-/

namespace NameResolution

/-- A value in the words of a message. -/
def Toml.Scalar.text : Toml.Scalar → String
  | .string text => s!"string {Text.quote text}"
  | .integer value => s!"integer `{value}`"
  | .float value => s!"floating point `{Decimal.floatText value}`"
  | .boolean value => s!"boolean `{value}`"
  | .dateTime => "map"

/-- An item in the words of a message. -/
def Toml.Item.text : Toml.Item → String
  | .scalar value _ => value.text
  | .array _ _ => "sequence"
  | .table _ => "map"
  | .tables _ => "sequence"

namespace Config

/-- The outcome of reading a part of a document. -/
abbrev Reading := Except ConfigProblem

/-- An item is not of the expected type. One without a place of its own is
reported at `extent`. -/
def wrongType {α : Type} (extent : Toml.Extent) (item : Toml.Item) (expected : String) :
    Reading α :=
  .error ⟨item.extent?.getD extent, .wrongType item.text expected⟩

/-- Read a text. -/
def readString (extent : Toml.Extent) : Toml.Item → Reading String
  | .scalar (.string text) _ => .ok text
  | item => wrongType extent item "a string"

/-- Read a truth value. -/
def readFlag (extent : Toml.Extent) : Toml.Item → Reading Bool
  | .scalar (.boolean value) _ => .ok value
  | item => wrongType extent item "a boolean"

/-- Read a set of names. -/
def readNames (extent : Toml.Extent) : Toml.Item → Reading NameSet
  | .array elements _ => NameSet.ofList <$> elements.mapM (readString extent)
  | .tables elements => NameSet.ofList <$> (elements.map .table).mapM (readString extent)
  | item => wrongType extent item "a sequence"

/-- The keys of the switches for warnings, in order. -/
def lintFields : List String := ["unused", "shadowing", "unreachable"]

/-- Read one switch by its key. -/
def readLint (lints : Lints) (entry : Toml.Entry) : Reading Lints := do
  let extent := entry.key.extent
  match entry.key.text with
  | "unused" => return { lints with unused := ← readFlag extent entry.item }
  | "shadowing" => return { lints with shadowing := ← readFlag extent entry.item }
  | "unreachable" => return { lints with unreachable := ← readFlag extent entry.item }
  | name => throw ⟨extent, .unknownField name lintFields⟩

/-- Read switches by their position. Those that are missing stay as they are,
and what comes after the last is ignored. -/
def readLintList (extent : Toml.Extent) (lints : Lints) (items : List Toml.Item) :
    Reading Lints := do
  let flag (position : Nat) (standard : Bool) : Reading Bool :=
    match items[position]? with
    | some item => readFlag extent item
    | none => .ok standard
  let unused ← flag 0 lints.unused
  let shadowing ← flag 1 lints.shadowing
  let unreachable ← flag 2 lints.unreachable
  return ⟨unused, shadowing, unreachable⟩

/-- The key under which a date would show its text. -/
def dateKey : String := "$__toml_private_datetime"

/-- Read the switches for warnings, by key or by position. -/
def readLints (extent : Toml.Extent) : Toml.Item → Reading Lints
  | .table table => table.entries.foldlM readLint Lints.all
  | .array elements _ => readLintList extent Lints.all elements
  | .tables elements => readLintList extent Lints.all (elements.map .table)
  | .scalar .dateTime place => .error ⟨place, .unknownField dateKey lintFields⟩
  | item => wrongType extent item "struct LintConfig"

/-- The keys of the settings, in order. -/
def fields : List String := ["globals", "unused_prefix", "initializer_name", "lints"]

/-- Read one setting by its key. -/
def readField (config : Config) (entry : Toml.Entry) : Reading Config := do
  let extent := entry.key.extent
  match entry.key.text with
  | "globals" => return { config with globals := ← readNames extent entry.item }
  | "unused_prefix" => return { config with unusedPrefix := ← readString extent entry.item }
  | "initializer_name" =>
    return { config with initializerName := ← readString extent entry.item }
  | "lints" => return { config with lints := ← readLints extent entry.item }
  | name => throw ⟨extent, .unknownField name fields⟩

/-- Why a text gives no settings. -/
inductive Rejection where
  /-- The text is not a document. -/
  | malformed
  /-- The document does not hold settings. -/
  | unusable (error : ConfigError)
deriving DecidableEq, Inhabited

/-- The settings a document writes. -/
def ofToml (source : String) : Except Rejection Config :=
  match Toml.parse source with
  | none => .error .malformed
  | some table =>
    (table.entries.foldlM readField standard).mapError fun problem =>
      .unusable ⟨problem.render source⟩

end Config

end NameResolution
