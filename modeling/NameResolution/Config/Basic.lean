import NameResolution.Natives

/-!
# Settings

The settings of one run: the names that need no declaration, the names that
are meant to be unused, the method that initializes an instance, and the three
advisory checks that can be switched off.
-/

namespace NameResolution

/-- Switches for the advisory warnings. Errors cannot be switched off. -/
structure Lints where
  unused : Bool
  shadowing : Bool
  unreachable : Bool
deriving DecidableEq, Inhabited

/-- Every warning is given. -/
def Lints.all : Lints := ⟨true, true, true⟩

/-- The settings of one run. -/
structure Config where
  /-- Names that resolve without a declaration. -/
  globals : NameSet
  /-- Names that start with this are never reported as unused and can never
  be read. The empty text switches the convention off. -/
  unusedPrefix : String
  /-- The method of this name initializes an instance of its class. -/
  initializerName : String
  lints : Lints
deriving DecidableEq

/-- Whether `name` starts with `start`, character by character. -/
def startsWith (start name : String) : Bool :=
  start.toList.isPrefixOf name.toList

/-- Whether the prefix marks `name` as intentionally unused. The empty prefix
marks no name. -/
def isDiscardedBy (unusedPrefix name : String) : Bool :=
  !unusedPrefix.isEmpty && startsWith unusedPrefix name

namespace Config

/-- The settings in force where nothing is said. -/
def standard : Config where
  globals := NameSet.ofList globalNames
  unusedPrefix := "_"
  initializerName := "init"
  lints := Lints.all

instance : Inhabited Config := ⟨standard⟩

/-- The same settings with one more global. -/
def withGlobal (config : Config) (name : String) : Config :=
  { config with globals := config.globals.insert name }

/-- Whether a name resolves without a declaration. -/
def isGlobal (config : Config) (name : String) : Bool :=
  config.globals.contains name

/-- Whether a name is intentionally unused. -/
def isDiscarded (config : Config) (name : String) : Bool :=
  isDiscardedBy config.unusedPrefix name

end Config

end NameResolution
