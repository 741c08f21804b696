import Std.Data.ExtTreeSet

/-!
# Names of the runtime

The runtime provides three lists of names: globals, which a program may use
without declaring them, and the functions and variables that a program has to
declare as foreign before it uses them. Functions and variables are two
separate namespaces.
-/

namespace NameResolution

/-- A finite set of names. Two sets with the same members are equal. -/
abbrev NameSet := Std.ExtTreeSet String

/-- The set of the names in a list. -/
def NameSet.ofList (names : List String) : NameSet :=
  names.foldl (fun set name => set.insert name) ∅

/-- Names that need no declaration. -/
def globalNames : List String :=
  ["clock", "len", "push", "pop", "str", "num", "input", "sqrt", "abs", "min", "max", "type_of"]

/-- Foreign functions that the standard runtime implements. -/
def nativeFunctions : List String :=
  ["read_file", "write_file", "random", "sleep", "exit", "env"]

/-- Foreign variables that the standard runtime supplies. -/
def nativeVariables : List String :=
  ["ARGS", "PI", "E", "VERSION"]

/-- The two namespaces of foreign names. -/
inductive ForeignKind where
  | function
  | variable
deriving DecidableEq, Inhabited

/-- The word for a kind of foreign name. -/
def ForeignKind.text : ForeignKind → String
  | .function => "function"
  | .variable => "variable"

/-- The question that name resolution asks of a runtime: does it back the
foreign function, or the foreign variable, of this name? -/
abbrev ForeignNames := ForeignKind → String → Bool

/-- One foreign name that a runtime offers. -/
structure Registration where
  kind : ForeignKind
  name : String
deriving DecidableEq, Inhabited

/-- What is logged when a foreign name is registered. -/
def Registration.message (registration : Registration) : String :=
  s!"registering foreign {registration.kind.text} `{registration.name}`"

/-- The foreign names a runtime offers. -/
structure NativeRegistry where
  functionNames : NameSet
  variableNames : NameSet
deriving DecidableEq

namespace NativeRegistry

/-- The registry that offers nothing. -/
def empty : NativeRegistry := ⟨∅, ∅⟩

/-- Offer one more name. Registering a name again changes nothing. -/
def register (registry : NativeRegistry) (registration : Registration) : NativeRegistry :=
  match registration.kind with
  | .function =>
    { registry with functionNames := registry.functionNames.insert registration.name }
  | .variable =>
    { registry with variableNames := registry.variableNames.insert registration.name }

/-- Offer every name of a list, in order. -/
def registerAll (registry : NativeRegistry) (registrations : List Registration) :
    NativeRegistry :=
  registrations.foldl register registry

/-- Whether a name of the given kind is offered. -/
def offers (registry : NativeRegistry) : ForeignNames
  | .function, name => registry.functionNames.contains name
  | .variable, name => registry.variableNames.contains name

/-- How many functions are offered. -/
def functionCount (registry : NativeRegistry) : Nat := registry.functionNames.size

/-- How many variables are offered. -/
def variableCount (registry : NativeRegistry) : Nat := registry.variableNames.size

end NativeRegistry

/-- Registrations of functions, then of variables, each in list order. -/
def registrations (functionNames variableNames : List String) : List Registration :=
  functionNames.map (Registration.mk .function) ++ variableNames.map (Registration.mk .variable)

/-- What the standard runtime registers. -/
def standardRegistrations : List Registration :=
  registrations nativeFunctions nativeVariables

/-- The registry of the standard runtime. -/
def NativeRegistry.standard : NativeRegistry :=
  NativeRegistry.empty.registerAll standardRegistrations

end NameResolution
