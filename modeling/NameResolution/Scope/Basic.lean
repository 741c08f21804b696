import NameResolution.Config.Basic
import NameResolution.Scope.Binding

/-!
# Scopes

A scope is a map from names to bindings that remembers the order in which its
names were first inserted.
-/

namespace NameResolution

/-- The bindings of one scope, in the order in which their names came in. -/
structure Scope where
  bindings : List (String × Binding)
deriving DecidableEq, Inhabited

namespace Scope

/-- The scope without bindings. -/
def empty : Scope := ⟨[]⟩

/-- The names of a scope, in the order in which they came in. -/
def names (scope : Scope) : List String :=
  scope.bindings.map Prod.fst

/-- The binding of a name. -/
def get? (scope : Scope) (name : String) : Option Binding :=
  scope.bindings.lookup name

/-- Put a binding under a name in a list of bindings. -/
def insertInto (name : String) (binding : Binding) :
    List (String × Binding) → List (String × Binding)
  | [] => [(name, binding)]
  | (other, old) :: rest =>
    if name == other then (other, binding) :: rest
    else (other, old) :: insertInto name binding rest

/-- Bind a name. A name that is bound already keeps its place and gets the new binding. -/
def insert (scope : Scope) (name : String) (binding : Binding) : Scope :=
  ⟨insertInto name binding scope.bindings⟩

/-- Change the binding of a name, if there is one. -/
def modify (scope : Scope) (name : String) (change : Binding → Binding) : Scope :=
  ⟨scope.bindings.map fun (other, binding) =>
    if name == other then (other, change binding) else (other, binding)⟩

/-- How many names are bound. -/
def size (scope : Scope) : Nat := scope.bindings.length

/-- Whether no name is bound. -/
def isEmpty (scope : Scope) : Bool := scope.bindings.isEmpty

/-- Whether a binding deserves a warning when its scope closes: it holds a
value that nobody read, it is no struct member, and its name is not marked as
intentionally unused. -/
def isUnused (unusedPrefix : String) (name : String) (binding : Binding) : Bool :=
  binding.state == .defined && !binding.member && !isDiscardedBy unusedPrefix name

/-- The bindings that deserve a warning, in order. -/
def unused (scope : Scope) (unusedPrefix : String) : List (String × Binding) :=
  scope.bindings.filter fun (name, binding) => isUnused unusedPrefix name binding

end Scope

end NameResolution
