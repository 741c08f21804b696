import NameResolution.Scope.Basic

/-!
# Stacks of scopes

The scopes that are open at a point of a program, innermost first. A name
means its binding in the first scope that has one, and the number of scopes
skipped on the way is the depth of the reference.
-/

namespace NameResolution

/-- The open scopes, innermost first. -/
structure ScopeStack where
  scopes : List Scope
deriving DecidableEq, Inhabited

namespace ScopeStack

/-- No open scope. -/
def empty : ScopeStack := ⟨[]⟩

/-- How many scopes are open. -/
def depth (stack : ScopeStack) : Nat := stack.scopes.length

/-- Whether no scope is open. -/
def isEmpty (stack : ScopeStack) : Bool := stack.scopes.isEmpty

/-- Open an empty scope inside the others. -/
def push (stack : ScopeStack) : ScopeStack := ⟨Scope.empty :: stack.scopes⟩

/-- The innermost scope. -/
def innermost? (stack : ScopeStack) : Option Scope := stack.scopes.head?

/-- What remains when the innermost scope is closed. -/
def pop (stack : ScopeStack) : ScopeStack := ⟨stack.scopes.tail⟩

/-- Change the innermost scope, if there is one. -/
def modifyInnermost (stack : ScopeStack) (change : Scope → Scope) : ScopeStack :=
  match stack.scopes with
  | [] => stack
  | scope :: outer => ⟨change scope :: outer⟩

/-- The binding of a name in the innermost scope. -/
def getInnermost? (stack : ScopeStack) (name : String) : Option Binding :=
  stack.innermost?.bind (·.get? name)

/-- Look a name up from the inside out: how many scopes were left, and the binding. -/
def findIn (name : String) : List Scope → Option (Nat × Binding)
  | [] => none
  | scope :: outer =>
    match scope.get? name with
    | some binding => some (0, binding)
    | none => (findIn name outer).map fun (hops, binding) => (hops + 1, binding)

/-- The innermost binding of a name, with the number of scopes left to reach it. -/
def find? (stack : ScopeStack) (name : String) : Option (Nat × Binding) :=
  findIn name stack.scopes

/-- Change the binding that a look-up from the inside out finds: how many scopes
were left, the changed binding, and the scopes with the change made. -/
def updateIn (name : String) (change : Binding → Binding) :
    List Scope → Option (Nat × Binding × List Scope)
  | [] => none
  | scope :: outer =>
    match scope.get? name with
    | some binding => some (0, change binding, scope.modify name change :: outer)
    | none =>
      (updateIn name change outer).map fun (hops, binding, outer) =>
        (hops + 1, binding, scope :: outer)

/-- Change the innermost binding of a name: the number of scopes left to reach
it, the changed binding, and the stack with the change made. -/
def update? (stack : ScopeStack) (name : String) (change : Binding → Binding) :
    Option (Nat × Binding × ScopeStack) :=
  (updateIn name change stack.scopes).map fun (hops, binding, scopes) =>
    (hops, binding, ⟨scopes⟩)

/-- The innermost binding of a name outside the innermost scope. That scope comes first, so
those outside it are the tail: all scopes but one, and none where none is open. -/
def findEnclosing? (stack : ScopeStack) (name : String) : Option Binding :=
  (findIn name stack.scopes.tail).map Prod.snd

end ScopeStack

end NameResolution
