import NameResolution.Syntax.Position

/-!
# Bindings

What a scope knows of one declared name. The state of a binding only ever
moves forward: declared, defined, read.
-/

namespace NameResolution

/-- How far a binding has come. -/
inductive BindingState where
  /-- The name is taken, and its first value is still being computed. -/
  | declared
  /-- The binding holds a value. -/
  | defined
  /-- The binding has been read. -/
  | read
deriving DecidableEq, Inhabited

namespace BindingState

/-- The position of a state on the way from declared to read. -/
def rank : BindingState → Nat
  | .declared => 0
  | .defined => 1
  | .read => 2

/-- The later of two states. -/
def later (left right : BindingState) : BindingState :=
  if left.rank < right.rank then right else left

/-- The later state has the greater rank. -/
@[simp] theorem rank_later (left right : BindingState) :
    (left.later right).rank = max left.rank right.rank := by
  cases left <;> cases right <;> rfl

end BindingState

/-- What is known of a declared name. -/
structure Binding where
  /-- Where the name is declared. -/
  span : Span
  state : BindingState
  /-- Whether the name may be assigned after its declaration. -/
  mutable : Bool
  /-- Whether the name is a member of a struct and not a local. -/
  member : Bool
deriving DecidableEq, Inhabited

namespace Binding

/-- A fresh declaration. -/
def declared (span : Span) (mutable member : Bool) : Binding :=
  ⟨span, .declared, mutable, member⟩

/-- The binding of `this` or `super`: immutable, and counted as read from the start. -/
def pseudo (span : Span) : Binding :=
  ⟨span, .read, false, false⟩

/-- Move forward to a state; a binding that is further stays where it is. -/
def advance (binding : Binding) (state : BindingState) : Binding :=
  { binding with state := binding.state.later state }

/-- The binding holds a value now. -/
def define (binding : Binding) : Binding :=
  binding.advance .defined

/-- The binding has been read now. -/
def markRead (binding : Binding) : Binding :=
  binding.advance .read

/-- Whether the first value is still being computed. -/
def isDeclaredOnly (binding : Binding) : Bool :=
  binding.state == .declared

/-- Whether the binding has been read. -/
def isRead (binding : Binding) : Bool :=
  binding.state == .read

end Binding

end NameResolution
