/-!
# Enclosing constructs

What the innermost enclosing function, class and struct are, each in a slot of
its own. Entering a construct gives the context inside it; the context outside
is the one the caller still holds.
-/

namespace NameResolution

/-- The innermost enclosing function. -/
inductive FunctionKind where
  | none
  | function
  | method
  | initializer
deriving DecidableEq, Inhabited

/-- The innermost enclosing class. -/
inductive ClassKind where
  | none
  | base
  | subclass
deriving DecidableEq, Inhabited

/-- The innermost enclosing struct body, if no function lies between. -/
inductive StructKind where
  | none
  | struct
deriving DecidableEq, Inhabited

/-- The innermost enclosing constructs. -/
structure Context where
  function : FunctionKind
  cls : ClassKind
  struct : StructKind
deriving DecidableEq, Inhabited

namespace Context

/-- Outside of every construct. -/
def outermost : Context := ⟨.none, .none, .none⟩

/-- The context inside a function. -/
def enterFunction (context : Context) (kind : FunctionKind) : Context :=
  { context with function := kind }

/-- The context inside a class. -/
def enterClass (context : Context) (kind : ClassKind) : Context :=
  { context with cls := kind }

/-- The context inside a struct. -/
def enterStruct (context : Context) (kind : StructKind) : Context :=
  { context with struct := kind }

/-- Whether some function encloses. -/
def inFunction (context : Context) : Bool := context.function != .none

/-- Whether some class encloses. -/
def inClass (context : Context) : Bool := context.cls != .none

/-- Whether a struct body encloses. -/
def inStruct (context : Context) : Bool := context.struct != .none

end Context

end NameResolution
