/-!
# Positions in a program

A node of a program tree is known by its number, and a piece of the program's
text by its span. Tables about a program are keyed by node number; messages
point at spans.
-/

namespace NameResolution

/-- A stretch of source text: the offset of its first unit and its length. -/
structure Span where
  offset : Nat
  length : Nat
deriving DecidableEq, Inhabited

/-- The number of one statement or expression node, a 32-bit word. -/
structure NodeId where
  val : UInt32
deriving DecidableEq, Inhabited

namespace NodeId

/-- Nodes are ordered by number. -/
instance : Ord NodeId := ⟨compareOn NodeId.val⟩

instance : Std.TransOrd NodeId := inferInstanceAs (Std.TransCmp (compareOn NodeId.val))

/-- Only a node itself has its number. -/
instance : Std.LawfulEqOrd NodeId where
  eq_of_compare {a b} equal := by
    have values : compare a.val b.val = .eq := equal
    cases a; cases b
    exact congrArg NodeId.mk (Std.LawfulEqCmp.eq_of_compare values)

/-- A node number as messages write it. -/
def text (id : NodeId) : String := "#" ++ toString id.val.toNat

end NodeId

/-- A name together with the place where it is written. -/
structure Ident where
  name : String
  span : Span
deriving DecidableEq, Inhabited

/-- What every node of a tree carries: its number and the text it covers. -/
structure Node where
  id : NodeId
  span : Span
deriving DecidableEq, Inhabited

end NameResolution
