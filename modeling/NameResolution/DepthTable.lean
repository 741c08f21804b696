import NameResolution.Syntax.Position
import Std.Data.ExtTreeMap

/-!
# Depth tables

The outcome that later passes use: for each reference that means a binding,
how many scopes lie between the two.
-/

namespace NameResolution

/-- The depth of each resolved reference, by node number. Two tables with the
same entries are equal. -/
structure DepthTable where
  depths : Std.ExtTreeMap NodeId Nat
deriving DecidableEq

namespace DepthTable

/-- The table without entries. -/
def empty : DepthTable := ⟨∅⟩

instance : Inhabited DepthTable := ⟨empty⟩

/-- Enter a depth. A later entry for the same node replaces the earlier one. -/
def record (table : DepthTable) (node : NodeId) (depth : Nat) : DepthTable :=
  ⟨table.depths.insert node depth⟩

/-- The depth of a node, if it has one. -/
def depthOf? (table : DepthTable) (node : NodeId) : Option Nat :=
  table.depths[node]?

/-- Whether a node has a depth. -/
def contains (table : DepthTable) (node : NodeId) : Bool :=
  table.depths.contains node

/-- How many nodes have a depth. -/
def size (table : DepthTable) : Nat :=
  table.depths.size

/-- Whether no node has a depth. -/
def isEmpty (table : DepthTable) : Bool :=
  table.depths.isEmpty

/-- The entries in the order of node numbers. -/
def sorted (table : DepthTable) : List (NodeId × Nat) :=
  table.depths.toList

end DepthTable

end NameResolution
