import Mathlib.Data.List.Nodup
import NameResolution.Event

/-!
# Entries of a depth table

A table filled from a list of entries holds, for each node, the last entry the
list has for it. Where no two entries are for one node, that is the only one.
-/

namespace NameResolution.DepthTable

/-- The empty table has no depth for any node. -/
@[simp] theorem depthOf?_empty (node : NodeId) : empty.depthOf? node = none := by
  simp [depthOf?, empty]

/-- An entry changes what the table says of its own node and of no other. -/
theorem depthOf?_record (table : DepthTable) (node asked : NodeId) (depth : Nat) :
    (table.record node depth).depthOf? asked =
      if node = asked then some depth else table.depthOf? asked := by
  simp [depthOf?, record, Std.ExtTreeMap.getElem?_insert]

@[simp] theorem recordAll_nil (table : DepthTable) : table.recordAll [] = table := rfl

@[simp] theorem recordAll_cons (table : DepthTable) (node : NodeId) (depth : Nat)
    (rest : List (NodeId × Nat)) :
    table.recordAll ((node, depth) :: rest) = (table.record node depth).recordAll rest := rfl

/-- A node without an entry keeps what the table said of it. -/
theorem depthOf?_recordAll_of_not_mem {depths : List (NodeId × Nat)} {node : NodeId}
    (absent : node ∉ depths.map Prod.fst) (table : DepthTable) :
    (table.recordAll depths).depthOf? node = table.depthOf? node := by
  induction depths generalizing table with
  | nil => rfl
  | cons entry rest ih =>
    obtain ⟨other, depth⟩ := entry
    simp only [List.map_cons, List.mem_cons, not_or] at absent
    obtain ⟨different, absent⟩ := absent
    rw [recordAll_cons, ih absent, depthOf?_record, if_neg (Ne.symm different)]

/-- Where each node has at most one entry, that entry is what the table says of it. -/
theorem depthOf?_recordAll_of_mem {depths : List (NodeId × Nat)} {node : NodeId} {depth : Nat}
    (distinct : (depths.map Prod.fst).Nodup) (entered : (node, depth) ∈ depths)
    (table : DepthTable) : (table.recordAll depths).depthOf? node = some depth := by
  induction depths generalizing table with
  | nil => cases entered
  | cons entry rest ih =>
    obtain ⟨other, first⟩ := entry
    simp only [List.map_cons, List.nodup_cons] at distinct
    obtain ⟨fresh, distinct⟩ := distinct
    rw [recordAll_cons]
    rcases List.mem_cons.mp entered with here | there
    · cases here
      rw [depthOf?_recordAll_of_not_mem fresh, depthOf?_record, if_pos rfl]
    · exact ih distinct there _

/-- Entries go before what a table holds already. -/
theorem depthOf?_recordAll (table : DepthTable) (depths : List (NodeId × Nat)) (node : NodeId) :
    (table.recordAll depths).depthOf? node =
      ((empty.recordAll depths).depthOf? node).or (table.depthOf? node) := by
  induction depths generalizing table with
  | nil => simp
  | cons entry rest ih =>
    obtain ⟨other, depth⟩ := entry
    rw [recordAll_cons, recordAll_cons, ih, ih (empty.record other depth), depthOf?_record,
      depthOf?_record, Option.or_assoc]
    by_cases same : other = node
    · rw [if_pos same, if_pos same, Option.some_or]
    · rw [if_neg same, if_neg same, depthOf?_empty, Option.none_or]

/-- What a table filled from entries says of a node is the last entry for it. -/
theorem depthOf?_recordAll_empty (depths : List (NodeId × Nat)) (node : NodeId) :
    (empty.recordAll depths).depthOf? node = depths.reverse.lookup node := by
  induction depths with
  | nil => exact depthOf?_empty node
  | cons entry rest ih =>
    obtain ⟨other, depth⟩ := entry
    rw [recordAll_cons, depthOf?_recordAll, ih, depthOf?_record, depthOf?_empty,
      List.reverse_cons, List.lookup_append]
    by_cases same : other = node
    · simp [same]
    · simp [same, List.lookup_cons, beq_false_of_ne (Ne.symm same)]

/-- A table contains the nodes for which it has a depth. -/
theorem contains_eq_isSome (table : DepthTable) (node : NodeId) :
    table.contains node = (table.depthOf? node).isSome := by
  simp [contains, depthOf?]

/-- A table filled from entries has no others. -/
theorem mem_of_depthOf?_recordAll {depths : List (NodeId × Nat)} {node : NodeId} {depth : Nat}
    (found : (empty.recordAll depths).depthOf? node = some depth) :
    node ∈ depths.map Prod.fst := by
  by_contra absent
  rw [depthOf?_recordAll_of_not_mem absent, depthOf?_empty] at found
  cases found

/-- Tables that say the same of every node are the same. -/
theorem ext_depthOf? {first second : DepthTable}
    (same : ∀ node, first.depthOf? node = second.depthOf? node) : first = second := by
  obtain ⟨entries⟩ := first
  obtain ⟨others⟩ := second
  exact congrArg DepthTable.mk (Std.ExtTreeMap.ext_getElem? same)

/-- Where each node has at most one entry, the entries can come in any order. -/
theorem recordAll_perm {first second : List (NodeId × Nat)}
    (distinct : (first.map Prod.fst).Nodup) (perm : first.Perm second) (table : DepthTable) :
    table.recordAll first = table.recordAll second := by
  have alike := perm.map Prod.fst
  apply ext_depthOf?
  intro node
  by_cases entered : node ∈ first.map Prod.fst
  · obtain ⟨⟨_, depth⟩, listed, rfl⟩ := List.mem_map.mp entered
    rw [depthOf?_recordAll_of_mem distinct listed,
      depthOf?_recordAll_of_mem (alike.nodup_iff.mp distinct) (perm.mem_iff.mp listed)]
  · rw [depthOf?_recordAll_of_not_mem entered,
      depthOf?_recordAll_of_not_mem fun other => entered (alike.mem_iff.mpr other)]

end NameResolution.DepthTable
