import Mathlib.Data.List.Induction
import Mathlib.Data.List.Nodup
import NameResolution.Proofs.Unused.Closing

/-!
# Scopes as insertion-ordered maps

An insertion-ordered map can be told from its history: which names it has and in
what order, and what is under each, follow from what was done to it since it was
empty. A scope that was made by the same operations gives the same answers.
-/

namespace NameResolution

/-- What may be done to an insertion-ordered map. -/
inductive MapChange where
  /-- Put a binding under a name. One that is there already is replaced. -/
  | insert (name : String) (binding : Binding)
  /-- Change the binding under a name, if there is one. -/
  | modify (name : String) (change : Binding → Binding)

namespace MapChange

/-- The name under which something is put. -/
def inserted? : MapChange → Option String
  | insert name _ => some name
  | modify .. => none

/-- The binding under a name after a change, if this was the binding before. -/
def apply (name : String) (held : Option Binding) : MapChange → Option Binding
  | insert other binding => if other = name then some binding else held
  | modify other change => if other = name then held.map change else held

end MapChange

/-- An insertion-ordered map, given by its history. -/
structure OrderedMap where
  changes : List MapChange

namespace OrderedMap

/-- The map that nothing was done to. -/
def empty : OrderedMap := ⟨[]⟩

/-- The map after one more change. -/
def take (map : OrderedMap) (change : MapChange) : OrderedMap := ⟨map.changes ++ [change]⟩

/-- The names, each where it was first inserted. -/
def names (map : OrderedMap) : List String :=
  (map.changes.filterMap MapChange.inserted?).eraseDups

/-- The binding under a name: the one that was inserted last, with the changes since. -/
def record? (map : OrderedMap) (name : String) : Option Binding :=
  map.changes.foldl (MapChange.apply name) none

/-- A name that is inserted is the last one, unless it has its place already. -/
theorem names_take_insert (map : OrderedMap) (name : String) (binding : Binding) :
    (map.take (.insert name binding)).names =
      if name ∈ map.names then map.names else map.names ++ [name] := by
  have appended : (map.take (.insert name binding)).changes.filterMap MapChange.inserted? =
      map.changes.filterMap MapChange.inserted? ++ [name] := List.filterMap_append
  rw [names, names, appended]
  generalize map.changes.filterMap MapChange.inserted? = inserted
  by_cases placed : name ∈ inserted <;>
    simp [List.eraseDups_append, List.eraseDups_cons, List.removeAll, placed]

/-- A record that is changed in place keeps its place. -/
@[simp] theorem names_take_modify (map : OrderedMap) (name : String)
    (change : Binding → Binding) : (map.take (.modify name change)).names = map.names := by
  have same : (map.take (.modify name change)).changes.filterMap MapChange.inserted? =
      map.changes.filterMap MapChange.inserted? ++ [] := List.filterMap_append
  rw [names, same, List.append_nil, names]

/-- The last change is applied to what was recorded before it. -/
@[simp] theorem record?_take (map : OrderedMap) (change : MapChange) (name : String) :
    (map.take change).record? name = change.apply name (map.record? name) :=
  List.foldl_append

/-- No map has a name in two places. -/
theorem nodup_names (map : OrderedMap) : map.names.Nodup := by
  obtain ⟨changes⟩ := map
  induction changes using List.reverseRecOn with
  | nil => exact .nil
  | append_singleton changes change ih =>
    change (take ⟨changes⟩ change).names.Nodup
    cases change with
    | modify name change => rwa [names_take_modify]
    | insert name binding =>
      rw [names_take_insert]
      by_cases placed : name ∈ names ⟨changes⟩
      · rwa [if_pos placed]
      · rw [if_neg placed]
        exact ih.append (List.nodup_singleton name) (List.disjoint_singleton.mpr placed)

end OrderedMap

namespace Scope

/-- A scope has as many names as bindings. -/
theorem length_names (scope : Scope) : scope.names.length = scope.size := List.length_map ..

/-- A name keeps its place in a scope when it is inserted again. -/
theorem names_insert (scope : Scope) (name : String) (binding : Binding) :
    (scope.insert name binding).names =
      if name ∈ scope.names then scope.names else scope.names ++ [name] := by
  obtain ⟨bindings⟩ := scope
  simp only [names, insert]
  induction bindings with
  | nil => rfl
  | cons entry rest ih =>
    obtain ⟨other, old⟩ := entry
    by_cases same : name = other
    · simp [insertInto, same]
    · have passed : (name == other) = false := beq_eq_false_iff_ne.mpr same
      simp only [insertInto, passed, Bool.false_eq_true, if_false, List.map_cons, ih,
        List.mem_cons, same, false_or, List.cons_append]
      exact apply_ite (other :: ·) _ _ _

/-- A binding that is changed in place keeps its place. -/
@[simp] theorem names_modify (scope : Scope) (name : String) (change : Binding → Binding) :
    (scope.modify name change).names = scope.names := by
  rw [names, names, modify, List.map_map]
  refine List.map_congr_left fun entry _ => ?_
  exact (apply_ite Prod.fst _ _ _).trans (ite_self _)

/-- Where the names are distinct, they and the look-ups say what the scope holds, entry by entry. -/
theorem bindings_eq {scope : Scope} (distinct : scope.names.Nodup) :
    scope.bindings = scope.names.filterMap fun name => (scope.get? name).map (name, ·) := by
  rw [names, List.filterMap_map]
  symm
  refine (List.filterMap_congr fun entry listed => ?_).trans (List.filterMap_some ..)
  have found : scope.get? entry.1 = some entry.2 := get?_of_mem distinct listed
  simp [found]

/-- `scope.Represents map`: the scope answers as the map does. -/
structure Represents (scope : Scope) (map : OrderedMap) : Prop where
  names : scope.names = map.names
  get? : ∀ name, scope.get? name = map.record? name

namespace Represents

variable {scope : Scope} {map : OrderedMap}

/-- An empty scope represents the empty map. -/
theorem empty : Represents .empty .empty := ⟨rfl, fun _ => rfl⟩

/-- Inserting into the scope represents inserting into the map. -/
theorem insert (represents : scope.Represents map) (name : String) (binding : Binding) :
    (scope.insert name binding).Represents (map.take (.insert name binding)) where
  names := by rw [names_insert, OrderedMap.names_take_insert, represents.names]
  get? asked := by rw [get?_insert, OrderedMap.record?_take, MapChange.apply, represents.get?]

/-- Changing a binding in the scope represents changing the record in the map. -/
theorem modify (represents : scope.Represents map) (name : String)
    (change : Binding → Binding) :
    (scope.modify name change).Represents (map.take (.modify name change)) where
  names := by rw [names_modify, OrderedMap.names_take_modify, represents.names]
  get? asked := by rw [get?_modify, OrderedMap.record?_take, MapChange.apply, represents.get?]

/-- The names of a scope that represents a map are distinct. -/
theorem distinct (represents : scope.Represents map) : scope.names.Nodup :=
  represents.names ▸ map.nodup_names

end Represents

end Scope

end NameResolution
