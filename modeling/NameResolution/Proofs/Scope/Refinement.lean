import NameResolution.Proofs.Scope.OrderedMap

/-!
# The stack of scopes as a list of insertion-ordered maps

Whatever is done to a stack of scopes, beginning with the empty one, it stands
for the list of maps that the same operations make: scope by scope it has the
same names in the same order with the same bindings. All three searches through
the stack are searches for the first of these maps that has the name.
-/

namespace NameResolution

namespace ScopeStack

/-- An update is a look-up that changes what it finds where it finds it. -/
theorem update?_eq (stack : ScopeStack) (name : String) (change : Binding → Binding) :
    stack.update? name change = (stack.find? name).map fun (hops, binding) =>
      (hops, change binding, ⟨stack.scopes.modify hops (·.modify name change)⟩) := by
  obtain ⟨scopes⟩ := stack
  have inside : updateIn name change scopes = (findIn name scopes).map fun (hops, binding) =>
      (hops, change binding, scopes.modify hops (·.modify name change)) := by
    induction scopes with
    | nil => rfl
    | cons scope outer ih =>
      cases here : scope.get? name with
      | some own => simp [updateIn, findIn, here]
      | none => simp [updateIn, findIn, here, ih, Function.comp_def]
  rw [update?, find?, inside, Option.map_map]
  rfl

/-- Changing a binding leaves all names in place. -/
theorem map_names_modify (scopes : List Scope) (hops : Nat) (name : String)
    (change : Binding → Binding) :
    (scopes.modify hops (·.modify name change)).map Scope.names = scopes.map Scope.names := by
  induction scopes generalizing hops with
  | nil => simp
  | cons scope outer ih => cases hops <;> simp [ih]

/-- Changing one binding of one scope leaves every other as it was. -/
theorem bindingAt?_modify (scopes : List Scope) (hops level : Nat) (name other : String)
    (change : Binding → Binding) :
    bindingAt? ⟨scopes.modify hops (·.modify name change)⟩ level other =
      if level = hops ∧ other = name then (bindingAt? ⟨scopes⟩ level other).map change
      else bindingAt? ⟨scopes⟩ level other := by
  simp only [bindingAt?, List.getElem?_modify]
  cases scopes[level]? with
  | none => simp
  | some scope =>
    by_cases there : hops = level
    · simp [there, Scope.get?_modify, eq_comm (a := name)]
    · simp [there, Ne.symm there]

end ScopeStack

/-- What changes a stack of scopes. Looking a name up changes nothing. -/
inductive StackOperation where
  /-- Open a scope inside the others. -/
  | push
  /-- Close the innermost scope, if one is open. -/
  | pop
  /-- Put a binding under a name in the innermost scope. -/
  | insert (name : String) (binding : Binding)
  /-- Change the binding of a name in the innermost scope. -/
  | modify (name : String) (change : Binding → Binding)
  /-- Change the innermost binding of a name, wherever it is. -/
  | update (name : String) (change : Binding → Binding)

namespace StackOperation

/-- What an operation makes of a stack of scopes. -/
def perform (stack : ScopeStack) : StackOperation → ScopeStack
  | push => stack.push
  | pop => stack.pop
  | insert name binding => stack.modifyInnermost (·.insert name binding)
  | modify name change => stack.modifyInnermost (·.modify name change)
  | update name change =>
    match stack.update? name change with
    | some (_, _, updated) => updated
    | none => stack

/-- What an operation makes of a list of maps. -/
def performOnMaps (maps : List OrderedMap) : StackOperation → List OrderedMap
  | push => .empty :: maps
  | pop => maps.tail
  | insert name binding => maps.modifyHead (·.take (.insert name binding))
  | modify name change => maps.modifyHead (·.take (.modify name change))
  | update name change =>
    match maps.findIdx? (name ∈ ·.names) with
    | some hops => maps.modify hops (·.take (.modify name change))
    | none => maps

end StackOperation

/-- The stack after operations, one after another, on the empty one. -/
def ScopeStack.after (operations : List StackOperation) : ScopeStack :=
  operations.foldl StackOperation.perform .empty

/-- The maps after the same operations. -/
def OrderedMap.allAfter (operations : List StackOperation) : List OrderedMap :=
  operations.foldl StackOperation.performOnMaps []

section

variable {scopes : List Scope} {maps : List OrderedMap}

/-- A map has the names that it has bindings for, where a scope stands for it. -/
theorem Scope.Represents.mem_names_iff {scope : Scope} {map : OrderedMap}
    (represents : scope.Represents map) (name : String) :
    name ∈ map.names ↔ (map.record? name).isSome = true := by
  rw [← represents.names, ← represents.get?, Scope.mem_names_iff]

/-- No scope that stands for a map has a name twice. -/
theorem nodup_names_of_represents (represents : List.Forall₂ Scope.Represents scopes maps) :
    ∀ scope ∈ scopes, scope.names.Nodup := by
  induction represents with
  | nil => simp
  | cons here _ ih => exact List.forall_mem_cons.mpr ⟨here.distinct, ih⟩

/-- A look-up gets as far as the first map that has the name. -/
theorem ScopeStack.map_fst_findIn_eq_findIdx?
    (represents : List.Forall₂ Scope.Represents scopes maps) (name : String) :
    (findIn name scopes).map Prod.fst = maps.findIdx? (name ∈ ·.names) := by
  induction represents with
  | nil => rfl
  | @cons scope map scopes maps here _ ih =>
    have held := here.mem_names_iff name
    rw [List.findIdx?_cons, ← ih, findIn, here.get?]
    cases bound : map.record? name with
    | some binding => simp [held, bound]
    | none => simp [held, bound, Function.comp_def]

/-- What a look-up finds is in the first map that has the name. -/
theorem ScopeStack.findIn_eq_some_iff
    (represents : List.Forall₂ Scope.Represents scopes maps) {name : String} {hops : Nat}
    {binding : Binding} :
    findIn name scopes = some (hops, binding) ↔
      ∃ map, maps[hops]? = some map ∧ map.record? name = some binding ∧
        ∀ inner ∈ maps.take hops, name ∉ inner.names := by
  induction represents generalizing hops with
  | nil => simp [findIn]
  | @cons scope map scopes maps here _ ih =>
    have held := here.mem_names_iff name
    rw [findIn, here.get?]
    cases bound : map.record? name with
    | some own => cases hops <;> simp [held, bound]
    | none => cases hops <;> simp [held, bound, ih]

/-- The same change of one scope and of the map that it stands for. -/
theorem represents_modify {onScope : Scope → Scope} {onMap : OrderedMap → OrderedMap}
    (keeps : ∀ {scope map}, Scope.Represents scope map → (onScope scope).Represents (onMap map))
    (represents : List.Forall₂ Scope.Represents scopes maps) (hops : Nat) :
    List.Forall₂ Scope.Represents (scopes.modify hops onScope) (maps.modify hops onMap) := by
  induction represents generalizing hops with
  | nil => simp
  | cons here outer ih =>
    cases hops with
    | zero => exact .cons (keeps here) outer
    | succ hops => exact .cons here (ih hops)

/-- A change of the innermost scope represents the same change of the innermost map. -/
theorem represents_modifyInnermost {onScope : Scope → Scope} {onMap : OrderedMap → OrderedMap}
    (keeps : ∀ {scope map}, Scope.Represents scope map → (onScope scope).Represents (onMap map))
    (represents : List.Forall₂ Scope.Represents scopes maps) :
    List.Forall₂ Scope.Represents (ScopeStack.modifyInnermost ⟨scopes⟩ onScope).scopes
      (maps.modifyHead onMap) := by
  cases represents with
  | nil => exact .nil
  | cons here outer => exact .cons (keeps here) outer

/-- An operation makes of a stack what it makes of the maps that the stack stands for. -/
theorem StackOperation.represents_perform (operation : StackOperation) {stack : ScopeStack}
    (represents : List.Forall₂ Scope.Represents stack.scopes maps) :
    List.Forall₂ Scope.Represents (operation.perform stack).scopes
      (operation.performOnMaps maps) := by
  cases operation with
  | push => exact .cons .empty represents
  | pop =>
    obtain ⟨scopes⟩ := stack
    cases represents with
    | nil => exact .nil
    | cons _ outer => exact outer
  | insert name binding =>
    exact represents_modifyInnermost (fun here => here.insert name binding) represents
  | modify name change =>
    exact represents_modifyInnermost (fun here => here.modify name change) represents
  | update name change =>
    have reached := ScopeStack.map_fst_findIn_eq_findIdx? represents name
    simp only [perform, performOnMaps, ← reached, ScopeStack.update?_eq, ScopeStack.find?]
    cases ScopeStack.findIn name stack.scopes with
    | none => exact represents
    | some found => exact represents_modify (fun here => here.modify name change) represents found.1

/-- The stack stands for the maps, whatever was done to both. -/
theorem ScopeStack.represents_after (operations : List StackOperation) :
    List.Forall₂ Scope.Represents (after operations).scopes (OrderedMap.allAfter operations) := by
  induction operations using List.reverseRecOn with
  | nil => exact .nil
  | append_singleton operations operation ih =>
    rw [after, OrderedMap.allAfter, List.foldl_concat, List.foldl_concat]
    exact operation.represents_perform ih

end

/-- `stack.Refines maps`: the stack is an implementation of the list of maps. -/
structure ScopeStack.Refines (stack : ScopeStack) (maps : List OrderedMap) : Prop where
  /-- Scope by scope, the names are those of the map, in the order in which they were
  first inserted, and each has the binding that it has there. -/
  represents : List.Forall₂ Scope.Represents stack.scopes maps
  /-- No scope has a name twice. -/
  distinct : ∀ scope ∈ stack.scopes, scope.names.Nodup
  /-- A scope is iterated name by name, each with its binding. -/
  iterated : ∀ scope ∈ stack.scopes,
    scope.bindings = scope.names.filterMap fun name => (scope.get? name).map (name, ·)
  /-- A name that is inserted again keeps its place, and only its binding is replaced. -/
  reinserted : ∀ scope ∈ stack.scopes, ∀ name ∈ scope.names, ∀ binding,
    (scope.insert name binding).names = scope.names ∧
      (scope.insert name binding).size = scope.size ∧
        ∀ other, (scope.insert name binding).get? other =
          if name = other then some binding else scope.get? other
  /-- What is found is in the first map from the inside that has the name. -/
  found : ∀ name hops binding, stack.find? name = some (hops, binding) ↔
    ∃ map, maps[hops]? = some map ∧ map.record? name = some binding ∧
      ∀ inner ∈ maps.take hops, name ∉ inner.names
  /-- Nothing is found exactly if no map has the name. -/
  unfound : ∀ name, stack.find? name = none ↔ ∀ map ∈ maps, name ∉ map.names
  /-- The hops to what is found are fewer than there are scopes. -/
  hops_lt : ∀ name, ∀ found ∈ stack.find? name, found.1 < stack.depth
  /-- An update changes what a look-up finds, at the same number of hops. -/
  updated : ∀ name change,
    (stack.update? name change).map (fun (hops, binding, _) => (hops, binding)) =
      (stack.find? name).map fun (hops, binding) => (hops, change binding)
  /-- An update changes that binding only: all names stay in place, and so do all other
  bindings in all scopes. -/
  others : ∀ name change hops changed later,
    stack.update? name change = some (hops, changed, later) →
      later.scopes.map Scope.names = stack.scopes.map Scope.names ∧
        ∀ level other, later.bindingAt? level other =
          if level = hops ∧ other = name then some changed else stack.bindingAt? level other
  /-- To look outside the innermost scope is to look once it is closed. -/
  enclosing : ∀ name, stack.findEnclosing? name = (stack.pop.find? name).map Prod.snd
  /-- What is found outside the innermost scope is in the first of the other maps that has
  the name. -/
  outside : ∀ name binding, stack.findEnclosing? name = some binding ↔
    ∃ hops map, maps.tail[hops]? = some map ∧ map.record? name = some binding ∧
      ∀ inner ∈ maps.tail.take hops, name ∉ inner.names
  /-- Where at most one scope is open, there is nothing outside. -/
  shallow : stack.depth ≤ 1 → ∀ name, stack.findEnclosing? name = none

namespace ScopeStack

/-- A look-up finds nothing exactly if no map has the name. -/
theorem find?_eq_none_iff {stack : ScopeStack} {maps : List OrderedMap}
    (represents : List.Forall₂ Scope.Represents stack.scopes maps) {name : String} :
    stack.find? name = none ↔ ∀ map ∈ maps, name ∉ map.names := by
  have reached := map_fst_findIn_eq_findIdx? represents name
  rw [← Option.map_eq_none_iff, find?, reached, List.findIdx?_eq_none_iff]
  simp

/-- An update changes the binding that it finds, and nothing else. -/
theorem of_update?_eq_some {stack later : ScopeStack} {name : String}
    {change : Binding → Binding} {hops : Nat} {changed : Binding}
    (hit : stack.update? name change = some (hops, changed, later)) :
    later.scopes.map Scope.names = stack.scopes.map Scope.names ∧
      ∀ level other, later.bindingAt? level other =
        if level = hops ∧ other = name then some changed else stack.bindingAt? level other := by
  rw [update?_eq] at hit
  obtain ⟨⟨reached, binding⟩, found, same⟩ := Option.map_eq_some_iff.mp hit
  cases same
  refine ⟨map_names_modify _ _ _ _, fun level other => ?_⟩
  have bound : stack.bindingAt? hops name = some binding := (find?_eq_some_iff.mp found).2
  rw [bindingAt?_modify]
  by_cases there : level = hops ∧ other = name
  · rw [if_pos there, if_pos there, there.1, there.2, bound, Option.map_some]
  · rw [if_neg there, if_neg there]

/-- What is found outside the innermost scope is in the first of the other maps that has the
name. -/
theorem findEnclosing?_eq_some_iff {stack : ScopeStack} {maps : List OrderedMap}
    (represents : List.Forall₂ Scope.Represents stack.scopes maps) {name : String}
    {binding : Binding} :
    stack.findEnclosing? name = some binding ↔
      ∃ hops map, maps.tail[hops]? = some map ∧ map.record? name = some binding ∧
        ∀ inner ∈ maps.tail.take hops, name ∉ inner.names := by
  have outer : List.Forall₂ Scope.Represents stack.scopes.tail maps.tail :=
    StackOperation.pop.represents_perform represents
  simp only [findEnclosing?, Option.map_eq_some_iff, Prod.exists, exists_eq_right,
    findIn_eq_some_iff outer]

/-- Where at most one scope is open, nothing is found outside it. -/
theorem findEnclosing?_of_depth_le_one {stack : ScopeStack} (shallow : stack.depth ≤ 1)
    (name : String) : stack.findEnclosing? name = none := by
  have outside : stack.scopes.tail = [] := by
    rw [List.eq_nil_iff_length_eq_zero, List.length_tail]
    exact Nat.sub_eq_zero_of_le shallow
  rw [findEnclosing?, outside, findIn, Option.map_none]

/-- A stack that stands for maps scope by scope implements them. -/
theorem Refines.of_represents {stack : ScopeStack} {maps : List OrderedMap}
    (represents : List.Forall₂ Scope.Represents stack.scopes maps) : stack.Refines maps where
  represents := represents
  distinct := nodup_names_of_represents represents
  iterated := fun scope listed =>
    scope.bindings_eq (nodup_names_of_represents represents scope listed)
  reinserted := fun scope _ name held binding =>
    have names := (scope.names_insert name binding).trans (if_pos held)
    ⟨names, by rw [← Scope.length_names, names, Scope.length_names],
      fun other => scope.get?_insert name other binding⟩
  found := fun _ _ _ => findIn_eq_some_iff represents
  unfound := fun _ => find?_eq_none_iff represents
  hops_lt := fun name found hit => by
    obtain ⟨map, here, -⟩ := (findIn_eq_some_iff represents).mp hit
    rw [depth, represents.length_eq]
    exact (List.getElem?_eq_some_iff.mp here).1
  updated := fun name change => by
    rw [update?_eq, Option.map_map]
    rfl
  others := fun _ _ _ _ _ => of_update?_eq_some
  enclosing := fun _ => rfl
  outside := fun _ _ => findEnclosing?_eq_some_iff represents
  shallow := findEnclosing?_of_depth_le_one

end ScopeStack

/-- Every stack that operations make of the empty one implements the maps that the same
operations make. -/
theorem scopes_refine_ordered_maps (operations : List StackOperation) :
    (ScopeStack.after operations).Refines (OrderedMap.allAfter operations) :=
  .of_represents (ScopeStack.represents_after operations)

/-- A binding that is inserted again, and one that is changed from a scope further in. -/
example (first second third : Binding) :
    (ScopeStack.after [.push, .insert "x" first, .insert "y" second, .insert "x" third, .push,
        .update "y" Binding.markRead]).scopes.map Scope.bindings =
      [[], [("x", third), ("y", second.markRead)]] := by
  rfl

end NameResolution
