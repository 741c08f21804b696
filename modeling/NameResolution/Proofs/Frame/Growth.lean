import NameResolution.Run

/-!
# How scopes grow

Bindings evolve: what the text says of them stays, and their state only moves
forward. A scope that grows keeps its bindings where they are, each of them
evolved, and gets new ones behind them. `ScopeStack.Framed` says that of two
stacks: all scopes below the innermost have the bindings they had, and the
innermost has grown at most.
-/

namespace NameResolution

/-- How a binding may differ from what it was. -/
structure Binding.Evolves (before after : Binding) : Prop where
  span : after.span = before.span
  mutable : after.mutable = before.mutable
  member : after.member = before.member
  state : before.state.rank ≤ after.state.rank

namespace Binding.Evolves

/-- A binding that stays as it is evolves. -/
theorem refl (binding : Binding) : binding.Evolves binding := ⟨rfl, rfl, rfl, Nat.le_refl _⟩

/-- What evolves and evolves again has evolved. -/
theorem trans {first second third : Binding} (left : first.Evolves second)
    (right : second.Evolves third) : first.Evolves third where
  span := right.span.trans left.span
  mutable := right.mutable.trans left.mutable
  member := right.member.trans left.member
  state := Nat.le_trans left.state right.state

/-- A binding evolves when its state moves on. -/
theorem advance (binding : Binding) (state : BindingState) :
    binding.Evolves (binding.advance state) where
  span := rfl
  mutable := rfl
  member := rfl
  state := by
    simp only [Binding.advance, BindingState.rank_later]
    exact Nat.le_max_left _ _

/-- A binding evolves when it is referred to. -/
theorem mark (access : Access) (binding : Binding) : binding.Evolves (access.mark binding) := by
  cases access with
  | read => exact advance binding .read
  | write => exact refl binding

end Binding.Evolves

namespace Scope

/-- The earlier bindings of a scope are where they were, evolved. -/
def Grows (before after : Scope) : Prop :=
  ∀ (position : Nat) (name : String) (binding : Binding),
    before.bindings[position]? = some (name, binding) →
    ∃ later, after.bindings[position]? = some (name, later) ∧ binding.Evolves later

/-- A scope that stays as it is grows by nothing. -/
theorem Grows.refl (scope : Scope) : scope.Grows scope :=
  fun _ _ binding here => ⟨binding, here, .refl binding⟩

/-- A scope that grows and grows again has grown. -/
theorem Grows.trans {first second third : Scope} (left : first.Grows second)
    (right : second.Grows third) : first.Grows third := by
  intro position name binding here
  obtain ⟨next, there, evolves⟩ := left position name binding here
  obtain ⟨last, behind, evolves'⟩ := right position name next there
  exact ⟨last, behind, evolves.trans evolves'⟩

/-- The names of a scope that grew begin with those it had. -/
theorem Grows.names {before after : Scope} (grows : before.Grows after) :
    before.names <+: after.names := by
  have shorter : before.names.length ≤ after.names.length := by
    apply Nat.le_of_not_lt
    intro longer
    have inside : after.bindings.length < before.bindings.length := by
      simpa [Scope.names] using longer
    obtain ⟨later, here, -⟩ := grows after.bindings.length _ _ (List.getElem?_eq_getElem inside)
    simp at here
  rw [List.prefix_iff_eq_take]
  apply List.ext_getElem?
  intro position
  by_cases inside : position < before.bindings.length
  · obtain ⟨later, here, -⟩ := grows position _ _ (List.getElem?_eq_getElem inside)
    have kept : position < before.names.length := by simpa [Scope.names] using inside
    rw [List.getElem?_take_of_lt kept]
    simp [Scope.names, here, List.getElem?_eq_getElem inside]
  · have outside : before.names.length ≤ position := by simpa [Scope.names] using inside
    rw [List.getElem?_eq_none outside, List.getElem?_take_eq_none outside]

/-- A scope has exactly the names that it has bindings for. -/
theorem mem_names_iff (scope : Scope) (name : String) :
    name ∈ scope.names ↔ (scope.get? name).isSome = true := by
  obtain ⟨bindings⟩ := scope
  induction bindings with
  | nil => simp [names, get?]
  | cons entry rest ih =>
    obtain ⟨other, binding⟩ := entry
    by_cases same : name = other
    · simp [names, get?, same]
    · have flipped : (name == other) = false := beq_eq_false_iff_ne.mpr same
      simp only [names, get?] at ih
      simp [names, get?, List.lookup_cons, same, flipped, ih]

/-- A scope that grew still binds what it bound. -/
theorem Grows.isSome_get? {before after : Scope} (grows : before.Grows after) {name : String}
    (bound : (before.get? name).isSome = true) : (after.get? name).isSome = true := by
  rw [← mem_names_iff] at bound ⊢
  exact grows.names.subset bound

/-- A free name gets its binding behind the others. -/
theorem bindings_insert_of_free {scope : Scope} {name : String}
    (free : scope.get? name = none) (binding : Binding) :
    (scope.insert name binding).bindings = scope.bindings ++ [(name, binding)] := by
  obtain ⟨bindings⟩ := scope
  simp only [insert]
  induction bindings with
  | nil => rfl
  | cons entry rest ih =>
    obtain ⟨other, old⟩ := entry
    have different : (name == other) = false := by
      apply Bool.eq_false_iff.mpr
      intro same
      simp [get?, List.lookup_cons, same] at free
    have freeBehind : Scope.get? ⟨rest⟩ name = none := by
      simpa [get?, List.lookup_cons, different] using free
    simp only [insertInto, different, Bool.false_eq_true, if_false, ih freeBehind,
      List.cons_append]

/-- A name that was free has the binding that is put under it. -/
theorem get?_insert_of_free {scope : Scope} {name : String} (free : scope.get? name = none)
    (binding : Binding) : (scope.insert name binding).get? name = some binding := by
  rw [get?, bindings_insert_of_free free, List.lookup_append]
  rw [get?] at free
  simp [free]

/-- A scope grows by a name that was free. -/
theorem grows_insert {scope : Scope} {name : String} (free : scope.get? name = none)
    (binding : Binding) : scope.Grows (scope.insert name binding) := by
  intro position other old here
  have inside : position < scope.bindings.length := (List.getElem?_eq_some_iff.mp here).1
  rw [bindings_insert_of_free free, List.getElem?_append_left inside]
  exact ⟨old, here, .refl old⟩

/-- A scope grows by nothing when a binding in it evolves. -/
theorem grows_modify (scope : Scope) (name : String) {change : Binding → Binding}
    (evolves : ∀ binding : Binding, binding.Evolves (change binding)) :
    scope.Grows (scope.modify name change) := by
  intro position other binding here
  simp only [modify, List.getElem?_map, here, Option.map_some]
  split
  · exact ⟨change binding, rfl, evolves binding⟩
  · exact ⟨binding, rfl, .refl binding⟩

/-- Changing a binding keeps the size of a scope. -/
@[simp] theorem size_modify (scope : Scope) (name : String) (change : Binding → Binding) :
    (scope.modify name change).size = scope.size := by
  simp [size, modify]

end Scope

/-- Two lists of scopes, of which the second is what became of the first. -/
structure ScopesFramed (declares : Bool) (before after : List Scope) : Prop where
  depth : after.length = before.length
  /-- Every scope has grown. Names were added to the innermost at most. -/
  scope : ∀ level scope, before[level]? = some scope →
    ∃ later, after[level]? = some later ∧ scope.Grows later ∧
      (level = 0 → declares = false → later.size = scope.size) ∧
      (0 < level → later.size = scope.size)

/-- Two stacks, of which the second is what became of the first. -/
abbrev ScopeStack.Framed (declares : Bool) (before after : ScopeStack) : Prop :=
  ScopesFramed declares before.scopes after.scopes

namespace ScopesFramed

/-- Scopes that stay as they are are framed. -/
theorem refl (declares : Bool) (scopes : List Scope) : ScopesFramed declares scopes scopes where
  depth := rfl
  scope _ scope here := ⟨scope, here, .refl scope, fun _ _ => rfl, fun _ => rfl⟩

/-- Frames can be put together. -/
theorem trans {declares : Bool} {first second third : List Scope}
    (left : ScopesFramed declares first second) (right : ScopesFramed declares second third) :
    ScopesFramed declares first third where
  depth := right.depth.trans left.depth
  scope level scope here := by
    obtain ⟨next, there, grows, inner, outer⟩ := left.scope level scope here
    obtain ⟨last, behind, grows', inner', outer'⟩ := right.scope level next there
    refine ⟨last, behind, grows.trans grows', ?_, ?_⟩
    · intro zero still
      rw [inner' zero still, inner zero still]
    · intro below
      rw [outer' below, outer below]

/-- A frame that adds no name is a frame wherever names may be added. -/
theorem mono {declares : Bool} {before after : List Scope}
    (framed : ScopesFramed declares before after) : ScopesFramed true before after where
  depth := framed.depth
  scope level scope here := by
    obtain ⟨later, there, grows, -, outer⟩ := framed.scope level scope here
    exact ⟨later, there, grows, fun _ => nofun, outer⟩

/-- A frame in which nothing is declared is one in which something might be. -/
theorem weaken {declares : Bool} {before after : List Scope}
    (framed : ScopesFramed false before after) : ScopesFramed declares before after := by
  cases declares with
  | false => exact framed
  | true => exact framed.mono

/-- A change of the innermost scope. -/
theorem head {declares : Bool} {before after : Scope} (outer : List Scope)
    (grows : before.Grows after) (size : declares = false → after.size = before.size) :
    ScopesFramed declares (before :: outer) (after :: outer) where
  depth := rfl
  scope level scope here := by
    cases level with
    | zero =>
      cases here
      exact ⟨after, rfl, grows, fun _ => size, fun below => absurd below (Nat.lt_irrefl 0)⟩
    | succ level =>
      exact ⟨scope, here, .refl scope, nofun, fun _ => rfl⟩

/-- A change below the innermost scope. -/
theorem cons {declares : Bool} (here : Scope) {before after : List Scope}
    (framed : ScopesFramed false before after) :
    ScopesFramed declares (here :: before) (here :: after) where
  depth := congrArg (· + 1) framed.depth
  scope level scope found := by
    cases level with
    | zero =>
      cases found
      exact ⟨here, rfl, .refl here, fun _ _ => rfl, fun _ => rfl⟩
    | succ level =>
      obtain ⟨later, there, grows, inner, outer⟩ := framed.scope level scope found
      refine ⟨later, there, grows, nofun, ?_⟩
      intro _
      cases level with
      | zero => exact inner rfl rfl
      | succ level => exact outer (Nat.succ_pos level)

/-- What becomes of the outer scopes while another one is open and declared in. -/
theorem tail {declares : Bool} {here : Scope} {before after : List Scope}
    (framed : ScopesFramed true (here :: before) after) :
    ScopesFramed declares before after.tail where
  depth := by
    rw [List.length_tail, framed.depth, List.length_cons, Nat.add_sub_cancel]
  scope level scope found := by
    obtain ⟨later, there, grows, -, outer⟩ := framed.scope (level + 1) scope found
    have same : later.size = scope.size := outer (Nat.succ_pos level)
    exact ⟨later, by simpa [List.getElem?_tail] using there, grows, fun _ _ => same, fun _ => same⟩

end ScopesFramed

namespace ScopeStack

/-- A change of the innermost scope that adds no name. -/
theorem framed_modifyInnermost (stack : ScopeStack) {change : Scope → Scope}
    (grows : ∀ scope : Scope, scope.Grows (change scope))
    (size : ∀ scope : Scope, (change scope).size = scope.size) :
    stack.Framed false (stack.modifyInnermost change) := by
  obtain ⟨scopes⟩ := stack
  cases scopes with
  | nil => exact .refl false []
  | cons scope outer => exact .head outer (grows scope) fun _ => size scope

/-- An update evolves the binding that it finds. -/
theorem framed_updateIn (name : String) {change : Binding → Binding}
    (evolves : ∀ binding : Binding, binding.Evolves (change binding)) (scopes : List Scope) :
    ∀ found ∈ updateIn name change scopes, ScopesFramed false scopes found.2.2 := by
  induction scopes with
  | nil => simp [updateIn]
  | cons scope outer ih =>
    intro found hit
    cases here : scope.get? name with
    | some binding =>
      simp only [updateIn, here, Option.mem_def, Option.some.injEq] at hit
      rw [← hit]
      exact .head outer (scope.grows_modify name evolves) fun _ => Scope.size_modify ..
    | none =>
      simp only [updateIn, here, Option.mem_def, Option.map_eq_some_iff] at hit
      obtain ⟨further, outside, rfl⟩ := hit
      exact .cons scope (ih further outside)

/-- A look-up declares nothing and keeps the frame. -/
theorem framed_resolve (config : Config) (stack : ScopeStack) (node : NodeId) (name : Ident)
    (access : Access) : stack.Framed false (stack.resolve config node name access).2 := by
  unfold resolve
  cases found : stack.update? name.name access.mark with
  | some hit =>
    simp only [update?, Option.map_eq_some_iff] at found
    obtain ⟨changed, inside, rfl⟩ := found
    exact framed_updateIn name.name (.mark access) stack.scopes changed inside
  | none =>
    dsimp only
    split
    · exact .refl false _
    · exact .refl false _

/-- A read of a variable declares nothing and keeps the frame. -/
theorem framed_readVariable (config : Config) (stack : ScopeStack) (node : NodeId)
    (name : Ident) : stack.Framed false (stack.readVariable config node name).2 := by
  unfold readVariable
  split
  · exact .refl false _
  · split
    · exact .refl false _
    · exact stack.framed_resolve config node name .read

/-- Declaring a name adds it to the innermost scope, unless it is there. -/
theorem framed_declare (lints : Lints) (stack : ScopeStack) (name : Ident)
    (mutable member : Bool) :
    stack.Framed true (stack.declare lints name mutable member).2 := by
  obtain ⟨scopes⟩ := stack
  cases scopes with
  | nil => exact .refl true []
  | cons scope outer =>
    cases kept : scope.get? name.name with
    | some binding =>
      simp only [declare, innermost?, List.head?_cons, kept]
      exact .refl true _
    | none =>
      simp only [declare, innermost?, List.head?_cons, kept, modifyInnermost]
      exact .head outer (Scope.grows_insert kept _) nofun

/-- Whether the innermost scope, if there is one, binds a name. -/
def Holds (stack : ScopeStack) (name : String) : Prop :=
  ∀ scope ∈ stack.scopes.head?, (scope.get? name).isSome = true

/-- A name that was declared is held. -/
theorem holds_declare (lints : Lints) (stack : ScopeStack) (name : Ident)
    (mutable member : Bool) : (stack.declare lints name mutable member).2.Holds name.name := by
  obtain ⟨scopes⟩ := stack
  cases scopes with
  | nil => exact nofun
  | cons scope outer =>
    cases kept : scope.get? name.name with
    | some binding =>
      simp only [declare, innermost?, List.head?_cons, kept]
      rintro _ ⟨⟩
      rw [kept, Option.isSome_some]
    | none =>
      simp only [declare, innermost?, List.head?_cons, kept, modifyInnermost]
      rintro _ ⟨⟩
      rw [← Scope.mem_names_iff, Scope.names, Scope.bindings_insert_of_free kept]
      simp

/-- A name that is held stays held. -/
theorem Holds.framed {declares : Bool} {before after : ScopeStack} {name : String}
    (holds : before.Holds name) (framed : before.Framed declares after) : after.Holds name := by
  intro later found
  rw [List.head?_eq_getElem?] at found
  have nonempty : 0 < before.scopes.length := by
    rw [← framed.depth]
    exact (List.getElem?_eq_some_iff.mp found).1
  have first : before.scopes[0]? = some before.scopes[0] := List.getElem?_eq_getElem nonempty
  obtain ⟨grown, there, grows, -⟩ := framed.scope 0 before.scopes[0] first
  have bound : (before.scopes[0].get? name).isSome = true := by
    apply holds
    rw [List.head?_eq_getElem?, first]
    rfl
  rw [there] at found
  cases found
  exact grows.isSome_get? bound

/-- Defining a name that is held adds none. -/
theorem framed_define {stack : ScopeStack} {name : Ident} (holds : stack.Holds name.name) :
    stack.Framed false (stack.define name) := by
  obtain ⟨scopes⟩ := stack
  cases scopes with
  | nil => exact .refl false []
  | cons scope outer =>
    obtain ⟨binding, kept⟩ := Option.isSome_iff_exists.mp (holds scope rfl)
    simp only [define, modifyInnermost, kept]
    exact .head outer (scope.grows_modify name.name (.advance · .defined))
      fun _ => Scope.size_modify ..

end ScopeStack

end NameResolution
