import NameResolution.Run

/-!
# What a step can emit

All the events that a step can give rise to, whatever the scopes and the
environment. Where an event of some kind is seen, the steps it can come from
are read off here.
-/

namespace NameResolution

/-- What comes of looking a name up for a node. -/
inductive LookUpEvent (node : NodeId) (name : Ident) : Event → Prop where
  | found (hops : Nat) : LookUpEvent node name (.log (.resolvedAt node name.name hops))
  | depth (hops : Nat) : LookUpEvent node name (.depth node hops)
  | global : LookUpEvent node name (.log (.resolvedGlobal node name.name))
  | notDeclared : LookUpEvent node name (.error (.notDeclared name.name name.span))

/-- The error of a foreign name that the runtime does not back. -/
def ForeignKind.unregistered (name : Ident) : ForeignKind → ResolutionError
  | .function => .unregisteredForeignFunction name.name name.span
  | .variable => .unregisteredForeignVariable name.name name.span

/-- `step.Emits event`: the event can come of carrying the step out. -/
inductive Step.Emits : Step → Event → Prop where
  | opened (depth : Nat) : Emits .openScope (.log (.pushScope depth))
  | closed (depth bindings : Nat) : Emits .closeScope (.log (.popScope depth bindings))
  | unused (name : String) (span : Span) :
      Emits .closeScope (.warning (.unusedLocalVariable name span))
  | duplicate (name : Ident) (mutable member : Bool) (kept : Span) :
      Emits (.declare name mutable member)
        (.error (.duplicateDeclaration name.name name.span kept))
  | shadowed (name : Ident) (mutable member : Bool) (earlier : Span) :
      Emits (.declare name mutable member)
        (.warning (.shadowedVariable name.name earlier name.span))
  | resolved {node : NodeId} {name : Ident} {event : Event} (access : Access)
      (lookUp : LookUpEvent node name event) : Emits (.resolve node name access) event
  | read {node : NodeId} {name : Ident} {event : Event} (lookUp : LookUpEvent node name event) :
      Emits (.readVariable node name) event
  | selfReference (node : NodeId) (name : Ident) :
      Emits (.readVariable node name) (.error (.selfReference name.name name.span))
  | discarded (node : NodeId) (name : Ident) (unusedPrefix : String) :
      Emits (.readVariable node name)
        (.error (.readOfDiscarded name.name unusedPrefix name.span))
  | reassigned (name : Ident) (declared : Span) :
      Emits (.checkAssign name) (.error (.reassignImmutable name.name name.span declared))
  | mutated (name : Ident) (span declared : Span) :
      Emits (.checkMutate name span) (.error (.mutateThroughImmutable name.name span declared))
  | asked (kind : ForeignKind) (name : Ident) (answer : Bool) :
      Emits (.requireForeign kind name) (.asked kind name.name answer)
  | unregistered (kind : ForeignKind) (name : Ident) :
      Emits (.requireForeign kind name) (.error (kind.unregistered name))
  | reported (error : ResolutionError) : Emits (.report error) (.error error)
  | unreachable (span : Span) : Emits (.unreachable span) (.warning (.unreachableCode span))

variable {env : Environment} {stack : ScopeStack} {event : Event}

namespace ScopeStack

/-- A declaration says only what its step may say. -/
theorem emits_declare {lints : Lints} {name : Ident} {mutable member : Bool}
    (emitted : event ∈ (stack.declare lints name mutable member).1) :
    (Step.declare name mutable member).Emits event := by
  unfold declare at emitted
  split at emitted
  · cases emitted
  · split at emitted
    · obtain rfl := List.mem_singleton.mp emitted
      exact .duplicate name mutable member _
    · dsimp only at emitted
      split at emitted
      · split at emitted
        · obtain rfl := List.mem_singleton.mp emitted
          exact .shadowed name mutable member _
        · cases emitted
      · cases emitted

/-- Closing a scope says only what its step may say. -/
theorem emits_close {config : Config} (emitted : event ∈ (stack.close config).1) :
    Step.closeScope.Emits event := by
  unfold close at emitted
  split at emitted
  · cases emitted
  · rcases List.mem_cons.mp emitted with rfl | unused
    · exact .closed _ _
    · split at unused
      · obtain ⟨entry, -, rfl⟩ := List.mem_map.mp unused
        exact .unused entry.1 entry.2.span
      · cases unused

/-- A reference records a depth or finds no binding. -/
theorem lookUpEvent_resolve {config : Config} {node : NodeId} {name : Ident} {access : Access}
    (emitted : event ∈ (stack.resolve config node name access).1) :
    LookUpEvent node name event := by
  unfold resolve at emitted
  split at emitted
  · rename_i hops _ _ _
    rcases List.mem_cons.mp emitted with rfl | depth
    · exact .found hops
    · obtain rfl := List.mem_singleton.mp depth
      exact .depth hops
  · split at emitted
    · obtain rfl := List.mem_singleton.mp emitted
      exact .global
    · obtain rfl := List.mem_singleton.mp emitted
      exact .notDeclared

/-- Reading a variable says only what its step may say. -/
theorem emits_readVariable {config : Config} {node : NodeId} {name : Ident}
    (emitted : event ∈ (stack.readVariable config node name).1) :
    (Step.readVariable node name).Emits event := by
  unfold readVariable at emitted
  split at emitted
  · obtain rfl := List.mem_singleton.mp emitted
    exact .selfReference node name
  · split at emitted
    · obtain rfl := List.mem_singleton.mp emitted
      exact .discarded node name _
    · exact .read (lookUpEvent_resolve emitted)

/-- A change of a variable is rejected for its one cause. -/
theorem mem_requireMutable {name : String} {cause : Span → ResolutionError}
    (emitted : event ∈ stack.requireMutable name cause) :
    ∃ declared, event = .error (cause declared) := by
  unfold requireMutable at emitted
  split at emitted
  · rename_i binding _
    split at emitted
    · cases emitted
    · exact ⟨binding.span, List.mem_singleton.mp emitted⟩
  · cases emitted

end ScopeStack

/-- Asking for a foreign name says only what its step may say. -/
theorem Environment.emits_requireForeign {kind : ForeignKind} {name : Ident}
    (emitted : event ∈ env.requireForeign kind name) :
    (Step.requireForeign kind name).Emits event := by
  rcases List.mem_cons.mp emitted with rfl | unregistered
  · exact .asked kind name _
  · split at unregistered
    · cases unregistered
    · obtain rfl := List.mem_singleton.mp unregistered
      cases kind
      · exact .unregistered .function name
      · exact .unregistered .variable name

/-- A step emits nothing else. -/
theorem Step.emits_of_mem {step : Step} (emitted : event ∈ (step.perform env stack).1) :
    step.Emits event := by
  cases step with
  | openScope =>
    obtain rfl := List.mem_singleton.mp emitted
    exact .opened _
  | closeScope => exact ScopeStack.emits_close emitted
  | declare name mutable member => exact ScopeStack.emits_declare emitted
  | define name => cases emitted
  | excuse name => cases emitted
  | bindPseudo name span => cases emitted
  | resolve node name access => exact .resolved access (ScopeStack.lookUpEvent_resolve emitted)
  | readVariable node name => exact ScopeStack.emits_readVariable emitted
  | checkAssign name =>
    obtain ⟨declared, rfl⟩ := ScopeStack.mem_requireMutable emitted
    exact .reassigned name declared
  | checkMutate name span =>
    obtain ⟨declared, rfl⟩ := ScopeStack.mem_requireMutable emitted
    exact .mutated name span declared
  | requireForeign kind name => exact Environment.emits_requireForeign emitted
  | report error =>
    obtain rfl := List.mem_singleton.mp emitted
    exact .reported error
  | unreachable span =>
    rw [perform] at emitted
    split at emitted
    · obtain rfl := List.mem_singleton.mp emitted
      exact .unreachable span
    · cases emitted
  | abort fault => cases emitted

/-- Only the closing of a scope warns of what is unused. -/
theorem Step.eq_closeScope_of_unused {step : Step} {name : String} {span : Span}
    (emits : step.Emits (.warning (.unusedLocalVariable name span))) : step = .closeScope := by
  generalize seen : Event.warning (.unusedLocalVariable name span) = event at emits
  cases emits with
  | unused => rfl
  | resolved access lookUp => cases lookUp <;> cases seen
  | read lookUp => cases lookUp <;> cases seen
  | _ => cases seen

end NameResolution
