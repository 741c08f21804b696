import Mathlib.Data.List.Forall2
import NameResolution.Proofs.Run.Fault

/-!
# Correspondences

Two runs can be compared although they are on different names, node numbers and
places, as long as it is said what corresponds to what. Steps, diagnostics and
events correspond if they are of the same form and hold corresponding things. A
correspondence is faithful to two environments if it is one to one on names and
the environments answer alike whenever they are asked for corresponding ones.
-/

namespace NameResolution

/-- What corresponds to what in two runs. -/
structure Correspondence where
  name : String → String → Prop
  /-- The texts that discarded names start with. -/
  unusedPrefix : String → String → Prop
  node : NodeId → NodeId → Prop
  span : Span → Span → Prop

/-- Environments give the same answers on names that correspond. -/
structure Correspondence.Faithful (c : Correspondence) (env other : Environment) : Prop where
  /-- Names are the same on one side exactly when they are on the other. -/
  oneToOne : ∀ {first first' second second' : String}, c.name first first' →
    c.name second second' → (first = second ↔ first' = second')
  this : c.name "this" "this"
  super : c.name "super" "super"
  isGlobal : ∀ {name name' : String}, c.name name name' →
    env.config.isGlobal name = other.config.isGlobal name'
  isDiscarded : ∀ {name name' : String}, c.name name name' →
    env.config.isDiscarded name = other.config.isDiscarded name'
  registry : ∀ (kind : ForeignKind) {name name' : String}, c.name name name' →
    env.registry kind name = other.registry kind name'
  unusedPrefix : c.unusedPrefix env.config.unusedPrefix other.config.unusedPrefix
  lints : env.config.lints = other.config.lints

/-- The test whether two names are the same comes out alike. -/
theorem Correspondence.Faithful.beq {c : Correspondence} {env other : Environment}
    (faithful : c.Faithful env other) {first first' second second' : String}
    (one : c.name first first') (two : c.name second second') :
    (first == second) = (first' == second') := by
  rw [Bool.eq_iff_iff, beq_iff_eq, beq_iff_eq]
  exact faithful.oneToOne one two

/-- Identifiers with corresponding names at corresponding places. -/
structure Ident.Corresponds (c : Correspondence) (left right : Ident) : Prop where
  name : c.name left.name right.name
  span : c.span left.span right.span

/-- Nodes with corresponding numbers at corresponding places. -/
structure Node.Corresponds (c : Correspondence) (left right : Node) : Prop where
  id : c.node left.id right.id
  span : c.span left.span right.span

/-- Faults of the same shape. -/
structure Fault.Corresponds (c : Correspondence) (left right : Fault) : Prop where
  shape : left.shape = right.shape
  span : c.span left.span right.span

/-- Errors of the same kind. -/
inductive ResolutionError.Corresponds (c : Correspondence) :
    ResolutionError → ResolutionError → Prop where
  | duplicateDeclaration {name name' : String} {span span' kept kept' : Span}
      (named : c.name name name') (place : c.span span span') (first : c.span kept kept') :
      Corresponds c (.duplicateDeclaration name span kept) (.duplicateDeclaration name' span' kept')
  | notDeclared {name name' : String} {span span' : Span}
      (named : c.name name name') (place : c.span span span') :
      Corresponds c (.notDeclared name span) (.notDeclared name' span')
  | selfReference {name name' : String} {span span' : Span}
      (named : c.name name name') (place : c.span span span') :
      Corresponds c (.selfReference name span) (.selfReference name' span')
  | readOfDiscarded {name name' unusedPrefix unusedPrefix' : String} {span span' : Span}
      (named : c.name name name') (marked : c.unusedPrefix unusedPrefix unusedPrefix')
      (place : c.span span span') :
      Corresponds c (.readOfDiscarded name unusedPrefix span)
        (.readOfDiscarded name' unusedPrefix' span')
  | reassignImmutable {name name' : String} {span span' declared declared' : Span}
      (named : c.name name name') (place : c.span span span')
      (declaration : c.span declared declared') :
      Corresponds c (.reassignImmutable name span declared)
        (.reassignImmutable name' span' declared')
  | mutateThroughImmutable {name name' : String} {span span' declared declared' : Span}
      (named : c.name name name') (place : c.span span span')
      (declaration : c.span declared declared') :
      Corresponds c (.mutateThroughImmutable name span declared)
        (.mutateThroughImmutable name' span' declared')
  | uninitializedImmutable {name name' : String} {span span' : Span}
      (named : c.name name name') (place : c.span span span') :
      Corresponds c (.uninitializedImmutable name span) (.uninitializedImmutable name' span')
  | topLevelReturn {span span' : Span} (place : c.span span span') :
      Corresponds c (.topLevelReturn span) (.topLevelReturn span')
  | initializerReturnValue {span span' : Span} (place : c.span span span') :
      Corresponds c (.initializerReturnValue span) (.initializerReturnValue span')
  | thisOutsideClass {span span' : Span} (place : c.span span span') :
      Corresponds c (.thisOutsideClass span) (.thisOutsideClass span')
  | superOutsideClass {span span' : Span} (place : c.span span span') :
      Corresponds c (.superOutsideClass span) (.superOutsideClass span')
  | superWithoutSuperclass {span span' : Span} (place : c.span span span') :
      Corresponds c (.superWithoutSuperclass span) (.superWithoutSuperclass span')
  | selfInheritance {name name' : String} {span span' : Span}
      (named : c.name name name') (place : c.span span span') :
      Corresponds c (.selfInheritance name span) (.selfInheritance name' span')
  | emptyLoopBody {span span' : Span} (place : c.span span span') :
      Corresponds c (.emptyLoopBody span) (.emptyLoopBody span')
  | unregisteredForeignFunction {name name' : String} {span span' : Span}
      (named : c.name name name') (place : c.span span span') :
      Corresponds c (.unregisteredForeignFunction name span)
        (.unregisteredForeignFunction name' span')
  | unregisteredForeignVariable {name name' : String} {span span' : Span}
      (named : c.name name name') (place : c.span span span') :
      Corresponds c (.unregisteredForeignVariable name span)
        (.unregisteredForeignVariable name' span')

/-- Warnings of the same kind. -/
inductive Warning.Corresponds (c : Correspondence) : Warning → Warning → Prop where
  | unusedLocalVariable {name name' : String} {span span' : Span}
      (named : c.name name name') (place : c.span span span') :
      Corresponds c (.unusedLocalVariable name span) (.unusedLocalVariable name' span')
  | shadowedVariable {name name' : String} {earlier earlier' span span' : Span}
      (named : c.name name name') (hidden : c.span earlier earlier') (place : c.span span span') :
      Corresponds c (.shadowedVariable name earlier span) (.shadowedVariable name' earlier' span')
  | unreachableCode {span span' : Span} (place : c.span span span') :
      Corresponds c (.unreachableCode span) (.unreachableCode span')

/-- Diagnostics of the same kind. -/
inductive Diagnostic.Corresponds (c : Correspondence) : Diagnostic → Diagnostic → Prop where
  | error {cause cause' : ResolutionError} (same : cause.Corresponds c cause') :
      Corresponds c (.error cause) (.error cause')
  | warning {cause cause' : Warning} (same : cause.Corresponds c cause') :
      Corresponds c (.warning cause) (.warning cause')

/-- Lines of the log that say the same. -/
inductive LogEntry.Corresponds (c : Correspondence) : LogEntry → LogEntry → Prop where
  | resolving (statements : Nat) : Corresponds c (.resolving statements) (.resolving statements)
  | pushScope (depth : Nat) : Corresponds c (.pushScope depth) (.pushScope depth)
  | popScope (depth bindings : Nat) :
      Corresponds c (.popScope depth bindings) (.popScope depth bindings)
  | resolvedAt {node node' : NodeId} {name name' : String} (numbered : c.node node node')
      (named : c.name name name') (depth : Nat) :
      Corresponds c (.resolvedAt node name depth) (.resolvedAt node' name' depth)
  | resolvedGlobal {node node' : NodeId} {name name' : String} (numbered : c.node node node')
      (named : c.name name name') :
      Corresponds c (.resolvedGlobal node name) (.resolvedGlobal node' name')
  | aborted {fault fault' : Fault} (same : fault.Corresponds c fault') :
      Corresponds c (.aborted fault) (.aborted fault')
  | finished : Corresponds c .finished .finished

/-- Events of the same kind. -/
inductive Event.Corresponds (c : Correspondence) : Event → Event → Prop where
  | log {entry entry' : LogEntry} (same : entry.Corresponds c entry') :
      Corresponds c (.log entry) (.log entry')
  | diagnostic {found found' : Diagnostic} (same : found.Corresponds c found') :
      Corresponds c (.diagnostic found) (.diagnostic found')
  | depth {node node' : NodeId} (numbered : c.node node node') (hops : Nat) :
      Corresponds c (.depth node hops) (.depth node' hops)
  | asked {name name' : String} (kind : ForeignKind) (named : c.name name name') (answer : Bool) :
      Corresponds c (.asked kind name answer) (.asked kind name' answer)

namespace Event.Corresponds

variable {c : Correspondence}

/-- The events of corresponding errors. -/
theorem error {cause cause' : ResolutionError} (same : cause.Corresponds c cause') :
    Event.Corresponds c (.error cause) (.error cause') :=
  .diagnostic (.error same)

/-- The events of corresponding warnings. -/
theorem warning {cause cause' : Warning} (same : cause.Corresponds c cause') :
    Event.Corresponds c (.warning cause) (.warning cause') :=
  .diagnostic (.warning same)

end Event.Corresponds

/-- Entries of a depth table with the same depth for corresponding nodes. -/
structure DepthsCorrespond (c : Correspondence) (left right : NodeId × Nat) : Prop where
  node : c.node left.1 right.1
  depth : left.2 = right.2

/-- Steps that do the same to corresponding names. -/
inductive Step.Corresponds (c : Correspondence) : Step → Step → Prop where
  | openScope : Corresponds c .openScope .openScope
  | closeScope : Corresponds c .closeScope .closeScope
  | declare {name name' : Ident} (named : name.Corresponds c name') (mutable member : Bool) :
      Corresponds c (.declare name mutable member) (.declare name' mutable member)
  | define {name name' : Ident} (named : name.Corresponds c name') :
      Corresponds c (.define name) (.define name')
  | excuse {name name' : String} (named : c.name name name') :
      Corresponds c (.excuse name) (.excuse name')
  | bindPseudo {name name' : String} {span span' : Span} (named : c.name name name')
      (place : c.span span span') : Corresponds c (.bindPseudo name span) (.bindPseudo name' span')
  | resolve {node node' : NodeId} {name name' : Ident} (numbered : c.node node node')
      (named : name.Corresponds c name') (access : Access) :
      Corresponds c (.resolve node name access) (.resolve node' name' access)
  | readVariable {node node' : NodeId} {name name' : Ident} (numbered : c.node node node')
      (named : name.Corresponds c name') :
      Corresponds c (.readVariable node name) (.readVariable node' name')
  | checkAssign {name name' : Ident} (named : name.Corresponds c name') :
      Corresponds c (.checkAssign name) (.checkAssign name')
  | checkMutate {name name' : Ident} {span span' : Span} (named : name.Corresponds c name')
      (place : c.span span span') :
      Corresponds c (.checkMutate name span) (.checkMutate name' span')
  | requireForeign (kind : ForeignKind) {name name' : Ident} (named : name.Corresponds c name') :
      Corresponds c (.requireForeign kind name) (.requireForeign kind name')
  | report {error error' : ResolutionError} (same : error.Corresponds c error') :
      Corresponds c (.report error) (.report error')
  | unreachable {span span' : Span} (place : c.span span span') :
      Corresponds c (.unreachable span) (.unreachable span')
  | abort {fault fault' : Fault} (same : fault.Corresponds c fault') :
      Corresponds c (.abort fault) (.abort fault')

variable {c : Correspondence}

/-- Corresponding events have corresponding diagnostics, in the same order. -/
theorem reportOf_corresponds {left right : List Event}
    (same : List.Forall₂ (Event.Corresponds c) left right) :
    List.Forall₂ (Diagnostic.Corresponds c) (reportOf left) (reportOf right) := by
  apply List.rel_filterMap _ same
  intro event event' same
  cases same with
  | diagnostic same => exact .some same
  | log same => exact .none
  | depth numbered hops => exact .none
  | asked kind named answer => exact .none

/-- Corresponding events enter the same depths for corresponding nodes, in the same order. -/
theorem depthsOf_corresponds {left right : List Event}
    (same : List.Forall₂ (Event.Corresponds c) left right) :
    List.Forall₂ (DepthsCorrespond c) (depthsOf left) (depthsOf right) := by
  apply List.rel_filterMap _ same
  intro event event' same
  cases same with
  | depth numbered hops => exact .some ⟨numbered, rfl⟩
  | log same => exact .none
  | diagnostic same => exact .none
  | asked kind named answer => exact .none

/-- Corresponding steps abort with corresponding faults. -/
theorem Step.Corresponds.fault? {step step' : Step} (same : step.Corresponds c step') :
    Option.Rel (Fault.Corresponds c) step.fault? step'.fault? := by
  cases same with
  | abort same => exact .some same
  | _ => exact .none

/-- Corresponding steps are cut at corresponding faults. -/
theorem cutAtFault_corresponds {left right : List Step}
    (same : List.Forall₂ (Step.Corresponds c) left right) :
    List.Forall₂ (Step.Corresponds c) (cutAtFault left).1 (cutAtFault right).1 ∧
      Option.Rel (Fault.Corresponds c) (cutAtFault left).2 (cutAtFault right).2 := by
  induction same with
  | nil => exact ⟨.nil, .none⟩
  | @cons step step' rest rest' here there ih =>
    have faults := here.fault?
    generalize aborts : step.fault? = fault, aborts' : step'.fault? = fault' at faults
    cases faults with
    | none =>
      rw [cutAtFault_cons rest aborts, cutAtFault_cons rest' aborts']
      exact ⟨.cons here ih.1, ih.2⟩
    | some same =>
      rw [cutAtFault_cons_of_fault rest aborts, cutAtFault_cons_of_fault rest' aborts']
      exact ⟨.nil, .some same⟩

end NameResolution
