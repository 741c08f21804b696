import NameResolution.Proofs.Correspondence.Basic
import NameResolution.Resolution

/-!
# Runs that correspond

Scopes correspond if they hold corresponding bindings under corresponding names
in the same order. Corresponding steps, carried out on corresponding scopes in
environments that a correspondence is faithful to, give corresponding events
and leave corresponding scopes; so the same holds of whole runs.
-/

namespace NameResolution

/-- Bindings declared at corresponding places that have come equally far. -/
structure Binding.Corresponds (c : Correspondence) (left right : Binding) : Prop where
  span : c.span left.span right.span
  state : left.state = right.state
  mutable : left.mutable = right.mutable
  member : left.member = right.member

/-- Corresponding bindings under corresponding names. -/
structure EntriesCorrespond (c : Correspondence) (left right : String × Binding) : Prop where
  name : c.name left.1 right.1
  binding : left.2.Corresponds c right.2

/-- Scopes that hold corresponding entries in the same order. -/
def Scope.Corresponds (c : Correspondence) (left right : Scope) : Prop :=
  List.Forall₂ (EntriesCorrespond c) left.bindings right.bindings

/-- Stacks of corresponding scopes. -/
def ScopeStack.Corresponds (c : Correspondence) (left right : ScopeStack) : Prop :=
  List.Forall₂ (Scope.Corresponds c) left.scopes right.scopes

/-- Look-ups that leave the same number of scopes and find corresponding bindings. -/
structure FoundCorrespond (c : Correspondence) (left right : Nat × Binding) : Prop where
  hops : left.1 = right.1
  binding : left.2.Corresponds c right.2

/-- What is done to scopes twice: corresponding events happen, and corresponding
scopes are left. -/
structure Parallel (c : Correspondence) (left right : List Event × ScopeStack) : Prop where
  events : List.Forall₂ (Event.Corresponds c) left.1 right.1
  stack : left.2.Corresponds c right.2

/-- Whether a change makes corresponding bindings of corresponding ones. -/
def Uniform (c : Correspondence) (change : Binding → Binding) : Prop :=
  ∀ left right : Binding, left.Corresponds c right → (change left).Corresponds c (change right)

/-- Two options that are related are both empty, or hold related things. -/
theorem none_or_some_of_rel {α β : Type} {related : α → β → Prop} {left : Option α}
    {right : Option β} (rel : Option.Rel related left right) :
    (left = none ∧ right = none) ∨
      ∃ one other, left = some one ∧ right = some other ∧ related one other := by
  cases rel with
  | none => exact .inl ⟨rfl, rfl⟩
  | some same => exact .inr ⟨_, _, rfl, rfl, same⟩

variable {c : Correspondence}

namespace Uniform

/-- A state moves on in the same way whichever names and places there are. -/
theorem advance (state : BindingState) : Uniform c (·.advance state) := by
  intro left right same
  exact ⟨same.span, congrArg (·.later state) same.state, same.mutable, same.member⟩

/-- A reference marks corresponding bindings alike. -/
theorem mark (access : Access) : Uniform c access.mark := by
  cases access with
  | read => exact advance .read
  | write => exact fun _ _ => id

end Uniform

variable {env other : Environment}

namespace Scope.Corresponds

variable {left right : Scope}

/-- Scopes without bindings correspond. -/
theorem empty : Scope.Corresponds c .empty .empty := .nil

/-- Corresponding scopes have the same size. -/
theorem size (same : left.Corresponds c right) : left.size = right.size := same.length_eq

/-- Corresponding names have corresponding bindings in corresponding scopes, or none. -/
theorem get? (faithful : c.Faithful env other) (same : left.Corresponds c right)
    {name name' : String} (named : c.name name name') :
    Option.Rel (Binding.Corresponds c) (left.get? name) (right.get? name') := by
  obtain ⟨bindings⟩ := left
  obtain ⟨bindings'⟩ := right
  have entries : List.Forall₂ (EntriesCorrespond c) bindings bindings' := same
  unfold Scope.get?
  induction entries with
  | nil => exact .none
  | @cons entry entry' rest rest' here there ih =>
    rw [List.lookup_cons, List.lookup_cons, faithful.beq named here.name]
    cases name' == entry'.1 with
    | true => exact .some here.binding
    | false => exact ih there

/-- Inserting corresponding bindings under corresponding names keeps scopes corresponding. -/
theorem insert (faithful : c.Faithful env other) (same : left.Corresponds c right)
    {name name' : String} (named : c.name name name') {binding binding' : Binding}
    (bound : binding.Corresponds c binding') :
    (left.insert name binding).Corresponds c (right.insert name' binding') := by
  obtain ⟨bindings⟩ := left
  obtain ⟨bindings'⟩ := right
  have entries : List.Forall₂ (EntriesCorrespond c) bindings bindings' := same
  unfold Scope.insert Corresponds
  induction entries with
  | nil => exact .cons ⟨named, bound⟩ .nil
  | @cons entry entry' rest rest' here there ih =>
    simp only [insertInto, faithful.beq named here.name]
    split
    · exact .cons ⟨here.name, bound⟩ there
    · exact .cons here (ih there)

/-- A uniform change under corresponding names keeps scopes corresponding. -/
theorem modify (faithful : c.Faithful env other) (same : left.Corresponds c right)
    {name name' : String} (named : c.name name name') {change : Binding → Binding}
    (uniform : Uniform c change) :
    (left.modify name change).Corresponds c (right.modify name' change) := by
  apply List.rel_map _ same
  intro entry entry' here
  dsimp only
  rw [faithful.beq named here.name]
  split
  · exact ⟨here.name, uniform _ _ here.binding⟩
  · exact here

/-- The bindings that deserve a warning correspond. -/
theorem unused (faithful : c.Faithful env other) (same : left.Corresponds c right) :
    List.Forall₂ (EntriesCorrespond c) (left.unused env.config.unusedPrefix)
      (right.unused other.config.unusedPrefix) := by
  apply List.rel_filter _ same
  intro entry entry' here
  have discarded := faithful.isDiscarded here.name
  simp only [Config.isDiscarded] at discarded
  simp only [isUnused, discarded, here.binding.state, here.binding.member]

end Scope.Corresponds

namespace ScopeStack.Corresponds

variable {left right : ScopeStack}

/-- Corresponding stacks have the same height. -/
theorem depth (same : left.Corresponds c right) : left.depth = right.depth := same.length_eq

/-- Opening a scope in both keeps stacks corresponding. -/
theorem push (same : left.Corresponds c right) : left.push.Corresponds c right.push :=
  .cons .empty same

/-- Closing a scope in both keeps stacks corresponding. -/
theorem pop (same : left.Corresponds c right) : left.pop.Corresponds c right.pop := by
  obtain ⟨scopes⟩ := left
  obtain ⟨scopes'⟩ := right
  unfold Corresponds at same
  cases same with
  | nil => exact .nil
  | cons here there => exact there

/-- The innermost scopes of corresponding stacks correspond. -/
theorem innermost? (same : left.Corresponds c right) :
    Option.Rel (Scope.Corresponds c) left.innermost? right.innermost? := by
  obtain ⟨scopes⟩ := left
  obtain ⟨scopes'⟩ := right
  unfold Corresponds at same
  cases same with
  | nil => exact .none
  | cons here there => exact .some here

/-- The same change of both innermost scopes keeps stacks corresponding. -/
theorem modifyInnermost (same : left.Corresponds c right) {change change' : Scope → Scope}
    (uniform : ∀ {scope scope' : Scope}, scope.Corresponds c scope' →
      (change scope).Corresponds c (change' scope')) :
    (left.modifyInnermost change).Corresponds c (right.modifyInnermost change') := by
  obtain ⟨scopes⟩ := left
  obtain ⟨scopes'⟩ := right
  unfold Corresponds at same ⊢
  cases same with
  | nil => exact .nil
  | cons here there => exact .cons (uniform here) there

/-- A look-up leaves as many scopes on either side. -/
theorem findIn (faithful : c.Faithful env other) {scopes scopes' : List Scope}
    (same : List.Forall₂ (Scope.Corresponds c) scopes scopes') {name name' : String}
    (named : c.name name name') :
    Option.Rel (FoundCorrespond c) (ScopeStack.findIn name scopes)
      (ScopeStack.findIn name' scopes') := by
  induction same with
  | nil => exact .none
  | @cons scope scope' outer outer' here there ih =>
    unfold ScopeStack.findIn
    rcases none_or_some_of_rel (here.get? faithful named) with
      ⟨free, free'⟩ | ⟨binding, binding', bound, bound', same⟩
    · rw [free, free']
      rcases none_or_some_of_rel ih with
        ⟨missed, missed'⟩ | ⟨found, found', hit, hit', further⟩
      · rw [missed, missed']
        exact .none
      · rw [hit, hit']
        exact .some ⟨congrArg (· + 1) further.hops, further.binding⟩
    · rw [bound, bound']
      exact .some ⟨rfl, same⟩

/-- What is found outside the innermost scopes corresponds. -/
theorem findEnclosing? (faithful : c.Faithful env other) (same : left.Corresponds c right)
    {name name' : String} (named : c.name name name') :
    Option.Rel (Binding.Corresponds c) (left.findEnclosing? name)
      (right.findEnclosing? name') := by
  have outer : List.Forall₂ (Scope.Corresponds c) left.scopes.tail right.scopes.tail := same.pop
  unfold ScopeStack.findEnclosing?
  rcases none_or_some_of_rel (findIn faithful outer named) with
    ⟨missed, missed'⟩ | ⟨found, found', hit, hit', same⟩
  · rw [missed, missed']
    exact .none
  · rw [hit, hit']
    exact .some same.binding

/-- What an update gives: the same number of scopes left, a corresponding
binding, and corresponding scopes. -/
structure UpdatedCorrespond (c : Correspondence) (left right : Nat × Binding × List Scope) :
    Prop where
  hops : left.1 = right.1
  binding : left.2.1.Corresponds c right.2.1
  scopes : List.Forall₂ (Scope.Corresponds c) left.2.2 right.2.2

/-- An update reaches corresponding bindings at the same number of hops, or none on either side. -/
theorem updateIn (faithful : c.Faithful env other) {scopes scopes' : List Scope}
    (same : List.Forall₂ (Scope.Corresponds c) scopes scopes') {name name' : String}
    (named : c.name name name') {change : Binding → Binding} (uniform : Uniform c change) :
    Option.Rel (UpdatedCorrespond c) (ScopeStack.updateIn name change scopes)
      (ScopeStack.updateIn name' change scopes') := by
  induction same with
  | nil => exact .none
  | @cons scope scope' outer outer' here there ih =>
    unfold ScopeStack.updateIn
    rcases none_or_some_of_rel (here.get? faithful named) with
      ⟨free, free'⟩ | ⟨binding, binding', bound, bound', same⟩
    · rw [free, free']
      rcases none_or_some_of_rel ih with
        ⟨missed, missed'⟩ | ⟨found, found', hit, hit', further⟩
      · rw [missed, missed']
        exact .none
      · rw [hit, hit']
        exact .some ⟨congrArg (· + 1) further.hops, further.binding, .cons here further.scopes⟩
    · rw [bound, bound']
      exact .some ⟨rfl, uniform _ _ same, .cons (here.modify faithful named uniform) there⟩

/-- Corresponding declarations emit corresponding events and keep stacks corresponding. -/
theorem declare (faithful : c.Faithful env other) (same : left.Corresponds c right)
    {name name' : Ident} (named : name.Corresponds c name') (mutable member : Bool) :
    Parallel c (left.declare env.config.lints name mutable member)
      (right.declare other.config.lints name' mutable member) := by
  unfold ScopeStack.declare
  rcases none_or_some_of_rel same.innermost? with
    ⟨missing, missing'⟩ | ⟨scope, scope', innermost, innermost', inner⟩
  · rw [missing, missing']
    exact ⟨.nil, same⟩
  · rw [innermost, innermost']
    dsimp only
    rcases none_or_some_of_rel (inner.get? faithful named.name) with
      ⟨free, free'⟩ | ⟨kept, kept', bound, bound', binding⟩
    · rw [free, free']
      refine ⟨?_, same.modifyInnermost fun scope => scope.insert faithful named.name
        ⟨named.span, rfl, rfl, rfl⟩⟩
      dsimp only
      rcases none_or_some_of_rel (same.findEnclosing? faithful named.name) with
        ⟨missed, missed'⟩ | ⟨earlier, earlier', hit, hit', hidden⟩
      · rw [missed, missed']
        exact .nil
      · rw [hit, hit', faithful.lints]
        dsimp only
        split
        · exact .cons (.warning (.shadowedVariable named.name hidden.span named.span)) .nil
        · exact .nil
    · rw [bound, bound']
      exact ⟨.cons (.error (.duplicateDeclaration named.name named.span binding.span)) .nil, same⟩

/-- Giving a value to corresponding names keeps stacks corresponding. -/
theorem define (faithful : c.Faithful env other) (same : left.Corresponds c right)
    {name name' : Ident} (named : name.Corresponds c name') :
    (left.define name).Corresponds c (right.define name') := by
  apply same.modifyInnermost
  intro scope scope' here
  rcases none_or_some_of_rel (here.get? faithful named.name) with
    ⟨free, free'⟩ | ⟨kept, kept', bound, bound', binding⟩
  · rw [free, free']
    exact here.insert faithful named.name ⟨named.span, rfl, rfl, rfl⟩
  · rw [bound, bound']
    exact here.modify faithful named.name (.advance .defined)

/-- Closing a scope in both emits corresponding events. -/
theorem close (faithful : c.Faithful env other) (same : left.Corresponds c right) :
    Parallel c (left.close env.config) (right.close other.config) := by
  unfold ScopeStack.close
  rcases none_or_some_of_rel same.innermost? with
    ⟨missing, missing'⟩ | ⟨scope, scope', innermost, innermost', inner⟩
  · rw [missing, missing']
    exact ⟨.nil, same⟩
  · rw [innermost, innermost']
    dsimp only
    rw [same.depth, inner.size, faithful.lints]
    refine ⟨.cons (.log (.popScope _ _)) ?_, same.pop⟩
    split
    · apply List.rel_map _ (inner.unused faithful)
      intro entry entry' here
      exact .warning (.unusedLocalVariable here.name here.binding.span)
    · exact .nil

/-- Corresponding references are looked up alike: the hops are the same, or no scope has the
name. -/
theorem resolve (faithful : c.Faithful env other) (same : left.Corresponds c right)
    {node node' : NodeId} (numbered : c.node node node') {name name' : Ident}
    (named : name.Corresponds c name') (access : Access) :
    Parallel c (left.resolve env.config node name access)
      (right.resolve other.config node' name' access) := by
  unfold ScopeStack.resolve ScopeStack.update?
  rcases none_or_some_of_rel (updateIn faithful same named.name (.mark access)) with
    ⟨missed, missed'⟩ | ⟨updated, updated', hit, hit', found⟩
  · rw [missed, missed']
    dsimp only [Option.map_none]
    rw [faithful.isGlobal named.name]
    split
    · exact ⟨.cons (.log (.resolvedGlobal numbered named.name)) .nil, same⟩
    · exact ⟨.cons (.error (.notDeclared named.name named.span)) .nil, same⟩
  · rw [hit, hit']
    obtain ⟨hops, binding, scopes⟩ := updated
    obtain ⟨hops', binding', scopes'⟩ := updated'
    obtain rfl : hops = hops' := found.hops
    exact ⟨.cons (.log (.resolvedAt numbered named.name hops)) (.cons (.depth numbered hops) .nil),
      found.scopes⟩

/-- Corresponding variables are read alike, and turned away alike. -/
theorem readVariable (faithful : c.Faithful env other) (same : left.Corresponds c right)
    {node node' : NodeId} (numbered : c.node node node') {name name' : Ident}
    (named : name.Corresponds c name') :
    Parallel c (left.readVariable env.config node name)
      (right.readVariable other.config node' name') := by
  have pending : (left.getInnermost? name.name).any Binding.isDeclaredOnly =
      (right.getInnermost? name'.name).any Binding.isDeclaredOnly := by
    unfold ScopeStack.getInnermost?
    rcases none_or_some_of_rel same.innermost? with
      ⟨missing, missing'⟩ | ⟨scope, scope', innermost, innermost', inner⟩
    · rw [missing, missing']
      rfl
    · rw [innermost, innermost', Option.bind_some, Option.bind_some]
      rcases none_or_some_of_rel (inner.get? faithful named.name) with
        ⟨free, free'⟩ | ⟨kept, kept', bound, bound', binding⟩
      · rw [free, free']
      · rw [bound, bound']
        exact congrArg (· == BindingState.declared) binding.state
  unfold ScopeStack.readVariable
  rw [pending, faithful.isDiscarded named.name]
  split
  · exact ⟨.cons (.error (.selfReference named.name named.span)) .nil, same⟩
  · split
    · exact ⟨.cons (.error (.readOfDiscarded named.name faithful.unusedPrefix named.span)) .nil,
        same⟩
    · exact same.resolve faithful numbered named .read

/-- Corresponding names are immutable together, and what that causes corresponds. -/
theorem requireMutable (faithful : c.Faithful env other) (same : left.Corresponds c right)
    {name name' : String} (named : c.name name name') {cause cause' : Span → ResolutionError}
    (reports : ∀ {span span' : Span}, c.span span span' →
      (cause span).Corresponds c (cause' span')) :
    List.Forall₂ (Event.Corresponds c) (left.requireMutable name cause)
      (right.requireMutable name' cause') := by
  unfold ScopeStack.requireMutable ScopeStack.find?
  rcases none_or_some_of_rel (findIn faithful same named) with
    ⟨missed, missed'⟩ | ⟨found, found', hit, hit', agree⟩
  · rw [missed, missed']
    exact .nil
  · rw [hit, hit']
    dsimp only
    rw [agree.binding.mutable]
    split
    · exact .nil
    · exact .cons (.error (reports agree.binding.span)) .nil

end ScopeStack.Corresponds

/-- The runtimes are asked for corresponding names and answer alike. -/
theorem Correspondence.Faithful.requireForeign (faithful : c.Faithful env other)
    (kind : ForeignKind) {name name' : Ident} (named : name.Corresponds c name') :
    List.Forall₂ (Event.Corresponds c) (env.requireForeign kind name)
      (other.requireForeign kind name') := by
  unfold Environment.requireForeign
  dsimp only
  rw [faithful.registry kind named.name]
  refine .cons (.asked kind named.name _) ?_
  split
  · exact .nil
  · cases kind
    · exact .cons (.error (.unregisteredForeignFunction named.name named.span)) .nil
    · exact .cons (.error (.unregisteredForeignVariable named.name named.span)) .nil

/-- Corresponding steps do corresponding things to corresponding scopes. -/
theorem Step.Corresponds.perform (faithful : c.Faithful env other) {step step' : Step}
    (same : step.Corresponds c step') {stack stack' : ScopeStack}
    (scopes : stack.Corresponds c stack') :
    Parallel c (step.perform env stack) (step'.perform other stack') := by
  cases same with
  | openScope =>
    have opened : stack.push.depth = stack'.push.depth := scopes.push.depth
    refine ⟨?_, scopes.push⟩
    rw [Step.perform, Step.perform, opened]
    exact .cons (.log (.pushScope _)) .nil
  | closeScope => exact scopes.close faithful
  | declare named mutable member => exact scopes.declare faithful named mutable member
  | define named => exact ⟨.nil, scopes.define faithful named⟩
  | excuse named =>
    exact ⟨.nil, scopes.modifyInnermost fun here => here.modify faithful named (.advance .read)⟩
  | bindPseudo named place =>
    exact ⟨.nil, scopes.modifyInnermost fun here =>
      here.insert faithful named ⟨place, rfl, rfl, rfl⟩⟩
  | resolve numbered named access => exact scopes.resolve faithful numbered named access
  | readVariable numbered named => exact scopes.readVariable faithful numbered named
  | checkAssign named =>
    exact ⟨scopes.requireMutable faithful named.name
      fun declared => .reassignImmutable named.name named.span declared, scopes⟩
  | checkMutate named place =>
    exact ⟨scopes.requireMutable faithful named.name
      fun declared => .mutateThroughImmutable named.name place declared, scopes⟩
  | requireForeign kind named => exact ⟨faithful.requireForeign kind named, scopes⟩
  | report same => exact ⟨.cons (.error same) .nil, scopes⟩
  | unreachable place =>
    refine ⟨?_, scopes⟩
    rw [Step.perform, Step.perform, faithful.lints]
    split
    · exact .cons (.warning (.unreachableCode place)) .nil
    · exact .nil
  | abort same => exact ⟨.nil, scopes⟩

/-- Corresponding steps give corresponding runs. -/
theorem run_corresponds (faithful : c.Faithful env other) {steps steps' : List Step}
    (same : List.Forall₂ (Step.Corresponds c) steps steps') {stack stack' : ScopeStack}
    (scopes : stack.Corresponds c stack') :
    Parallel c (run env steps stack) (run other steps' stack') := by
  induction same generalizing stack stack' with
  | nil => exact ⟨.nil, scopes⟩
  | cons here there ih =>
    have first := here.perform faithful scopes
    have later := ih first.stack
    exact ⟨List.rel_append first.events later.events, later.stack⟩

/-- Programs of corresponding walks are observed to do corresponding things. -/
theorem observe_corresponds (faithful : c.Faithful env other) {program program' : Program}
    (length : program.length = program'.length)
    (same : List.Forall₂ (Step.Corresponds c) (Program.walk env.config.initializerName program)
      (Program.walk other.config.initializerName program')) :
    List.Forall₂ (Event.Corresponds c) (observe env program).1 (observe other program').1 ∧
      Option.Rel (Fault.Corresponds c) (observe env program).2 (observe other program').2 := by
  obtain ⟨steps, fault⟩ := cutAtFault_corresponds same
  have closed : ScopeStack.empty.Corresponds c .empty := .nil
  have ran := run_corresponds faithful steps closed
  refine ⟨?_, fault⟩
  simp only [observe, length]
  refine .cons (.log (.resolving _)) (List.rel_append ran.events (.cons (.log ?_) .nil))
  rcases none_or_some_of_rel fault with ⟨none, none'⟩ | ⟨some, some', aborted, aborted', same⟩
  · rw [none, none']
    exact .finished
  · rw [aborted, aborted']
    exact .aborted same

end NameResolution
