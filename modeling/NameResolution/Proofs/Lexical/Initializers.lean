import NameResolution.Proofs.Frame.Balance
import NameResolution.Proofs.Lexical.Marks
import NameResolution.Proofs.Lexical.Outside

/-!
# Variables in their own initializers

A variable that is read in the initializer of its own declaration, outside of
all functions in it, is turned away as long as nothing in the same initializer
has marked the binding as read. Once something has, the variable is looked up,
and found in the innermost scope.
-/

namespace NameResolution

/-- The outcome of a variable that stands in the scope in which its name is
declared, behind the sites `earlier` of the same initializer. -/
def Site.initializerOutcome (config : Config) (level : Nat) (earlier : List Site) (site : Site) :
    Outcome :=
  if earlier.any (Site.marks config site.name.name level) then
    if config.isDiscarded site.name.name then
      .rejected (.readOfDiscarded site.name.name config.unusedPrefix site.name.span)
    else .recorded site.node 0
  else .rejected (.selfReference site.name.name site.name.span)

/-- A variable that is read where its innermost binding is known. -/
theorem ScopeStack.outcomesOf_readVariable_here (config : Config) {stack : ScopeStack}
    (node : NodeId) {name : Ident} {binding : Binding}
    (here : stack.getInnermost? name.name = some binding) :
    outcomesOf (stack.readVariable config node name).1 =
      if binding.isDeclaredOnly then [.rejected (.selfReference name.name name.span)]
      else if config.isDiscarded name.name then
        [.rejected (.readOfDiscarded name.name config.unusedPrefix name.span)]
      else [.recorded node 0] := by
  rw [stack.outcomesOf_readVariable, stack.outcomesOf_resolve, here, Option.any_some,
    depth?_of_getInnermost? here]

/-- The binding of a name in the innermost scope, once an initializer has come
back to that scope. It awaits its value unless one of the sites on the way marks it. -/
theorem Expr.isDeclaredOnly_within (env : Environment) (context : Context) {value : Expr}
    {stack : ScopeStack} {name : String} {binding : Binding}
    (here : stack.getInnermost? name = some binding) {first rest : List Step} {sites : List Site}
    (split : value.walk env.config.initializerName context = first ++ rest)
    (settled : settlements first stack.lexical = sites.map fun site => (site.step, site.scopes))
    (back : (rescope first stack.lexical).length = stack.depth) :
    ∃ later, (run env first stack).2.getInnermost? name = some later ∧
      later.isDeclaredOnly =
        (binding.isDeclaredOnly && !sites.any (Site.marks env.config name stack.depth)) := by
  have whole : Confined 0 (value.walk env.config.initializerName context) :=
    (value.shaped env.config.initializerName context).confined nofun
  rw [split] at whole
  have confined : Confined 0 first := (confined_append.mp whole).1
  have level : heightAfter first 0 = 0 := by
    have counted := confined.heightAfter_add stack.depth
    rw [length_rescope, stack.length_lexical] at back
    rw [Nat.add_zero, back] at counted
    omega
  rw [← stack.bindingAt?_zero] at here
  have height : stack.depth = stack.depth + 0 := (Nat.add_zero stack.depth).symm
  obtain ⟨later, there, state⟩ := isDeclaredOnly_run env height confined here
  rw [level, ScopeStack.bindingAt?_zero] at there
  rw [settled, any_marks_map] at state
  exact ⟨later, there, state⟩

/-- The outcome of a variable whose binding awaits its value unless a site
before it in the initializer marked it. -/
theorem Site.outcomesOf_step_initializer (env : Environment) {stack : ScopeStack} {site : Site}
    (form : site.form = .var) {binding : Binding}
    (here : stack.getInnermost? site.name.name = some binding) {level : Nat} {earlier : List Site}
    (state : binding.isDeclaredOnly =
      !earlier.any (Site.marks env.config site.name.name level)) :
    outcomesOf (site.step.perform env stack).1 =
      [site.initializerOutcome env.config level earlier] := by
  have step : site.step = .readVariable site.node site.name := by
    simp only [Site.step, form]
  rw [step]
  refine (ScopeStack.outcomesOf_readVariable_here env.config site.node here).trans ?_
  rw [state, Site.initializerOutcome]
  cases earlier.any (Site.marks env.config site.name.name level) with
  | false => rfl
  | true =>
    simp only [Bool.not_true, Bool.false_eq_true, if_false, if_true]
    split
    · rfl
    · rfl

/-- The outcomes of an initializer that is walked while the binding of `name`
in the innermost scope awaits its value. -/
theorem Expr.initializer_outcomes (env : Environment) (context : Context) {value : Expr}
    {stack : ScopeStack} {name : String} {binding : Binding}
    (here : stack.getInnermost? name = some binding) (pending : binding.isDeclaredOnly = true)
    {earlier later : List Site} {site : Site}
    (sites : value.sites env.config.initializerName context stack.lexical =
      earlier ++ site :: later)
    (form : site.form = .var) (own : site.name.name = name)
    (direct : site.scopes.length = stack.depth) :
    (outcomesOf
        (run env (value.walk env.config.initializerName context) stack).1)[earlier.length]? =
      some (site.initializerOutcome env.config stack.depth earlier) := by
  have covers := Expr.covers env.config.initializerName context stack.lexical value
  obtain ⟨first, rest, split, before, reached⟩ := covers.reaches sites
  rw [← reached] at direct
  obtain ⟨there, found, state⟩ :=
    Expr.isDeclaredOnly_within env context here split before direct
  rw [← own] at found state
  rw [pending, Bool.true_and] at state
  have outcome := site.outcomesOf_step_initializer env form found state
  have counted : earlier.length = (outcomesOf (run env first stack).1).length := by
    rw [← (outcomes_run env first stack).length_eq, before, List.length_map]
  rw [split, run_append, outcomesOf_append, counted,
    List.getElem?_append_right (Nat.le_refl _), Nat.sub_self]
  simp only [run, outcomesOf_append]
  rw [outcome]
  rfl

/-- The steps of a declaration up to its initializer. -/
def Step.opening (context : Context) (name : Ident) (mutable foreign : Bool) : List Step :=
  Step.foreign .variable foreign name ++ [.declare name mutable context.inStruct]

/-- What comes before an initializer settles no reference. -/
theorem Step.settles_opening (context : Context) (name : Ident) (mutable foreign : Bool) :
    ∀ step ∈ Step.opening context name mutable foreign, step.settles = false := by
  cases foreign <;> simp [Step.opening, Step.foreign, Step.settles]

/-- What comes before an initializer declares its own name. -/
theorem Step.rescope_opening (context : Context) (name : Ident) (mutable foreign : Bool)
    (scopes : LexicalScopes) :
    NameResolution.rescope (Step.opening context name mutable foreign) scopes =
      scopes.declare (name.declaration mutable context.inStruct) := by
  cases foreign <;> rfl

/-- A name that is free in the innermost scope awaits its value once it is declared. -/
theorem Step.getInnermost?_opening (env : Environment) (context : Context) (name : Ident)
    (mutable foreign : Bool) {stack : ScopeStack} (nonempty : 0 < stack.depth)
    (free : stack.lexical.bindsHere name.name = false) :
    (run env (Step.opening context name mutable foreign) stack).2.getInnermost? name.name =
      some (.declared name.span mutable context.inStruct) := by
  have asked : (run env (Step.foreign .variable foreign name) stack).2 = stack := by
    cases foreign <;> rfl
  rw [Step.opening, run_snd_append, asked]
  rw [← stack.isSome_getInnermost?, Option.isSome_eq_false_iff, Option.isNone_iff_eq_none] at free
  obtain ⟨scopes⟩ := stack
  cases scopes with
  | nil => cases nonempty
  | cons scope outer =>
    have unbound : scope.get? name.name = none := free
    have declared : (run env [.declare name mutable context.inStruct] ⟨scope :: outer⟩).2 =
        ⟨scope.insert name.name (.declared name.span mutable context.inStruct) :: outer⟩ := by
      simp [run, Step.perform, ScopeStack.declare, ScopeStack.innermost?, unbound,
        ScopeStack.modifyInnermost]
    rw [declared]
    exact scope.get?_insert_of_free unbound _

/-- The walk of a declaration with an initializer. -/
theorem Stmt.walk_letDecl (initializerName : String) (context : Context) (node : Node)
    (name : Ident) (mutable foreign : Bool) (ty : Option Ty) (value : Expr) :
    (Stmt.letDecl node name mutable ty (some value) foreign).walk initializerName context =
      Step.opening context name mutable foreign ++
        (value.walk initializerName context ++ [.define name]) := by
  simp [Stmt.walk, Step.opening]

/-- An entry of a list that stands in a longer one. -/
theorem getElem?_between {α : Type} {leading middle trailing : List α} {position : Nat} {entry : α}
    (found : middle[position]? = some entry) :
    (leading ++ middle ++ trailing)[leading.length + position]? = some entry := by
  have inside : position < middle.length := (List.getElem?_eq_some_iff.mp found).1
  rw [List.append_assoc, List.getElem?_append_right (Nat.le_add_right _ _),
    Nat.add_sub_cancel_left, List.getElem?_append_left inside]
  exact found

/-- A variable is reported exactly if nothing before it marks the binding. -/
theorem Site.initializerOutcome_eq_iff (config : Config) (level : Nat) (earlier : List Site)
    (site : Site) :
    site.initializerOutcome config level earlier =
        .rejected (.selfReference site.name.name site.name.span) ↔
      ∀ other ∈ earlier, other.marks config site.name.name level = false := by
  unfold initializerOutcome
  cases marked : earlier.any (Site.marks config site.name.name level) with
  | false => simpa using marked
  | true =>
    obtain ⟨other, listed, marks⟩ := List.any_eq_true.mp marked
    constructor
    · intro same
      simp only [if_true] at same
      split at same <;> cases same
    · intro unmarked
      rw [unmarked other listed] at marks
      cases marks

section Declaration

variable {env : Environment} {program : Program} {context : Context} {before after : List Step}
  {node : Node} {name : Ident} {mutable foreign : Bool} {ty : Option Ty} {value : Expr}
  (visits : Visits env.config.initializerName program
    (.stmt (.letDecl node name mutable ty (some value) foreign)) context before after)

include visits

/-- Where a run without a fault comes to a declaration, a scope is open. -/
theorem Visits.opened {events : List Event} (faultFree : observe env program = (events, none)) :
    0 < (run env before .empty).2.depth := by
  have whole : (cutAtFault (Program.walk env.config.initializerName program)).2 = none :=
    congrArg Prod.snd faultFree
  have walked := visits.walk
  have asked : (run env (Step.foreign .variable foreign name) (run env before .empty).2).2 =
      (run env before .empty).2 := by
    cases foreign <;> rfl
  rw [Piece.walk, Stmt.walk_letDecl, Step.opening] at walked
  obtain ⟨scope, innermost, -⟩ : (Step.declare name mutable context.inStruct).Regular env
      (run env (before ++ Step.foreign .variable foreign name) .empty).2 := by
    apply Program.regular
    rw [cutAtFault_fst_of_none whole, walked]
    simp only [List.append_assoc, List.cons_append, List.nil_append]
    rfl
  rw [run_snd_append, asked, ScopeStack.innermost?, List.head?_eq_getElem?] at innermost
  exact (List.getElem?_eq_some_iff.mp innermost).1

/-- The walk of a program around an initializer that it comes to. -/
theorem Visits.walk_initializer : ∃ rest,
    Program.walk env.config.initializerName program =
      before ++ Step.opening context name mutable foreign ++
        value.walk env.config.initializerName context ++ rest := by
  have walked := visits.walk
  rw [Piece.walk, Stmt.walk_letDecl] at walked
  refine ⟨[.define name] ++ after, ?_⟩
  rw [walked]
  simp only [List.append_assoc]

/-- Where the sites of an initializer stand among all that a walk settles. -/
theorem Visits.settlement_initializer {scopes : LexicalScopes}
    (inside : scopes = (rescope before []).declare (name.declaration mutable context.inStruct))
    {earlier later : List Site} {site : Site}
    (sites : value.sites env.config.initializerName context scopes = earlier ++ site :: later) :
    (settlements (Program.walk env.config.initializerName program) [])[
        (settlements before []).length + earlier.length]? = some (site.step, site.scopes) := by
  obtain ⟨rest, walked⟩ := visits.walk_initializer
  have aside := Step.settles_opening context name mutable foreign
  have opening : settlements (Step.opening context name mutable foreign) (rescope before []) =
      [] := (Covers.silent aside rfl).settlements
  have covers := Expr.covers env.config.initializerName context scopes value
  have here : (settlements (value.walk env.config.initializerName context)
      scopes)[earlier.length]? = some (site.step, site.scopes) := by
    rw [covers.settlements, sites]
    simp
  rw [walked, settlements_append, settlements_append, settlements_append, opening,
    List.append_nil, rescope_append, Step.rescope_opening, ← inside]
  exact getElem?_between here

/-- Where the outcomes of an initializer stand among those of a run. -/
theorem Visits.outcome_initializer {events : List Event}
    (faultFree : observe env program = (events, none)) {position : Nat} {outcome : Outcome}
    (here : (outcomesOf (run env (value.walk env.config.initializerName context)
      (run env (before ++ Step.opening context name mutable foreign) .empty).2).1)[position]? =
        some outcome) :
    (outcomesOf events)[(settlements before []).length + position]? = some outcome := by
  obtain ⟨rest, walked⟩ := visits.walk_initializer
  have aside := Step.settles_opening context name mutable foreign
  have counted : (settlements before []).length =
      (outcomesOf (run env before .empty).1).length :=
    (outcomes_run env before .empty).length_eq
  have opening : outcomesOf (run env (before ++ Step.opening context name mutable foreign)
      .empty).1 = outcomesOf (run env before .empty).1 := by
    rw [run_append, outcomesOf_append, outcomesOf_run_of_aside env aside, List.append_nil]
  rw [outcomesOf_observe faultFree, walked, run_append, outcomesOf_append,
    run_append env (before ++ _), outcomesOf_append, opening, counted]
  exact getElem?_between here

end Declaration

/-- What the initializer of a first declaration makes of the variables in it.
In a run without a fault, take any declaration with an initializer that the
walk visits, of a name that the scope it stands in does not bind yet, and any
variable of that name in the initializer, outside of all functions in it: with
no more scopes around it than the initializer has (see `Expr.outermost`). The
variable is reported as read within its own initializer, and gets no depth, if
and only if none of the references before it in the same initializer marks the
binding. If one does, the variable is looked up, and found at depth 0 unless
its name is marked as discarded. -/
theorem initializer_selfReference {env : Environment} {program : Program} {events : List Event}
    (faultFree : observe env program = (events, none)) {context : Context}
    {before after : List Step} {node : Node} {name : Ident} {mutable foreign : Bool}
    {ty : Option Ty} {value : Expr}
    (visits : Visits env.config.initializerName program
      (.stmt (.letDecl node name mutable ty (some value) foreign)) context before after)
    (first : (rescope before []).bindsHere name.name = false) {scopes : LexicalScopes}
    (inside : scopes = (rescope before []).declare (name.declaration mutable context.inStruct))
    {earlier later : List Site} {site : Site}
    (sites : value.sites env.config.initializerName context scopes = earlier ++ site :: later)
    (form : site.form = .var) (own : site.name.name = name.name)
    (direct : site.scopes.length = scopes.length) :
    let position := (settlements before []).length + earlier.length
    (settlements (Program.walk env.config.initializerName program) [])[position]? =
        some (site.step, site.scopes) ∧
      (outcomesOf events)[position]? =
        some (site.initializerOutcome env.config scopes.length earlier) ∧
      ((outcomesOf events)[position]? =
          some (.rejected (.selfReference site.name.name site.name.span)) ↔
        ∀ other ∈ earlier, other.marks env.config name.name scopes.length = false) := by
  intro position
  have nonempty := visits.opened faultFree
  have beforeLexical : (run env before .empty).2.lexical = rescope before [] :=
    lexical_run env before .empty
  have opened := run_snd_append env before (Step.opening context name mutable foreign) .empty
  have openedLexical : (run env (before ++ Step.opening context name mutable foreign)
      .empty).2.lexical = scopes := by
    rw [opened, lexical_run, beforeLexical, Step.rescope_opening, inside]
  have depth : (run env (before ++ Step.opening context name mutable foreign) .empty).2.depth =
      scopes.length := by
    rw [← ScopeStack.length_lexical, openedLexical]
  have awaited : (run env (before ++ Step.opening context name mutable foreign)
      .empty).2.getInnermost? name.name = some (.declared name.span mutable context.inStruct) := by
    rw [← beforeLexical] at first
    rw [opened]
    exact Step.getInnermost?_opening env context name mutable foreign nonempty first
  have here := Expr.initializer_outcomes env context awaited rfl (openedLexical ▸ sites) form own
    (direct.trans depth.symm)
  rw [depth] at here
  have outcome : (outcomesOf events)[position]? =
      some (site.initializerOutcome env.config scopes.length earlier) :=
    visits.outcome_initializer faultFree here
  refine ⟨visits.settlement_initializer inside sites, outcome, ?_⟩
  rw [outcome, Option.some.injEq, site.initializerOutcome_eq_iff, own]

/-- A name that is read in its own initializer, behind an argument that may change it. -/
def pendingValue : Expr :=
  .array ⟨⟨1⟩, default⟩
    [.mutArg ⟨⟨2⟩, default⟩ ⟨"x", default⟩, .var ⟨⟨3⟩, default⟩ ⟨"x", default⟩]

/-- The only declaration of a name, with that initializer. -/
def pendingRead : Stmt :=
  .letDecl ⟨⟨0⟩, default⟩ ⟨"x", default⟩ false none (some pendingValue) false

/-- The read stands in the initializer of its own name and is recorded all the same. -/
theorem initializer_selfReference_pendingRead :
    ∃ events, observe .bare [pendingRead] = (events, none) ∧
      (outcomesOf events)[1]? = some (.recorded ⟨3⟩ 0) ∧
      (outcomesOf events)[1]? ≠ some (.rejected (.selfReference "x" default)) := by
  obtain ⟨events, faultFree⟩ : ∃ events, observe .bare [pendingRead] = (events, none) := ⟨_, rfl⟩
  have items : (Piece.stmts [pendingRead]).items "init" .outermost =
      [] ++ .visit (.stmt pendingRead) .outermost :: [.visit (.stmts []) .outermost] := rfl
  have visits : Visits "init" [pendingRead] (.stmt pendingRead) .outermost
      [.openScope] [.closeScope] := Visits.program.part items
  have first : (rescope [.openScope] []).bindsHere "x" = false := rfl
  have sites : pendingValue.sites "init" .outermost [[⟨"x", default, false, false⟩]] =
      [⟨⟨.mutArg, ⟨2⟩, ⟨"x", default⟩⟩, .none, [[⟨"x", default, false, false⟩]]⟩] ++
        ⟨⟨.var, ⟨3⟩, ⟨"x", default⟩⟩, .none, [[⟨"x", default, false, false⟩]]⟩ :: [] := rfl
  obtain ⟨-, outcome, reported⟩ :=
    initializer_selfReference faultFree visits first rfl sites rfl rfl rfl
  refine ⟨events, faultFree, outcome, ?_⟩
  intro turnedAway
  have unmarked := reported.mp turnedAway _ (List.mem_singleton_self _)
  cases unmarked

end NameResolution
