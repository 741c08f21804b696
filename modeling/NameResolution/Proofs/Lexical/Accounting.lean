import NameResolution.Proofs.Lexical.Depths
import NameResolution.Proofs.Lexical.Skipped
import NameResolution.Proofs.Run.DepthTable

/-!
# Accounting for references

A run without a fault settles every reference that is walked once and in walk
order: it enters one depth, or notes one global that no open scope binds, or
reports one of six errors. No depth is entered for anything else. So where all
nodes have numbers of their own and no error was found, the depth table
accounts for every reference of the whole tree.
-/

namespace NameResolution

/-- The errors that can settle the reference of a site. -/
def Site.errors (config : Config) (site : Site) : List ResolutionError :=
  [.notDeclared site.name.name site.name.span,
    .selfReference site.name.name site.name.span,
    .readOfDiscarded site.name.name config.unusedPrefix site.name.span,
    .thisOutsideClass site.name.span,
    .superOutsideClass site.name.span,
    .superWithoutSuperclass site.name.span]

/-- The ways in which the reference of a site can be settled. -/
inductive Site.Accounted (config : Config) (site : Site) : Outcome → Prop where
  | recorded (depth : Nat) : site.Accounted config (.recorded site.node depth)
  | global (known : config.isGlobal site.name.name = true)
      (free : ∀ scope ∈ site.scopes, scope.binds site.name.name = false) :
      site.Accounted config (.global site.node site.name.name)
  | rejected (error : ResolutionError) (own : error ∈ site.errors config) :
      site.Accounted config (.rejected error)

/-- A rejection in advance is one of the errors that can settle a reference. -/
theorem Site.Rejection.mem_errors {config : Config} {site : Site} {error : ResolutionError}
    (rejection : site.Rejection config error) : error ∈ site.errors config := by
  cases rejection <;> simp [Site.errors]

/-- However a reference is settled, it is accounted for. -/
theorem Site.Settled.accounted {config : Config} {site : Site} {outcome : Outcome}
    (settled : site.Settled config outcome) : site.Accounted config outcome := by
  cases settled with
  | rejected rejection => exact .rejected _ rejection.mem_errors
  | lookedUp admitted kept =>
    unfold Site.lexicalOutcome
    cases found : site.depth? with
    | some depth => exact .recorded depth
    | none =>
      dsimp only
      split
      · rename_i known
        exact .global known (LexicalScopes.depth?_eq_none_iff.mp found)
      · exact .rejected _ List.mem_cons_self

/-- An error that settles a reference is among the events. -/
theorem error_mem_of_rejected {events : List Event} {error : ResolutionError}
    (rejected : .rejected error ∈ outcomesOf events) : Event.error error ∈ events := by
  obtain ⟨event, happened, outcome⟩ := List.mem_filterMap.mp rejected
  cases event with
  | log entry => cases entry <;> cases outcome
  | depth node hops => cases outcome
  | asked kind name answer => cases outcome
  | diagnostic found =>
    cases found with
    | warning cause => cases outcome
    | error cause =>
      simp only [Event.outcome?, Option.ite_none_right_eq_some, Option.some.injEq,
        Outcome.rejected.injEq] at outcome
      rw [← outcome.2]
      exact happened

/-- A report has errors as soon as one happens. -/
theorem hasErrors_of_mem {events : List Event} {error : ResolutionError}
    (happened : Event.error error ∈ events) : (reportOf events).hasErrors = true := by
  have reported : Diagnostic.error error ∈ reportOf events :=
    List.mem_filterMap.mpr ⟨Event.error error, happened, rfl⟩
  exact List.any_eq_true.mpr ⟨Diagnostic.error error, reported, rfl⟩

/-- An error that is plain from the tree is reported when its step is carried out. -/
theorem error_mem_run {env : Environment} {steps : List Step} {error : ResolutionError}
    (listed : .report error ∈ steps) (stack : ScopeStack) :
    Event.error error ∈ (run env steps stack).1 := by
  induction steps generalizing stack with
  | nil => cases listed
  | cons step rest ih =>
    simp only [run, List.mem_append]
    rcases List.mem_cons.mp listed with here | there
    · subst here
      exact .inl List.mem_cons_self
    · exact .inr (ih there _)

/-- How often the depth of a node is entered. -/
def entriesOf (events : List Event) (node : NodeId) : Nat :=
  ((depthsOf events).map Prod.fst).count node

/-- The nodes of the recorded depths are, in order, among those of the sites. -/
theorem sublist_of_accounted {config : Config} {sites : List Site} {outcomes : List Outcome}
    (accounted : List.Forall₂ (Site.Accounted config) sites outcomes) :
    ((outcomes.filterMap Outcome.depth?).map Prod.fst).Sublist (sites.map (·.node)) := by
  induction accounted with
  | nil => exact .slnil
  | cons first rest ih =>
    cases first with
    | recorded depth => exact ih.cons_cons _
    | global known free => exact ih.cons _
    | rejected error own => exact ih.cons _

/-- Each site has its own outcome. -/
theorem exists_outcome_of_accounted {config : Config} {sites : List Site}
    {outcomes : List Outcome} (accounted : List.Forall₂ (Site.Accounted config) sites outcomes)
    {site : Site} (walked : site ∈ sites) :
    ∃ outcome, (site, outcome) ∈ sites.zip outcomes ∧ site.Accounted config outcome := by
  induction accounted with
  | nil => cases walked
  | @cons first outcome sites outcomes here later ih =>
    rcases List.mem_cons.mp walked with same | behind
    · subst same
      exact ⟨outcome, List.mem_cons_self, here⟩
    · obtain ⟨outcome, paired, settled⟩ := ih behind
      exact ⟨outcome, List.mem_cons_of_mem _ paired, settled⟩

/-- Where nodes have numbers of their own, a depth is entered for a site by its own outcome. -/
theorem outcome_eq_recorded {config : Config} {sites : List Site} {outcomes : List Outcome}
    (accounted : List.Forall₂ (Site.Accounted config) sites outcomes)
    (distinct : (sites.map (·.node)).Nodup) {site : Site} {outcome : Outcome}
    (paired : (site, outcome) ∈ sites.zip outcomes) {depth : Nat}
    (recorded : .recorded site.node depth ∈ outcomes) : outcome = .recorded site.node depth := by
  induction accounted with
  | nil => cases paired
  | @cons first firstOutcome sites outcomes here later ih =>
    simp only [List.map_cons, List.nodup_cons] at distinct
    obtain ⟨fresh, distinct⟩ := distinct
    rcases List.mem_cons.mp paired with same | behind
    · cases same
      rcases List.mem_cons.mp recorded with same | elsewhere
      · exact same.symm
      · have entered : site.node ∈ (outcomes.filterMap Outcome.depth?).map Prod.fst :=
          List.mem_map.mpr
            ⟨(site.node, depth), List.mem_filterMap.mpr ⟨_, elsewhere, rfl⟩, rfl⟩
        exact absurd ((sublist_of_accounted later).subset entered) fresh
    · rcases List.mem_cons.mp recorded with same | elsewhere
      · have again : site.node ∈ sites.map (·.node) :=
          List.mem_map.mpr ⟨site, (List.of_mem_zip behind).1, rfl⟩
        have firstNode : first.node = site.node := by
          cases here with
          | recorded hops => exact (Outcome.recorded.inj same).1.symm
          | global known free => cases same
          | rejected error own => cases same
        exact absurd (firstNode ▸ again) fresh
      · exact ih distinct behind elsewhere

/-- Every reference that is walked is accounted for. -/
structure Accounts (env : Environment) (program : Program) (events : List Event) : Prop where
  /-- The sites are the references that are walked, in walk order. -/
  sites : (Program.sites env.config.initializerName program).map Site.toReference =
    Program.walkedReferences env.config.initializerName program
  /-- Each is settled once: the outcomes are all that the events settle. -/
  outcomes : List.Forall₂ (Site.Accounted env.config)
    (Program.sites env.config.initializerName program) (outcomesOf events)
  /-- A depth is entered for the outcome of a reference and for nothing else. -/
  depths : depthsOf events = (outcomesOf events).filterMap Outcome.depth?

/-- The depth table accounts for every reference of the whole tree. -/
structure Complete (env : Environment) (program : Program) (events : List Event)
    (table : DepthTable) : Prop where
  /-- A reference has one entry, or it has none and is a global that no scope around it binds. -/
  reference : ∀ reference ∈ Program.references env.config.initializerName program,
    ∃ site ∈ Program.sites env.config.initializerName program, site.toReference = reference ∧
      ((∃ depth, table.depthOf? reference.node = some depth ∧
          entriesOf events reference.node = 1) ∨
        (table.depthOf? reference.node = none ∧ entriesOf events reference.node = 0 ∧
          env.config.isGlobal reference.name.name = true ∧
          ∀ scope ∈ site.scopes, scope.binds reference.name.name = false))
  /-- Only references have entries. -/
  entry : ∀ node depth, table.depthOf? node = some depth →
    node ∈ (Program.references env.config.initializerName program).map (·.node)

/-- A run without a fault accounts for every reference that is walked. -/
theorem Program.accounts {env : Environment} {program : Program} {events : List Event}
    (faultFree : observe env program = (events, none)) : Accounts env program events where
  sites := Program.walkedReferences_eq env.config.initializerName program
  outcomes := (Program.settled faultFree).imp fun _ _ => Site.Settled.accounted
  depths := depthsOf_eq_outcomes events

/-- The numbers of references are among those of all nodes. -/
theorem Program.nodes_references_sublist (initializerName : String) (program : Program) :
    ((Program.references initializerName program).map (·.node)).Sublist
      (Program.nodeIds initializerName program) := by
  unfold Program.references Program.nodeIds
  generalize Program.occurrences initializerName program = occurrences
  induction occurrences with
  | nil => exact .slnil
  | cons occurrence rest ih =>
    cases own : occurrence.reference? with
    | none =>
      rw [List.filterMap_cons_none own]
      exact ih.cons _
    | some reference =>
      rw [List.filterMap_cons_some own, List.map_cons, List.map_cons,
        occurrence.numbered reference own]
      exact ih.cons_cons _

/-- The references that are walked are, in order, among those of the tree. -/
theorem Program.walkedReferences_sublist (initializerName : String) (program : Program) :
    (Program.walkedReferences initializerName program).Sublist
      (Program.references initializerName program) := by
  unfold Program.walkedReferences Program.references
  generalize Program.occurrences initializerName program = occurrences
  induction occurrences with
  | nil => exact .slnil
  | cons occurrence rest ih =>
    cases reached : occurrence.walked? with
    | none =>
      rw [List.filterMap_cons_none reached]
      exact ih.trans ((List.sublist_cons_self occurrence rest).filterMap _)
    | some reference =>
      have own : occurrence.reference? = some reference := by
        unfold Occurrence.walked? at reached
        split at reached
        · cases reached
        · exact reached
      rw [List.filterMap_cons_some reached, List.filterMap_cons_some own]
      exact ih.cons_cons _

/-- Where nodes have numbers of their own, so have sites. -/
theorem Program.nodup_sites {initializerName : String} {program : Program}
    (distinct : (Program.nodeIds initializerName program).Nodup) :
    ((Program.sites initializerName program).map (·.node)).Nodup := by
  have walked := (Program.walkedReferences_sublist initializerName program).map (·.node)
  rw [← Program.walkedReferences_eq, List.map_map] at walked
  exact (walked.trans (Program.nodes_references_sublist initializerName program)).nodup distinct

/-- Where nodes have numbers of their own, no depth is entered twice. -/
theorem Program.nodup_depths {env : Environment} {program : Program} {events : List Event}
    (faultFree : observe env program = (events, none))
    (distinct : (Program.nodeIds env.config.initializerName program).Nodup) :
    ((depthsOf events).map Prod.fst).Nodup := by
  have accounts := Program.accounts faultFree
  rw [accounts.depths]
  exact (sublist_of_accounted accounts.outcomes).nodup (Program.nodup_sites distinct)

/-- A run that finds no error reaches every reference. -/
theorem Program.walkedReferences_of_noErrors {env : Environment} {program : Program}
    {events : List Event} (faultFree : observe env program = (events, none))
    (noErrors : (reportOf events).hasErrors = false) :
    Program.walkedReferences env.config.initializerName program =
      Program.references env.config.initializerName program := by
  apply Program.walkedReferences_of_unreported
  intro span listed
  have happened : Event.error (.initializerReturnValue span) ∈ events := by
    rw [observe_eq_run faultFree]
    exact List.mem_cons_of_mem _ (List.mem_append_left _ (error_mem_run listed .empty))
  rw [hasErrors_of_mem happened] at noErrors
  cases noErrors

/-- Without errors, and with a number for each node, the depth table is complete. -/
theorem Program.complete {env : Environment} {program : Program} {events : List Event}
    (faultFree : observe env program = (events, none))
    (distinct : (Program.nodeIds env.config.initializerName program).Nodup)
    (noErrors : (reportOf events).hasErrors = false) :
    Complete env program events (DepthTable.empty.recordAll (depthsOf events)) := by
  have accounts := Program.accounts faultFree
  have all := Program.walkedReferences_of_noErrors faultFree noErrors
  have sites : (Program.sites env.config.initializerName program).map Site.toReference =
      Program.references env.config.initializerName program := accounts.sites.trans all
  have nodes : (Program.sites env.config.initializerName program).map (·.node) =
      (Program.references env.config.initializerName program).map (·.node) := by
    rw [← sites, List.map_map]
    rfl
  have sitesDistinct := Program.nodup_sites distinct
  have among : ((depthsOf events).map Prod.fst).Sublist
      ((Program.sites env.config.initializerName program).map (·.node)) := by
    rw [accounts.depths]
    exact sublist_of_accounted accounts.outcomes
  have depthsDistinct := Program.nodup_depths faultFree distinct
  constructor
  · intro reference listed
    rw [← sites] at listed
    obtain ⟨site, walked, rfl⟩ := List.mem_map.mp listed
    obtain ⟨outcome, paired, settled⟩ := exists_outcome_of_accounted accounts.outcomes walked
    have given : outcome ∈ outcomesOf events := (List.of_mem_zip paired).2
    refine ⟨site, walked, rfl, ?_⟩
    cases settled with
    | recorded depth =>
      have entered : (site.node, depth) ∈ depthsOf events := by
        rw [accounts.depths]
        exact List.mem_filterMap.mpr ⟨_, given, rfl⟩
      exact .inl ⟨depth, DepthTable.depthOf?_recordAll_of_mem depthsDistinct entered _,
        List.count_eq_one_of_mem depthsDistinct (List.mem_map_of_mem entered)⟩
    | global known free =>
      have absent : site.node ∉ (depthsOf events).map Prod.fst := by
        intro entered
        obtain ⟨⟨node, depth⟩, entered, same⟩ := List.mem_map.mp entered
        rw [accounts.depths] at entered
        obtain ⟨other, listed, recorded⟩ := List.mem_filterMap.mp entered
        cases other <;> cases recorded
        cases same
        cases outcome_eq_recorded accounts.outcomes sitesDistinct paired listed
      refine .inr ⟨?_, List.count_eq_zero_of_not_mem absent, known, free⟩
      rw [DepthTable.depthOf?_recordAll_of_not_mem absent, DepthTable.depthOf?_empty]
    | rejected error own =>
      rw [hasErrors_of_mem (error_mem_of_rejected given)] at noErrors
      cases noErrors
  · intro node depth found
    rw [← nodes]
    exact among.subset (DepthTable.mem_of_depthOf?_recordAll found)

/-- Every reference has exactly one outcome. A run without a fault accounts for
each reference that is walked, in walk order. If moreover no two nodes have the
same number and the program may run, every reference of the whole tree has one
entry in the depth table, or none and is a global that no scope binds. -/
theorem resolve_accounts {env : Environment} {program : Program} {resolution : Resolution}
    (succeeds : resolve env program = .ok resolution) :
    ∃ events, observe env program = (events, none) ∧ Accounts env program events ∧
      ((Program.nodeIds env.config.initializerName program).Nodup →
        resolution.canProceed = true →
        Complete env program events resolution.depths) := by
  obtain ⟨events, faultFree, rfl⟩ := resolve_eq_ok_iff.mp succeeds
  refine ⟨events, faultFree, Program.accounts faultFree, ?_⟩
  intro distinct mayRun
  have noErrors : (reportOf events).hasErrors = false := by
    simpa [Resolution.canProceed] using mayRun
  exact Program.complete faultFree distinct noErrors

/-- A program that prints a variable of its own and the global `clock`. -/
def globalRead : Program :=
  [.letDecl ⟨⟨0⟩, default⟩ ⟨"x", default⟩ false none
      (some (.literal ⟨⟨1⟩, default⟩ .nil)) false,
    .print ⟨⟨2⟩, default⟩ (.var ⟨⟨3⟩, default⟩ ⟨"x", default⟩),
    .print ⟨⟨4⟩, default⟩ (.var ⟨⟨5⟩, default⟩ ⟨"clock", default⟩)]

/-- Nothing but the global `clock`. -/
def Environment.clock : Environment :=
  { Environment.bare with config := Environment.bare.config.withGlobal "clock" }

/-- The same program with a class behind it whose initializer returns `x`, as a method does. -/
def globalReadWithClass : Program :=
  globalRead ++
    [.classDecl ⟨⟨6⟩, default⟩ ⟨"A", default⟩ none
      [⟨some ⟨"init", default⟩, [], none,
          [.ret ⟨⟨8⟩, default⟩ (some (.var ⟨⟨7⟩, default⟩ ⟨"x", default⟩))], false, default⟩,
        ⟨some ⟨"run", default⟩, [], none,
          [.ret ⟨⟨10⟩, default⟩ (some (.var ⟨⟨9⟩, default⟩ ⟨"x", default⟩))], false, default⟩]]

/-- The first program may run, and its references have an entry or are global. In the second the
value that the initializer returns is left alone: the tree has that reference and the walk has
not, and there is no entry for it but one for what the method returns. -/
theorem resolve_accounts_globalRead :
    (∃ resolution, resolve .clock globalRead = .ok resolution ∧
      resolution.depths.depthOf? ⟨3⟩ = some 0 ∧ resolution.depths.depthOf? ⟨5⟩ = none ∧
      ∃ events, observe .clock globalRead = (events, none) ∧
        Accounts .clock globalRead events ∧
        Complete .clock globalRead events resolution.depths) ∧
    ∃ resolution, resolve .clock globalReadWithClass = .ok resolution ∧
      (Program.references "init" globalReadWithClass).map (·.node) = [⟨3⟩, ⟨5⟩, ⟨7⟩, ⟨9⟩] ∧
      (Program.walkedReferences "init" globalReadWithClass).map (·.node) = [⟨3⟩, ⟨5⟩, ⟨9⟩] ∧
      resolution.depths.depthOf? ⟨7⟩ = none ∧ resolution.depths.depthOf? ⟨9⟩ = some 2 ∧
      ∃ events, observe .clock globalReadWithClass = (events, none) ∧
        Accounts .clock globalReadWithClass events := by
  constructor
  · have faultFree : observe .clock globalRead = ((observe .clock globalRead).1, none) := rfl
    have succeeds := resolve_eq_ok_iff.mpr ⟨_, faultFree, rfl⟩
    have distinct : (Program.nodeIds "init" globalRead).Nodup := by decide
    obtain ⟨events, same, accounts, complete⟩ := resolve_accounts succeeds
    exact ⟨_, succeeds, by decide +kernel, by decide +kernel, events, same, accounts,
      complete distinct (by decide +kernel)⟩
  · have faultFree : observe .clock globalReadWithClass =
        ((observe .clock globalReadWithClass).1, none) := rfl
    have succeeds := resolve_eq_ok_iff.mpr ⟨_, faultFree, rfl⟩
    obtain ⟨events, same, accounts, -⟩ := resolve_accounts succeeds
    exact ⟨_, succeeds, by decide +kernel, by decide +kernel, by decide +kernel, by decide +kernel,
      events, same, accounts⟩

end NameResolution
