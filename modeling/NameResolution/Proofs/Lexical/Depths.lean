import NameResolution.Proofs.Lexical.Settlement
import NameResolution.Proofs.Run.DepthTable

/-!
# Depths are lexical

What a run without a fault enters in its depth table, against the sites of the
program. A reference that no error turns away before its name is looked up is
entered exactly when some enclosing scope binds its name, and its depth counts
the scopes left on the way out to the innermost scope that does.
-/

namespace NameResolution

/-- Whether an outcome turns a reference away before its name is looked up. -/
def Outcome.turnsAway : Outcome → Bool
  | .rejected (.selfReference _ _) => true
  | .rejected (.readOfDiscarded _ _ _) => true
  | .rejected (.thisOutsideClass _) => true
  | .rejected (.superOutsideClass _) => true
  | .rejected (.superWithoutSuperclass _) => true
  | _ => false

/-- `site.Lexical config outcome`: the outcome is what the scopes around the site make of it. -/
structure Site.Lexical (config : Config) (site : Site) (outcome : Outcome) : Prop where
  /-- A reference that is looked up is recorded exactly when a scope around it binds its name. -/
  recorded_iff : outcome.turnsAway = false →
    ((∃ depth, outcome = .recorded site.node depth) ↔
      ∃ scope ∈ site.scopes, scope.binds site.name.name = true)
  /-- What is recorded is the reference itself, with the number of scopes left
  to reach the innermost one that binds its name. -/
  depth : ∀ node depth, outcome = .recorded node depth →
    node = site.node ∧
      (site.scopes[depth]?.any (·.binds site.name.name)) = true ∧
      ∀ nearer < depth, (site.scopes[nearer]?.any (·.binds site.name.name)) = false
  /-- A name that no scope binds is a global or was not declared. -/
  unbound : outcome.turnsAway = false →
    (∀ scope ∈ site.scopes, scope.binds site.name.name = false) →
    outcome = if config.isGlobal site.name.name then .global site.node site.name.name
      else .rejected (.notDeclared site.name.name site.name.span)
  /-- A reference that is turned away is turned away for itself. -/
  turnedAway : outcome.turnsAway = true →
    ∃ error, outcome = .rejected error ∧ site.Rejection config error

/-- A look-up is never a rejection in advance. -/
theorem Site.turnsAway_lexicalOutcome (config : Config) (site : Site) :
    (site.lexicalOutcome config).turnsAway = false := by
  unfold Site.lexicalOutcome
  split
  · rfl
  · split
    · rfl
    · rfl

/-- A rejection in advance turns its reference away. -/
theorem Site.Rejection.turnsAway {config : Config} {site : Site} {error : ResolutionError}
    (rejection : site.Rejection config error) : (Outcome.rejected error).turnsAway = true := by
  cases rejection <;> rfl

/-- A look-up ends as the scopes around the site say. -/
theorem Site.lexical_lexicalOutcome (config : Config) (site : Site) :
    site.Lexical config (site.lexicalOutcome config) := by
  have looked := site.turnsAway_lexicalOutcome config
  cases found : site.depth? with
  | some depth =>
    have outcome : site.lexicalOutcome config = .recorded site.node depth := by
      simp only [Site.lexicalOutcome, found]
    obtain ⟨bound, nearest⟩ := LexicalScopes.depth?_eq_some_iff.mp found
    obtain ⟨scope, here, binds⟩ := (Option.any_eq_true _ _).mp bound
    have enclosing : scope ∈ site.scopes := List.mem_of_getElem? here
    constructor
    case recorded_iff =>
      intro _
      constructor
      · intro _
        exact ⟨scope, enclosing, binds⟩
      · intro _
        exact ⟨depth, outcome⟩
    case depth =>
      intro node hops recorded
      rw [outcome] at recorded
      cases recorded
      exact ⟨rfl, bound, nearest⟩
    case unbound =>
      intro _ free
      rw [free scope enclosing] at binds
      cases binds
    case turnedAway =>
      intro turned
      rw [looked] at turned
      cases turned
  | none =>
    have free := LexicalScopes.depth?_eq_none_iff.mp found
    have outcome : site.lexicalOutcome config =
        if config.isGlobal site.name.name then .global site.node site.name.name
        else .rejected (.notDeclared site.name.name site.name.span) := by
      simp only [Site.lexicalOutcome, found]
    have unrecorded (node : NodeId) (depth : Nat) :
        site.lexicalOutcome config ≠ .recorded node depth := by
      rw [outcome]
      split <;> simp
    constructor
    case recorded_iff =>
      intro _
      constructor
      · rintro ⟨depth, recorded⟩
        exact absurd recorded (unrecorded site.node depth)
      · rintro ⟨scope, enclosing, binds⟩
        rw [free scope enclosing] at binds
        cases binds
    case depth =>
      intro node hops recorded
      exact absurd recorded (unrecorded node hops)
    case unbound =>
      intro _ _
      exact outcome
    case turnedAway =>
      intro turned
      rw [looked] at turned
      cases turned

/-- However a reference is settled, it is settled as the scopes around it say. -/
theorem Site.Settled.lexical {config : Config} {site : Site} {outcome : Outcome}
    (settled : site.Settled config outcome) : site.Lexical config outcome := by
  cases settled with
  | lookedUp admitted kept => exact site.lexical_lexicalOutcome config
  | rejected rejection =>
    have turned := rejection.turnsAway
    constructor
    case recorded_iff =>
      intro looked
      rw [turned] at looked
      cases looked
    case depth =>
      intro node depth recorded
      cases recorded
    case unbound =>
      intro looked
      rw [turned] at looked
      cases looked
    case turnedAway =>
      intro _
      exact ⟨_, rfl, rejection⟩

/-- A resolution is made from the events of a run without a fault. -/
theorem resolve_eq_ok_iff {env : Environment} {program : Program} {resolution : Resolution} :
    resolve env program = .ok resolution ↔
      ∃ events, observe env program = (events, none) ∧
        resolution = ⟨DepthTable.empty.recordAll (depthsOf events), reportOf events⟩ := by
  unfold resolve
  obtain ⟨events, fault⟩ := observe env program
  cases fault with
  | none =>
    constructor
    · intro succeeds
      cases succeeds
      exact ⟨events, rfl, rfl⟩
    · rintro ⟨_, same, rfl⟩
      cases same
      rfl
  | some fault =>
    constructor
    · intro succeeds
      cases succeeds
    · rintro ⟨_, same, -⟩
      cases same

/-- The depth table is lexical scoping. In a run without a fault the references
that are walked have one outcome each, in walk order. Every outcome is the one
that the scopes around its reference make of it, the depths that are recorded
are those of the outcomes and no others, the report is that of the run, and the
table says of each node the depth that was recorded last for it, and nothing of
a node for which none was. -/
theorem resolve_depths_lexical {env : Environment} {program : Program} {resolution : Resolution}
    (succeeds : resolve env program = .ok resolution) :
    ∃ events, observe env program = (events, none) ∧
      List.Forall₂ (Site.Lexical env.config)
        (Program.sites env.config.initializerName program) (outcomesOf events) ∧
      depthsOf events = (outcomesOf events).filterMap Outcome.depth? ∧
      resolution.report = reportOf events ∧
      ∀ node, resolution.depths.depthOf? node = (depthsOf events).reverse.lookup node := by
  obtain ⟨events, faultFree, rfl⟩ := resolve_eq_ok_iff.mp succeeds
  have settled := Program.settled faultFree
  exact ⟨events, faultFree, settled.imp fun _ _ => Site.Settled.lexical,
    depthsOf_eq_outcomes events, rfl, DepthTable.depthOf?_recordAll_empty _⟩

/-- A program that defines `x` and a function that reads it, and then what nothing defines. -/
def outerRead : Program :=
  [.letDecl default ⟨"x", default⟩ false none (some (.literal default .nil)) false,
    .function default ⟨some ⟨"f", default⟩, [], none,
      [.expression default (.var ⟨⟨7⟩, default⟩ ⟨"x", default⟩),
        .expression default (.var ⟨⟨8⟩, default⟩ ⟨"y", default⟩)], false, default⟩]

/-- The read of `x` leaves one scope, and the read of what nothing defines has no entry. -/
theorem resolve_depths_lexical_outerRead :
    ∃ resolution, resolve .bare outerRead = .ok resolution ∧
      resolution.depths.depthOf? ⟨7⟩ = some 1 ∧ resolution.depths.depthOf? ⟨8⟩ = none ∧
      resolution.report = [.error (.notDeclared "y" default)] ∧
      ∃ events, observe .bare outerRead = (events, none) ∧
        List.Forall₂ (Site.Lexical Environment.bare.config)
          (Program.sites "init" outerRead) (outcomesOf events) ∧
        depthsOf events = (outcomesOf events).filterMap Outcome.depth? ∧
        resolution.report = reportOf events ∧
        ∀ node, resolution.depths.depthOf? node = (depthsOf events).reverse.lookup node := by
  have faultFree : observe .bare outerRead = ((observe .bare outerRead).1, none) := rfl
  have succeeds := resolve_eq_ok_iff.mpr ⟨_, faultFree, rfl⟩
  exact ⟨_, succeeds, by decide +kernel, by decide +kernel, rfl, resolve_depths_lexical succeeds⟩

end NameResolution
