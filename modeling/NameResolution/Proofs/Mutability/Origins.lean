import NameResolution.Proofs.Frame.Openings
import NameResolution.Proofs.Lexical.Meanings
import NameResolution.Proofs.Walk.OwnSteps
import NameResolution.Proofs.Walk.Parts

/-!
# Where mutable bindings come from

A declaration that is mutable was put into its scope by one step, made where a
mutable variable is declared or where a function has a parameter of a mutable
type. All other names that are declared, and those of `this` and `super`, are
immutable.
-/

namespace NameResolution

namespace LexicalScope

/-- A declaration in a scope that declares one more is that one or an earlier one. -/
theorem mem_declare {scope : LexicalScope} {added declaration : Declaration}
    (listed : declaration ∈ scope.declare added) :
    declaration ∈ scope ∨ (declaration = added ∧ scope.binds added.name = false) := by
  unfold declare at listed
  split at listed
  · exact .inl listed
  · rename_i free
    rcases List.mem_append.mp listed with earlier | new
    · exact .inl earlier
    · exact .inr ⟨List.mem_singleton.mp new, Bool.eq_false_iff.mpr free⟩

/-- A declaration in a scope in which one more is put is that one or an earlier one. -/
theorem mem_put {scope : LexicalScope} {added declaration : Declaration}
    (listed : declaration ∈ put added scope) : declaration ∈ scope ∨ declaration = added := by
  induction scope with
  | nil => exact .inr (List.mem_singleton.mp listed)
  | cons earlier rest ih =>
    unfold put at listed
    split at listed
    · rcases List.mem_cons.mp listed with rfl | behind
      · exact .inr rfl
      · exact .inl (List.mem_cons_of_mem _ behind)
    · rcases List.mem_cons.mp listed with rfl | behind
      · exact .inl List.mem_cons_self
      · exact (ih behind).imp (List.mem_cons_of_mem _) id

end LexicalScope

/-- What one step says of the scope so many scopes out that holds a mutable
declaration behind it: the step has just declared it, or some scope held it
before. -/
theorem Step.mem_rescope {step : Step} {scopes : LexicalScopes} {hops : Nat}
    {scope : LexicalScope} {declaration : Declaration}
    (there : (step.rescope scopes)[hops]? = some scope) (listed : declaration ∈ scope)
    (mutable : declaration.mutable = true) :
    (∃ name member, step = .declare name true member ∧ hops = 0 ∧
        declaration = name.declaration true member ∧ scopes.bindsHere name.name = false) ∨
      ∃ level earlier, scopes[level]? = some earlier ∧ declaration ∈ earlier ∧
        step.height (level + 1) = hops + 1 := by
  -- Most steps leave every scope where it is.
  have stays (same : step.rescope scopes = scopes)
      (height : step.height (hops + 1) = hops + 1) :
      ∃ level earlier, scopes[level]? = some earlier ∧ declaration ∈ earlier ∧
        step.height (level + 1) = hops + 1 :=
    ⟨hops, scope, same ▸ there, listed, height⟩
  cases step with
  | openScope =>
    cases hops with
    | zero =>
      cases there
      cases listed
    | succ level => exact .inr ⟨level, scope, there, listed, rfl⟩
  | closeScope =>
    rw [rescope, List.getElem?_tail] at there
    exact .inr ⟨hops + 1, scope, there, listed, rfl⟩
  | declare name flag member =>
    cases scopes with
    | nil => cases there
    | cons here outer =>
      cases hops with
      | succ level => exact .inr ⟨level + 1, scope, there, listed, rfl⟩
      | zero =>
        cases there
        rcases LexicalScope.mem_declare listed with earlier | ⟨rfl, free⟩
        · exact .inr ⟨0, here, rfl, earlier, rfl⟩
        · obtain rfl : flag = true := mutable
          refine .inl ⟨name, member, rfl, rfl, rfl, ?_⟩
          exact free
  | define name =>
    cases scopes with
    | nil => cases there
    | cons here outer =>
      cases hops with
      | succ level => exact .inr ⟨level + 1, scope, there, listed, rfl⟩
      | zero =>
        cases there
        rcases LexicalScope.mem_declare listed with earlier | ⟨rfl, -⟩
        · exact .inr ⟨0, here, rfl, earlier, rfl⟩
        · cases mutable
  | bindPseudo name span =>
    cases scopes with
    | nil => cases there
    | cons here outer =>
      cases hops with
      | succ level => exact .inr ⟨level + 1, scope, there, listed, rfl⟩
      | zero =>
        cases there
        rcases LexicalScope.mem_put listed with earlier | rfl
        · exact .inr ⟨0, here, rfl, earlier, rfl⟩
        · cases mutable
  | _ => exact .inr (stays rfl rfl)

/-- A mutable declaration was made by one of the steps, in a scope that has stayed
open since, where its name was free. -/
theorem exists_declare_of_mem {steps : List Step} {hops : Nat} {scope : LexicalScope}
    {declaration : Declaration} (there : (rescope steps [])[hops]? = some scope)
    (listed : declaration ∈ scope) (mutable : declaration.mutable = true) :
    ∃ first name member rest, steps = first ++ .declare name true member :: rest ∧
      declaration = name.declaration true member ∧
      (rescope first []).bindsHere name.name = false ∧
      StaysOpen 1 rest ∧ heightAfter rest 1 = hops + 1 := by
  induction steps using List.reverseRecOn generalizing hops scope with
  | nil => cases there
  | append_singleton steps step ih =>
    rw [rescope_append, rescope_cons, rescope_nil] at there
    rcases Step.mem_rescope there listed mutable with
      ⟨name, member, rfl, rfl, own, free⟩ | ⟨level, earlier, before, inside, height⟩
    · exact ⟨steps, name, member, [], rfl, own, free, Nat.one_pos, rfl⟩
    · obtain ⟨first, name, member, rest, rfl, own, free, stays, behind⟩ := ih before inside
      have now : step.height (heightAfter rest 1) = hops + 1 := by rw [behind, height]
      refine ⟨first, name, member, rest ++ [step], ?_, own, free, stays.snoc (by omega), ?_⟩
      · rw [List.append_assoc, List.cons_append]
      · rw [heightAfter_append, heightAfter_cons, heightAfter_nil, now]

/-- `MutableDeclaration initializerName program first name`: with the steps `first`
behind it the walk comes to the mutable declaration of a name, that of a
variable or that of a parameter. -/
inductive MutableDeclaration (initializerName : String) (program : Program) (first : List Step)
    (name : Ident) : Prop where
  | variable {context : Context} {before after : List Step} {node : Node} {ty : Option Ty}
      {initial : Option Expr} {foreign : Bool}
      (visits : Visits initializerName program
        (.stmt (.letDecl node name true ty initial foreign)) context before after)
      (here : first = before ++ Step.foreign .variable foreign name)
  | parameter {context : Context} {before after : List Step} {kind : FunctionKind}
      {decl : FunctionDecl} {earlier later : List Param} {param : Param}
      (visits : Visits initializerName program (.function kind decl) context before after)
      (listed : decl.params = earlier ++ param :: later) (named : param.name = name)
      (mutable : param.ty.mutable = true)
      (here : first = before ++ .openScope :: Step.params decl.foreign earlier)

/-- `IntroducedMutable initializerName program before name hops`: with the steps
`before` behind it, the walk has made a mutable declaration of the name, where
no other held it, in the scope that is so many scopes out now. -/
def IntroducedMutable (initializerName : String) (program : Program) (before : List Step)
    (name : String) (hops : Nat) : Prop :=
  ∃ first declared member rest, before = first ++ .declare declared true member :: rest ∧
    declared.name = name ∧ (rescope first []).bindsHere name = false ∧
    StaysOpen 1 rest ∧ heightAfter rest 1 = hops + 1 ∧
    MutableDeclaration initializerName program first declared

/-- The steps of parameters up to one that declares a name are those of the
parameters before it. -/
theorem Step.params_eq_append {foreign : Bool} {params : List Param} {first rest : List Step}
    {name : Ident} {mutable member : Bool}
    (split : Step.params foreign params = first ++ .declare name mutable member :: rest) :
    ∃ earlier param later, params = earlier ++ param :: later ∧ param.name = name ∧
      param.isMutable = mutable ∧ member = false ∧ first = Step.params foreign earlier := by
  induction params generalizing first with
  | nil => simp [Step.params] at split
  | cons param params ih =>
    rw [Step.params] at split
    rcases List.cons_eq_append_iff.mp split with ⟨rfl, same⟩ | ⟨first, rfl, -⟩
    · cases same
      exact ⟨[], param, params, rfl, rfl, rfl, rfl, rfl⟩
    · have further {inside : List Step}
          (split : Step.params foreign params = inside ++ .declare name mutable member :: rest)
          (same : first = (if foreign then [] else [.define param.name]) ++ inside) :
          ∃ earlier other later, param :: params = earlier ++ other :: later ∧ other.name = name ∧
            other.isMutable = mutable ∧ member = false ∧
            .declare param.name param.isMutable false :: first = Step.params foreign earlier := by
        obtain ⟨earlier, other, later, rfl, named, flag, own, rfl⟩ := ih split
        exact ⟨param :: earlier, other, later, rfl, named, flag, own, by rw [same, Step.params]⟩
      have behind : (if foreign then [] else [.define param.name]) ++ Step.params foreign params =
          first ++ .declare name mutable member :: rest := (List.cons.inj split).2
      cases foreign with
      | true => exact further behind rfl
      | false =>
        rcases List.cons_eq_append_iff.mp behind with ⟨-, same⟩ | ⟨inside, rfl, later⟩
        · cases same
        · exact further later rfl

variable {initializerName : String} {program : Program}

/-- Where the walk of a function declares a name, it has come to one of the parameters. -/
theorem MadeAt.exists_param {first before : List Step} {name : Ident} {mutable member : Bool}
    {kind : FunctionKind} {decl : FunctionDecl} {context : Context} {leading : List Item}
    (made : MadeAt initializerName program first (.declare name mutable member)
      (.function kind decl) context before leading) :
    ∃ earlier param later, decl.params = earlier ++ param :: later ∧ param.name = name ∧
      param.isMutable = mutable ∧ member = false ∧
      first = before ++ .openScope :: Step.params decl.foreign earlier := by
  obtain ⟨rfl, trailing, after, items, visits⟩ := made
  obtain ⟨_, params, _, body, foreign, _⟩ := decl
  simp only [Piece.items] at items
  rcases List.cons_eq_append_iff.mp items with ⟨-, same⟩ | ⟨inside, rfl, split⟩
  · cases same
  · have outside {between : List Item} (other : [.visit (.stmts body)
        (context.insideFunction kind), .step .closeScope] =
          between ++ .step (.declare name mutable member) :: trailing) : False := by
      have listed : .step (.declare name mutable member) ∈
          [Item.visit (.stmts body) (context.insideFunction kind), .step .closeScope] := by
        rw [other]
        exact List.mem_append_right _ List.mem_cons_self
      simp at listed
    rcases List.append_eq_append_iff.mp split with ⟨between, -, last⟩ | ⟨behind, own, last⟩
    · exact (outside last).elim
    · rcases List.cons_eq_append_iff.mp last with ⟨-, same⟩ | ⟨behind, rfl, -⟩
      · cases same
      · obtain ⟨ahead, rest, params, rfl, others⟩ := List.map_eq_append_iff.mp own
        obtain ⟨step, rest, rfl, same, -⟩ := List.map_eq_cons_iff.mp others
        cases same
        obtain ⟨earlier, param, later, listed, named, flag, outer, rfl⟩ :=
          Step.params_eq_append params
        refine ⟨earlier, param, later, listed, named, flag, outer, ?_⟩
        rw [List.flatMap_cons, flatMap_walk_steps]
        rfl

/-- Where a mutable name is declared there is the declaration of a mutable
variable or of a mutable parameter. -/
theorem MadeAt.mutableDeclaration {first before : List Step} {name : Ident} {member : Bool}
    {piece : Piece} {context : Context} {leading : List Item}
    (made : MadeAt initializerName program first (.declare name true member) piece context before
      leading) : MutableDeclaration initializerName program first name := by
  have origin := Piece.origin made.mem
  obtain ⟨rfl, trailing, after, items, visits⟩ := made
  rcases origin with ⟨node, ty, initial, foreign, rfl⟩ | ⟨kind, decl, rfl, -⟩
  · refine .variable visits ?_
    have ahead : .step (.declare name true member) ∉
        (Step.foreign .variable foreign name).map Item.step := by simp
    have split : ∃ trailing', (Step.foreign .variable foreign name).map Item.step ++
        .step (.declare name true context.inStruct) :: trailing' =
          leading ++ .step (.declare name true member) :: trailing ∧
        .step (.declare name true member) ∉ trailing' := by
      refine ⟨_, items, ?_⟩
      cases initial <;> simp
    obtain ⟨trailing', split, behind⟩ := split
    obtain ⟨rfl, -, -⟩ := (List.append_cons_inj_of_notMem ahead behind).mp split
    rw [flatMap_walk_steps]
  · obtain ⟨earlier, param, later, listed, named, mutable, -, here⟩ :=
      MadeAt.exists_param ⟨rfl, trailing, after, items, visits⟩
    exact .parameter visits listed named mutable here

/-- A mutable declaration that the walk finds in a scope was introduced by one. -/
theorem introducedMutable_of_mem {before after : List Step}
    (walked : Program.walk initializerName program = before ++ after) {hops : Nat}
    {scope : LexicalScope} {declaration : Declaration}
    (there : (rescope before [])[hops]? = some scope) (listed : declaration ∈ scope)
    (mutable : declaration.mutable = true) :
    IntroducedMutable initializerName program before declaration.name hops := by
  obtain ⟨first, name, member, rest, rfl, rfl, free, stays, height⟩ :=
    exists_declare_of_mem there listed mutable
  refine ⟨first, name, member, rest, rfl, rfl, free, stays, height, ?_⟩
  rw [List.append_assoc, List.cons_append] at walked
  rcases Program.exists_madeAt walked with ⟨-, same⟩ | ⟨-, same⟩ | ⟨piece, context, before, made⟩
  · cases same
  · cases same
  · obtain ⟨leading, made⟩ := made
    exact made.mutableDeclaration

end NameResolution
