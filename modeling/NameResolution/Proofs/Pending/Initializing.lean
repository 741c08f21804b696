import NameResolution.Proofs.Frame.Openings
import NameResolution.Proofs.Lexical.Initializers
import NameResolution.Proofs.Pending.Arrivals

/-!
# Initializers that are being walked

Wherever the walk of a program comes to a piece, the names that may await their
values are those of the variables whose initializers the piece stands in, each
in the scope in which that variable is declared.
-/

namespace NameResolution

/-- `whole.Direct expr`: the expression stands in the whole one with no function between them. -/
inductive Expr.Direct (whole : Expr) : Expr → Prop where
  | whole : Expr.Direct whole whole
  | part {expr part : Expr} (direct : Expr.Direct whole expr) (listed : .expr part ∈ expr.parts) :
      Expr.Direct whole part

/-- `Reaches initializerName whole around piece context done`: the walk of the whole
piece, which begins in the context around it, gets to the other piece in a context
of its own, with the steps `done` behind it. -/
inductive Reaches (initializerName : String) (whole : Piece) (around : Context) :
    Piece → Context → List Step → Prop where
  | whole : Reaches initializerName whole around whole around []
  | part {piece part : Piece} {context inner : Context} {done : List Step}
      {leading trailing : List Item}
      (reaches : Reaches initializerName whole around piece context done)
      (items : piece.items initializerName context = leading ++ .visit part inner :: trailing) :
      Reaches initializerName whole around part inner
        (done ++ leading.flatMap (Item.walk initializerName))

variable {initializerName : String} {program : Program}

/-- What a walk gets to is walked behind the steps it has made by then. -/
theorem Reaches.walk {whole piece : Piece} {around context : Context} {done : List Step}
    (reaches : Reaches initializerName whole around piece context done) :
    ∃ rest, whole.walk initializerName around =
      done ++ piece.walk initializerName context ++ rest := by
  induction reaches with
  | whole => exact ⟨[], (List.append_nil _).symm⟩
  | @part piece part context inner done leading trailing reaches items ih =>
    obtain ⟨rest, walked⟩ := ih
    rw [← piece.flatMap_items context, items, List.flatMap_append, List.flatMap_cons] at walked
    refine ⟨trailing.flatMap (Item.walk initializerName) ++ rest, ?_⟩
    rw [walked]
    simp only [Item.walk, List.append_assoc]

/-- `Initializing initializerName program piece context before hops name`: where
the walk of the program gets to the piece, with the steps `before` behind it, it is
in the initializer of a declaration of the name, and the scope in which that
declaration stands has stayed open and is now so many scopes out. If it is the
innermost scope, no function stands between the initializer and the piece. -/
inductive Initializing (initializerName : String) (program : Program) (piece : Piece)
    (context : Context) (before : List Step) (hops : Nat) : Ident → Prop where
  | intro {node : Node} {name : Ident} {mutable foreign : Bool} {ty : Option Ty} {value : Expr}
      {around : Context} {start after done : List Step}
      (declared : Visits initializerName program
        (.stmt (.letDecl node name mutable ty (some value) foreign)) around start after)
      (reaches : Reaches initializerName (.expr value) around piece context done)
      (behind : before = start ++ Step.opening around name mutable foreign ++ done)
      (stays : StaysOpen 1 done) (out : heightAfter done 1 = hops + 1)
      (direct : hops = 0 → (∃ expr, piece = .expr expr ∧ value.Direct expr) ∨
        ∃ kind decl, piece = .function kind decl) :
      Initializing initializerName program piece context before hops name

/-- An expression consists of expressions, or it is a function. -/
theorem Expr.form_of_part (expr : Expr) {part : Piece} (listed : part ∈ expr.parts) :
    (∃ tree, part = .expr tree) ∨ ∃ kind decl, part = .function kind decl := by
  cases expr <;> simp [parts] at listed <;> grind

section Part

variable {piece part : Piece} {context inner : Context} {before : List Step}
  {leading trailing : List Item}

/-- The initializers that a piece stands in are those that its parts stand in, at
least as far out, and further out from within a function. -/
theorem Initializing.toPart {hops level : Nat} {name : Ident}
    (initializing : Initializing initializerName program piece context before hops name)
    (height : heightAfter before 0 = level + hops)
    (items : piece.items initializerName context = leading ++ .visit part inner :: trailing)
    (opens :
      level + hops ≤ heightAfter (leading.flatMap (Item.walk initializerName)) (level + hops))
    (encloses : ∀ kind decl, piece = .function kind decl →
      level + hops < heightAfter (leading.flatMap (Item.walk initializerName)) (level + hops)) :
    ∃ further, Initializing initializerName program part inner
        (before ++ leading.flatMap (Item.walk initializerName)) further name ∧
      heightAfter (before ++ leading.flatMap (Item.walk initializerName)) 0 = level + further := by
  cases initializing with
  | @intro node name mutable foreign ty value around start after done declared reaches behind stays
      out direct =>
    have there := reaches.part items
    obtain ⟨rest, walked⟩ := there.walk
    have walked : value.walk initializerName around = _ := walked
    have shape := value.shaped initializerName around
    have stayed : StaysOpen 1 (value.walk initializerName around) := shape.staysOpen Nat.one_pos
    have confined : Confined 0 (value.walk initializerName around) := shape.confined nofun
    simp only [walked, staysOpen_append, confined_append] at stayed confined
    have settled : heightAfter done 0 = hops := by
      have counted : heightAfter done 1 = 1 + heightAfter done 0 :=
        confined.1.1.1.heightAfter_add 1
      omega
    rw [settled] at confined
    have added := confined.1.1.2.heightAfter_add
    refine ⟨heightAfter (leading.flatMap (Item.walk initializerName)) hops, ?_, ?_⟩
    · refine .intro declared there ?_ (staysOpen_append.mpr stayed.1.1) ?_ ?_
      · rw [behind, List.append_assoc]
      · rw [heightAfter_append, out, Nat.add_comm, added, Nat.add_comm]
      · intro none
        rw [added, none] at opens encloses
        have here : hops = 0 := by omega
        have listed : part ∈ piece.parts initializerName := by
          apply piece.mem_parts_of_visit
          rw [items]
          exact List.mem_append_right _ List.mem_cons_self
        rcases direct here with ⟨expr, rfl, within⟩ | ⟨kind, decl, rfl⟩
        · rcases expr.form_of_part listed with ⟨part, rfl⟩ | ⟨kind, decl, rfl⟩
          · exact .inl ⟨part, rfl, within.part listed⟩
          · exact .inr ⟨kind, decl, rfl⟩
        · exact absurd (encloses kind decl rfl) (by omega)
    · rw [heightAfter_append, height, added]

end Part

/-- `Accounted initializerName program piece context before names`: where the walk of the
program gets to the piece, each of the outermost open scopes keeps no name waiting, or
the one of a declaration in it whose initializer the piece stands in. -/
inductive Accounted (initializerName : String) (program : Program) (piece : Piece)
    (context : Context) (before : List Step) : List (List String) → Prop where
  | nil : Accounted initializerName program piece context before []
  | settled {names : List (List String)}
      (outer : Accounted initializerName program piece context before names) :
      Accounted initializerName program piece context before ([] :: names)
  | initializing {names : List (List String)} {hops : Nat} {name : Ident}
      (here : Initializing initializerName program piece context before hops name)
      (level : heightAfter before 0 = names.length + 1 + hops)
      (outer : Accounted initializerName program piece context before names) :
      Accounted initializerName program piece context before ([name.name] :: names)

/-- The names that a scope keeps waiting are those that are accounted for. -/
theorem Accounted.getElem? {piece : Piece} {context : Context} {before : List Step}
    {names : List (List String)}
    (accounted : Accounted initializerName program piece context before names)
    {position : Nat} {here : List String} (found : names[position]? = some here) :
    here = [] ∨ ∃ hops own, here = [own.name] ∧
      Initializing initializerName program piece context before hops own ∧
      heightAfter before 0 + position = names.length + hops := by
  induction accounted generalizing position with
  | nil => cases found
  | @settled names outer ih =>
    cases position with
    | zero =>
      cases found
      exact .inl rfl
    | succ position =>
      rcases ih found with none | ⟨hops, own, one, initializing, level⟩
      · exact .inl none
      · exact .inr ⟨hops, own, one, initializing, by rw [List.length_cons]; omega⟩
  | @initializing names hops own here level outer ih =>
    cases position with
    | zero =>
      cases found
      exact .inr ⟨hops, own, rfl, here, level⟩
    | succ position =>
      rcases ih found with none | ⟨hops, other, one, initializing, level⟩
      · exact .inl none
      · exact .inr ⟨hops, other, one, initializing, by rw [List.length_cons]; omega⟩

/-- What is accounted for at a piece is so at its parts. -/
theorem Accounted.toPart {piece part : Piece} {context inner : Context} {before : List Step}
    {leading trailing : List Item} {names : List (List String)}
    (accounted : Accounted initializerName program piece context before names)
    (items : piece.items initializerName context = leading ++ .visit part inner :: trailing)
    (opens : heightAfter before 0 ≤
      heightAfter (before ++ leading.flatMap (Item.walk initializerName)) 0)
    (encloses : ∀ kind decl, piece = .function kind decl → heightAfter before 0 <
      heightAfter (before ++ leading.flatMap (Item.walk initializerName)) 0) :
    Accounted initializerName program part inner
      (before ++ leading.flatMap (Item.walk initializerName)) names := by
  induction accounted with
  | nil => exact .nil
  | settled outer ih => exact .settled ih
  | initializing here level outer ih =>
    rw [heightAfter_append, level] at opens encloses
    obtain ⟨further, there, height⟩ := here.toPart level items opens encloses
    exact .initializing there height ih

/-- The only visit among steps comes behind those before it. -/
theorem leading_of_visit {steps : List Step} {last : Step} {whole part : Piece}
    {around inner : Context} {leading trailing : List Item}
    (split : steps.map Item.step ++ [.visit whole around, .step last] =
      leading ++ .visit part inner :: trailing) :
    leading = steps.map Item.step ∧ around = inner := by
  induction steps generalizing leading with
  | nil =>
    rcases List.cons_eq_append_iff.mp split with ⟨rfl, same⟩ | ⟨more, rfl, later⟩
    · cases same
      exact ⟨rfl, rfl⟩
    · rcases List.cons_eq_append_iff.mp later with ⟨-, same⟩ | ⟨_, -, none⟩
      · cases same
      · simp at none
  | cons step steps ih =>
    rcases List.cons_eq_append_iff.mp split with ⟨-, same⟩ | ⟨more, rfl, later⟩
    · cases same
    · obtain ⟨rfl, same⟩ := ih later
      exact ⟨rfl, same⟩

/-- Where the initializer of a declaration begins, it is being walked. -/
theorem Visits.initializing {node : Node} {name : Ident} {mutable foreign : Bool} {ty : Option Ty}
    {value : Expr} {context inner : Context} {before after : List Step}
    {leading trailing : List Item}
    (visits : Visits initializerName program
      (.stmt (.letDecl node name mutable ty (some value) foreign)) context before after)
    (items : (Piece.stmt (.letDecl node name mutable ty (some value) foreign)).items
      initializerName context = leading ++ .visit (.expr value) inner :: trailing) :
    Initializing initializerName program (.expr value) inner
      (before ++ leading.flatMap (Item.walk initializerName)) 0 name := by
  have steps : (Step.opening context name mutable foreign).map Item.step ++
      [.visit (.expr value) context, .step (.define name)] =
        leading ++ .visit (.expr value) inner :: trailing := by
    rw [← items]
    simp [Step.opening, Piece.items, Stmt.items]
  obtain ⟨rfl, rfl⟩ := leading_of_visit steps
  refine .intro visits .whole ?_ Nat.one_pos rfl fun _ => .inl ⟨value, rfl, .whole⟩
  rw [flatMap_walk_steps, List.append_nil]

/-- Where a piece begins, only variables in their initializers await their values. -/
structure Begins (initializerName : String) (program : Program) (piece : Piece)
    (context : Context) (before : List Step) (names : List (List String)) : Prop where
  /-- A scope is open, in which no name awaits its value where a statement begins. -/
  settled : ∃ here outer, names = here :: outer ∧ (piece.BeginsSettled → here = [])
  /-- Names in any scope await theirs in initializers, but for the parameters of a foreign
  function, of which there is no body to begin. -/
  accounted : piece ≠ .stmts [] → Accounted initializerName program piece context before names

section Part

variable {piece part : Piece} {context inner : Context} {before after : List Step}
  {leading trailing : List Item} {here : List String} {outer there : List (List String)}

/-- What is accounted for where a piece begins is so where a part of it begins. -/
theorem Accounted.brought
    (accounted : Accounted initializerName program piece context before (here :: outer))
    (settled : piece.BeginsSettled → here = [])
    (visits : Visits initializerName program piece context before after)
    (items : piece.items initializerName context = leading ++ .visit part inner :: trailing)
    (names : awaitingAfter before [] = here :: outer)
    (arrived : awaitingAfter (before ++ leading.flatMap (Item.walk initializerName)) [] = there)
    (brings : piece.Brings (here :: outer) part there) (nonempty : part ≠ .stmts []) :
    Accounted initializerName program part inner
      (before ++ leading.flatMap (Item.walk initializerName)) there := by
  have height : heightAfter before 0 = (here :: outer).length :=
    names ▸ (length_awaitingAfter before []).symm
  have further : heightAfter (before ++ leading.flatMap (Item.walk initializerName)) 0 =
      there.length := arrived ▸ (length_awaitingAfter _ []).symm
  have moved := accounted.toPart items
  rw [height, further] at moved
  unfold Piece.Brings at brings
  split at brings
  · obtain ⟨rfl, -⟩ := brings
    exact moved (Nat.le_refl _) nofun
  · obtain ⟨rfl, rfl⟩ := brings
    obtain rfl := settled trivial
    cases moved (by simp) nofun with
    | settled around => exact .initializing (visits.initializing items) further around
  · rcases brings with rfl | rfl | rfl
    · exact moved (Nat.le_refl _) nofun
    · exact .settled (moved (by simp) nofun)
    · exact .settled (.settled (moved (by simp) nofun))
  · exact brings.elim
  · subst brings
    exact moved (Nat.le_refl _) nofun
  · rcases brings with rfl | ⟨none, -⟩
    · exact .settled (moved (by simp) fun _ _ _ => by simp)
    · exact absurd none nonempty

end Part

/-- The names that await their values where a piece begins that the walk of a program gets to. -/
theorem Visits.begins (documented : Program.ForeignBodiesEmpty initializerName program)
    {piece : Piece} {context : Context} {before after : List Step}
    (visits : Visits initializerName program piece context before after) :
    Begins initializerName program piece context before (awaitingAfter before []) := by
  induction visits with
  | program => exact ⟨⟨[], [], rfl, fun _ => rfl⟩, fun _ => .settled .nil⟩
  | @part piece part context inner before after leading trailing whole items ih =>
    obtain ⟨⟨here, outer, names, settled⟩, accounted⟩ := ih
    have foreign (kind : FunctionKind) (decl : FunctionDecl) (same : piece = .function kind decl) :=
      documented kind decl (same ▸ whole.within)
    have brings : ∀ visit ∈ Item.arrivals (here :: outer) (piece.items initializerName context),
        piece.Brings (here :: outer) visit.1 visit.2 := piece.brings outer settled foreign context
    have arrives : (part, awaitingAfter (leading.flatMap (Item.walk initializerName))
        (here :: outer)) ∈ Item.arrivals (here :: outer) (piece.items initializerName context) :=
      mem_arrivals items fun visit listed => (brings visit listed).begins settled
    have there : awaitingAfter (before ++ leading.flatMap (Item.walk initializerName)) [] =
        awaitingAfter (leading.flatMap (Item.walk initializerName)) (here :: outer) := by
      rw [awaitingAfter_append, names]
    have brought := brings _ arrives
    rw [← there] at brought
    refine ⟨brought.begins settled, fun nonempty => ?_⟩
    have begun : piece ≠ .stmts [] := by
      rintro rfl
      simp [Piece.items] at items
    rw [names] at accounted
    exact (accounted begun).brought settled whole items names rfl brought nonempty

end NameResolution
