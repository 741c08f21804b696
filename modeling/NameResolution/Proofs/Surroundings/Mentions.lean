import NameResolution.Proofs.Context.Reserved

/-!
# The names a program mentions

A program mentions the names that it declares and those that it refers to. All
that its walk asks of scopes, and all that it puts there, is under a name that
it mentions, or under `this` or `super`.
-/

namespace NameResolution

/-- The names that a piece declares or refers to by itself. -/
def Piece.mentions (piece : Piece) : List String :=
  piece.introduces.map Ident.name ++
    match piece with
    | .expr tree => tree.reference?.toList.map fun reference => reference.name.name
    | _ => []

/-- Whether a name is declared or referred to anywhere in a program. -/
def Program.Mentions (initializerName : String) (program : Program) (name : String) : Prop :=
  ∃ piece, Within initializerName (.stmts program) piece ∧ name ∈ piece.mentions

/-- The name under which a step looks into the scopes or changes them. -/
def Step.name? : Step → Option String
  | .declare name _ _ => some name.name
  | .define name => some name.name
  | .excuse name => some name
  | .bindPseudo name _ => some name
  | .resolve _ name _ => some name.name
  | .readVariable _ name => some name.name
  | .checkAssign name => some name.name
  | .checkMutate name _ => some name.name
  | _ => none

variable {initializerName : String} {context : Context} {step : Step} {name : String}

/-- An expression makes steps under the name that it refers to. A member
assignment also makes one under the name of a variable that is its object. -/
theorem Expr.mentions {expr : Expr} (made : .step step ∈ expr.items context)
    (named : step.name? = some name) :
    (∃ part ∈ expr.parts, name ∈ part.mentions) ∨ name ∈ (Piece.expr expr).mentions := by
  cases expr with
  | set node object member value =>
    left
    simp [items] at made
    rcases made with ⟨other, bare, rfl⟩ | ⟨-, rfl⟩
    · refine ⟨.expr object, by simp [parts], ?_⟩
      cases object <;> cases bare
      simpa [Piece.mentions, Piece.introduces, reference?, Step.name?] using named.symm
    · cases named
  | _ =>
    right
    simp [items] at made
    try grind [Step.name?, Piece.mentions, Piece.introduces, Expr.reference?]

/-- A statement makes steps under the names that it declares, and a class under
`this` and `super` as well. -/
theorem Stmt.mentions {stmt : Stmt} (made : .step step ∈ stmt.items initializerName context)
    (named : step.name? = some name) :
    name ∈ (Piece.stmt stmt).mentions ∨ isReserved name = true := by
  cases stmt with
  | letDecl node name mutable ty initial foreign =>
    cases initial <;> simp [items] at made <;>
      grind [Step.name?, Piece.mentions, Piece.introduces]
  | ret node value =>
    cases value <;> cases inside : context.function <;> simp [items, inside] at made <;>
      grind [Step.name?]
  | _ =>
    simp [items] at made
    try grind [Step.name?, Piece.mentions, Piece.introduces, isReserved]

/-- The steps that a piece makes by itself are under names that it mentions, or
that one of its parts mentions, or under `this` or `super`. -/
theorem Piece.mentions_of_step {piece : Piece}
    (made : .step step ∈ piece.items initializerName context) (named : step.name? = some name) :
    (∃ part ∈ piece.parts initializerName, name ∈ part.mentions) ∨ name ∈ piece.mentions ∨
      isReserved name = true := by
  cases piece with
  | expr tree =>
    rcases tree.mentions made named with inside | here
    · exact .inl inside
    · exact .inr (.inl here)
  | stmt tree => exact .inr (tree.mentions made named)
  | stmts trees =>
    cases trees <;> simp [items] at made
    obtain ⟨-, -, rfl⟩ := made
    cases named
  | function kind tree =>
    obtain ⟨_, params, _, body, foreign, span⟩ := tree
    right
    left
    simp [items] at made
    grind [Step.name?, mentions, introduces]

/-- Whatever name a step of a walk is under, the program mentions it, or it is
`this` or `super`. -/
theorem Program.mentions_of_step {program : Program}
    (listed : step ∈ Program.walk initializerName program) (named : step.name? = some name) :
    program.Mentions initializerName name ∨ isReserved name = true := by
  obtain ⟨first, rest, split⟩ := List.append_of_mem listed
  rcases Program.exists_madeAt split with ⟨-, rfl⟩ | ⟨-, rfl⟩ | ⟨piece, context, before, made⟩
  · cases named
  · cases named
  · obtain ⟨leading, made⟩ := made
    obtain ⟨-, trailing, after, -, visits⟩ := id made
    rcases Piece.mentions_of_step made.mem named with ⟨part, inside, here⟩ | here | reserved
    · exact .inl ⟨part, visits.within.part inside, here⟩
    · exact .inl ⟨piece, visits.within, here⟩
    · exact .inr reserved

end NameResolution
