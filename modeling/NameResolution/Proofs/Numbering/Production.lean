import NameResolution.Proofs.Numbering.PostOrder
import NameResolution.Syntax.Numbering

/-!
# What a numbering produces

A numbering is a task that draws numbers and spans from a counter. Here it is
said which pieces and which spans a task produces from those that are there, for
single tasks and for tasks one after another. What has been produced since some
point is in post-order, and its spans are fresh.
-/

namespace NameResolution

variable {initializerName : String}

/-- `ProducedSince initializerName earlier first count pieces spans counter`: since `earlier`
numbers had been drawn and the next offset was `first`, `count` more have been drawn. They are
in `pieces`, which are in post-order, and the spans since are in these pieces or listed in
`spans`. -/
structure ProducedSince (initializerName : String) (earlier first count : Nat) (pieces : List Piece)
    (spans : List Span) (counter : Counter) : Prop where
  numbers : (pieces.flatMap Piece.ids).Perm (NodeId.drawnAfter earlier count)
  ordered : ∀ piece ∈ pieces, piece.PostOrdered initializerName earlier count
  nextId : counter.nextId = .ofNat (earlier + count)
  fresh : Span.Fresh first counter.nextOffset (pieces.flatMap Piece.spans ++ spans)

/-- `before.Amends after added`: a piece may take the place of another one, whose
numbers it has, once some more spans have been handed out. -/
structure Piece.Amends (initializerName : String) (before after : Piece) (added : List Span) :
    Prop where
  ids : after.ids = before.ids
  ordered : ∀ {earlier count}, before.PostOrdered initializerName earlier count →
    after.PostOrdered initializerName earlier count
  spans : after.spans.Subperm (before.spans ++ added)

namespace ProducedSince

variable {earlier first count : Nat} {pieces : List Piece} {spans : List Span}
  {counter : Counter}

/-- Nothing has been produced yet. -/
theorem start {earlier : Nat} {counter : Counter} (drawn : counter.nextId = .ofNat earlier) :
    ProducedSince initializerName earlier counter.nextOffset 0 [] [] counter :=
  ⟨.refl _, nofun, drawn, .nil _⟩

/-- What was produced up to some point and what was produced from there on. -/
theorem append {later : Nat} {more : List Piece} {others : List Span} {next : Counter}
    (before : ProducedSince initializerName earlier first count pieces spans counter)
    (behind : ProducedSince initializerName (earlier + count) counter.nextOffset later more others
      next) :
    ProducedSince initializerName earlier first (count + later) (pieces ++ more) (spans ++ others)
      next where
  numbers := by
    rw [List.flatMap_append, ← NodeId.drawnAfter_append]
    exact before.numbers.append behind.numbers
  ordered := by
    refine List.forall_mem_append.mpr ⟨fun piece listed => ?_, fun piece listed => ?_⟩
    · exact .mono (before.ordered piece listed) (Nat.le_refl _) (by omega)
    · exact .mono (behind.ordered piece listed) (Nat.le_add_right _ _) (by omega)
  nextId := by rw [behind.nextId, Nat.add_assoc]
  fresh := by
    refine (before.fresh.append behind.fresh).subperm (List.Perm.subperm ?_)
    simp only [List.flatMap_append, List.append_assoc]
    exact .append_left _ (List.perm_append_comm_assoc _ _ _)

/-- Some of the spans that are listed may be left out. -/
theorem drop {fewer : List Span}
    (since : ProducedSince initializerName earlier first count pieces spans counter)
    (some : fewer.Subperm spans) :
    ProducedSince initializerName earlier first count pieces fewer counter :=
  { since with fresh := since.fresh.subperm ((List.Subperm.refl _).append some) }

/-- A piece that is no node is put together from its parts. -/
theorem enclose {piece : Piece}
    (since : ProducedSince initializerName earlier first count pieces spans counter)
    (parts : pieces.Perm (piece.parts initializerName)) (own : piece.ownId? = none)
    (ownSpans : piece.ownSpans.Subperm spans) :
    ProducedSince initializerName earlier first count [piece] [] counter := by
  have numbers : piece.ids.Perm (NodeId.drawnAfter earlier count) := by
    rw [piece.ids_eq initializerName, own, Option.toList_none, List.append_nil]
    exact (parts.symm.flatMap_right _).trans since.numbers
  refine ⟨by simpa using numbers, ?_, since.nextId, ?_⟩
  · rw [List.forall_mem_singleton]
    refine .of_parts ⟨earlier, count, Nat.le_refl _, Nat.le_refl _, numbers, ?_⟩ fun part listed =>
      since.ordered part (parts.mem_iff.mpr listed)
    rw [own]
    nofun
  · rw [List.flatMap_singleton, List.append_nil, piece.spans_eq initializerName]
    exact since.fresh.subperm ((parts.symm.flatMap_right _).subperm.append ownSpans)

/-- A node is put together from its parts, and from a number and a span for itself. -/
theorem root {piece : Piece} {node : Node}
    (since : ProducedSince initializerName earlier first count pieces spans counter)
    (drawn : (Numbering.node.run counter).1 = node)
    (parts : pieces.Perm (piece.parts initializerName)) (own : piece.ownId? = some node.id)
    (ownSpans : piece.ownSpans.Subperm (spans ++ [node.span])) :
    ProducedSince initializerName earlier first (count + 1) [piece] []
      (Numbering.node.run counter).2 := by
  have id : node.id = .drawn (earlier + count) := by
    rw [← drawn]
    exact congrArg NodeId.mk since.nextId
  have numbers : piece.ids.Perm (NodeId.drawnAfter earlier (count + 1)) := by
    rw [piece.ids_eq initializerName, own, NodeId.drawnAfter_succ, ← id]
    exact ((parts.symm.flatMap_right _).trans since.numbers).append_right _
  refine ⟨by simpa using numbers, ?_, ?_, ?_⟩
  · rw [List.forall_mem_singleton]
    refine .of_parts ⟨earlier, count + 1, Nat.le_refl _, Nat.le_refl _, numbers, ?_⟩
      fun part listed => .mono (since.ordered part (parts.mem_iff.mpr listed)) (Nat.le_refl _)
        (Nat.le_succ _)
    intro held listed
    rw [own] at listed
    cases listed
    exact ⟨count, rfl, id⟩
  · have next : (Numbering.node.run counter).2.nextId = counter.nextId + 1 := rfl
    rw [next, since.nextId, ← Nat.add_assoc, UInt32.ofNat_add (earlier + count)]
    rfl
  · have span : Span.Fresh counter.nextOffset (counter.nextOffset + 1) [node.span] := by
      rw [← drawn]
      exact .next _
    rw [List.flatMap_singleton, List.append_nil, piece.spans_eq initializerName]
    refine (since.fresh.append span).subperm ?_
    rw [List.append_assoc]
    exact (parts.symm.flatMap_right _).subperm.append ownSpans

/-- A piece is replaced by one that amends it. -/
theorem amend {before after : Piece}
    (since : ProducedSince initializerName earlier first count [before] spans counter)
    (amends : before.Amends initializerName after spans) :
    ProducedSince initializerName earlier first count [after] [] counter where
  numbers := by simpa [amends.ids] using since.numbers
  ordered := by simpa using amends.ordered (by simpa using since.ordered)
  nextId := since.nextId
  fresh := by
    have fresh := since.fresh
    rw [List.flatMap_singleton] at fresh
    rw [List.flatMap_singleton, List.append_nil]
    exact fresh.subperm amends.spans

end ProducedSince

namespace Numbering

variable {α β γ : Type}

/-- `Produces initializerName pieces spans task made handed`: from the pieces and the spans that
are there the task produces others, with numbers and spans that it draws. -/
def Produces (initializerName : String) (pieces : List Piece) (spans : List Span)
    (task : Numbering α) (made : α → List Piece) (handed : α → List Span) : Prop :=
  ∀ (earlier first count : Nat) (counter : Counter),
    ProducedSince initializerName earlier first count pieces spans counter → ∃ later,
      ProducedSince initializerName earlier first later (made (task.run counter).1)
        (handed (task.run counter).1) (task.run counter).2

/-- The task makes pieces from nothing but what it draws, and no other spans. -/
abbrev Makes (initializerName : String) (task : Numbering α) (made : α → List Piece) : Prop :=
  Produces initializerName [] [] task made fun _ => []

/-- The task hands out spans and draws no number. -/
abbrev Hands (initializerName : String) (task : Numbering α) (handed : α → List Span) : Prop :=
  Produces initializerName [] [] task (fun _ => []) handed

namespace Produces

variable {pieces : List Piece} {spans : List Span}

/-- What is there may be put in order before a task goes on. -/
theorem before {task : Numbering α} {made : α → List Piece} {handed : α → List Span}
    {others : List Piece} {more : List Span}
    (prepare : ∀ {earlier first count counter},
      ProducedSince initializerName earlier first count pieces spans counter →
        ProducedSince initializerName earlier first count others more counter)
    (produces : Produces initializerName others more task made handed) :
    Produces initializerName pieces spans task made handed :=
  fun _ _ _ _ since => produces _ _ _ _ (prepare since)

/-- A task that only returns a value puts what is there in order. -/
theorem pure {value : α} {made : α → List Piece} {handed : α → List Span}
    (complete : ∀ {earlier first count counter},
      ProducedSince initializerName earlier first count pieces spans counter →
        ProducedSince initializerName earlier first count (made value) (handed value) counter) :
    Produces initializerName pieces spans (Pure.pure value) made handed :=
  fun _ _ _ _ since => ⟨_, complete since⟩

/-- One task after another. Of the value between them, all is known that is
known of what the first task returns. -/
theorem bind {first : Numbering α} {next : α → Numbering β} {between : α → List Piece}
    {left : α → List Span} {made : β → List Piece} {handed : β → List Span}
    (before : Produces initializerName pieces spans first between left)
    (behind : ∀ counter, Produces initializerName (between (first.run counter).1)
      (left (first.run counter).1) (next (first.run counter).1) made handed) :
    Produces initializerName pieces spans (first >>= next) made handed := by
  intro earlier start count counter since
  obtain ⟨later, since⟩ := before earlier start count counter since
  exact behind counter earlier start later _ since

/-- A task produces the same beside what there is already. -/
theorem beside {task : Numbering α} {made : α → List Piece} {handed : α → List Span}
    (produces : Produces initializerName [] [] task made handed) :
    Produces initializerName pieces spans task (fun value => pieces ++ made value)
      fun value => spans ++ handed value := by
  intro earlier first count counter since
  obtain ⟨later, behind⟩ := produces _ _ _ counter (.start since.nextId)
  exact ⟨_, since.append behind⟩

/-- A task that makes pieces, then one that may use them. -/
theorem andThen {first : Numbering α} {next : α → Numbering β} {between : α → List Piece}
    {made : β → List Piece} {handed : β → List Span}
    (left : Makes initializerName first between)
    (right : ∀ counter, Produces initializerName (pieces ++ between (first.run counter).1) spans
      (next (first.run counter).1) made handed) :
    Produces initializerName pieces spans (first >>= next) made handed := by
  refine left.beside.bind fun counter => ?_
  rw [List.append_nil]
  exact right counter

/-- The same, where what the task returns is changed on the way. -/
theorem andThenMap {change : α → γ} {first : Numbering α} {next : γ → Numbering β}
    {between : α → List Piece} {made : β → List Piece} {handed : β → List Span}
    (left : Makes initializerName first between)
    (right : ∀ counter, Produces initializerName (pieces ++ between (first.run counter).1) spans
      (next (change (first.run counter).1)) made handed) :
    Produces initializerName pieces spans ((change <$> first) >>= next) made handed := by
  have joined : Produces initializerName pieces spans
      (first >>= fun value => next (change value)) made handed := left.andThen right
  exact joined

/-- A task that hands out spans, then one that may use them. -/
theorem hand {first : Numbering α} {next : α → Numbering β} {between : α → List Span}
    {made : β → List Piece} {handed : β → List Span}
    (left : Hands initializerName first between)
    (right : ∀ counter, Produces initializerName pieces (spans ++ between (first.run counter).1)
      (next (first.run counter).1) made handed) :
    Produces initializerName pieces spans (first >>= next) made handed := by
  refine left.beside.bind fun counter => ?_
  rw [List.append_nil]
  exact right counter

/-- A value that is there takes no task. -/
theorem skip {value : α} {next : α → Numbering β} {made : β → List Piece}
    {handed : β → List Span}
    (right : Produces initializerName pieces spans (next value) made handed) :
    Produces initializerName pieces spans (Pure.pure value >>= next) made handed :=
  right

/-- The next span that is handed out. -/
theorem span : Hands initializerName Numbering.span fun span => [span] := by
  intro earlier first count counter since
  exact ⟨count + 0, since.append ⟨.refl _, nofun, since.nextId, .next _⟩⟩

/-- An identifier takes one span. -/
theorem ident (name : String) :
    Hands initializerName (Numbering.ident name) fun ident => [ident.span] :=
  .hand .span fun _ => .pure id

/-- Identifiers take a span each. -/
theorem idents : (names : List String) →
    Hands initializerName (Numbering.idents names) fun idents => idents.map Ident.span
  | [] => .pure id
  | name :: rest => .hand (.ident name) fun _ => .hand (idents rest) fun _ => .pure id

/-- An identifier that may be missing takes a span if it is there. -/
theorem ident? : (name : Option String) →
    Hands initializerName (Numbering.ident? name) fun ident => ident.toList.map Ident.span
  | none => .pure id
  | some name => .hand (.ident name) fun _ => .pure id

/-- A piece that is no node is put together once its parts are there. -/
theorem enclose {piece : α → Piece} {value : α}
    (parts : pieces.Perm ((piece value).parts initializerName))
    (own : (piece value).ownId? = none) (ownSpans : (piece value).ownSpans.Subperm spans) :
    Produces initializerName pieces spans (Pure.pure value) (fun value => [piece value])
      fun _ => [] :=
  .pure fun since => since.enclose parts own ownSpans

/-- A node is put together, and a task goes on with it. -/
theorem root (piece : Node → Piece) {next : Node → Numbering β} {made : β → List Piece}
    {handed : β → List Span}
    (complete : ∀ node, pieces.Perm ((piece node).parts initializerName) ∧
      (piece node).ownId? = some node.id ∧ (piece node).ownSpans.Subperm (spans ++ [node.span]))
    (behind : ∀ node, Produces initializerName [piece node] [] (next node) made handed) :
    Produces initializerName pieces spans (Numbering.node >>= next) made handed := by
  intro earlier first count counter since
  obtain ⟨parts, own, ownSpans⟩ := complete (Numbering.node.run counter).1
  exact behind _ _ _ _ _ (since.root rfl parts own ownSpans)

/-- What every node ends with: its number is drawn and it is put together. -/
theorem finish {make : Node → α} {piece : α → Piece}
    (complete : ∀ node, pieces.Perm ((piece (make node)).parts initializerName) ∧
      (piece (make node)).ownId? = some node.id ∧
        (piece (make node)).ownSpans.Subperm (spans ++ [node.span])) :
    Produces initializerName pieces spans (Numbering.node >>= fun node => Pure.pure (make node))
      (fun value => [piece value]) fun _ => [] :=
  .root (fun node => piece (make node)) complete fun _ => .pure id

end Produces

end Numbering

end NameResolution
