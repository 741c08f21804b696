import NameResolution.Proofs.Session.Building
import NameResolution.Syntax.Numbering

/-!
# Tasks that build

A numbering is a task that draws numbers from a counter. Here it is said which
materials a task needs and which it leaves, for single tasks and for tasks one
after another.
-/

namespace NameResolution

namespace Numbering

variable {α β : Type}

/-- Whether a task draws no number. -/
def Quiet (task : Numbering α) : Prop :=
  ∀ counter, (task.run counter).2.nextId = counter.nextId

/-- `Builds given task made`: from the materials that are given the task builds
others, with numbers that it draws. -/
def Builds (given : List Material) (task : Numbering α) (made : α → List Material) : Prop :=
  ∀ (others : List Material) (count : Nat) (runs : List Run) (counter : Counter),
    Built (given ++ others) count runs → counter.nextId = .ofNat count → ∃ later,
      Built (made (task.run counter).1 ++ others) later runs ∧
        (task.run counter).2.nextId = .ofNat later

namespace Quiet

/-- A value that is returned at once draws no number. -/
theorem pure (value : α) : Quiet (Pure.pure value) := fun _ => rfl

/-- Two quiet tasks one after another are quiet. -/
theorem bind {first : Numbering α} {next : α → Numbering β} (left : Quiet first)
    (right : ∀ value, Quiet (next value)) : Quiet (first >>= next) :=
  fun counter => (right _ _).trans (left counter)

theorem span : Quiet Numbering.span := fun _ => rfl

theorem ident (name : String) : Quiet (Numbering.ident name) := fun _ => rfl

/-- Identifiers draw no number. -/
theorem idents : (names : List String) → Quiet (Numbering.idents names)
  | [] => pure _
  | name :: rest => (ident name).bind fun _ => (idents rest).bind fun _ => pure _

/-- An identifier that may be missing draws no number. -/
theorem ident? : (name : Option String) → Quiet (Numbering.ident? name)
  | none => pure _
  | some name => (ident name).bind fun _ => pure _

end Quiet

namespace Builds

variable {given : List Material}

/-- Put together what there is. -/
theorem pure {made : α → List Material} {value : α}
    (assemble : ∀ {others count runs}, Built (given ++ others) count runs →
      Built (made value ++ others) count runs) : Builds given (Pure.pure value) made :=
  fun _ _ _ _ built drawn => ⟨_, assemble built, drawn⟩

/-- One task after another. Of the value between them, all is known that is
known of what the first task returns. -/
theorem bind {first : Numbering α} {next : α → Numbering β} {between : α → List Material}
    {made : β → List Material} (left : Builds given first between)
    (right : ∀ counter, Builds (between (first.run counter).1) (next (first.run counter).1) made) :
    Builds given (first >>= next) made := by
  intro others count runs counter built drawn
  obtain ⟨later, built, drawn⟩ := left _ _ _ counter built drawn
  exact right _ _ _ _ _ built drawn

/-- What a task has no use for stays. -/
theorem beside {task : Numbering α} {made : α → List Material} (builds : Builds given task made)
    (rest : List Material) : Builds (given ++ rest) task fun value => made value ++ rest := by
  intro others count runs counter built drawn
  rw [List.append_assoc] at built ⊢
  exact builds (rest ++ others) _ _ counter built drawn

/-- A task that needs nothing leaves whatever is given. -/
theorem frame {task : Numbering α} {made : α → List Material} (builds : Builds [] task made) :
    Builds given task fun value => given ++ made value := by
  intro others count runs counter built drawn
  obtain ⟨later, built, drawn⟩ := builds.beside given _ _ _ counter built drawn
  exact ⟨later, built.reorder (List.perm_append_comm.append_right others), drawn⟩

/-- A task beside what there is, then a task that may use both. -/
theorem andThen {first : Numbering α} {next : α → Numbering β} {between : α → List Material}
    {made : β → List Material} (left : Builds [] first between)
    (right : ∀ counter,
      Builds (given ++ between (first.run counter).1) (next (first.run counter).1) made) :
    Builds given (first >>= next) made :=
  left.frame.bind right

/-- The same, where what the task returns is changed on the way. -/
theorem andThenMap {γ : Type} {change : α → γ} {first : Numbering α} {next : γ → Numbering β}
    {between : α → List Material} {made : β → List Material} (left : Builds [] first between)
    (right : ∀ counter, Builds (given ++ between (first.run counter).1)
      (next (change (first.run counter).1)) made) :
    Builds given ((change <$> first) >>= next) made := by
  have joined : Builds given (first >>= fun value => next (change value)) made :=
    left.andThen right
  exact joined

/-- A quiet task may come before one that builds. -/
theorem quietly {first : Numbering α} {next : α → Numbering β} {made : β → List Material}
    (quiet : Quiet first) (right : ∀ counter, Builds given (next (first.run counter).1) made) :
    Builds given (first >>= next) made := by
  have left : Builds given first fun _ => given :=
    fun _ _ _ counter built drawn => ⟨_, built, (quiet counter).trans drawn⟩
  exact left.bind right

/-- Drawing a number makes that number a material. -/
theorem nodeId : Builds [] Numbering.nodeId fun id => [.number id] := by
  intro others count runs counter built drawn
  refine ⟨count + 1, ?_, ?_⟩
  · have id : (Numbering.nodeId.run counter).1 = .drawn count := congrArg NodeId.mk drawn
    rw [id]
    exact built.draw
  · have next : (Numbering.nodeId.run counter).2.nextId = counter.nextId + 1 := rfl
    rw [next, drawn, UInt32.ofNat_add]
    rfl

/-- A node that is ready to be put together. -/
theorem node : Builds [] Numbering.node fun node => [.number node.id] :=
  nodeId.bind fun _ => quietly .span fun _ => pure id

/-- A piece is put together once its materials are there. -/
theorem assemble {piece : α → Piece} {value : α} (complete : given.Perm (piece value).materials) :
    Builds given (Pure.pure value) fun value => [.piece (piece value)] :=
  pure fun built => .assemble _ (built.reorder (complete.append_right _))

/-- What every node ends with: its number is drawn and it is put together. -/
theorem finish {make : Node → α} {piece : α → Piece}
    (complete : ∀ node : Node,
      (given ++ [Material.number node.id]).Perm (piece (make node)).materials) :
    Builds given (Numbering.node >>= fun node => Pure.pure (make node))
      fun value => [.piece (piece value)] :=
  node.andThen fun _ => assemble (complete _)

/-- A piece may be put together before a task goes on. -/
theorem prepare {task : Numbering α} {made : α → List Material} {rest : List Material}
    (piece : Piece) (complete : given.Perm (piece.materials ++ rest))
    (behind : Builds (.piece piece :: rest) task made) : Builds given task made := by
  intro others count runs counter built drawn
  have ready : Built (piece.materials ++ (rest ++ others)) count runs := by
    rw [← List.append_assoc]
    exact built.reorder (complete.append_right others)
  exact behind _ _ _ counter (.assemble piece ready) drawn

/-- A piece is changed once it is there. -/
theorem amend {piece : α → Piece} {value : α} {before : Piece}
    (kept : (piece value).ids = before.ids) :
    Builds [.piece before] (Pure.pure value) fun value => [.piece (piece value)] :=
  pure fun built => built.amend _ kept

end Builds

end Numbering

end NameResolution
