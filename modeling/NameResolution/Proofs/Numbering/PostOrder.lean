import Mathlib.Data.List.Nodup
import Mathlib.Data.List.Perm.Subperm
import NameResolution.Proofs.Numbering.Spans
import NameResolution.Proofs.Session.Building

/-!
# Numbers in post-order

Numbers that are drawn one after another are consecutive. A piece is numbered in
post-order if the numbers of each of its subtrees are consecutive, and the root
of the subtree has the last of them. A list of spans is fresh if they are one
unit long each, and no two of them begin at one offset.
-/

namespace NameResolution

/-- The numbers that are drawn one after another when `earlier` others have been drawn. -/
def NodeId.drawnAfter (earlier count : Nat) : List NodeId :=
  (List.range' earlier count).map drawn

/-- Numbers drawn one after another can be drawn in two goes. -/
theorem NodeId.drawnAfter_append (earlier first second : Nat) :
    drawnAfter earlier first ++ drawnAfter (earlier + first) second =
      drawnAfter earlier (first + second) := by
  rw [drawnAfter, drawnAfter, ← List.map_append, List.range'_append_1, drawnAfter]

/-- The last of the numbers drawn one after another is behind all others. -/
theorem NodeId.drawnAfter_succ (earlier count : Nat) :
    drawnAfter earlier (count + 1) = drawnAfter earlier count ++ [drawn (earlier + count)] :=
  (drawnAfter_append earlier count 1).symm

/-- While numbers last, the numbers that are drawn one after another are distinct. -/
theorem NodeId.nodup_drawnAfter {earlier count : Nat} (room : earlier + count ≤ UInt32.size) :
    (drawnAfter earlier count).Nodup := by
  have firsts : firsts (earlier + count) = drawnAfter 0 earlier ++ drawnAfter earlier count := by
    have split := drawnAfter_append 0 earlier count
    rw [Nat.zero_add] at split
    rw [split, firsts, drawnAfter, List.range_eq_range']
  have distinct := nodup_firsts room
  rw [firsts] at distinct
  exact (List.nodup_append'.mp distinct).2.1

/-- While numbers last, the numbers that are drawn one after another are an interval. -/
theorem NodeId.mem_drawnAfter {earlier count : Nat} (room : earlier + count ≤ UInt32.size)
    {id : NodeId} :
    id ∈ drawnAfter earlier count ↔ earlier ≤ id.val.toNat ∧ id.val.toNat < earlier + count := by
  constructor
  · intro listed
    obtain ⟨position, inside, rfl⟩ := List.mem_map.mp listed
    rw [List.mem_range'_1] at inside
    rwa [drawn, UInt32.toNat_ofNat_of_lt' (Nat.lt_of_lt_of_le inside.2 room)]
  · intro inside
    refine List.mem_map.mpr ⟨id.val.toNat, List.mem_range'_1.mpr inside, ?_⟩
    rw [drawn, UInt32.ofNat_toNat]

namespace Piece

/-- `piece.Consecutive earlier count`: the piece has the next `count` numbers behind
`earlier` others, and if it is a node then it has the last of them. -/
structure Consecutive (piece : Piece) (earlier count : Nat) : Prop where
  numbers : piece.ids.Perm (NodeId.drawnAfter earlier count)
  root : ∀ own ∈ piece.ownId?, ∃ below, count = below + 1 ∧ own = .drawn (earlier + below)

/-- `piece.ConsecutiveAmong earlier count`: the numbers of the piece are consecutive, and all of
them are among the next `count` behind `earlier` others. -/
def ConsecutiveAmong (piece : Piece) (earlier count : Nat) : Prop :=
  ∃ before inside, earlier ≤ before ∧ before + inside ≤ earlier + count ∧
    piece.Consecutive before inside

/-- The numbers of every subtree are consecutive. -/
def PostOrdered (initializerName : String) (piece : Piece) (earlier count : Nat) : Prop :=
  ∀ part, Within initializerName piece part → part.ConsecutiveAmong earlier count

/-- While numbers last, the numbers of a subtree are distinct, and they are all the numbers
from some number up to that of its root. -/
theorem ConsecutiveAmong.interval {piece : Piece} {earlier count : Nat} {root : NodeId}
    (consecutive : piece.ConsecutiveAmong earlier count)
    (room : earlier + count ≤ UInt32.size) (own : piece.ownId? = some root) :
    piece.ids.Nodup ∧ ∃ least : NodeId, least.val ≤ root.val ∧
      ∀ id, id ∈ piece.ids ↔ least.val ≤ id.val ∧ id.val ≤ root.val := by
  obtain ⟨before, inside, -, ends, numbers, last⟩ := consecutive
  obtain ⟨below, rfl, rfl⟩ := last root own
  have roomHere : before + (below + 1) ≤ UInt32.size := Nat.le_trans ends room
  have least : (NodeId.drawn before).val.toNat = before :=
    UInt32.toNat_ofNat_of_lt' (by omega)
  have greatest : (NodeId.drawn (before + below)).val.toNat = before + below :=
    UInt32.toNat_ofNat_of_lt' (by omega)
  refine ⟨numbers.nodup_iff.mpr (NodeId.nodup_drawnAfter roomHere), .drawn before, ?_, fun id => ?_⟩
  · rw [UInt32.le_iff_toNat_le, least, greatest]
    exact Nat.le_add_right _ _
  · rw [numbers.mem_iff, NodeId.mem_drawnAfter roomHere, UInt32.le_iff_toNat_le,
      UInt32.le_iff_toNat_le, least, greatest, ← Nat.add_assoc, Nat.lt_succ_iff]

end Piece

variable {initializerName : String}

/-- What stands in a piece is the piece or stands in one of its parts. -/
theorem Within.eq_or_part {whole piece : Piece} (within : Within initializerName whole piece) :
    piece = whole ∨ ∃ part ∈ whole.parts initializerName, Within initializerName part piece := by
  induction within with
  | whole => exact .inl rfl
  | part _ listed ih =>
    rcases ih with rfl | ⟨part, direct, inside⟩
    · exact .inr ⟨_, listed, .whole⟩
    · exact .inr ⟨part, direct, inside.part listed⟩

/-- What stands in a part stands in the whole. -/
theorem Within.of_part {whole part piece : Piece} (listed : part ∈ whole.parts initializerName)
    (within : Within initializerName part piece) : Within initializerName whole piece := by
  induction within with
  | whole => exact Within.whole.part listed
  | part _ inside ih => exact ih.part inside

namespace Piece.PostOrdered

variable {piece : Piece} {earlier count : Nat}

/-- A piece is in order among more numbers if it is among some of them. -/
theorem mono {before inside : Nat} (ordered : piece.PostOrdered initializerName before inside)
    (starts : earlier ≤ before) (ends : before + inside ≤ earlier + count) :
    piece.PostOrdered initializerName earlier count := by
  intro part within
  obtain ⟨low, size, above, below, consecutive⟩ := ordered part within
  exact ⟨low, size, Nat.le_trans starts above, Nat.le_trans below ends, consecutive⟩

/-- Parts that are in order make a piece that is, if its own numbers are consecutive too. -/
theorem of_parts (own : piece.ConsecutiveAmong earlier count)
    (parts : ∀ part ∈ piece.parts initializerName,
      part.PostOrdered initializerName earlier count) :
    piece.PostOrdered initializerName earlier count := by
  intro inner within
  rcases within.eq_or_part with rfl | ⟨part, listed, inside⟩
  · exact own
  · exact parts part listed inner inside

/-- The parts of a piece that is in order are in order. -/
theorem part {part : Piece} (ordered : piece.PostOrdered initializerName earlier count)
    (listed : part ∈ piece.parts initializerName) :
    part.PostOrdered initializerName earlier count :=
  fun inner inside => ordered inner (.of_part listed inside)

end Piece.PostOrdered

namespace Span

/-- Spans of length one that begin at different offsets, all of them from `first` on and
before `last`. -/
structure Fresh (first last : Nat) (spans : List Span) : Prop where
  le : first ≤ last
  length : ∀ span ∈ spans, span.length = 1
  bounds : ∀ span ∈ spans, first ≤ span.offset ∧ span.offset < last
  distinct : (spans.map offset).Nodup

namespace Fresh

variable {first middle last : Nat} {spans others : List Span}

theorem nil (offset : Nat) : Fresh offset offset [] :=
  ⟨Nat.le_refl _, nofun, nofun, .nil⟩

/-- The next span that is handed out. -/
theorem next (offset : Nat) : Fresh offset (offset + 1) [⟨offset, 1⟩] :=
  ⟨Nat.le_succ _, by simp, by simp, List.nodup_singleton _⟩

/-- Fresh spans that are handed out one after another are fresh together. -/
theorem append (before : Fresh first middle spans) (behind : Fresh middle last others) :
    Fresh first last (spans ++ others) where
  le := Nat.le_trans before.le behind.le
  length := List.forall_mem_append.mpr ⟨before.length, behind.length⟩
  bounds := by
    refine List.forall_mem_append.mpr ⟨fun span listed => ?_, fun span listed => ?_⟩
    · have bounds := before.bounds span listed
      exact ⟨bounds.1, Nat.lt_of_lt_of_le bounds.2 behind.le⟩
    · have bounds := behind.bounds span listed
      exact ⟨Nat.le_trans before.le bounds.1, bounds.2⟩
  distinct := by
    rw [List.map_append]
    refine before.distinct.append behind.distinct ?_
    intro offset left right
    obtain ⟨span, listed, rfl⟩ := List.mem_map.mp left
    obtain ⟨other, also, same⟩ := List.mem_map.mp right
    have below := (before.bounds span listed).2
    have above := (behind.bounds other also).1
    omega

/-- Some of the spans, in any order. -/
theorem subperm (fresh : Fresh first last spans) (some : others.Subperm spans) :
    Fresh first last others where
  le := fresh.le
  length := fun span listed => fresh.length span (some.subset listed)
  bounds := fun span listed => fresh.bounds span (some.subset listed)
  distinct := by
    obtain ⟨kept, same, sublist⟩ := some
    rw [← (same.map offset).nodup_iff]
    exact fresh.distinct.sublist (sublist.map offset)

end Fresh

end Span

end NameResolution
