import NameResolution.Proofs.Session.Separate

/-!
# Building programs

Trees are built from the leaves up: a number is drawn for a node, and the node
is put together from it and from pieces that were built before. Each number and
each piece is used once. However the building is interleaved with the resolution
of programs, the numbers in programs that are resolved and in what is left over
are those drawn so far, each of them once.
-/

namespace NameResolution

/-- Something that has been made and not been used yet. -/
inductive Material where
  /-- A number that no node has. -/
  | number (id : NodeId)
  /-- A piece that stands in no other and has not been resolved. -/
  | piece (piece : Piece)

/-- The numbers in a material. -/
def Material.ids : Material → List NodeId
  | .number id => [id]
  | .piece whole => whole.ids

/-- The numbers in materials. -/
def idsOf (materials : List Material) : List NodeId := materials.flatMap Material.ids

@[simp] theorem idsOf_number (id : NodeId) (rest : List Material) :
    idsOf (.number id :: rest) = id :: idsOf rest := rfl

@[simp] theorem idsOf_piece (piece : Piece) (rest : List Material) :
    idsOf (.piece piece :: rest) = piece.ids ++ idsOf rest := rfl

theorem idsOf_append (first second : List Material) :
    idsOf (first ++ second) = idsOf first ++ idsOf second :=
  List.flatMap_append

/-- Pieces as materials. -/
def piecesOf (pieces : List Piece) : List Material := pieces.map .piece

/-- What a piece is put together from: its parts, and a number if it is a node. -/
def Piece.materials (piece : Piece) : List Material :=
  piecesOf (piece.parts "") ++ piece.ownId?.toList.map .number

/-- What a piece is put together from holds its numbers. -/
theorem Piece.idsOf_materials (piece : Piece) : idsOf piece.materials = piece.ids := by
  have own (id? : Option NodeId) : idsOf (id?.toList.map .number) = id?.toList := by
    cases id? <;> rfl
  have inside (pieces : List Piece) : idsOf (piecesOf pieces) = pieces.flatMap ids :=
    List.flatMap_map _ _ _
  rw [ids_eq_flatMap, materials, idsOf_append, own, inside]

/-- The number that is drawn after `earlier` others. -/
def NodeId.drawn (earlier : Nat) : NodeId := ⟨UInt32.ofNat earlier⟩

/-- `Built materials count runs`: `count` numbers have been drawn, the programs
of `runs` have been built and resolved, and the materials are left. -/
inductive Built : List Material → Nat → List Run → Prop where
  | start : Built [] 0 []
  /-- Draw a number. -/
  | draw {materials : List Material} {count : Nat} {runs : List Run}
      (built : Built materials count runs) :
      Built (.number (.drawn count) :: materials) (count + 1) runs
  /-- Put a piece together. -/
  | assemble {materials : List Material} {count : Nat} {runs : List Run} (piece : Piece)
      (built : Built (piece.materials ++ materials) count runs) :
      Built (.piece piece :: materials) count runs
  /-- Change a piece, but not the number of a node. -/
  | amend {materials : List Material} {count : Nat} {runs : List Run} {piece : Piece}
      (amended : Piece) (built : Built (.piece piece :: materials) count runs)
      (kept : amended.ids = piece.ids) : Built (.piece amended :: materials) count runs
  /-- Materials lie about in no order. -/
  | reorder {materials others : List Material} {count : Nat} {runs : List Run}
      (built : Built materials count runs) (same : materials.Perm others) :
      Built others count runs
  /-- Resolve a program. -/
  | resolve {materials : List Material} {count : Nat} {runs : List Run} {program : Program}
      (env : Environment) (built : Built (.piece (.stmts program) :: materials) count runs) :
      Built materials count (runs ++ [⟨env, program⟩])

/-- The first numbers that are drawn. -/
def NodeId.firsts (count : Nat) : List NodeId := (List.range count).map drawn

/-- The number drawn last is the last of the first numbers. -/
theorem NodeId.firsts_succ (count : Nat) : firsts (count + 1) = firsts count ++ [drawn count] := by
  rw [firsts, List.range_succ, List.map_append, List.map_singleton, firsts]

/-- No number is drawn twice before all have been drawn. -/
theorem NodeId.nodup_firsts {count : Nat} (room : count ≤ UInt32.size) : (firsts count).Nodup := by
  refine List.Nodup.map_on ?_ List.nodup_range
  intro first before second also same
  have sameWord : UInt32.ofNat first = UInt32.ofNat second := congrArg NodeId.val same
  have sameNumber := congrArg UInt32.toNat sameWord
  rw [List.mem_range] at before also
  rwa [UInt32.toNat_ofNat_of_lt' (Nat.lt_of_lt_of_le before room),
    UInt32.toNat_ofNat_of_lt' (Nat.lt_of_lt_of_le also room)] at sameNumber

namespace Built

variable {materials : List Material} {count : Nat} {runs : List Run}

/-- Every number drawn so far is in one place, and there once. -/
theorem perm_firsts (built : Built materials count runs) :
    (idsOf materials ++ runs.flatMap Run.ids).Perm (NodeId.firsts count) := by
  induction built with
  | start => exact .refl _
  | draw built ih =>
    rw [NodeId.firsts_succ, idsOf_number]
    exact (ih.cons _).trans (List.perm_append_singleton _ _).symm
  | assemble piece built ih =>
    rwa [idsOf_append, piece.idsOf_materials] at ih
  | amend amended built kept ih =>
    rwa [idsOf_piece, kept]
  | reorder built same ih => exact ((same.flatMap_right _).symm.append_right _).trans ih
  | resolve env built ih =>
    rw [List.flatMap_append, List.flatMap_singleton, ← List.append_assoc]
    refine List.Perm.trans List.perm_append_comm ?_
    rwa [idsOf_piece, List.append_assoc] at ih

/-- While numbers last, no two programs share one. -/
theorem distinct (built : Built materials count runs) (room : count ≤ UInt32.size) :
    (runs.flatMap Run.ids).Nodup :=
  (List.nodup_append'.mp (built.perm_firsts.nodup_iff.mpr (NodeId.nodup_firsts room))).2.1

/-- If nothing is left over, the numbers drawn are those of the programs. -/
theorem length_ids (built : Built [] count runs) : (runs.flatMap Run.ids).length = count := by
  have same := built.perm_firsts.length_eq
  rwa [NodeId.firsts, List.length_map, List.length_range] at same

end Built

end NameResolution
