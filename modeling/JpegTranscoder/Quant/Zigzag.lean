/-
**The zigzag order of an 8x8 block.**

A file stores the 64 coefficients of a table or a block along the diagonals, lowest frequencies
first; in memory they stand row by row.

* `position_rank`, `rank_position`: the two maps between the orders are inverse to each other.
-/

namespace JpegTranscoder.Zigzag

/-- Positions and ranks may be written as numerals. -/
instance neZero_size : @NeZero Nat Zero.ofOfNat0 64 := ⟨by decide⟩

/-- The row-major position of the coefficient that stands at each zigzag rank. -/
def positions : Vector (Fin 64) 64 := #v[
  0, 1, 8, 16, 9, 2, 3, 10, 17, 24, 32, 25, 18, 11, 4, 5,
  12, 19, 26, 33, 40, 48, 41, 34, 27, 20, 13, 6, 7, 14, 21, 28,
  35, 42, 49, 56, 57, 50, 43, 36, 29, 22, 15, 23, 30, 37, 44, 51,
  58, 59, 52, 45, 38, 31, 39, 46, 53, 60, 61, 54, 47, 55, 62, 63]

/-- The zigzag rank of the coefficient at each row-major position. -/
def ranks : Vector (Fin 64) 64 := #v[
  0, 1, 5, 6, 14, 15, 27, 28,
  2, 4, 7, 13, 16, 26, 29, 42,
  3, 8, 12, 17, 25, 30, 41, 43,
  9, 11, 18, 24, 31, 40, 44, 53,
  10, 19, 23, 32, 39, 45, 52, 54,
  20, 22, 33, 38, 46, 51, 55, 60,
  21, 34, 37, 47, 50, 56, 59, 61,
  35, 36, 48, 49, 57, 58, 62, 63]

/-- Row-major position of a zigzag rank. -/
def position (rank : Fin 64) : Fin 64 := positions[rank]

/-- Zigzag rank of a row-major position. -/
def rank (position : Fin 64) : Fin 64 := ranks[position]

theorem position_rank : ∀ index : Fin 64, position (rank index) = index := by decide

theorem rank_position : ∀ index : Fin 64, rank (position index) = index := by decide

/-- Row-major order of coefficients given in zigzag order. -/
def toNatural {α : Type} (zigzag : Vector α 64) : Vector α 64 :=
  Vector.ofFn fun index => zigzag[rank index]

/-- Zigzag order of coefficients given row by row. -/
def ofNatural {α : Type} (natural : Vector α 64) : Vector α 64 :=
  Vector.ofFn fun index => natural[position index]

/-- Reordering along the diagonals and back changes nothing. -/
theorem toNatural_ofNatural {α : Type} (natural : Vector α 64) :
    toNatural (ofNatural natural) = natural := by
  ext index bound
  have back := position_rank ⟨index, bound⟩
  simp only [toNatural, ofNatural, Vector.getElem_ofFn, Fin.getElem_fin, back]

/-- Reordering row by row and back changes nothing. -/
theorem ofNatural_toNatural {α : Type} (zigzag : Vector α 64) :
    ofNatural (toNatural zigzag) = zigzag := by
  ext index bound
  have back := rank_position ⟨index, bound⟩
  simp only [toNatural, ofNatural, Vector.getElem_ofFn, Fin.getElem_fin, back]

end JpegTranscoder.Zigzag
