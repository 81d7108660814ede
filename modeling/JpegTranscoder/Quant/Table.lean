/-
**Quantization tables.**

A table holds the 64 divisors of an 8x8 block, row by row. Files store them in zigzag order:
`ofZigzag_toZigzag` says that a table is read back from that order.
-/
import JpegTranscoder.Quant.Zigzag

namespace JpegTranscoder.Quant

/-- The divisors of an 8x8 block of coefficients, row by row. -/
structure Table where
  values : Vector UInt16 64
  deriving DecidableEq

namespace Table

/-- The table whose divisors are given along the diagonals. -/
def ofZigzag (zigzag : Vector UInt16 64) : Table := ⟨Zigzag.toNatural zigzag⟩

/-- The divisors along the diagonals. -/
def toZigzag (table : Table) : Vector UInt16 64 := Zigzag.ofNatural table.values

theorem ofZigzag_toZigzag (table : Table) : ofZigzag table.toZigzag = table := by
  simp only [ofZigzag, toZigzag, Zigzag.toNatural_ofNatural]

/-- The divisor at a row-major position. -/
def divisor (table : Table) (position : Fin 64) : Nat := (table.values.get position).toNat

def sum (table : Table) : Nat := (table.values.toList.map UInt16.toNat).foldr (· + ·) 0

end Table

/-- The four table slots of a frame: luminance is slot 0 and chrominance slot 1. -/
abbrev Slots := Vector (Option Table) 4

/-- Slots may be written as numerals. -/
instance neZero_slots : @NeZero Nat Zero.ofOfNat0 4 := ⟨by decide⟩

end JpegTranscoder.Quant
