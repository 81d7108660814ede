/-
**The shape of a decoded frame.**

Rows are 8-bit samples, one per pixel for gray frames and three for colour frames.
-/

namespace JpegTranscoder

/-- The samples of a pixel. -/
inductive ColorSpace where
  | gray
  | rgb
  deriving DecidableEq, Repr

/-- Samples per pixel. -/
def ColorSpace.components : ColorSpace → Nat
  | .gray => 1
  | .rgb => 3

theorem ColorSpace.components_pos (color : ColorSpace) : 0 < color.components := by
  cases color <;> decide

/-- The shape of a frame of rows. -/
structure Geometry where
  width : UInt16
  height : UInt16
  color : ColorSpace
  deriving DecidableEq, Repr

namespace Geometry

/-- Samples per pixel. -/
def components (geometry : Geometry) : Nat := geometry.color.components

/-- Bytes per row. -/
def stride (geometry : Geometry) : Nat := geometry.width.toNat * geometry.components

def rows (geometry : Geometry) : Nat := geometry.height.toNat

/-- Bytes of the whole frame. -/
def byteCount (geometry : Geometry) : Nat := geometry.rows * geometry.stride

/-- A row is empty exactly when the frame has no width. -/
theorem stride_eq_zero_iff (geometry : Geometry) : geometry.stride = 0 ↔ geometry.width = 0 := by
  have positive := geometry.color.components_pos
  rw [stride, components, Nat.mul_eq_zero, ← UInt16.toNat_inj, UInt16.toNat_zero]
  constructor
  · rintro (empty | none)
    · exact empty
    · omega
  · exact Or.inl

theorem stride_pos {geometry : Geometry} (wide : geometry.width ≠ 0) : 0 < geometry.stride :=
  Nat.pos_of_ne_zero fun none => wide (geometry.stride_eq_zero_iff.mp none)

theorem rows_pos {geometry : Geometry} (high : geometry.height ≠ 0) : 0 < geometry.rows := by
  rw [ne_eq, ← UInt16.toNat_inj] at high
  exact Nat.pos_of_ne_zero high

end Geometry

end JpegTranscoder
