/-
**The reference quantization tables.**

Encoders scale two tables of the JPEG standard by a factor that the quality gives.
-/
import JpegTranscoder.Quant.Table

namespace JpegTranscoder.Quant.Reference

/-- The reference table for luminance. -/
def luma : Vector UInt16 64 := #v[
  16, 11, 10, 16, 24, 40, 51, 61, 12, 12, 14, 19, 26, 58, 60, 55,
  14, 13, 16, 24, 40, 57, 69, 56, 14, 17, 22, 29, 51, 87, 80, 62,
  18, 22, 37, 56, 68, 109, 103, 77, 24, 35, 55, 64, 81, 104, 113, 92,
  49, 64, 78, 87, 103, 121, 120, 101, 72, 92, 95, 98, 112, 100, 103, 99]

/-- The reference table for chrominance. -/
def chroma : Vector UInt16 64 := #v[
  17, 18, 24, 47, 99, 99, 99, 99, 18, 21, 26, 66, 99, 99, 99, 99,
  24, 26, 56, 99, 99, 99, 99, 99, 47, 66, 99, 99, 99, 99, 99, 99,
  99, 99, 99, 99, 99, 99, 99, 99, 99, 99, 99, 99, 99, 99, 99, 99,
  99, 99, 99, 99, 99, 99, 99, 99, 99, 99, 99, 99, 99, 99, 99, 99]

/-- The percentage that a quality scales the reference tables by. -/
def scale (quality : Nat) : Nat := if quality < 50 then 5000 / quality else 200 - quality * 2

/-- A reference divisor scaled to a quality; it stays a nonzero byte. -/
def scaleDivisor (quality : Nat) (divisor : UInt16) : UInt16 :=
  UInt16.ofNat (max 1 (min 255 ((divisor.toNat * scale quality + 50) / 100)))

def scaled (base : Vector UInt16 64) (quality : Nat) : Table :=
  ⟨base.map (scaleDivisor quality)⟩

end JpegTranscoder.Quant.Reference
