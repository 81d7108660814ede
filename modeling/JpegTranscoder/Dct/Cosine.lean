/-
**The cosine transform of 8x8 blocks.**

Samples and coefficients of a block stand row by row. All numbers are integers: the cosines are
scaled by 2^20, once for the rows and once for the columns, and only the end result is rounded.
-/
import JpegTranscoder.Quant.Table

namespace JpegTranscoder.Dct

/-- Sixty-four numbers, row by row or along the diagonals. -/
abbrev Block := Vector Int 64

namespace Cosine

/-- The eight cosine functions at the eight places of a row, scaled by 2^20. -/
def basis : Vector (Vector Int 8) 8 := #v[
  #v[370728, 370728, 370728, 370728, 370728, 370728, 370728, 370728],
  #v[514214, 435930, 291279, 102284, -102284, -291279, -435930, -514214],
  #v[484379, 200636, -200636, -484379, -484379, -200636, 200636, 484379],
  #v[435930, -102284, -514214, -291279, 291279, 514214, 102284, -435930],
  #v[370728, -370728, -370728, 370728, 370728, -370728, -370728, 370728],
  #v[291279, -514214, 102284, 435930, -435930, -102284, 514214, -291279],
  #v[200636, -484379, 484379, -200636, -200636, 484379, -484379, 200636],
  #v[102284, -291279, 435930, -514214, 514214, -435930, 291279, -102284]]

/-- The sum of eight numbers. -/
def sum8 (term : Fin 8 → Int) : Int :=
  term 0 + term 1 + term 2 + term 3 + term 4 + term 5 + term 6 + term 7

/-- The quotient of two numbers, the second positive, rounded to the nearest integer; a half goes
away from zero. -/
def roundDiv (number : Int) (divisor : Nat) : Int :=
  let magnitude := (2 * number.natAbs + divisor) / (2 * divisor)
  if number < 0 then -(magnitude : Int) else magnitude

def place (row column : Fin 8) : Fin 64 := ⟨row.val * 8 + column.val, by omega⟩

def rowOf (index : Fin 64) : Fin 8 := ⟨index.val / 8, by omega⟩

def columnOf (index : Fin 64) : Fin 8 := ⟨index.val % 8, by omega⟩

def weighRows (weight : Fin 8 → Fin 8 → Int) (block : Block) : Block :=
  Vector.ofFn fun index => sum8 fun other =>
    weight other (columnOf index) * block[place (rowOf index) other]

def weighColumns (weight : Fin 8 → Fin 8 → Int) (block : Block) : Block :=
  Vector.ofFn fun index => sum8 fun other =>
    weight other (rowOf index) * block[place other (columnOf index)]

/-- The scale of a transformed block. -/
def scale : Nat := Nat.pow 2 40

/-- The samples of a block of coefficients: integers from 0 to 255. -/
def samples (coefficients : Block) : Block :=
  let weight (frequency spot : Fin 8) : Int := basis[frequency][spot]
  (weighColumns weight (weighRows weight coefficients)).map fun value =>
    max 0 (min 255 (roundDiv value scale + 128))

/-- The coefficients of a block of samples, scaled by `scale`. -/
def coefficients (samples : Block) : Block :=
  let weight (spot frequency : Fin 8) : Int := basis[frequency][spot]
  weighColumns weight (weighRows weight (samples.map (· - 128)))

end Cosine

/-- Coefficients divided by a table, rounded. A divisor of zero counts as one. -/
def quantize (table : Quant.Table) (scaled : Block) : Block :=
  Vector.ofFn fun index =>
    Cosine.roundDiv (scaled.get index) (Cosine.scale * max 1 (table.divisor index))

/-- Coefficients multiplied by a table. -/
def dequantize (table : Quant.Table) (quantized : Block) : Block :=
  Vector.ofFn fun index => quantized.get index * (table.divisor index : Int)

end JpegTranscoder.Dct
