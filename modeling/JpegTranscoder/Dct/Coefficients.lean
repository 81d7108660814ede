/-
**Reading the coefficients of a block.**

Coefficients stand in zigzag order. The first is coded as the difference from the block before; the
others as runs of zeros, each with the coefficient after it, up to an end of block that may hold for
further blocks too. A progressive frame sends the high bits of coefficients first and refines them
one bit at a time.
-/
import JpegTranscoder.Dct.Cosine
import JpegTranscoder.Dct.Huffman

namespace JpegTranscoder.Dct

/-- Reads a signed number of `width` bits: one with a leading zero stands for a negative number. -/
def readSigned (width : Nat) (bits : Bits) : Int × Bits :=
  let (value, rest) := Bits.readNat width bits
  (if width = 0 then 0
    else if value < Nat.pow 2 (width - 1) then (value : Int) - Int.pow 2 width + 1
    else value, rest)

def Block.coefficient (block : Block) (rank : Nat) : Int := block[rank]?.getD 0

/-- The block with another coefficient at a rank. -/
def Block.put (block : Block) (rank : Nat) (value : Int) : Block :=
  block.setIfInBounds rank value

/-- What a scan sends of each coefficient of a block. -/
structure Band where
  /-- The first rank. -/
  first : Nat
  /-- The last rank. -/
  last : Nat
  /-- Whether the coefficients were sent before, and one bit of each is sent now. -/
  refines : Bool
  /-- The lowest bit that is sent. -/
  low : Nat
  deriving DecidableEq, Repr

/-- Where the reading of a block left off: the block, the number of further blocks that hold no more
coefficients, and the bits to come. -/
structure BlockRead where
  block : Block
  endRun : Nat
  bits : Bits

/-! ### First passes -/

/-- Reads the difference of a first coefficient. -/
def readDifference (table : Huffman.Table) (bits : Bits) : Option (Int × Bits) :=
  (table.readSymbol bits).map fun (symbol, rest) => readSigned symbol.toNat rest

/-- Reads the coefficients from `rank` on. -/
def readRuns (table : Huffman.Table) (band : Band) (rank : Nat) (block : Block) (bits : Bits) :
    Option BlockRead :=
  if _inside : rank ≤ band.last then
    match table.readSymbol bits with
    | none => none
    | some (symbol, bits) =>
      let zeros := symbol.toNat / 16
      let width := symbol.toNat % 16
      if width = 0 then
        if zeros = 15 then readRuns table band (rank + 16) block bits
        else
          let (extra, bits) := Bits.readNat zeros bits
          some ⟨block, Nat.pow 2 zeros - 1 + extra, bits⟩
      else
        let (value, bits) := readSigned width bits
        let block := block.put (rank + zeros) (value * Int.pow 2 band.low)
        readRuns table band (rank + zeros + 1) block bits
  else some ⟨block, 0, bits⟩
termination_by band.last + 1 - rank

/-! ### Refining passes -/

/-- A coefficient with one more bit. -/
def refined (low : Nat) (value : Int) (bit : Bool) : Int :=
  if bit && value.natAbs / Nat.pow 2 low % 2 == 0 then
    if value < 0 then value - Int.pow 2 low else value + Int.pow 2 low
  else value

/-- Refines coefficients from `rank` on, until `zeros` zero coefficients were passed and another
stands next. -/
def refineRun (band : Band) (zeros rank : Nat) (block : Block) (bits : Bits) :
    Nat × Block × Bits :=
  if _inside : rank ≤ band.last then
    let value := block.coefficient rank
    if value = 0 then
      match zeros with
      | 0 => (rank, block, bits)
      | zeros + 1 => refineRun band zeros (rank + 1) block bits
    else
      let (bit, bits) := Bits.readBit bits
      refineRun band zeros (rank + 1) (block.put rank (refined band.low value bit)) bits
  else (rank, block, bits)
termination_by band.last + 1 - rank

/-- Refining goes forward. -/
theorem le_refineRun (band : Band) (zeros rank : Nat) (block : Block) (bits : Bits) :
    rank ≤ (refineRun band zeros rank block bits).1 := by
  fun_induction refineRun band zeros rank block bits with
  | case1 => exact Nat.le_refl _
  | case2 rank block bits inside value isZero zeros ih => omega
  | case3 zeros rank block bits inside value notZero bit rest read ih => omega
  | case4 => exact Nat.le_refl _

/-- Refines all coefficients from `rank` on; no new one appears. -/
def refineRest (band : Band) (rank : Nat) (block : Block) (bits : Bits) : Block × Bits :=
  (refineRun band 64 rank block bits).2

/-- Refines the coefficients from `rank` on and reads those that appear. -/
def refineRuns (table : Huffman.Table) (band : Band) (rank : Nat) (block : Block) (bits : Bits) :
    Option BlockRead :=
  if _inside : rank ≤ band.last then
    match table.readSymbol bits with
    | none => none
    | some (symbol, rest) =>
      let zeros := symbol.toNat / 16
      let width := symbol.toNat % 16
      if width = 0 ∧ zeros < 15 then
        let (extra, rest) := Bits.readNat zeros rest
        let (block, rest) := refineRest band rank block rest
        some ⟨block, Nat.pow 2 zeros - 1 + extra, rest⟩
      else
        let sign := if width = 0 then (true, rest) else Bits.readBit rest
        let step := refineRun band zeros rank block sign.2
        let value : Int := if sign.1 then Int.pow 2 band.low else -Int.pow 2 band.low
        let block := if width = 0 then step.2.1 else step.2.1.put step.1 value
        refineRuns table band (step.1 + 1) block step.2.2
  else some ⟨block, 0, bits⟩
termination_by band.last + 1 - rank
decreasing_by
  exact Nat.sub_lt_sub_left (Nat.lt_succ_of_le _inside) (Nat.lt_succ_of_le (le_refineRun ..))

/-! ### Whole blocks -/

/-- The tables of a component in a scan; the ones that the scan does not use may be missing. -/
structure Tables where
  dc : Huffman.Table
  ac : Huffman.Table

/-- Reads or refines the first coefficient. `prediction` is the one of the block before. -/
def readFirst (tables : Tables) (band : Band) (prediction : Int) (block : Block) (bits : Bits) :
    Option (Block × Int × Bits) :=
  if band.refines then
    let (bit, bits) := Bits.readBit bits
    let value := if bit then block.coefficient 0 + Int.pow 2 band.low else block.coefficient 0
    some (block.put 0 value, prediction, bits)
  else
    (readDifference tables.dc bits).map fun (difference, bits) =>
      let value := prediction + difference
      (block.put 0 (value * Int.pow 2 band.low), value, bits)

/-- Reads or refines the other coefficients. -/
def readOthers (tables : Tables) (band : Band) (endRun : Nat) (block : Block) (bits : Bits) :
    Option BlockRead :=
  let start := max 1 band.first
  match endRun with
  | 0 =>
    if band.refines then refineRuns tables.ac band start block bits
    else readRuns tables.ac band start block bits
  | endRun + 1 =>
    if band.refines then
      let (block, bits) := refineRest band start block bits
      some ⟨block, endRun, bits⟩
    else some ⟨block, endRun, bits⟩

end JpegTranscoder.Dct
