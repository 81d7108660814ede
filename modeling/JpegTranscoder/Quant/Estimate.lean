/-
**The quality a file was written at, guessed from its tables.**

The fingerprint of the tables is compared with a calibration from the coarsest quality on; the
first quality one of whose two thresholds is reached is the answer. Tables of an encoder with
other reference tables get the nearest quality, or 0 where nothing is reached.
-/
import JpegTranscoder.Log
import JpegTranscoder.Quant.Calibration
import JpegTranscoder.Quant.Table

namespace JpegTranscoder.Quant

/-- What an encoder's quality leaves in its tables. -/
structure Fingerprint where
  hash : Nat
  sum : Nat

/-- The fingerprint of a luminance table and of a chrominance table, if there is one. -/
def Fingerprint.ofTables (luma : Table) : Option Table → Fingerprint
  | some chroma =>
    ⟨luma.divisor 2 + luma.divisor 53 + chroma.divisor 0 + chroma.divisor 63,
      luma.sum + chroma.sum⟩
  | none => ⟨luma.divisor 2 + luma.divisor 53, luma.sum⟩

/-- The calibration that belongs to the tables of a file. -/
def Calibration.forChroma : Option Table → Calibration
  | some _ => .color
  | none => .gray

/-- Where the fingerprint of the tables is found in its calibration. -/
def locateTables (luma : Table) (chroma : Option Table) : Option Nat :=
  let fingerprint := Fingerprint.ofTables luma chroma
  (Calibration.forChroma chroma).locate fingerprint.hash fingerprint.sum

/-- The estimated quality, 1 to 100, or 0 when there is no luminance table or no match. -/
def estimate (luma chroma : Option Table) : UInt8 :=
  match luma.bind fun table => locateTables table chroma with
  | some position => UInt8.ofNat (position + 1)
  | none => 0

/-- The log records of an estimate: a match is traced, with a note when it is not exact. -/
def estimateLog (luma chroma : Option Table) : List Log.Record :=
  match luma with
  | none => []
  | some luma =>
    let fingerprint := Fingerprint.ofTables luma chroma
    match locateTables luma chroma with
    | none => []
    | some position =>
      let approximate :=
        (Calibration.forChroma chroma).exceeds position fingerprint.hash fingerprint.sum
      let note := if approximate then " (approximate)" else ""
      [⟨.trace, s!"quality {position + 1}{note}"⟩]

end JpegTranscoder.Quant
