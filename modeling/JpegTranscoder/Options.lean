/-
**Metadata of a source and options of a transcode.**
-/

namespace JpegTranscoder

/-- What is told of an image before it is decoded. -/
structure Metadata where
  width : UInt16
  height : UInt16
  /-- The estimated quality, 1 to 100, or 0 if it is unknown. -/
  quality : UInt8
  deriving DecidableEq, Repr

def Metadata.hasQuality (metadata : Metadata) : Bool := decide (0 < metadata.quality)

/-- What is asked of a transcode. -/
structure Options where
  /-- The quality to encode at; outside 1 to 99 the estimated quality is kept. -/
  targetQuality : UInt8
  /-- Whether metadata segments are to be dropped. The encoder copies none, so they always are. -/
  stripMetadata : Bool
  deriving DecidableEq, Repr

/-- Keep the quality. -/
def Options.default : Options := ⟨0, false⟩

/-- Whether a target quality may be asked for. -/
def isValidQuality (quality : UInt8) : Bool := 1 ≤ quality && quality ≤ 100

theorem isValidQuality_iff {quality : UInt8} :
    isValidQuality quality = true ↔ 1 ≤ quality ∧ quality ≤ 100 := by
  rw [isValidQuality, Bool.and_eq_true, decide_eq_true_eq, decide_eq_true_eq]

/-- The quality to encode at when neither a target nor an estimate is known. -/
def defaultQuality : UInt8 := 75

end JpegTranscoder
