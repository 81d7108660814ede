/-
**Engines.**

An engine turns a whole source into a whole frame of samples, and a whole frame into bytes. It
knows nothing of rows, sessions or sinks. Like a codec it is a value, so that a statement can range
over every engine, or over every one that keeps a stated promise.
-/
import JpegTranscoder.Codec

namespace JpegTranscoder

/-- The samples of a whole frame, row after row. -/
abbrev Frame.Samples (geometry : Geometry) : Type :=
  { samples : Bytes // samples.length = geometry.byteCount }

/-- The samples of a pixel that an engine can make. -/
inductive SampleFormat where
  | gray
  | rgb
  /-- Samples that no frame here has, by the engine's name for them. -/
  | other (name : String)
  deriving DecidableEq, Repr

/-- The color of a frame of such samples, or else their name. -/
def SampleFormat.color : SampleFormat → Except String ColorSpace
  | .gray => .ok .gray
  | .rgb => .ok .rgb
  | .other name => .error name

def SampleFormat.ofColor : ColorSpace → SampleFormat
  | .gray => .gray
  | .rgb => .rgb

/-- What an engine tells of the frame that it would decode. -/
structure Offer where
  format : SampleFormat
  width : UInt32
  height : UInt32
  /-- The bytes of the frame. -/
  bytes : UInt64
  deriving DecidableEq, Repr

/-- The offer of a frame. -/
def Offer.ofGeometry (geometry : Geometry) : Offer where
  format := .ofColor geometry.color
  width := geometry.width.toUInt32
  height := geometry.height.toUInt32
  bytes := UInt64.ofNat geometry.byteCount

/-- An engine. Its diagnostics are texts of its own. -/
structure Engine where
  /-- Accepts a source by its header, and tells what frame it would decode. -/
  inspect : Bytes → Except String Offer
  /-- Decodes a source into the samples of a frame as large as it was told. -/
  decode : Bytes → (geometry : Geometry) → Except String (Frame.Samples geometry)
  /-- Encodes a frame. -/
  encode : (settings : EncoderSettings) → Frame.Samples settings.geometry → Bytes
  /-- Says why it does not encode a block of fewer bytes than the frame has. -/
  refuse : EncoderSettings → (length : Nat) → String

namespace Engine

theorem length_take_byteCount (settings : EncoderSettings) (samples : Bytes)
    (enough : ¬samples.length < settings.geometry.byteCount) :
    (samples.take settings.geometry.byteCount).length = settings.geometry.byteCount := by
  rw [List.length_take]
  omega

/-- What an engine answers to a block of samples: it encodes the frame at the start of the block, or
refuses one that is too short for a frame. -/
def submit (engine : Engine) (settings : EncoderSettings) (samples : Bytes) :
    Except String Bytes :=
  let required := settings.geometry.byteCount
  if short : samples.length < required then .error (engine.refuse settings samples.length)
  else
    .ok (engine.encode settings
      ⟨samples.take required, length_take_byteCount settings samples short⟩)

end Engine

end JpegTranscoder
