/-
**Encoding a raster.**

The encoder takes the rows of the raster, as many at a time as it likes. It may neither stall nor
take more rows than there are.
-/
import JpegTranscoder.Session.Basic

namespace JpegTranscoder

/-- The error of an encoder that stalls or takes too much. -/
def TranscodeError.badWrite (count row height : Nat) : TranscodeError :=
  .codecFailure s!"encoder accepted {count} rows at scanline {row} of {height}"

namespace Sending

def createEncoder (codec : Codec) : Sending codec.Encoder := fun sink =>
  let (answer, after) := codec.createEncoder sink
  (Attempt.call (.createEncoder (answer.map fun _ => ())) answer, after)

def beginEncode (codec : Codec) (encoder : codec.Encoder) (settings : EncoderSettings) :
    Sending codec.Encoder := fun sink =>
  let (answer, next, after) := codec.beginEncode encoder settings sink
  (Attempt.call (.beginEncode settings answer) (answer.map fun _ => next), after)

def writeRows (codec : Codec) (encoder : codec.Encoder) (rows : Bytes) (stride : Nat) :
    Sending (Nat × codec.Encoder) := fun sink =>
  let (answer, next, after) := codec.writeRows encoder rows stride sink
  (Attempt.call (.writeRows rows stride answer) (answer.map fun count => (count, next)), after)

def finishEncode (codec : Codec) (encoder : codec.Encoder) : Sending Unit := fun sink =>
  let (answer, after) := codec.finishEncode encoder sink
  (Attempt.call (.finishEncode answer) answer, after)

end Sending

/-- Offers the rows of a frame to an encoder, from row `row` to the last. -/
def sendRows (codec : Codec) (samples : Bytes) (stride height row : Nat)
    (encoder : codec.Encoder) : Sending codec.Encoder :=
  if row < height then do
    let (count, encoder) ←
      Sending.writeRows codec encoder (samples.drop (row * stride)) stride
    if _stuck : count = 0 ∨ height - row < count then
      .ofAttempt (.fail (.badWrite count row height))
    else sendRows codec samples stride height (row + count) encoder
  else .ofAttempt (.done encoder)
termination_by height - row
decreasing_by omega

def encodeRaster (codec : Codec) (settings : EncoderSettings) (raster : Raster) :
    Sending Unit := do
  let mode := if settings.progressive then " (progressive)" else ""
  let size := s!"{settings.geometry.width}x{settings.geometry.height}"
  Sending.ofAttempt (.log .debug s!"encoding {size} at quality {settings.quality}{mode}")
  let encoder ← Sending.createEncoder codec
  let encoder ← Sending.beginEncode codec encoder settings
  let encoder ← sendRows codec raster.samples raster.stride raster.height 0 encoder
  Sending.finishEncode codec encoder

namespace Session

variable {codec : Codec}

/-- Encodes what the session holds: its geometry, color and mode are kept, and Huffman tables are
always made for the image. -/
def encodeHeld (session : Session codec) : Sending Unit :=
  match session.geometry, session.raster with
  | none, _ => .ofAttempt (.fail (.codecFailure "output geometry missing"))
  | some _, none => .ofAttempt (.fail (.codecFailure "raster missing"))
  | some geometry, some raster =>
    encodeRaster codec ⟨geometry, session.effectiveQuality, session.progressive, true⟩ raster

/-- Encodes the decoded raster into a sink, and leaves the sink as the encoding left it. The raster
is used up. -/
def encode (session : Session codec) (sink : Sink) : Outcome codec Unit × Sink :=
  if session.state = .decoded then
    match session.encodeHeld sink with
    | (⟨trace, .error error⟩, after) => (session.fail trace error, after)
    | (⟨trace, .ok ()⟩, after) =>
      ({ result := .ok (), session := { session with state := .encoded, raster := none }, trace },
        after)
  else (session.refuse .encoding, sink)

/-- Encodes the decoded raster into memory. -/
def encodeToBytes (session : Session codec) : Outcome codec Bytes :=
  let (outcome, sink) := session.encode .empty
  { outcome with result := outcome.result.map fun _ => sink.accepted }

end Session

end JpegTranscoder
