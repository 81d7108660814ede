/-
**Decoding into a raster.**

The decoder fills a fresh raster, as many rows at a time as it likes. It may neither stall nor go
past the last row; `readRows` makes one call for every answer, so it ends after at most as many
calls as there are rows.
-/
import JpegTranscoder.Session.Basic

namespace JpegTranscoder

/-- The error of a decoder that stalls or goes too far. -/
def TranscodeError.badRead (count row height : Nat) : TranscodeError :=
  .codecFailure s!"decoder returned {count} rows at scanline {row} of {height}"

/-- Has the decoder fill rows of a raster from row `row` on. -/
def Attempt.readRows (codec : Codec) (stride row : Nat) (decoder : codec.Decoder)
    (raster : Raster) : Attempt (Nat × codec.Decoder × Raster) :=
  let (answer, next) := codec.readRows decoder (raster.rowsFrom row) stride
  let room := (raster.rowsFrom row).length
  ⟨[.called (.readRows room stride (answer.map Prod.fst))],
    (answer.map fun (count, block) => (count, next, raster.setRowsFrom row block.val)).mapError
      .ofCodec⟩

/-- Has the decoder fill the rows of a raster from row `row` to its last. -/
def fillRaster (codec : Codec) (stride height row : Nat) (decoder : codec.Decoder)
    (raster : Raster) : Attempt (codec.Decoder × Raster) :=
  if row < height then do
    let (count, decoder, raster) ← Attempt.readRows codec stride row decoder raster
    if _stuck : count = 0 ∨ height - row < count then .fail (.badRead count row height)
    else fillRaster codec stride height (row + count) decoder raster
  else .done (decoder, raster)
termination_by height - row
decreasing_by omega

def decodeFrame (codec : Codec) (memory : Memory) (decoder : codec.Decoder) :
    Attempt (Geometry × Raster) := do
  let (answer, decoder) := codec.beginDecode decoder
  let geometry ← Attempt.call (.beginDecode answer) answer
  let raster ← Attempt.ofExcept <|
    (Raster.allocate memory geometry.rows geometry.width.toNat geometry.components).mapError
      .ofAllocation
  let (decoder, raster) ← fillRaster codec geometry.stride geometry.rows 0 decoder raster
  let (answer, _) := codec.finishDecode decoder
  Attempt.call (.finishDecode answer) answer
  return (geometry, raster)

/-- Decodes with a decoder that may be missing. -/
def decodeHeld (codec : Codec) (memory : Memory) :
    Option codec.Decoder → Attempt (Geometry × Raster)
  | none => .fail (.codecFailure "decoder state missing")
  | some decoder => decodeFrame codec memory decoder

namespace Session

variable {codec : Codec}

/-- Decodes the opened source. The decoder is used up, and no partial raster is ever kept. -/
def decode (session : Session codec) : Outcome codec Unit :=
  if session.state = .headerRead then
    let attempt := decodeHeld codec session.memory session.decoder
    match attempt.result with
    | .error error => session.fail attempt.trace error
    | .ok (geometry, raster) =>
      { result := .ok ()
        session :=
          { session with
            state := .decoded
            decoder := none
            geometry := some geometry
            raster := some raster }
        trace := attempt.trace }
  else session.refuse .decoding

end Session

end JpegTranscoder
