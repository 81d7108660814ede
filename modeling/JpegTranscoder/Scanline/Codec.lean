/-
**The codec over a whole-frame engine.**

Its header is the one that the segments declare; the engine has to accept the source as well.
-/
import JpegTranscoder.Scanline.Decoder
import JpegTranscoder.Scanline.Encoder

namespace JpegTranscoder

/-- A header error as a codec reports it. -/
def CodecError.ofHeader : HeaderError → CodecError
  | .notAJpeg => .notAJpeg
  | .malformed fault => .malformedHeader fault.message

namespace Scanline

/-- A decoder's fault as a codec reports it. -/
def Decoder.Fault.toCodecError (fault : Decoder.Fault) : CodecError := .failed fault.message

/-- Reads the header of a source. The segments are walked once for the header and once for the end
of image, so a warning about stray bytes comes twice. -/
def openSource (engine : Engine) (source : Bytes) :
    List Log.Record × Except CodecError (Decoder × Header) :=
  let walk := Header.walk source
  match Header.read source, isTerminated source with
  | .error error, _ => (walk.log, .error (.ofHeader error))
  | .ok _, .error error => (walk.log ++ walk.log, .error (.ofHeader error))
  | .ok header, .ok terminated =>
    (walk.log ++ walk.log,
      match engine.inspect source with
      | .error reason => .error (.malformedHeader reason)
      | .ok offer => .ok (.create source offer terminated, header))

/-- The codec over an engine, with memory for the frames that it has to stage. -/
def codec (engine : Engine) (memory : Memory) : Codec where
  Decoder := Decoder
  Encoder := Encoder
  readHeader := openSource engine
  beginDecode decoder :=
    let (result, next) := decoder.begin
    (result.mapError (·.toCodecError), next)
  readRows decoder buffer stride :=
    let (result, next) := decoder.read engine memory buffer stride
    (result.mapError (·.toCodecError), next)
  finishDecode decoder :=
    let (result, next) := decoder.finish
    (result.mapError (·.toCodecError), next)
  createEncoder sink := (.ok .create, sink)
  beginEncode encoder settings sink :=
    let (result, next) := encoder.begin settings
    (result.mapError (·.toCodecError), next, sink)
  writeRows encoder rows stride sink :=
    let (result, next, after) := encoder.write engine memory rows stride sink
    (result.mapError (·.toCodecError), next, after)
  finishEncode encoder sink :=
    let (result, after) := encoder.finish sink
    (result.mapError (·.toCodecError), after)

end Scanline

end JpegTranscoder
