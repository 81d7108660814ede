/-
**Opening a source.**

The whole source is read before its header is. A frame of a single row or column is refused.
-/
import JpegTranscoder.Session.Basic
import JpegTranscoder.Source

namespace JpegTranscoder

/-- What is learned from a source's header. -/
structure Opened (codec : Codec) where
  decoder : codec.Decoder
  metadata : Metadata
  progressive : Bool

def Attempt.readHeader (codec : Codec) (source : Bytes) : Attempt (codec.Decoder × Header) :=
  let (log, answer) := codec.readHeader source
  ⟨.called (.readHeader source (answer.map Prod.snd)) :: log.map .logged,
    answer.mapError .ofCodec⟩

/-- The estimate of a header's quality, traced. -/
def Attempt.estimate (header : Header) : Attempt UInt8 :=
  ⟨header.qualityLog.map .logged, .ok header.quality⟩

/-- Reads the header of a source and estimates its quality. -/
def Opened.read (codec : Codec) (source : Bytes) : Attempt (Opened codec) := do
  let (decoder, header) ← Attempt.readHeader codec source
  if header.width ≤ 1 ∨ header.height ≤ 1 then
    Attempt.fail (.malformedHeader s!"degenerate geometry {header.width}x{header.height}")
  else
    let bits := header.components.toNat * 8
    let mode := if header.progressive then "P" else "N"
    Attempt.log .debug s!"jpeg header: {header.width}x{header.height} {bits}bit {mode}"
    let quality ← Attempt.estimate header
    Attempt.log .debug s!"estimated quality: {quality}"
    return ⟨decoder, ⟨header.width, header.height, quality⟩, header.progressive⟩

namespace Session

variable {codec : Codec}

/-- Opens a source that has been read. -/
def openSource (session : Session codec) (source : Bytes) : Outcome codec Metadata :=
  if source.isEmpty then session.fail [] (.invalidInput "empty source")
  else
    let attempt := Opened.read codec source
    let reading := { session with sourceLength := source.length }
    match attempt.result with
    | .error error => reading.fail attempt.trace error
    | .ok opened =>
      { result := .ok opened.metadata
        session :=
          { reading with
            state := .headerRead
            metadata := some opened.metadata
            progressive := opened.progressive
            decoder := some opened.decoder }
        trace := attempt.trace }

/-- Opens a source held in memory. -/
def openBytes (session : Session codec) (source : Bytes) : Outcome codec Metadata :=
  if session.state = .created then session.openSource source else session.refuse .opening

/-- Opens what a byte source delivers, and leaves that source as the reading left it. -/
def openReader (session : Session codec) (source : Source) : Outcome codec Metadata × Source :=
  if session.state = .created then
    match source.readToEnd with
    | (.error error, after) => (session.fail [] (.ofStream error), after)
    | (.ok bytes, after) => (session.openSource bytes, after)
  else (session.refuse .opening, source)

end Session

end JpegTranscoder
