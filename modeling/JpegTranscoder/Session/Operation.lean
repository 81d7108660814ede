/-
**Runs of a session.**

An `Operation` is anything that an owner can ask of a session, with what it brings along; a run is
a list of them, asked one after another whatever they answer.
-/
import JpegTranscoder.Session.Decode
import JpegTranscoder.Session.Encode
import JpegTranscoder.Session.Open

namespace JpegTranscoder

/-- What can be asked of a session. -/
inductive Operation where
  | openBytes (source : Bytes)
  | openReader (source : Source)
  | decode
  | encode (sink : Sink)
  | encodeToBytes
  | setTargetQuality (quality : UInt8)
  | close

/-- What an operation gives when it succeeds. -/
inductive Answer where
  | metadata (metadata : Metadata)
  | bytes (bytes : Bytes)
  | sink (sink : Sink)
  | nothing

namespace Outcome

variable {codec : Codec} {α β : Type}

/-- The outcome with another value. -/
def map (f : α → β) (outcome : Outcome codec α) : Outcome codec β :=
  ⟨outcome.result.map f, outcome.session, outcome.trace⟩

end Outcome

namespace Session

variable {codec : Codec}

/-- Asks one thing of a session. -/
def perform (session : Session codec) : Operation → Outcome codec Answer
  | .openBytes source => (session.openBytes source).map .metadata
  | .openReader source => (session.openReader source).1.map .metadata
  | .decode => session.decode.map fun _ => .nothing
  | .encode sink =>
    let (outcome, after) := session.encode sink
    outcome.map fun _ => .sink after
  | .encodeToBytes => session.encodeToBytes.map .bytes
  | .setTargetQuality quality => (session.setTargetQuality quality).map fun _ => .nothing
  | .close => ⟨.ok .nothing, session.close, []⟩

def run (session : Session codec) : List Operation → List (Outcome codec Answer)
  | [] => []
  | operation :: rest =>
    let outcome := session.perform operation
    outcome :: outcome.session.run rest

end Session

end JpegTranscoder
