/-
**Whole transcodes.**

Each function runs one session from its source to its result: metadata from a source, and an
encoding of a source in memory or on its way from a byte source to a byte sink.
-/
import JpegTranscoder.Session.Operation

namespace JpegTranscoder

/-- The result of a whole run and its log. -/
structure Logged (α : Type) where
  result : Except TranscodeError α
  log : List Log.Record

section Whole

variable (codec : Codec) (memory : Memory)

def readMetadataFromBytes (source : Bytes) : Logged Metadata :=
  let opened := (Session.create codec memory .default).openBytes source
  ⟨opened.result, opened.trace.log⟩

/-- The metadata of what a byte source delivers. -/
def readMetadata (source : Source) : Logged Metadata :=
  let (opened, _) := (Session.create codec memory .default).openReader source
  ⟨opened.result, opened.trace.log⟩

/-- Decodes what an opened session holds and hands it to `encode`. -/
def recode {α : Type} (opened : Outcome codec Metadata)
    (encode : Session codec → Outcome codec α) : Outcome codec α :=
  match opened.result with
  | .error error => ⟨.error error, opened.session, opened.trace⟩
  | .ok _ =>
    let decoded := opened.session.decode
    match decoded.result with
    | .error error => ⟨.error error, decoded.session, opened.trace ++ decoded.trace⟩
    | .ok () =>
      let encoded := encode decoded.session
      match encoded.result with
      | .error error =>
        ⟨.error error, encoded.session, opened.trace ++ decoded.trace ++ encoded.trace⟩
      | .ok value =>
        ⟨.ok value, encoded.session.close, opened.trace ++ decoded.trace ++ encoded.trace⟩

/-- The encoding of a source in memory. -/
def transcode (source : Bytes) (options : Options) : Logged Bytes :=
  let opened := (Session.create codec memory options).openBytes source
  let recoded := recode codec opened Session.encodeToBytes
  ⟨recoded.result, recoded.trace.log⟩

/-- Encodes what a byte source delivers into a byte sink. -/
def transcodeStream (source : Source) (sink : Sink) (options : Options) : Logged Sink :=
  let (opened, _) := (Session.create codec memory options).openReader source
  let recoded := recode codec opened fun session =>
    let (outcome, after) := session.encode sink
    outcome.map fun _ => after
  ⟨recoded.result, recoded.trace.log⟩

end Whole

end JpegTranscoder
