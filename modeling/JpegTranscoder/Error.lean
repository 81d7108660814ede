/-
**What can go wrong, and how it is told.**

Three kinds of error, from the outside in: reading and writing (`StreamError`), a codec
(`CodecError`) and a session (`TranscodeError`). Each has one function that words it; the inner
ones are turned into the outer ones by `TranscodeError.ofCodec` and `TranscodeError.ofStream`.
-/

namespace JpegTranscoder

/-! ### Reading and writing -/

/-- Why a read or a write stopped. -/
inductive StreamErrorKind where
  | interrupted
  | unexpectedEnd
  | permissionDenied
  | brokenPipe
  | notFound
  | writeZero
  | other
  deriving DecidableEq, Repr

/-- An error of a byte source or of a byte sink. -/
structure StreamError where
  kind : StreamErrorKind
  message : String
  deriving DecidableEq, Repr

/-- The error of a write of which the sink took no byte. -/
def StreamError.nothingWritten : StreamError := ⟨.writeZero, "failed to write whole buffer"⟩

/-! ### Codecs -/

inductive CodecError where
  /-- The source does not begin like a JPEG. -/
  | notAJpeg
  /-- The header segments are cut short or contradict each other. -/
  | malformedHeader (detail : String)
  /-- Decoding or encoding failed. -/
  | failed (detail : String)
  /-- The sink refused a write. -/
  | stream (error : StreamError)
  deriving DecidableEq, Repr

/-- How a codec's error is told. -/
def CodecError.message : CodecError → String
  | .notAJpeg => "Not a JPEG bitstream"
  | .malformedHeader detail => s!"Malformed header: {detail}"
  | .failed detail => detail
  | .stream error => s!"I/O error: {error.message}"

/-! ### Sessions -/

/-- The lifecycle of a session. -/
inductive State where
  /-- No source opened yet. -/
  | created
  /-- Header read and quality estimated. -/
  | headerRead
  /-- All rows decoded. -/
  | decoded
  /-- All rows written to a sink. -/
  | encoded
  /-- Closed by its owner. -/
  | closed
  /-- Ended by an error. -/
  | failed
  deriving DecidableEq, Repr

/-- The state's name in messages. -/
def State.label : State → String
  | .created => "created"
  | .headerRead => "header-read"
  | .decoded => "decoded"
  | .encoded => "encoded"
  | .closed => "closed"
  | .failed => "failed"

/-- The operations that need a session in a particular state. -/
inductive Stage where
  | opening
  | decoding
  | encoding
  deriving DecidableEq, Repr

/-- The verb of an operation in messages. -/
def Stage.verb : Stage → String
  | .opening => "open"
  | .decoding => "decode"
  | .encoding => "encode"

/-- An error of a session. -/
inductive TranscodeError where
  /-- The source or the frame is empty. -/
  | invalidInput (detail : String)
  /-- The source is not a JPEG. -/
  | notAJpeg
  /-- The header is unreadable or declares a degenerate frame. -/
  | malformedHeader (detail : String)
  /-- There is no memory for a raster of this many bytes. -/
  | outOfMemory (bytes : Nat)
  /-- A decode or encode step failed inside the codec. -/
  | codecFailure (detail : String)
  /-- Reading the source or writing the sink failed. -/
  | stream (detail : String)
  /-- The session's state does not allow the operation. -/
  | invalidState (stage : Stage) (state : State)
  deriving DecidableEq, Repr

namespace TranscodeError

/-- How a session's error is told. -/
def message : TranscodeError → String
  | .invalidInput detail => s!"Invalid input: {detail}"
  | .notAJpeg => "Input is not a JPEG image"
  | .malformedHeader detail => s!"Malformed JPEG header: {detail}"
  | .outOfMemory bytes => s!"Out of memory allocating {bytes} byte raster"
  | .codecFailure detail => s!"Codec failure: {detail}"
  | .stream detail => s!"I/O error: {detail}"
  | .invalidState stage state => s!"Cannot {stage.verb} a session in state {state.label}"

/-- A stream error as a session reports it. -/
def ofStream (error : StreamError) : TranscodeError := .stream error.message

/-- A codec error as a session reports it. -/
def ofCodec : CodecError → TranscodeError
  | .notAJpeg => .notAJpeg
  | .malformedHeader detail => .malformedHeader detail
  | .failed detail => .codecFailure detail
  | .stream error => .ofStream error

end TranscodeError

end JpegTranscoder
