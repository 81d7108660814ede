/-
**Transcode sessions.**

A session opens one source, decodes it into a raster and encodes the raster, in that order:

    created --open--> headerRead --decode--> decoded --encode--> encoded

An error ends the session in the state `failed`, with everything that it held released. `close`
ends it from every state. An operation in a wrong state is refused and changes nothing.
-/
import JpegTranscoder.Options
import JpegTranscoder.Raster
import JpegTranscoder.Session.Attempt

namespace JpegTranscoder

/-- A session that works through a codec. -/
structure Session (codec : Codec) where
  /-- Where the raster comes from. -/
  memory : Memory
  state : State
  options : Options
  /-- What the header told, from the opening on. -/
  metadata : Option Metadata
  /-- Whether the source's frame is progressive. -/
  progressive : Bool
  /-- The length of the opened source in bytes. -/
  sourceLength : Nat
  decoder : Option codec.Decoder
  geometry : Option Geometry
  raster : Option Raster

/-- What an operation answers and leaves behind. -/
structure Outcome (codec : Codec) (α : Type) where
  result : Except TranscodeError α
  session : Session codec
  trace : Trace

namespace Session

variable {codec : Codec}

def create (codec : Codec) (memory : Memory) (options : Options) : Session codec :=
  ⟨memory, .created, options, none, false, 0, none, none, none⟩

/-! ### What a session tells -/

/-- The width of the source, 0 before it is open. -/
def width (session : Session codec) : UInt16 := session.metadata.elim 0 (·.width)

/-- The height of the source, 0 before it is open. -/
def height (session : Session codec) : UInt16 := session.metadata.elim 0 (·.height)

/-- The estimated quality of the source, 0 if it is unknown. -/
def estimatedQuality (session : Session codec) : UInt8 := session.metadata.elim 0 (·.quality)

def holdsRaster (session : Session codec) : Bool := session.raster.isSome

/-- The quality that the session encodes at: the target if it lies strictly between 0 and 100, else
the estimate if it is known, else the default. -/
def effectiveQuality (session : Session codec) : UInt8 :=
  if 0 < session.options.targetQuality ∧ session.options.targetQuality < 100 then
    session.options.targetQuality
  else
    match session.metadata with
    | some metadata => if metadata.hasQuality then metadata.quality else defaultQuality
    | none => defaultQuality

/-! ### Endings -/

/-- The session with everything that it holds given back. -/
def release (session : Session codec) : Session codec :=
  { session with decoder := none, geometry := none, raster := none }

def close (session : Session codec) : Session codec := { session.release with state := .closed }

/-- The session ended by an error. -/
def fail {α : Type} (session : Session codec) (trace : Trace) (error : TranscodeError) :
    Outcome codec α where
  result := .error error
  session := { session.release with state := .failed }
  trace := trace ++ [.logged ⟨.warn, s!"transcode session failed: {error.message}"⟩]

/-- The session that refuses an operation. -/
def refuse {α : Type} (session : Session codec) (stage : Stage) : Outcome codec α :=
  ⟨.error (.invalidState stage session.state), session, []⟩

/-! ### Target quality -/

/-- Whether a target quality may still be set. -/
def takesTarget (session : Session codec) : Bool :=
  session.state == .created || session.state == .headerRead || session.state == .decoded

/-- Asks for a target quality. Qualities outside 1 to 100 are ignored, and so is every quality once
the session has encoded or ended. -/
def setTargetQuality (session : Session codec) (quality : UInt8) : Outcome codec Unit :=
  if !session.takesTarget then
    let text := s!"ignoring target quality {quality} in state {session.state.label}"
    ⟨.ok (), session, [.logged ⟨.debug, text⟩]⟩
  else if !isValidQuality quality then
    ⟨.ok (), session, [.logged ⟨.debug, s!"ignoring invalid target quality {quality}"⟩]⟩
  else
    ⟨.ok (), { session with options := { session.options with targetQuality := quality } }, []⟩

end Session

end JpegTranscoder
