/-
**Rows to a whole-frame engine: encoding.**

A writer that offers the whole frame in one block has it encoded directly; any other block is
staged, if there is memory for the frame, and the frame is encoded when its last row arrives. What
is staged is given up when that encoding starts, whether the sink takes the bytes or not.
-/
import JpegTranscoder.Engine
import JpegTranscoder.Options
import JpegTranscoder.Raster

namespace JpegTranscoder.Scanline

/-- The state of encoding one frame. -/
structure Encoder where
  /-- What was asked for, once encoding has begun. -/
  settings : Option EncoderSettings
  /-- The rows that wait for the frame to be complete. -/
  staged : Bytes
  /-- The number of rows taken. -/
  rowsWritten : Nat
  /-- Whether the frame was encoded. -/
  encoded : Bool
  deriving DecidableEq

namespace Encoder

/-- Why an encoder refuses. -/
inductive Fault where
  /-- Encoding has begun before. -/
  | alreadyStarted
  /-- A quality outside 1 to 100. -/
  | qualityRange (quality : UInt8)
  /-- Encoding has not begun. -/
  | notStarted
  /-- The rows offered have another length than the frame's. -/
  | strideMismatch (given expected : Nat)
  /-- There is no memory to stage the frame. -/
  | outOfMemory
  /-- The engine does not encode the rows that are there. -/
  | engine (reason : String)
  /-- The sink stopped the encoding. -/
  | sink (error : StreamError)
  /-- Rows are still due. -/
  | unfinished (rows height : Nat)
  /-- The sink could not be flushed. -/
  | flush (error : StreamError)
  /-- Rows of no bytes cannot be counted: the call does not return. -/
  | crash
  deriving DecidableEq, Repr

/-- The codec error that a fault is reported as. Only a failed flush is told as an error of the
sink; what stops an encoding is told as a failed encoding. -/
def Fault.toCodecError : Fault → CodecError
  | .alreadyStarted => .failed "compression already started"
  | .qualityRange quality => .failed s!"encoder quality {quality} out of range"
  | .notStarted => .failed "compression not started"
  | .strideMismatch given expected =>
    .failed s!"scanline stride {given} does not match input stride {expected}"
  | .outOfMemory => .failed Memory.refusal
  | .engine reason => .failed s!"JPEG encoding failed: {reason}"
  | .sink error => .failed s!"JPEG encoding failed: {error.message}"
  | .unfinished rows height =>
    .failed s!"finish_compress with {rows} of {height} scanlines written"
  | .flush error => .stream error
  | .crash => .failed "attempt to divide by zero"

def create : Encoder := ⟨none, [], 0, false⟩

def begin (encoder : Encoder) (settings : EncoderSettings) : Except Fault Unit × Encoder :=
  if encoder.settings.isSome then (.error .alreadyStarted, encoder)
  else if isValidQuality settings.quality then
    (.ok (), { encoder with settings := some settings })
  else (.error (.qualityRange settings.quality), encoder)

/-- Has the engine encode samples, and writes what it makes of them, all of it in one `writeAll`. -/
def encodeFrame (engine : Engine) (settings : EncoderSettings) (samples : Bytes) (sink : Sink) :
    Except Fault Unit × Sink :=
  match engine.submit settings samples with
  | .error reason => (.error (.engine reason), sink)
  | .ok written =>
    let (result, after) := sink.writeAll written
    (result.mapError .sink, after)

/-- The encoder after `count` more rows were taken. -/
def advance (encoder : Encoder) (height count : Nat) : Encoder :=
  { encoder with
    rowsWritten := encoder.rowsWritten + count
    encoded := encoder.rowsWritten + count = height }

/-- Whether rows can be staged: memory for the whole frame is asked for when the first ones are. -/
def hasRoom (memory : Memory) (encoder : Encoder) (settings : EncoderSettings) : Bool :=
  !encoder.staged.isEmpty || memory.grants settings.geometry.byteCount

/-- Takes a block of `count` rows, at least one. -/
def take (engine : Engine) (memory : Memory) (encoder : Encoder) (settings : EncoderSettings)
    (count : Nat) (block : Bytes) (sink : Sink) : Except Fault Nat × Encoder × Sink :=
  let height := settings.geometry.rows
  if encoder.rowsWritten = 0 ∧ count = height then
    match encodeFrame engine settings block sink with
    | (.error fault, after) => (.error fault, encoder, after)
    | (.ok (), after) => (.ok count, encoder.advance height count, after)
  else if encoder.hasRoom memory settings then
    let staged := encoder.staged ++ block
    if encoder.rowsWritten + count = height then
      let spent := { encoder with staged := [] }
      match encodeFrame engine settings staged sink with
      | (.error fault, after) => (.error fault, spent, after)
      | (.ok (), after) => (.ok count, spent.advance height count, after)
    else (.ok count, { encoder with staged }.advance height count, sink)
  else (.error .outOfMemory, encoder, sink)

/-- Takes whole rows of a block, as many as the frame still lacks. -/
def write (engine : Engine) (memory : Memory) (encoder : Encoder) (rows : Bytes) (stride : Nat)
    (sink : Sink) : Except Fault Nat × Encoder × Sink :=
  match encoder.settings with
  | none => (.error .notStarted, encoder, sink)
  | some settings =>
    let geometry := settings.geometry
    if stride ≠ geometry.stride then
      (.error (.strideMismatch stride geometry.stride), encoder, sink)
    else if stride = 0 then (.error .crash, encoder, sink)
    else
      let count := min (rows.length / stride) (geometry.rows - encoder.rowsWritten)
      if count = 0 then (.ok 0, encoder, sink)
      else encoder.take engine memory settings count (rows.take (count * stride)) sink

/-- Ends encoding once the frame is encoded, and flushes the sink. -/
def finish (encoder : Encoder) (sink : Sink) : Except Fault Unit × Sink :=
  if encoder.encoded then
    let (result, after) := sink.flush
    (result.mapError .flush, after)
  else
    let height := encoder.settings.elim 0 (·.geometry.rows)
    (.error (.unfinished encoder.rowsWritten height), sink)

end Encoder

end JpegTranscoder.Scanline
