/-
**Rows from a whole-frame engine: decoding.**

The engine decodes a frame at once, when the first rows are read. A reader that takes the whole
frame gets it directly; for any other the frame is staged, if there is memory for it, and handed out
row by row. A source that was cut short is refused beforehand, because an engine would make up the
missing rows, and so is a frame of other samples or of another size than rows are counted in.
-/
import JpegTranscoder.Engine
import JpegTranscoder.Raster

namespace JpegTranscoder.Scanline

/-- The state of decoding one source. -/
structure Decoder where
  /-- The source and what the engine told of it, until it is given away to be decoded. -/
  source : Option (Bytes × Offer)
  terminated : Bool
  /-- The shape of the rows, once decoding has begun. -/
  geometry : Option Geometry
  /-- The decoded frame, while rows of it are due. -/
  staged : Bytes
  /-- The number of rows handed out. -/
  nextRow : Nat
  deriving DecidableEq

namespace Decoder

/-- Why a decoder refuses. -/
inductive Fault where
  /-- No end of image follows the scan. -/
  | truncated
  /-- The source was given away before. -/
  | consumed
  /-- Rows are gray or coloured, with a byte for each sample. -/
  | unsupportedFormat (name : String)
  | widthTooLarge (width : UInt32)
  | heightTooLarge (height : UInt32)
  /-- The engine counts other bytes than the rows have. -/
  | sizeMismatch (told counted : Nat)
  /-- Decoding has not begun. -/
  | notStarted
  /-- The rows of the buffer have another length than the frame's. -/
  | strideMismatch (given expected : Nat)
  /-- There is no memory to stage the frame. -/
  | outOfMemory
  /-- The engine could not decode the source. -/
  | engine (reason : String)
  /-- The source was given away and nothing came of it, so there are no rows. -/
  | frameUnavailable
  /-- Rows are still due. -/
  | unfinished (rows height : Nat)
  /-- Rows of no bytes cannot be counted: the call does not return. -/
  | crash
  deriving DecidableEq, Repr

/-- How a decoder's fault is told. -/
def Fault.message : Fault → String
  | .truncated => "bitstream truncated: no EOI after scan data"
  | .consumed => "decompression already consumed"
  | .unsupportedFormat name => s!"unsupported output color type {name}"
  | .widthTooLarge width => s!"output width {width} too large"
  | .heightTooLarge height => s!"output height {height} too large"
  | .sizeMismatch told counted => s!"decoder reports {told} bytes for a {counted} byte frame"
  | .notStarted => "decompression not started"
  | .strideMismatch given expected =>
    s!"scanline stride {given} does not match output stride {expected}"
  | .outOfMemory => Memory.refusal
  | .engine reason => reason
  | .frameUnavailable => "decoded frame unavailable"
  | .unfinished rows height => s!"finish_decompress with {rows} of {height} scanlines read"
  | .crash => "attempt to divide by zero"

/-- A decoder of a source that the engine accepted. -/
def create (source : Bytes) (offer : Offer) (terminated : Bool) : Decoder :=
  ⟨some (source, offer), terminated, none, [], 0⟩

/-- The shape of the rows of an offered frame. -/
def shapeOf (offer : Offer) : Except Fault Geometry :=
  match offer.format.color with
  | .error name => .error (.unsupportedFormat name)
  | .ok color =>
    let shape : Geometry := ⟨offer.width.toUInt16, offer.height.toUInt16, color⟩
    if 65535 < offer.width then .error (.widthTooLarge offer.width)
    else if 65535 < offer.height then .error (.heightTooLarge offer.height)
    else if offer.bytes.toNat ≠ shape.byteCount then
      .error (.sizeMismatch offer.bytes.toNat shape.byteCount)
    else .ok shape

def begin (decoder : Decoder) : Except Fault Geometry × Decoder :=
  if !decoder.terminated then (.error .truncated, decoder)
  else
    match decoder.source with
    | none => (.error .consumed, decoder)
    | some (_, offer) =>
      match shapeOf offer with
      | .error fault => (.error fault, decoder)
      | .ok shape => (.ok shape, { decoder with geometry := some shape })

/-- Copies staged rows to the start of a buffer. -/
def copyRows (decoder : Decoder) (geometry : Geometry) (count : Nat) (buffer : Bytes) :
    Except Fault (Nat × Refill buffer) × Decoder :=
  let start := decoder.nextRow * geometry.stride
  let size := count * geometry.stride
  if decoder.staged.length < start + size then (.error .frameUnavailable, decoder)
  else
    let next := decoder.nextRow + count
    (.ok (count, .start ((decoder.staged.drop start).take size) buffer),
      { decoder with
        staged := if next = geometry.rows then [] else decoder.staged
        nextRow := next })

/-- Hands out `count` rows, at least one. The source is given away first, whatever comes of it. -/
def handOut (engine : Engine) (memory : Memory) (decoder : Decoder) (geometry : Geometry)
    (count : Nat) (buffer : Bytes) : Except Fault (Nat × Refill buffer) × Decoder :=
  match decoder.source with
  | none => decoder.copyRows geometry count buffer
  | some (source, _) =>
    let spent := { decoder with source := none }
    if decoder.nextRow = 0 ∧ count = geometry.rows then
      match engine.decode source geometry with
      | .error reason => (.error (.engine reason), spent)
      | .ok frame =>
        (.ok (count, .start frame.val buffer), { spent with nextRow := geometry.rows })
    else if memory.grants geometry.byteCount then
      match engine.decode source geometry with
      | .error reason => (.error (.engine reason), spent)
      | .ok frame => { spent with staged := frame.val }.copyRows geometry count buffer
    else (.error .outOfMemory, spent)

/-- Fills whole rows of a buffer with the next rows of the frame. -/
def read (engine : Engine) (memory : Memory) (decoder : Decoder) (buffer : Bytes) (stride : Nat) :
    Except Fault (Nat × Refill buffer) × Decoder :=
  match decoder.geometry with
  | none => (.error .notStarted, decoder)
  | some geometry =>
    if stride ≠ geometry.stride then
      (.error (.strideMismatch stride geometry.stride), decoder)
    else if stride = 0 then (.error .crash, decoder)
    else
      let count := min (buffer.length / stride) (geometry.rows - decoder.nextRow)
      if count = 0 then (.ok (0, ⟨buffer, rfl⟩), decoder)
      else decoder.handOut engine memory geometry count buffer

/-- Ends decoding once every row has been handed out. -/
def finish (decoder : Decoder) : Except Fault Unit × Decoder :=
  match decoder.geometry with
  | none => (.error .notStarted, decoder)
  | some geometry =>
    if decoder.nextRow < geometry.rows then
      (.error (.unfinished decoder.nextRow geometry.rows), decoder)
    else (.ok (), { decoder with staged := [] })

end Decoder

end JpegTranscoder.Scanline
