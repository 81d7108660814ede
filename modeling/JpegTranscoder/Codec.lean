/-
**Codecs.**

A session decodes and encodes through a codec, which reads headers, hands out rows and takes rows,
as many at a time as it likes. A codec is a value, so that a statement can range over every one of
them. Bytes leave an encoder only through the sink that each of its steps is given and gives back.
-/
import JpegTranscoder.Geometry
import JpegTranscoder.Sink
import JpegTranscoder.Stream.Header

namespace JpegTranscoder

/-- What an encoder is asked for. -/
structure EncoderSettings where
  geometry : Geometry
  quality : UInt8
  progressive : Bool
  /-- Whether Huffman tables are made for the image. -/
  optimized : Bool
  deriving DecidableEq, Repr

/-- What may be written over a buffer: as many bytes as it has. -/
abbrev Refill (buffer : Bytes) : Type := { bytes : Bytes // bytes.length = buffer.length }

def Refill.start (written buffer : Bytes) : Refill buffer :=
  ⟨overlay written buffer, overlay_length written buffer⟩

structure Codec where
  Decoder : Type
  Encoder : Type
  /-- Reads the header of a source; the decoder stands before the first row. -/
  readHeader : Bytes → List Log.Record × Except CodecError (Decoder × Header)
  /-- Starts decoding and tells the shape of the rows. -/
  beginDecode : Decoder → Except CodecError Geometry × Decoder
  /-- Fills whole rows of a buffer and tells how many. -/
  readRows : Decoder → (buffer : Bytes) → (stride : Nat) →
    Except CodecError (Nat × Refill buffer) × Decoder
  finishDecode : Decoder → Except CodecError Unit × Decoder
  createEncoder : Sink → Except CodecError Encoder × Sink
  beginEncode : Encoder → EncoderSettings → Sink → Except CodecError Unit × Encoder × Sink
  /-- Takes whole rows of a block and tells how many. -/
  writeRows : Encoder → (rows : Bytes) → (stride : Nat) → Sink →
    Except CodecError Nat × Encoder × Sink
  finishEncode : Encoder → Sink → Except CodecError Unit × Sink

/-- A call of a codec, with what was passed and what was answered. -/
inductive CodecCall where
  | readHeader (source : Bytes) (answer : Except CodecError Header)
  | beginDecode (answer : Except CodecError Geometry)
  | readRows (room stride : Nat) (answer : Except CodecError Nat)
  | finishDecode (answer : Except CodecError Unit)
  | createEncoder (answer : Except CodecError Unit)
  | beginEncode (settings : EncoderSettings) (answer : Except CodecError Unit)
  | writeRows (rows : Bytes) (stride : Nat) (answer : Except CodecError Nat)
  | finishEncode (answer : Except CodecError Unit)

/-- One thing that happened in a session. -/
inductive TraceEntry where
  | logged (record : Log.Record)
  | called (call : CodecCall)

/-- What happened in a session, in order. -/
abbrev Trace := List TraceEntry

def Trace.log (trace : Trace) : List Log.Record :=
  trace.filterMap fun
    | .logged record => some record
    | .called _ => none

def Trace.calls (trace : Trace) : List CodecCall :=
  trace.filterMap fun
    | .logged _ => none
    | .called call => some call

end JpegTranscoder
