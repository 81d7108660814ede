/-
**A codec that follows a script.**

Every answer of this codec is written down beforehand: the header, each row count and each error.
It decodes to a fixed pattern and encodes by copying rows, so a run of a session shows exactly
which rows went where.
-/
import JpegTranscoder.Codec

namespace JpegTranscoder.Scripted

/-- A number of rows, or the error to give instead. -/
abbrev Step : Type := Except CodecError Nat

/-- What a scripted codec answers. -/
structure Script where
  header : Except CodecError Header
  beginDecode : Except CodecError Geometry
  /-- The answers to reads, in order; afterwards one row each. -/
  reads : List Step
  finishDecode : Option CodecError
  createEncoder : Option CodecError
  beginEncode : Option CodecError
  /-- The answers to writes, in order; afterwards one row each. -/
  writes : List Step
  finishEncode : Option CodecError

/-- The answer of a step that is given an error or none. -/
def unlessFault : Option CodecError → Except CodecError Unit
  | none => .ok ()
  | some error => .error error

/-- A decoder that has some reads to go. -/
structure Decoder where
  reads : List Step
  nextRow : Nat

/-- An encoder that has some writes to go. -/
structure Encoder where
  writes : List Step

/-- The next row count of a list of steps. An error stays where it is. -/
def nextStep : List Step → Except CodecError Nat × List Step
  | [] => (.ok 1, [])
  | .ok count :: rest => (.ok count, rest)
  | .error error :: rest => (.error error, .error error :: rest)

/-- The bytes of row `row`: sixteen times the row plus the column, modulo 256. -/
def patternRow (row stride : Nat) : Bytes :=
  (List.range stride).map fun column => UInt8.ofNat (row * 16 + column)

def pattern (first count stride : Nat) : Bytes :=
  (List.range count).flatMap fun index => patternRow (first + index) stride

/-- Reads the next rows of the pattern. -/
def readRows (decoder : Decoder) (buffer : Bytes) (stride : Nat) :
    Except CodecError (Nat × Refill buffer) × Decoder :=
  match nextStep decoder.reads with
  | (.error error, reads) => (.error error, { decoder with reads })
  | (.ok count, reads) =>
    let written := pattern decoder.nextRow (min count (buffer.length / stride)) stride
    (.ok (count, .start written buffer), ⟨reads, decoder.nextRow + count⟩)

/-- Writes rows to a sink, each on its own. -/
def writeEach (stride : Nat) : Nat → Bytes → Sink → Except StreamError Unit × Sink
  | 0, _, sink => (.ok (), sink)
  | count + 1, rows, sink =>
    match sink.writeAll (rows.take stride) with
    | (.error error, after) => (.error error, after)
    | (.ok (), after) => writeEach stride count (rows.drop stride) after

/-- Copies rows to a sink. -/
def writeRows (encoder : Encoder) (rows : Bytes) (stride : Nat) (sink : Sink) :
    Except CodecError Nat × Encoder × Sink :=
  match nextStep encoder.writes with
  | (.error error, writes) => (.error error, ⟨writes⟩, sink)
  | (.ok count, writes) =>
    let (result, after) := writeEach stride (min count (rows.length / stride)) rows sink
    ((result.mapError .stream).map fun _ => count, ⟨writes⟩, after)

/-- Flushes the sink unless an error is written down. -/
def finishEncode (script : Script) (sink : Sink) : Except CodecError Unit × Sink :=
  match script.finishEncode with
  | some error => (.error error, sink)
  | none =>
    let (result, after) := sink.flush
    (result.mapError .stream, after)

/-- The codec that follows a script. -/
def codec (script : Script) : Codec where
  Decoder := Decoder
  Encoder := Encoder
  readHeader _ := ([], script.header.map fun header => (⟨script.reads, 0⟩, header))
  beginDecode decoder := (script.beginDecode, decoder)
  readRows := readRows
  finishDecode decoder := (unlessFault script.finishDecode, decoder)
  createEncoder sink := ((unlessFault script.createEncoder).map fun _ => ⟨script.writes⟩, sink)
  beginEncode encoder _ sink := (unlessFault script.beginEncode, encoder, sink)
  writeRows := writeRows
  finishEncode _ sink := finishEncode script sink

end JpegTranscoder.Scripted
