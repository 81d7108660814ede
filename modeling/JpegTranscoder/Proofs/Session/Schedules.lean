/-
**Codecs that move a frame in chunks.**

A decoder hands out the rows of a frame, and an encoder takes them, as many at a time as it likes.
What is asked of either says nothing of the sizes of the chunks:

* `Codec.Delivers`: a decoder that gives the rows of a frame from one on;
* `Codec.Accepts`: an encoder that takes all rows from one on;
* `Codec.Carries`: a codec that does both, all of whose other calls succeed;
* `Scripted.carries`: whatever division of the rows is written down for the decoder and whatever
  other one for the encoder, the scripted codec carries its pattern.
-/
import JpegTranscoder.Engine
import JpegTranscoder.Proofs.RasterShape
import JpegTranscoder.Proofs.Session.Holdings
import JpegTranscoder.Proofs.Sink
import Mathlib.Algebra.GroupWithZero.Nat

namespace JpegTranscoder

/-! ### Codecs -/

namespace Codec

/-- A decoder that stands before a row of a frame. Whatever buffer it is given for the rows that are
left, it gives the next rows, one at least and no more than are left, and stands behind them; what
it leaves in the rest of the buffer does not matter. Behind the last row it finishes. -/
inductive Delivers (codec : Codec) {geometry : Geometry} (frame : Frame.Samples geometry) :
    Nat → codec.Decoder → Prop where
  | finished {decoder : codec.Decoder} (finish : (codec.finishDecode decoder).1 = .ok ()) :
    Delivers codec frame geometry.rows decoder
  | reads {row : Nat} {decoder : codec.Decoder} (due : row < geometry.rows)
    (gives : ∀ {buffer : Bytes}, buffer.length = (geometry.rows - row) * geometry.stride →
      ∃ count block next,
        codec.readRows decoder buffer geometry.stride = (.ok (count, block), next) ∧
        0 < count ∧ row + count ≤ geometry.rows ∧
        block.val.take (count * geometry.stride) =
          (frame.val.drop (row * geometry.stride)).take (count * geometry.stride))
    (later : ∀ {buffer count block next},
      buffer.length = (geometry.rows - row) * geometry.stride →
      codec.readRows decoder buffer geometry.stride = (.ok (count, block), next) →
      Delivers codec frame (row + count) next) :
    Delivers codec frame row decoder

/-- An encoder that lacks the rows of a frame from one on. Whatever rows it is offered, it takes the
first, one at least and no more than there are, and lacks the others. When it lacks none it
finishes. -/
inductive Accepts (codec : Codec) (geometry : Geometry) :
    Nat → codec.Encoder → Sink → Prop where
  | finished {encoder : codec.Encoder} {sink : Sink}
    (finish : (codec.finishEncode encoder sink).1 = .ok ()) :
    Accepts codec geometry geometry.rows encoder sink
  | writes {row : Nat} {encoder : codec.Encoder} {sink : Sink} (due : row < geometry.rows)
    (takes : ∀ {rows : Bytes}, rows.length = (geometry.rows - row) * geometry.stride →
      ∃ count next after,
        codec.writeRows encoder rows geometry.stride sink = (.ok count, next, after) ∧
        0 < count ∧ row + count ≤ geometry.rows)
    (later : ∀ {rows count next after},
      rows.length = (geometry.rows - row) * geometry.stride →
      codec.writeRows encoder rows geometry.stride sink = (.ok count, next, after) →
      Accepts codec geometry (row + count) next after) :
    Accepts codec geometry row encoder sink

/-- A codec that reads a header and a frame from a source, and that writes a frame of the same
geometry into a sink with the given settings. -/
structure Carries (codec : Codec) (source : Bytes) (header : Header) {geometry : Geometry}
    (frame : Frame.Samples geometry) (settings : EncoderSettings) (sink : Sink) : Prop where
  decodes : ∃ decoder started,
    (codec.readHeader source).2 = .ok (decoder, header) ∧
      codec.beginDecode decoder = (.ok geometry, started) ∧
      codec.Delivers frame 0 started
  encodes : ∃ encoder created next after,
    codec.createEncoder sink = (.ok encoder, created) ∧
      codec.beginEncode encoder settings created = (.ok (), next, after) ∧
      codec.Accepts geometry 0 next after

end Codec

/-! ### Scripted codecs -/

namespace Scripted

variable {script : Script} {geometry : Geometry} {sink : Sink}

theorem length_pattern (first count stride : Nat) :
    (pattern first count stride).length = count * stride := by
  simp only [pattern, patternRow, List.length_flatMap, List.length_map, List.length_range,
    List.map_const', List.sum_replicate_nat]

theorem pattern_add (first count more stride : Nat) :
    pattern first (count + more) stride =
      pattern first count stride ++ pattern (first + count) more stride := by
  simp [pattern, List.range_add, List.flatMap_append, List.flatMap_map, Nat.add_assoc]

/-- The pattern as a frame. -/
def patternFrame (geometry : Geometry) : Frame.Samples geometry :=
  ⟨pattern 0 geometry.rows geometry.stride, length_pattern 0 geometry.rows geometry.stride⟩

/-- The rows of the pattern from one on. -/
theorem patternFrame_rows {row count : Nat} (within : row + count ≤ geometry.rows) :
    ((patternFrame geometry).val.drop (row * geometry.stride)).take (count * geometry.stride) =
      pattern row count geometry.stride := by
  obtain ⟨rest, rows⟩ := Nat.exists_eq_add_of_le within
  show ((pattern 0 geometry.rows geometry.stride).drop _).take _ = _
  rw [rows, Nat.add_assoc, pattern_add, pattern_add, Nat.zero_add,
    List.drop_left' (length_pattern 0 row geometry.stride),
    List.take_left' (length_pattern row count geometry.stride)]

/-- A script without faults that moves the rows in the given numbers. -/
def inChunks (header : Header) (geometry : Geometry) (reads writes : List Nat) : Script :=
  { Session.faultless header geometry with reads := reads.map .ok, writes := writes.map .ok }

/-- Numbers of rows, none of them zero, that make up the rows of a frame from one on. -/
structure Divides (counts : List Nat) (geometry : Geometry) (row : Nat) : Prop where
  positive : ∀ count ∈ counts, 0 < count
  whole : row + counts.sum = geometry.rows

theorem Divides.tail {count : Nat} {counts : List Nat} {row : Nat}
    (divides : Divides (count :: counts) geometry row) :
    0 < count ∧ row + count ≤ geometry.rows ∧ Divides counts geometry (row + count) := by
  obtain ⟨positive, whole⟩ := divides
  rw [List.sum_cons, ← Nat.add_assoc] at whole
  refine ⟨positive count List.mem_cons_self, by omega, ?_, whole⟩
  exact fun other member => positive other (List.mem_cons_of_mem _ member)

/-- The rows that fit into a buffer for those that are left. -/
theorem min_rows {row count : Nat} {rows : Bytes} (wide : geometry.width ≠ 0)
    (within : row + count ≤ geometry.rows)
    (length : rows.length = (geometry.rows - row) * geometry.stride) :
    min count (rows.length / geometry.stride) = count := by
  rw [length, Nat.mul_div_cancel _ (Geometry.stride_pos wide)]
  omega

theorem readRows_cons (count row : Nat) (later : List Step) (buffer : Bytes) (stride : Nat) :
    (codec script).readRows (⟨.ok count :: later, row⟩ : Decoder) buffer stride =
      (.ok (count, .start (pattern row (min count (buffer.length / stride)) stride) buffer),
        (⟨later, row + count⟩ : Decoder)) := rfl

/-- A scripted decoder delivers its pattern, in the numbers that are written down. -/
theorem delivers (finish : script.finishDecode = none) (wide : geometry.width ≠ 0)
    {counts : List Nat} {row : Nat} (divides : Divides counts geometry row) :
    (codec script).Delivers (patternFrame geometry) row
      (⟨counts.map .ok, row⟩ : Decoder) := by
  induction counts generalizing row with
  | nil =>
    cases divides.whole
    refine .finished ?_
    show unlessFault script.finishDecode = .ok ()
    rw [finish]
    rfl
  | cons count counts ih =>
    obtain ⟨some, within, rest⟩ := divides.tail
    refine .reads (by omega) (fun {buffer} length => ?_) fun length answered => ?_
    · refine ⟨count, _, _, readRows_cons count row _ buffer _, some, within, ?_⟩
      have fits : (pattern row count geometry.stride).length ≤ buffer.length := by
        rw [length_pattern, length]
        exact Nat.mul_le_mul_right _ (by omega)
      show (overlay _ buffer).take _ = _
      rw [min_rows wide within length, overlay_of_fits fits,
        List.take_left' (length_pattern row count geometry.stride), patternFrame_rows within]
    · cases (readRows_cons count row _ _ _).symm.trans answered
      exact ih rest

theorem writeEach_ok (reliable : sink.Reliable) (stride count : Nat) (rows : Bytes) :
    ∃ after, writeEach stride count rows sink = (.ok (), after) ∧ after.Reliable := by
  induction count generalizing rows sink with
  | zero => exact ⟨sink, rfl, reliable⟩
  | succ count ih =>
    obtain ⟨middle, wrote, _, _, still⟩ := reliable.writeAll_ok (rows.take stride)
    rw [writeEach, wrote]
    exact ih still (rows.drop stride)

theorem writeRows_cons (reliable : sink.Reliable) (count : Nat) (later : List Step) (rows : Bytes)
    (stride : Nat) :
    ∃ after, (codec script).writeRows (⟨.ok count :: later⟩ : Encoder) rows stride sink =
        (.ok count, (⟨later⟩ : Encoder), after) ∧ after.Reliable := by
  obtain ⟨after, wrote, still⟩ :=
    writeEach_ok reliable stride (min count (rows.length / stride)) rows
  refine ⟨after, ?_, still⟩
  simp only [codec, writeRows, nextStep, wrote]
  rfl

/-- A scripted encoder takes all rows, in the numbers that are written down. -/
theorem accepts (finish : script.finishEncode = none) (reliable : sink.Reliable)
    {counts : List Nat} {row : Nat} (divides : Divides counts geometry row) :
    (codec script).Accepts geometry row (⟨counts.map .ok⟩ : Encoder) sink := by
  induction counts generalizing row sink with
  | nil =>
    cases divides.whole
    refine .finished ?_
    show (finishEncode script sink).1 = .ok ()
    simp only [finishEncode, finish, Sink.flush, reliable.flushError_eq]
    rfl
  | cons count counts ih =>
    obtain ⟨some, within, rest⟩ := divides.tail
    refine .writes (by omega) (fun {rows} _ => ?_) fun {rows _ _ _} _ answered => ?_
    · obtain ⟨after, wrote, _⟩ :=
        writeRows_cons reliable count (counts.map .ok) rows geometry.stride
      exact ⟨count, _, after, wrote, some, within⟩
    · obtain ⟨after, wrote, still⟩ :=
        writeRows_cons reliable count (counts.map .ok) rows geometry.stride
      cases wrote.symm.trans answered
      exact ih still rest

/-- **Whatever the chunks, the scripted codec carries its pattern.** -/
theorem carries (header : Header) (wide : geometry.width ≠ 0) {reads writes : List Nat}
    (given : Divides reads geometry 0) (taken : Divides writes geometry 0)
    (reliable : sink.Reliable) (source : Bytes) (settings : EncoderSettings) :
    (codec (inChunks header geometry reads writes)).Carries source header
      (patternFrame geometry) settings sink where
  decodes := ⟨_, _, rfl, rfl, delivers rfl wide given⟩
  encodes := ⟨_, _, _, _, rfl, rfl, accepts rfl reliable taken⟩

end Scripted

end JpegTranscoder
