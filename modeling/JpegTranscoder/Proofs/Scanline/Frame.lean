/-
**A session over a whole-frame engine.**

The session reads a whole raster at once and offers a whole raster at once, so the codec over an
engine never stages a row for it. Decoding is one run of the engine, and so is encoding:

* `openSource_eq_ok_iff`: which sources open, and with what decoder;
* `decodeFrame_unterminated`: a source that was cut short is refused;
* `decodeFrame_unshaped`: so is one of which the engine offers a frame that has no shape of rows;
* `decodeFrame_terminated`: any other is decoded by the engine, if a raster is granted;
* `encodeRaster_ending`: encoding writes what the engine makes of the raster, and flushes;
* `deliver`: what becomes of the sink.
-/
import JpegTranscoder.Proofs.RasterShape
import JpegTranscoder.Proofs.Scanline.Offers
import JpegTranscoder.Proofs.Session.Steps
import JpegTranscoder.Proofs.Sink
import JpegTranscoder.Scanline.Codec

namespace JpegTranscoder.Scanline

variable {engine : Engine} {memory : Memory} {source : Bytes}

/-! ### Opening -/

/-- A source opens if its header can be read and the engine accepts it. -/
theorem openSource_eq_ok_iff {decoder : Decoder} {header : Header} :
    (openSource engine source).2 = .ok (decoder, header) ↔
      ∃ offer terminated, Header.read source = .ok header ∧ isTerminated source = .ok terminated ∧
        engine.inspect source = .ok offer ∧ decoder = .create source offer terminated := by
  unfold openSource
  cases Header.read source with
  | error error => simp
  | ok known =>
    cases isTerminated source with
    | error error => simp
    | ok terminated =>
      cases engine.inspect source with
      | error reason => simp
      | ok offer => simp [and_comm, eq_comm]

/-! ### Decoding -/

section Decoding

variable {offer : Offer} {shape geometry : Geometry} {raster : Raster}

/-- The decoder of an accepted source. -/
def accepted (engine : Engine) (memory : Memory) (source : Bytes) (offer : Offer)
    (terminated : Bool) : (codec engine memory).Decoder :=
  Decoder.create source offer terminated

/-- The decoder of a source that was not cut short, after decoding has begun. -/
def begun (engine : Engine) (memory : Memory) (source : Bytes) (shape : Geometry) :
    (codec engine memory).Decoder :=
  { Decoder.create source (.ofGeometry shape) true with geometry := some shape }

/-- The decoder after its whole frame was handed out. -/
def drained (engine : Engine) (memory : Memory) (shape : Geometry) :
    (codec engine memory).Decoder :=
  (⟨none, true, some shape, [], shape.rows⟩ : Decoder)

/-- The decoder after the engine failed. -/
def broken (engine : Engine) (memory : Memory) (shape : Geometry) :
    (codec engine memory).Decoder :=
  (⟨none, true, some shape, [], 0⟩ : Decoder)

theorem begin_terminated :
    (codec engine memory).beginDecode (accepted engine memory source (.ofGeometry shape) true) =
      (.ok shape, begun engine memory source shape) := by
  have answer : (Decoder.create source (.ofGeometry shape) true).begin =
      (.ok shape, { Decoder.create source (.ofGeometry shape) true with geometry := some shape }) :=
    Decoder.begin_shaped (Decoder.shapeOf_ofGeometry shape)
  simp only [codec, accepted, answer]
  rfl

theorem begin_unshaped {fault : Decoder.Fault} (unshaped : Decoder.shapeOf offer = .error fault) :
    (codec engine memory).beginDecode (accepted engine memory source offer true) =
      (.error (.failed fault.message), accepted engine memory source offer true) := by
  have answer : (Decoder.create source offer true).begin =
      (.error fault, Decoder.create source offer true) := Decoder.begin_unshaped unshaped
  simp only [codec, accepted, answer]
  rfl

theorem begin_unterminated :
    (codec engine memory).beginDecode (accepted engine memory source offer false) =
      (.error (.failed (Decoder.Fault.message .truncated)),
        accepted engine memory source offer false) := rfl

theorem finish_drained :
    (codec engine memory).finishDecode (drained engine memory shape) =
      (.ok (), drained engine memory shape) := by
  have finished : Decoder.finish ⟨none, true, some shape, [], shape.rows⟩ =
      (.ok (), ⟨none, true, some shape, [], shape.rows⟩) := by
    rw [Decoder.finish]
    simp only [Nat.lt_irrefl, if_false]
  simp only [codec, drained, finished]
  rfl

theorem rows_of_frame {count stride : Nat} (positive : 0 < stride) :
    min (count * stride / stride) (count - 0) = count := by
  rw [Nat.mul_div_cancel _ positive, Nat.sub_zero, Nat.min_self]

/-- The first read of a whole frame runs the engine, and stages nothing. -/
theorem read_whole (engine : Engine) (memory : Memory) (source : Bytes) {buffer : Bytes}
    (wide : 0 < shape.stride) (high : 0 < shape.rows)
    (whole : buffer.length = shape.rows * shape.stride) :
    (codec engine memory).readRows (begun engine memory source shape) buffer shape.stride =
      match engine.decode source shape with
      | .error reason => (.error (.failed reason), broken engine memory shape)
      | .ok frame => (.ok (shape.rows, .start frame.val buffer), drained engine memory shape) := by
  have count : min (buffer.length / shape.stride) (shape.rows - 0) = shape.rows := by
    rw [whole, rows_of_frame wide]
  have positive : ¬shape.stride = 0 := Nat.ne_of_gt wide
  have filled : ¬shape.rows = 0 := Nat.ne_of_gt high
  simp only [codec, begun, Decoder.read, Decoder.create, ne_eq, not_true_eq_false, if_false,
    if_neg positive, count, if_neg filled, Decoder.handOut, and_self, if_true]
  cases engine.decode source shape with
  | error reason => rfl
  | ok frame => rfl

theorem rowsFrom_zero (shapes : shape.Shapes raster) : raster.rowsFrom 0 = raster.samples := by
  rw [shapes.rowsFrom_eq shapes.rows_pos, Nat.zero_mul, List.drop_zero]

theorem setRowsFrom_zero {frame : Bytes} (shapes : shape.Shapes raster)
    (whole : frame.length = raster.samples.length) :
    raster.setRowsFrom 0 frame = { raster with samples := frame } := by
  rw [← rowsFrom_zero shapes] at whole
  rw [shapes.setRowsFrom_eq shapes.rows_pos whole, Nat.zero_mul, List.take_zero, List.nil_append]

/-- The decoding loop takes one read, which runs the engine. -/
theorem fillRaster_whole (shapes : shape.Shapes raster) :
    (fillRaster (codec engine memory) shape.stride shape.rows 0 (begun engine memory source shape)
        raster).result =
      match engine.decode source shape with
      | .error reason => .error (.codecFailure reason)
      | .ok frame => .ok (drained engine memory shape, { raster with samples := frame.val }) := by
  have high := shapes.rows_pos
  have length : raster.samples.length = shape.rows * shape.stride := shapes.length_eq_byteCount
  have wide := shapes.stride_pos
  rw [shapes.stride_eq] at wide
  have block : (raster.rowsFrom 0).length = shape.rows * shape.stride := by
    rw [rowsFrom_zero shapes, length]
  have answered := read_whole engine memory source wide high block
  cases decoded : engine.decode source shape with
  | error reason =>
    rw [decoded] at answered
    rw [fillRaster_error high answered]
    rfl
  | ok frame =>
    rw [decoded] at answered
    have size : frame.val.length = raster.samples.length := by
      rw [frame.property, length]
      rfl
    have written : raster.setRowsFrom 0 (Refill.start frame.val (raster.rowsFrom 0)).val =
        { raster with samples := frame.val } := by
      show raster.setRowsFrom 0 (overlay frame.val (raster.rowsFrom 0)) = _
      rw [rowsFrom_zero shapes, overlay_whole size]
      exact setRowsFrom_zero shapes size
    rw [fillRaster_more high answered (by omega), written, fillRaster_done (by omega)]
    rfl

/-- A source that was cut short is never decoded. -/
theorem decodeFrame_unterminated :
    (decodeFrame (codec engine memory) memory (accepted engine memory source offer false)).result =
      .error (.codecFailure (Decoder.Fault.message .truncated)) := by
  rw [decodeFrame, begin_unterminated]
  rfl

/-- Nor is one of whose frame no rows can be handed out. -/
theorem decodeFrame_unshaped {fault : Decoder.Fault}
    (unshaped : Decoder.shapeOf offer = .error fault) :
    (decodeFrame (codec engine memory) memory (accepted engine memory source offer true)).result =
      .error (.codecFailure fault.message) := by
  rw [decodeFrame, begin_unshaped unshaped]
  rfl

/-- **Decoding is one run of the engine**, on a source that was not cut short, if a raster is
granted. -/
theorem decodeFrame_terminated :
    (decodeFrame (codec engine memory) memory
        (accepted engine memory source (.ofGeometry shape) true)).result =
      match Raster.allocate memory shape.rows shape.width.toNat shape.components with
      | .error error => .error (.ofAllocation error)
      | .ok fresh =>
        match engine.decode source shape with
        | .error reason => .error (.codecFailure reason)
        | .ok frame => .ok (shape, { fresh with samples := frame.val }) := by
  cases allocated : Raster.allocate memory shape.rows shape.width.toNat shape.components with
  | error error => exact decodeFrame_refused begin_terminated allocated
  | ok fresh =>
    have shapes := Geometry.shapes_allocate allocated
    cases decoded : engine.decode source shape with
    | error reason =>
      have stopped : (fillRaster (codec engine memory) shape.stride shape.rows 0
          (begun engine memory source shape) fresh).result = .error (.codecFailure reason) := by
        rw [fillRaster_whole shapes, decoded]
      exact decodeFrame_stopped begin_terminated allocated stopped
    | ok frame =>
      have filled : (fillRaster (codec engine memory) shape.stride shape.rows 0
          (begun engine memory source shape) fresh).result =
          .ok (drained engine memory shape, { fresh with samples := frame.val }) := by
        rw [fillRaster_whole shapes, decoded]
      have finished :
          ((codec engine memory).finishDecode (drained engine memory shape)).1 = .ok () := by
        rw [finish_drained]
      exact decodeFrame_ok.mpr
        ⟨_, fresh, drained engine memory shape, begin_terminated, allocated, filled, finished⟩

/-- Decoding gives the engine's frame, of a source that was not cut short and whose raster is
granted. -/
theorem decodeFrame_eq_ok_iff {terminated : Bool} :
    (decodeFrame (codec engine memory) memory
        (accepted engine memory source offer terminated)).result = .ok (geometry, raster) ↔
      terminated = true ∧ offer = .ofGeometry geometry ∧
        ∃ fresh frame,
          Raster.allocate memory geometry.rows geometry.width.toNat geometry.components =
            .ok fresh ∧
          engine.decode source geometry = .ok frame ∧
          raster = { fresh with samples := frame.val } := by
  cases terminated with
  | false =>
    rw [decodeFrame_unterminated]
    simp
  | true =>
    cases shaped : Decoder.shapeOf offer with
    | error fault =>
      rw [decodeFrame_unshaped shaped]
      refine iff_of_false (fun decoded => ?_) ?_
      · cases decoded
      · rintro ⟨_, rfl, _⟩
        rw [Decoder.shapeOf_ofGeometry] at shaped
        cases shaped
    | ok shape =>
      obtain rfl := Decoder.shapeOf_eq_ok_iff.mp shaped
      have same : Offer.ofGeometry shape = .ofGeometry geometry ↔ shape = geometry := by
        rw [← Decoder.shapeOf_eq_ok_iff, shaped, Except.ok.injEq]
      rw [decodeFrame_terminated, same]
      constructor
      · intro decoded
        cases allocated :
            Raster.allocate memory shape.rows shape.width.toNat shape.components with
        | error error =>
          rw [allocated] at decoded
          cases decoded
        | ok fresh =>
          rw [allocated] at decoded
          cases made : engine.decode source shape with
          | error reason =>
            rw [made] at decoded
            cases decoded
          | ok frame =>
            rw [made] at decoded
            cases decoded
            exact ⟨rfl, rfl, fresh, frame, allocated, made, rfl⟩
      · rintro ⟨_, rfl, fresh, frame, allocated, made, rfl⟩
        rw [allocated, made]

end Decoding

/-! ### Encoding -/

section Encoding

variable {settings : EncoderSettings} {raster : Raster} {sink : Sink}

/-- The encoder of a frame, after encoding has begun. -/
def started (engine : Engine) (memory : Memory) (settings : EncoderSettings) :
    (codec engine memory).Encoder :=
  (⟨some settings, [], 0, false⟩ : Encoder)

/-- The encoder after it took a whole frame at once. -/
def completed (engine : Engine) (memory : Memory) (settings : EncoderSettings) :
    (codec engine memory).Encoder :=
  (⟨some settings, [], 0 + settings.geometry.rows, true⟩ : Encoder)

theorem beginEncode_valid (valid : isValidQuality settings.quality = true) :
    (codec engine memory).beginEncode Encoder.create settings sink =
      (.ok (), started engine memory settings, sink) := by
  have began : Encoder.create.begin settings = (.ok (), ⟨some settings, [], 0, false⟩) := by
    simp only [Encoder.begin, Encoder.create, Option.isSome_none, Bool.false_eq_true, if_false,
      if_pos valid]
  simp only [codec, began]
  rfl

theorem take_frame {geometry : Geometry} (frame : Frame.Samples geometry) :
    frame.val.take geometry.byteCount = frame.val :=
  List.take_of_length_le (Nat.le_of_eq frame.property)

theorem submit_whole (engine : Engine) (frame : Frame.Samples settings.geometry) :
    engine.submit settings frame.val = .ok (engine.encode settings frame) := by
  have long : ¬frame.val.length < settings.geometry.byteCount := by
    rw [frame.property]
    exact Nat.lt_irrefl _
  simp only [Engine.submit, dif_neg long, take_frame]

theorem encodeFrame_whole (frame : Frame.Samples settings.geometry) :
    Encoder.encodeFrame engine settings frame.val sink =
      ((sink.writeAll (engine.encode settings frame)).1.mapError .sink,
        (sink.writeAll (engine.encode settings frame)).2) := by
  rw [Encoder.encodeFrame, submit_whole engine frame]

theorem advance_whole (settings : EncoderSettings) (height : Nat) :
    Encoder.advance ⟨some settings, [], 0, false⟩ height height =
      ⟨some settings, [], 0 + height, true⟩ := by
  simp only [Encoder.advance, Nat.zero_add, decide_true]

/-- A whole frame that is offered at once is encoded at once, and not staged. -/
theorem write_whole (engine : Engine) (memory : Memory) (sink : Sink)
    (frame : Frame.Samples settings.geometry) (wide : 0 < settings.geometry.stride)
    (high : 0 < settings.geometry.rows) :
    (codec engine memory).writeRows (started engine memory settings) frame.val
        settings.geometry.stride sink =
      match sink.writeAll (engine.encode settings frame) with
      | (.error error, after) =>
        (.error (Encoder.Fault.sink error).toCodecError, started engine memory settings, after)
      | (.ok (), after) =>
        (.ok settings.geometry.rows, completed engine memory settings, after) := by
  have count : min (frame.val.length / settings.geometry.stride) (settings.geometry.rows - 0) =
      settings.geometry.rows := by
    rw [frame.property]
    exact rows_of_frame wide
  have positive : ¬settings.geometry.stride = 0 := Nat.ne_of_gt wide
  have filled : ¬settings.geometry.rows = 0 := Nat.ne_of_gt high
  have block : frame.val.take (settings.geometry.rows * settings.geometry.stride) = frame.val :=
    take_frame frame
  have answer : Encoder.write engine memory ⟨some settings, [], 0, false⟩ frame.val
      settings.geometry.stride sink =
      match sink.writeAll (engine.encode settings frame) with
      | (.error error, after) => (.error (.sink error), ⟨some settings, [], 0, false⟩, after)
      | (.ok (), after) =>
        (.ok settings.geometry.rows, ⟨some settings, [], 0 + settings.geometry.rows, true⟩, after)
      := by
    simp only [Encoder.write, ne_eq, not_true_eq_false, if_false, if_neg positive, count,
      if_neg filled, block, Encoder.take, and_self, if_true, encodeFrame_whole]
    cases sink.writeAll (engine.encode settings frame) with
    | mk result after =>
      cases result with
      | error error => rfl
      | ok value =>
        show (Except.ok _, Encoder.advance _ _ _, after) = _
        rw [advance_whole]
  simp only [codec, started, answer]
  cases sink.writeAll (engine.encode settings frame) with
  | mk result after =>
    cases result with
    | error error => rfl
    | ok value => rfl

theorem finish_completed :
    (codec engine memory).finishEncode (completed engine memory settings) sink =
      (sink.flush.1.mapError .stream, sink.flush.2) := by
  have finished : Encoder.finish ⟨some settings, [], 0 + settings.geometry.rows, true⟩ sink =
      (sink.flush.1.mapError .flush, sink.flush.2) := by
    simp only [Encoder.finish, if_true]
  simp only [codec, completed, finished]
  cases sink.flush with
  | mk result after => cases result <;> rfl

/-- The encoding loop makes one offer, which runs the engine. -/
theorem sendRows_whole (engine : Engine) (memory : Memory) (sink : Sink)
    (frame : Frame.Samples settings.geometry) (wide : 0 < settings.geometry.stride)
    (high : 0 < settings.geometry.rows) :
    (sendRows (codec engine memory) frame.val settings.geometry.stride settings.geometry.rows 0
        (started engine memory settings)).ending sink =
      match sink.writeAll (engine.encode settings frame) with
      | (.error error, after) =>
        (.error (.ofCodec (Encoder.Fault.sink error).toCodecError), after)
      | (.ok (), after) => (.ok (completed engine memory settings), after) := by
  have answered := write_whole engine memory sink frame wide high
  have all : frame.val.drop (0 * settings.geometry.stride) = frame.val := by
    rw [Nat.zero_mul, List.drop_zero]
  rw [← all] at answered
  cases written : sink.writeAll (engine.encode settings frame) with
  | mk result after =>
    rw [written] at answered
    cases result with
    | error error =>
      rw [Sending.ending, sendRows_error high answered]
    | ok value =>
      rw [Sending.ending, sendRows_more high answered (by omega), sendRows_done (by omega)]
      rfl

/-- **Encoding writes what the engine makes of the raster**, and ends with a flush. -/
theorem encodeRaster_ending (engine : Engine) (memory : Memory) (sink : Sink)
    (shapes : settings.geometry.Shapes raster)
    (valid : isValidQuality settings.quality = true) (frame : Frame.Samples settings.geometry)
    (same : raster.samples = frame.val) :
    (encodeRaster (codec engine memory) settings raster).ending sink =
      match sink.writeAll (engine.encode settings frame) with
      | (.error error, after) =>
        (.error (.ofCodec (Encoder.Fault.sink error).toCodecError), after)
      | (.ok (), after) =>
        (after.flush.1.mapError fun error => .ofCodec (.stream error), after.flush.2) := by
  have high := shapes.rows_pos
  have wide := shapes.stride_pos
  rw [shapes.stride_eq] at wide
  have sent := sendRows_whole engine memory sink frame wide high
  have logged (text : String) :
      (Sending.ofAttempt (Attempt.log .debug text)).ending sink = (.ok (), sink) := rfl
  have created : (Sending.createEncoder (codec engine memory)).ending sink =
      (.ok Encoder.create, sink) := rfl
  have began : (Sending.beginEncode (codec engine memory) Encoder.create settings).ending sink =
      (.ok (started engine memory settings), sink) := by
    simp only [Sending.ending, Sending.beginEncode, beginEncode_valid valid]
    rfl
  rw [encodeRaster, Sending.ending_of_ok (logged _), Sending.ending_of_ok created,
    Sending.ending_of_ok began, same, shapes.stride_eq, shapes.height_eq]
  cases written : sink.writeAll (engine.encode settings frame) with
  | mk result after =>
    rw [written] at sent
    cases result with
    | error error => rw [Sending.ending_of_error sent]
    | ok value =>
      rw [Sending.ending_of_ok sent]
      simp only [Sending.ending, Sending.finishEncode, finish_completed]
      rcases after.flush with ⟨error | value, last⟩
      · rfl
      · rfl

/-- What becomes of a sink that an encoding is written to and that is flushed behind it. -/
def deliver (written : Bytes) (sink : Sink) : Except TranscodeError Sink :=
  match sink.writeAll written with
  | (.error error, _) => .error (.ofCodec (Encoder.Fault.sink error).toCodecError)
  | (.ok (), after) => (after.flush.1.mapError .ofStream).map fun _ => after.flush.2

theorem encodeRaster_leaves (engine : Engine) (memory : Memory) (sink : Sink)
    (shapes : settings.geometry.Shapes raster)
    (valid : isValidQuality settings.quality = true) (frame : Frame.Samples settings.geometry)
    (same : raster.samples = frame.val) :
    (encodeRaster (codec engine memory) settings raster).leaves sink =
      deliver (engine.encode settings frame) sink := by
  rw [Sending.leaves, encodeRaster_ending engine memory sink shapes valid frame same, deliver]
  rcases sink.writeAll (engine.encode settings frame) with ⟨error | nothing, after⟩
  · rfl
  · rcases after.flush with ⟨error | nothing, last⟩
    · rfl
    · rfl

theorem deliver_takes {written : Bytes} {after : Sink} (takes : sink.Takes written after) :
    deliver written sink = .ok after.flush.2 := by
  rw [deliver, takes.wrote]
  simp only [Sink.flush, takes.flushError_eq]
  rfl

/-- To a sink that never fails everything is delivered. -/
theorem deliver_reliable (reliable : sink.Reliable) (written : Bytes) :
    ∃ after, deliver written sink = .ok after ∧ after.accepted = sink.accepted ++ written := by
  obtain ⟨after, takes⟩ := reliable.takes written
  exact ⟨after.flush.2, deliver_takes takes, takes.accepted_eq⟩

end Encoding

end JpegTranscoder.Scanline
