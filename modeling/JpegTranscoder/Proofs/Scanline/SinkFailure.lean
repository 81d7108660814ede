/-
**How the failures of a sink are told.**

Once a session over an engine is decoded, only its sink can make an encoding fail. The sink is
written to while the frame is encoded and flushed afterwards, and the two failures are told
differently: a write that stops as a failure of the codec, with the sink's message inside, and a
flush that fails as one of the sink.

* `Undelivered`: the two failures, each with what is told of it;
* `encode_delivers`: a decoded session delivers what its engine wrote;
* `sink_failures_told`: every failure of an encoding is one of the two.
-/
import JpegTranscoder.Proofs.Scanline.Verdict
import JpegTranscoder.Proofs.Session.Quality
import JpegTranscoder.Proofs.Source

namespace JpegTranscoder.Scanline

variable {engine : Engine} {memory : Memory} {options : Options} {source written : Bytes}
  {sink : Sink}

/-! ### Deliveries that fail -/

/-- Why bytes are not delivered to a sink, and what is told of it. -/
inductive Undelivered (sink : Sink) (written : Bytes) : TranscodeError → Prop where
  | unwritten {error : StreamError} (stopped : (sink.writeAll written).1 = .error error) :
      Undelivered sink written (.codecFailure s!"JPEG encoding failed: {error.message}")
  | unflushed {error : StreamError} (wrote : (sink.writeAll written).1 = .ok ())
      (failed : sink.flushError = some error) :
      Undelivered sink written (.stream error.message)

theorem Undelivered.deliver_eq {error : TranscodeError}
    (undelivered : Undelivered sink written error) : deliver written sink = .error error := by
  have kept := sink.writeAll_flushError written
  unfold deliver
  cases undelivered with
  | unwritten stopped =>
    rcases outcome : sink.writeAll written with ⟨result, after⟩
    rw [outcome] at stopped
    cases stopped
    rfl
  | unflushed wrote failed =>
    rcases outcome : sink.writeAll written with ⟨result, after⟩
    rw [outcome] at wrote kept
    cases wrote
    have unflushed : after.flushError = some _ := kept.trans failed
    simp only [Sink.flush, unflushed]
    rfl

/-- A delivery fails for one of the reasons, or succeeds. -/
theorem takes_or_undelivered (sink : Sink) (written : Bytes) :
    (∃ after, sink.Takes written after) ∨ ∃ error, Undelivered sink written error := by
  have kept := sink.writeAll_flushError written
  rcases outcome : sink.writeAll written with ⟨error | nothing, after⟩
  · exact .inr ⟨_, .unwritten (congrArg Prod.fst outcome)⟩
  · rw [outcome] at kept
    cases flushing : sink.flushError with
    | none => exact .inl ⟨after, outcome, kept.trans flushing⟩
    | some error => exact .inr ⟨_, .unflushed (congrArg Prod.fst outcome) flushing⟩

theorem deliver_eq_error_iff {error : TranscodeError} :
    deliver written sink = .error error ↔ Undelivered sink written error := by
  refine ⟨fun failed => ?_, Undelivered.deliver_eq⟩
  rcases takes_or_undelivered sink written with ⟨after, takes⟩ | ⟨other, undelivered⟩
  · rw [deliver_takes takes] at failed
    cases failed
  · rw [undelivered.deliver_eq] at failed
    cases failed
    exact undelivered

theorem deliver_ok_iff :
    (∃ after, deliver written sink = .ok after) ↔ ∃ after, sink.Takes written after := by
  refine ⟨fun ⟨last, delivered⟩ => ?_, fun ⟨after, takes⟩ => ⟨_, deliver_takes takes⟩⟩
  rcases takes_or_undelivered sink written with taken | ⟨error, undelivered⟩
  · exact taken
  · rw [undelivered.deliver_eq] at delivered
    cases delivered

/-! ### Decoded sessions -/

/-- **A decoded session delivers what its engine wrote.** -/
theorem encode_delivers (engine : Engine) (memory : Memory) (options : Options)
    (operations : List Operation) :
    let session := (Session.create (codec engine memory) memory options).after operations
    session.state = .decoded → ∃ settings frame, ∀ sink : Sink,
      (session.encode sink).1.result.map (fun _ => (session.encode sink).2) =
        deliver (engine.encode settings frame) sink := by
  intro session ready
  have consistent : session.Consistent := Session.consistent_after memory options operations
  have valid := (Session.keeps_after (codec engine memory) memory options operations).valid
  simp only [Session.Consistent, ready] at consistent
  obtain ⟨_, _, geometry, raster, told, held, shapes⟩ := consistent
  refine ⟨⟨geometry, session.effectiveQuality, session.progressive, true⟩,
    ⟨raster.samples, shapes.length_eq_byteCount⟩, fun sink => ?_⟩
  rw [Session.encode_leaves ready told held]
  exact encodeRaster_leaves engine memory sink shapes valid _ rfl

theorem encodeToBytes_ok {session : Session (codec engine memory)} {written : Bytes}
    (delivers : ∀ sink : Sink,
      (session.encode sink).1.result.map (fun _ => (session.encode sink).2) =
        deliver written sink) : session.encodeToBytes.result = .ok written := by
  obtain ⟨after, delivered, accepted⟩ := deliver_reliable Sink.reliable_empty written
  obtain ⟨_, told, left⟩ := ok_of_map ((delivers .empty).trans delivered)
  show (session.encode .empty).1.result.map _ = _
  rw [told]
  show Except.ok (session.encode .empty).2.accepted = _
  rw [left, accepted]
  rfl

/-! ### A decoded block -/

theorem GoodHeader.decoded {header : Header} {shape : Geometry}
    (good : GoodHeader engine source header (.ofGeometry shape)) (wide : shape.width ≠ 0)
    (high : shape.height ≠ 0) (whole : isTerminated source = .ok true)
    (granted : memory.grants shape.byteCount = true) {frame : Frame.Samples shape}
    (decodes : engine.decode source shape = .ok frame) :
    ((Session.create (codec engine memory) memory options).after
      [.openBytes source, .decode]).state = .decoded := by
  let session := Session.create (codec engine memory) memory options
  let known : Opened (codec engine memory) :=
    ⟨accepted engine memory source (.ofGeometry shape) true,
      ⟨header.width, header.height, header.quality⟩, header.progressive⟩
  have fresh : session.state = .created := rfl
  obtain ⟨_, opened⟩ :=
    Session.openBytes_session fresh (source_ne_nil good.read) (good.opened whole)
  obtain ⟨raster, allocated⟩ := Geometry.allocate_granted wide high granted
  have found := decodeFrame_eq_ok_iff.mpr ⟨rfl, rfl, raster, frame, allocated, decodes, rfl⟩
  obtain ⟨_, decoded⟩ := Session.decode_ok (session.opening source known) rfl rfl found
  show (session.openBytes source).session.decode.session.state = .decoded
  rw [opened, decoded]
  rfl

/-- A stream of a gray block. -/
def grayStream : Bytes := Flat.stream ⟨⟨8, 8, .gray⟩, 50, false, true⟩

/-- A session that decoded the block. -/
def grayDecoded : Session (codec Flat.engine (.below 65)) :=
  (Session.create (codec Flat.engine (.below 65)) (.below 65) .default).after
    [.openBytes grayStream, .decode]

theorem grayDecoded_state : grayDecoded.state = .decoded := by
  obtain ⟨header, good, whole, _⟩ :=
    @flat_good ⟨⟨8, 8, .gray⟩, 50, false, true⟩ rfl (by decide) (by decide)
  exact good.decoded (by decide) (by decide) whole (by decide) rfl

theorem grayDecoded_delivers : ∃ first rest, ∀ sink : Sink,
    (grayDecoded.encode sink).1.result.map (fun _ => (grayDecoded.encode sink).2) =
      deliver (first :: rest) sink := by
  obtain ⟨settings, frame, delivers⟩ := encode_delivers Flat.engine (.below 65) .default
    [.openBytes grayStream, .decode] grayDecoded_state
  exact ⟨_, _, delivers⟩

/-- A sink whose writes fail from the first byte on. -/
def closedPipe : Sink :=
  { Sink.empty with faults := [⟨0, .refuse ⟨.brokenPipe, "pipe closed"⟩⟩] }

theorem closedPipe_refuses (first : UInt8) (rest : Bytes) :
    (closedPipe.writeAll (first :: rest)).1 = .error ⟨.brokenPipe, "pipe closed"⟩ := by
  have refused : closedPipe.write (first :: rest) =
      (.error ⟨.brokenPipe, "pipe closed"⟩, { closedPipe with faults := [] }) := rfl
  rw [Sink.writeAll_of_refusal (List.cons_ne_nil first rest) refused (by decide)]

/-- A sink that takes no byte. -/
def stalledPipe : Sink := { Sink.empty with faults := [⟨0, .stall⟩] }

/-- A sink that takes every byte and cannot be flushed. -/
def fullDisk : Sink := { Sink.empty with flushError := some ⟨.other, "disk full"⟩ }

theorem fullDisk_takes (first : UInt8) (rest : Bytes) :
    (fullDisk.writeAll (first :: rest)).1 = .ok () := by
  have wrote : fullDisk.write (first :: rest) =
      (.ok (rest.length + 1), fullDisk.accept (first :: rest)) := rfl
  rw [Sink.writeAll_of_write wrote, List.drop_length, Sink.writeAll]

/-! ### Every failure -/

/-- **Every failure of an encoding is its sink's, and only a failed flush is told as one.** A
decoded session fails to encode exactly if the sink does not take what the engine wrote: with a
failure of the codec if a write stops, whatever the error was and wherever it struck, and with the
sink's error if the flush behind fails. A transcode from a source that delivers its bytes tells the
same. -/
theorem sink_failures_told (engine : Engine) (memory : Memory) (options : Options) :
    (∀ operations : List Operation,
      let session := (Session.create (codec engine memory) memory options).after operations
      session.state = .decoded →
        ∃ written, session.encodeToBytes.result = .ok written ∧ ∀ sink : Sink,
          let encoded := (session.encode sink).1
          (∀ error, encoded.result = .error error ↔ Undelivered sink written error) ∧
          (encoded.result = .ok () ↔ ∃ after, sink.Takes written after) ∧
          encoded.session.state = if encoded.result.isOk then .encoded else .failed) ∧
    ∀ (reader : Source) (data written : Bytes), reader.Delivers data →
      (transcode (codec engine memory) memory data options).result = .ok written →
        ∀ (sink : Sink) (error : TranscodeError),
          (transcodeStream (codec engine memory) memory reader sink options).result = .error error ↔
            Undelivered sink written error := by
  constructor
  · intro operations session ready
    obtain ⟨settings, frame, delivers⟩ :=
      encode_delivers engine memory options operations ready
    refine ⟨_, encodeToBytes_ok delivers, fun sink => ⟨fun error => ?_, ?_, ?_⟩⟩
    · rw [← deliver_eq_error_iff, ← delivers sink, map_eq_error_iff]
    · rw [← deliver_ok_iff, ← delivers sink]
      constructor
      · intro done
        rw [done]
        exact ⟨_, rfl⟩
      · rintro ⟨after, done⟩
        obtain ⟨_, told, _⟩ := ok_of_map done
        exact told
    · have encodes := session.encode_encodes sink
      generalize session.encode sink = outcome at encodes
      cases encodes with
      | refused misplaced => exact absurd ready misplaced
      | unencoded => rfl
      | encoded => rfl
  · intro reader data written delivers done sink error
    rw [transcodeStream_result delivers.readToEnd_eq, recoded_delivers, done]
    exact deliver_eq_error_iff

/-- A gray block that is encoded into a disk without room and into a closed pipe, and a transcode of
its stream into the same pipe. -/
theorem sink_failures_told_gray :
    grayDecoded.state = .decoded ∧
      (grayDecoded.encode fullDisk).1.result = .error (.stream "disk full") ∧
      (grayDecoded.encode fullDisk).1.session.state = .failed ∧
      (grayDecoded.encode closedPipe).1.session.state = .failed ∧
      (transcodeStream (codec Flat.engine (.below 65)) (.below 65) (.ofBytes grayStream) closedPipe
        .default).result = .error (.codecFailure "JPEG encoding failed: pipe closed") := by
  obtain ⟨encodes, streams⟩ := sink_failures_told Flat.engine (.below 65) .default
  obtain ⟨written, stored, told⟩ := encodes [.openBytes grayStream, .decode] grayDecoded_state
  obtain ⟨first, rest, delivers⟩ := grayDecoded_delivers
  cases stored.symm.trans (encodeToBytes_ok delivers)
  obtain ⟨unflushed, _, left⟩ := told fullDisk
  obtain ⟨unwritten, _, ended⟩ := told closedPipe
  have full : (grayDecoded.encode fullDisk).1.result = .error (.stream "disk full") :=
    (unflushed _).mpr (.unflushed (fullDisk_takes first rest) rfl)
  have closed : (grayDecoded.encode closedPipe).1.result =
      .error (.codecFailure "JPEG encoding failed: pipe closed") :=
    (unwritten _).mpr (.unwritten (closedPipe_refuses first rest))
  have delivered : Source.Delivers (.ofBytes grayStream) grayStream :=
    Source.Reliable.delivers ⟨fun _ => nofun, nofun⟩
  have done : (transcode (codec Flat.engine (.below 65)) (.below 65) grayStream .default).result =
      .ok grayStream :=
    @flat_transcode _ ⟨⟨8, 8, .gray⟩, 50, false, true⟩ rfl (by decide) (by decide) (by decide)
      .default
  have streamed := streams (.ofBytes grayStream) grayStream grayStream delivered done closedPipe
  refine ⟨grayDecoded_state, full, ?_, ?_, (streamed _).mpr (.unwritten (closedPipe_refuses _ _))⟩
  · rw [← grayDecoded, full] at left
    exact left
  · rw [← grayDecoded, closed] at ended
    exact ended

/-- **A closed pipe is not told as one**: a decoded session tells a write that the sink refuses, or
of which it takes no byte, as a failure of its codec. -/
theorem closed_pipe_told_as_codec_failure :
    grayDecoded.state = .decoded ∧
      (grayDecoded.encode closedPipe).1.result =
        .error (.codecFailure "JPEG encoding failed: pipe closed") ∧
      (grayDecoded.encode closedPipe).1.result ≠
        .error (.ofStream ⟨.brokenPipe, "pipe closed"⟩) ∧
      (grayDecoded.encode stalledPipe).1.result =
        .error (.codecFailure "JPEG encoding failed: failed to write whole buffer") ∧
      (grayDecoded.encode stalledPipe).1.result ≠ .error (.ofStream .nothingWritten) := by
  obtain ⟨first, rest, delivers⟩ := grayDecoded_delivers
  have broken := closedPipe_refuses first rest
  have stalled : (stalledPipe.writeAll (first :: rest)).1 = .error .nothingWritten := by
    rw [Sink.writeAll_of_stall (List.cons_ne_nil first rest) rfl]
  have closed : (grayDecoded.encode closedPipe).1.result =
      .error (.codecFailure "JPEG encoding failed: pipe closed") :=
    map_eq_error_iff.mp ((delivers closedPipe).trans (Undelivered.unwritten broken).deliver_eq)
  have blocked : (grayDecoded.encode stalledPipe).1.result =
      .error (.codecFailure "JPEG encoding failed: failed to write whole buffer") :=
    map_eq_error_iff.mp ((delivers stalledPipe).trans (Undelivered.unwritten stalled).deliver_eq)
  refine ⟨grayDecoded_state, closed, ?_, blocked, ?_⟩
  · rw [closed]
    nofun
  · rw [blocked]
    nofun

end JpegTranscoder.Scanline
