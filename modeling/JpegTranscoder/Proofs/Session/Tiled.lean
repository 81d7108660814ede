/-
**Row counts that tile a frame.**

A session decodes by asking its decoder for the rows that are missing, and encodes by offering them
to its encoder, until all of them were moved. Both may answer with any number of rows. Decoding and
encoding succeed exactly if the numbers tile the frame, and end after at most as many calls as it
has rows:

* `Codec.reading`, `Codec.writing`: a decoder and an encoder as partners;
* `fillRaster_course`, `sendRows_course`: how the two loops go;
* `Session.decode_tiling`, `Session.encode_tiling`: what becomes of the frame in a session;
* `Session.frame_tiled`: both, of every session that is ever reached.
-/
import JpegTranscoder.Proofs.Session.Rounds
import JpegTranscoder.Proofs.Session.Schedules

namespace JpegTranscoder

variable {codec : Codec}

/-! ### Partners -/

/-- A decoder and the raster that it fills. -/
def Codec.reading (codec : Codec) (stride : Nat) : Partner (codec.Decoder × Raster) :=
  fun row (decoder, raster) =>
    match codec.readRows decoder (raster.rowsFrom row) stride with
    | (.ok (count, block), next) => (.ok count, next, raster.setRowsFrom row block.val)
    | (.error error, next) => (.error error, next, raster)

/-- An encoder that is offered samples, and its sink. -/
def Codec.writing (codec : Codec) (samples : Bytes) (stride : Nat) :
    Partner (codec.Encoder × Sink) :=
  fun row (encoder, sink) => codec.writeRows encoder (samples.drop (row * stride)) stride sink

section Reading

variable {stride row count : Nat} {decoder next : codec.Decoder} {raster : Raster}

theorem Codec.reading_ok {block : Refill (raster.rowsFrom row)}
    (answered : codec.readRows decoder (raster.rowsFrom row) stride = (.ok (count, block), next)) :
    codec.reading stride row (decoder, raster) =
      (.ok count, next, raster.setRowsFrom row block.val) := by
  rw [reading, answered]

theorem Codec.reading_error {error : CodecError}
    (answered : codec.readRows decoder (raster.rowsFrom row) stride = (.error error, next)) :
    codec.reading stride row (decoder, raster) = (.error error, next, raster) := by
  rw [reading, answered]

end Reading

/-- How a decoder is finished. -/
def Codec.finishReading (codec : Codec) (side : codec.Decoder × Raster) : Except CodecError Unit :=
  (codec.finishDecode side.1).1

/-- How an encoder is finished. -/
def Codec.finishWriting (codec : Codec) (side : codec.Encoder × Sink) : Except CodecError Unit :=
  (codec.finishEncode side.1 side.2).1

/-! ### Answers -/

/-- The answer of a decoder that was asked for rows. -/
def CodecCall.readAnswer : CodecCall → Option (Except CodecError Nat)
  | .readRows _ _ answer => some answer
  | _ => none

/-- The answer of an encoder that was offered rows. -/
def CodecCall.writeAnswer : CodecCall → Option (Except CodecError Nat)
  | .writeRows _ _ answer => some answer
  | _ => none

/-- What the decoder answered, in order. -/
def readAnswers (calls : List CodecCall) : List (Except CodecError Nat) :=
  calls.filterMap CodecCall.readAnswer

/-- What the encoder answered, in order. -/
def writeAnswers (calls : List CodecCall) : List (Except CodecError Nat) :=
  calls.filterMap CodecCall.writeAnswer

theorem readAnswers_append (first second : List CodecCall) :
    readAnswers (first ++ second) = readAnswers first ++ readAnswers second :=
  List.filterMap_append

theorem writeAnswers_append (first second : List CodecCall) :
    writeAnswers (first ++ second) = writeAnswers first ++ writeAnswers second :=
  List.filterMap_append

/-! ### The two loops -/

/-- **The decoding loop goes its course.** -/
theorem fillRaster_course {stride height row : Nat} (within : row ≤ height)
    (decoder : codec.Decoder) (raster : Raster) :
    Course (codec.reading stride) .badRead height row (decoder, raster)
      (readAnswers (fillRaster codec stride height row decoder raster).trace.calls)
      (fillRaster codec stride height row decoder raster).result := by
  induction row, decoder, raster using fillRaster_rounds stride height with
  | @done row decoder raster rows =>
    cases Nat.le_antisymm within rows
    rw [fillRaster_done rows]
    exact .passed _
  | failed due answered =>
    rw [fillRaster_error due answered]
    exact .stopped due (Codec.reading_error answered) (.failed _)
  | bad due answered wrong =>
    rw [fillRaster_bad due answered wrong]
    exact .stopped due (Codec.reading_ok answered) (.bad wrong)
  | more due answered good ih =>
    rw [fillRaster_more due answered good]
    exact .more (by omega) (by omega) (Codec.reading_ok answered) (ih (by omega))

/-- **The encoding loop goes its course.** -/
theorem sendRows_course {samples : Bytes} {stride height row : Nat} (within : row ≤ height)
    (encoder : codec.Encoder) (sink : Sink) :
    let sent := sendRows codec samples stride height row encoder sink
    Course (codec.writing samples stride) .badWrite height row (encoder, sink)
      (writeAnswers sent.1.trace.calls) (sent.1.result.map fun last => (last, sent.2)) := by
  induction row, encoder, sink using sendRows_rounds samples stride height with
  | @done row encoder sink rows =>
    cases Nat.le_antisymm within rows
    rw [sendRows_done rows]
    exact .passed _
  | failed due answered =>
    rw [sendRows_error due answered]
    exact .stopped due answered (.failed _)
  | bad due answered wrong =>
    rw [sendRows_bad due answered wrong]
    exact .stopped due answered (.bad wrong)
  | more due answered good ih =>
    rw [sendRows_more due answered good]
    exact .more (by omega) (by omega) answered (ih (by omega))

/-! ### Decoding and encoding -/

section Stages

variable {geometry : Geometry} {sink : Sink}

/-- Behind its beginning, decoding is the loop and the finish. -/
theorem decodeFrame_began {memory : Memory} {decoder started : codec.Decoder} {raster : Raster}
    (began : codec.beginDecode decoder = (.ok geometry, started))
    (allocated : Raster.allocate memory geometry.rows geometry.width.toNat geometry.components =
      .ok raster) :
    let filling := fillRaster codec geometry.stride geometry.rows 0 started raster
    (decodeFrame codec memory decoder).result.map (fun _ => ()) =
        filling.result.bind (fun last => (codec.finishReading last).mapError .ofCodec) ∧
      readAnswers (decodeFrame codec memory decoder).trace.calls =
        readAnswers filling.trace.calls := by
  intro filling
  rw [decodeFrame_granted began allocated, decodeRows]
  cases filled : filling.result with
  | error error =>
    rw [Attempt.bind_error filled]
    exact ⟨rfl, rfl⟩
  | ok last =>
    have finished (answer : Except CodecError Unit) :
        let work : Attempt (Geometry × Raster) :=
          Attempt.call (.finishDecode answer) answer >>= fun _ => pure (geometry, last.2)
        work.result.map (fun _ => ()) = answer.mapError .ofCodec ∧
          readAnswers work.trace.calls = [] := by
      cases answer <;> exact ⟨rfl, rfl⟩
    obtain ⟨told, quiet⟩ := finished (codec.finishReading last)
    rw [Attempt.bind_ok filled]
    refine ⟨told, ?_⟩
    show readAnswers (Trace.calls (filling.trace ++ _)) = _
    rw [Trace.calls_append, readAnswers_append]
    exact (congrArg _ quiet).trans (List.append_nil _)

/-- Behind its beginning, encoding is the loop and the finish. -/
theorem encodeRaster_began (raster : Raster) {settings : EncoderSettings} {created after : Sink}
    {encoder begun : codec.Encoder} (creates : codec.createEncoder sink = (.ok encoder, created))
    (begins : codec.beginEncode encoder settings created = (.ok (), begun, after)) :
    let sending := sendRows codec raster.samples raster.stride raster.height 0 begun after
    (encodeRaster codec settings raster sink).1.result =
        (sending.1.result.map fun last => (last, sending.2)).bind
          (fun side => (codec.finishWriting side).mapError .ofCodec) ∧
      writeAnswers (encodeRaster codec settings raster sink).1.trace.calls =
        writeAnswers sending.1.trace.calls := by
  intro sending
  have logged (text : String) : Sending.ofAttempt (Attempt.log .debug text) sink =
      (⟨[.logged ⟨.debug, text⟩], .ok ()⟩, sink) := rfl
  have creating : Sending.createEncoder codec sink =
      (⟨[.called (.createEncoder (.ok ()))], .ok encoder⟩, created) := by
    rw [Sending.createEncoder, creates]
    rfl
  have beginning : Sending.beginEncode codec encoder settings created =
      (⟨[.called (.beginEncode settings (.ok ()))], .ok begun⟩, after) := by
    rw [Sending.beginEncode, begins]
    rfl
  rw [encodeRaster, Sending.bind_ok (logged _), Sending.bind_ok creating,
    Sending.bind_ok beginning]
  match sent : sending with
  | (⟨trace, .error error⟩, left) =>
    have stopped : sendRows codec raster.samples raster.stride raster.height 0 begun after =
      (⟨trace, .error error⟩, left) := sent
    rw [Sending.bind_error stopped]
    exact ⟨rfl, rfl⟩
  | (⟨trace, .ok last⟩, left) =>
    have passed : sendRows codec raster.samples raster.stride raster.height 0 begun after =
      (⟨trace, .ok last⟩, left) := sent
    rw [Sending.bind_ok passed]
    refine ⟨rfl, ?_⟩
    show writeAnswers (Trace.calls (trace ++ [_])) = _
    rw [Trace.calls_append, writeAnswers_append]
    exact List.append_nil _

end Stages

/-! ### Sessions -/

namespace Session

variable {session : Session codec} {geometry : Geometry} {raster : Raster}

/-- **What becomes of the frame when a session decodes it.** -/
theorem decode_tiling {decoder started : codec.Decoder} (ready : session.state = .headerRead)
    (held : session.decoder = some decoder)
    (began : codec.beginDecode decoder = (.ok geometry, started))
    (allocated : Raster.allocate session.memory geometry.rows geometry.width.toNat
      geometry.components = .ok raster) :
    Tiling (codec.reading geometry.stride) codec.finishReading .badRead geometry.rows
      (started, raster) (readAnswers session.decode.trace.calls) session.decode.result := by
  obtain ⟨told, answered⟩ := decodeFrame_began began allocated
  have course : Course (codec.reading geometry.stride) .badRead geometry.rows 0
      (started, raster) _ _ := fillRaster_course (Nat.zero_le _) started raster
  have tiling := course.tiling codec.finishReading
  rw [← told, ← answered] at tiling
  have same : decodeHeld codec session.memory session.decoder =
      decodeFrame codec session.memory decoder := by
    rw [held]
    rfl
  rw [← same] at tiling
  have decodes := session.decode_decodes
  generalize session.decode = outcome at decodes
  cases decodes with
  | refused misplaced => exact absurd ready misplaced
  | undecoded ready failed =>
    rw [failed] at tiling
    rw [calls_fail]
    exact tiling
  | decoded ready read =>
    rw [read] at tiling
    exact tiling

/-- **What becomes of the frame when a session encodes it.** -/
theorem encode_tiling {sink created after : Sink} {encoder begun : codec.Encoder}
    (ready : session.state = .decoded) (told : session.geometry = some geometry)
    (held : session.raster = some raster)
    (creates : codec.createEncoder sink = (.ok encoder, created))
    (begins : codec.beginEncode encoder
      ⟨geometry, session.effectiveQuality, session.progressive, true⟩ created =
        (.ok (), begun, after)) :
    Tiling (codec.writing raster.samples raster.stride) codec.finishWriting .badWrite raster.height
      (begun, after) (writeAnswers (session.encode sink).1.trace.calls)
      (session.encode sink).1.result := by
  obtain ⟨result, answered⟩ := encodeRaster_began raster creates begins
  have course : Course (codec.writing raster.samples raster.stride) .badWrite raster.height 0
      (begun, after) _ _ := sendRows_course (Nat.zero_le _) begun after
  have tiling := course.tiling codec.finishWriting
  rw [← result, ← answered, ← encodeHeld_eq told held] at tiling
  have encodes := session.encode_encodes sink
  generalize session.encode sink = outcome at encodes
  cases encodes with
  | refused misplaced => exact absurd ready misplaced
  | unencoded ready failed =>
    rw [failed] at tiling
    rw [calls_fail]
    exact tiling
  | encoded ready sent =>
    rw [sent] at tiling
    exact tiling

/-- **Decoding and encoding accept exactly the row counts that tile the frame**, in every session
that is ever reached. Once the raster is allocated, decoding asks its decoder at most once for each
row; it succeeds exactly if the first answers tile the frame and the decoder is then finished, and
else it fails with the first error, or at the first number of rows that is none or too many. Once an
encoder has begun, the same holds of encoding. The rows that are counted never pass the height,
which is far below any limit on words. -/
theorem frame_tiled (codec : Codec) (memory : Memory) (options : Options)
    (operations : List Operation) :
    let session := (create codec memory options).after operations
    (∀ {decoder geometry started raster}, session.state = .headerRead →
      session.decoder = some decoder → codec.beginDecode decoder = (.ok geometry, started) →
      Raster.allocate session.memory geometry.rows geometry.width.toNat geometry.components =
        .ok raster →
      geometry.rows < wordLimit ∧
        Tiling (codec.reading geometry.stride) codec.finishReading .badRead geometry.rows
          (started, raster) (readAnswers session.decode.trace.calls) session.decode.result) ∧
    ∀ {sink created after geometry raster encoder begun}, session.state = .decoded →
      session.geometry = some geometry → session.raster = some raster →
      codec.createEncoder sink = (.ok encoder, created) →
      codec.beginEncode encoder ⟨geometry, session.effectiveQuality, session.progressive, true⟩
        created = (.ok (), begun, after) →
      geometry.rows < wordLimit ∧
        Tiling (codec.writing raster.samples geometry.stride) codec.finishWriting .badWrite
          geometry.rows (begun, after) (writeAnswers (session.encode sink).1.trace.calls)
          (session.encode sink).1.result := by
  intro session
  have short (geometry : Geometry) : geometry.rows < wordLimit :=
    Nat.lt_trans geometry.height.toNat_lt (by decide)
  refine ⟨fun {_ geometry _ _} ready held began allocated =>
    ⟨short geometry, decode_tiling ready held began allocated⟩, ?_⟩
  intro sink created after geometry raster encoder begun ready told held creates begins
  have consistent : session.Consistent := consistent_after memory options operations
  simp only [Consistent, ready] at consistent
  obtain ⟨_, _, known, kept, same, equal, shapes⟩ := consistent
  cases told.symm.trans same
  cases held.symm.trans equal
  have tiling := encode_tiling ready told held creates begins
  rw [shapes.stride_eq, shapes.height_eq] at tiling
  exact ⟨short geometry, tiling⟩

/-- Three rows that are read as two and one, and then taken as one and three, which is too many. -/
theorem frame_tiled_until_overrun :
    let geometry : Geometry := ⟨2, 3, .gray⟩
    let codec := Scripted.codec <|
      Scripted.inChunks ⟨2, 3, 1, false, Vector.replicate 4 none⟩ geometry [2, 1] [1, 3]
    let opened := (create codec (.below 100) .default).after [.openBytes [0xFF]]
    let decoded := (create codec (.below 100) .default).after [.openBytes [0xFF], .decode]
    (opened.state = .headerRead ∧ (∃ decoder, opened.decoder = some decoder) ∧
      ∃ raster, Raster.allocate opened.memory geometry.rows geometry.width.toNat
        geometry.components = .ok raster) ∧
      opened.decode.result = .ok () ∧
      (decoded.state = .decoded ∧ decoded.geometry = some geometry ∧
        ∃ raster, decoded.raster = some raster) ∧
      (decoded.encode .empty).1.result = .error (.badWrite 3 1 3) := by
  intro geometry codec opened decoded
  have read : opened.state = .headerRead := by decide +kernel
  have filled : decoded.state = .decoded := by decide +kernel
  have held : opened.decoder = some (⟨[.ok 2, .ok 1], 0⟩ : Scripted.Decoder) := rfl
  obtain ⟨fresh, granted⟩ : ∃ raster, Raster.allocate opened.memory geometry.rows
      geometry.width.toNat geometry.components = .ok raster := ⟨_, rfl⟩
  have told : decoded.geometry = some geometry := by decide +kernel
  obtain ⟨raster, kept⟩ : ∃ raster, decoded.raster = some raster :=
    Option.isSome_iff_exists.mp (by decide +kernel)
  have creates : codec.createEncoder .empty =
      (.ok (⟨[.ok 1, .ok 3]⟩ : Scripted.Encoder), .empty) := rfl
  obtain ⟨reading, _⟩ := frame_tiled codec (.below 100) .default [.openBytes [0xFF]]
  obtain ⟨_, writing⟩ := frame_tiled codec (.below 100) .default [.openBytes [0xFF], .decode]
  obtain ⟨_, reads⟩ := reading read held rfl granted
  obtain ⟨_, writes⟩ := writing filled told kept creates rfl
  refine ⟨⟨read, ⟨_, held⟩, fresh, granted⟩, ?_, ⟨filled, told, raster, kept⟩, ?_⟩
  · exact reads.succeeds.mpr ⟨[2, 1], ⟨by decide, rfl⟩, rfl, rfl⟩
  · let partner := codec.writing raster.samples geometry.stride
    obtain ⟨middle, one, still⟩ :=
      Scripted.writeRows_cons Sink.reliable_empty 1 [.ok 3] (raster.samples.drop (0 * 2)) 2
    obtain ⟨last, three, _⟩ :=
      Scripted.writeRows_cons still 3 [] (raster.samples.drop (1 * 2)) 2
    have first : partner 0 (⟨[.ok 1, .ok 3]⟩, .empty) = (.ok 1, ⟨[.ok 3]⟩, middle) := one
    have second : partner 1 (⟨[.ok 3]⟩, middle) = (.ok 3, ⟨[]⟩, last) := three
    have answered : partner.answers 2 0 (⟨[.ok 1, .ok 3]⟩, .empty) = [.ok 1, .ok 3] :=
      (Partner.answers_succ first 1).trans (congrArg _ (Partner.answers_succ second 0))
    exact writes.fails.mpr
      (.inl ⟨[1], .ok 3, by decide, by decide, answered, .bad (.inr (by decide))⟩)

end Session

end JpegTranscoder
