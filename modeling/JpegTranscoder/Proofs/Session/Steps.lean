/-
**Attempts and loops, step by step.**

Decoding and encoding are written as chains of attempts, and each has a loop over the rows. Here
the chains are opened once:

* `Attempt.bind_ok`, `Attempt.bind_error`, `Attempt.result_of_bind`: one attempt after another;
* `Sending.bind_ok` to `Sending.ending_of_error`: the same for work on a sink;
* `Opened.read_eq_ok_iff`: when a source opens, and what is learned from it;
* `fillRaster_done` to `fillRaster_more`: what one round of the decoding loop does, and
  `fillRaster_rounds`: how the rounds follow each other;
* `decodeFrame_ok`: what a decoder answered when decoding succeeded;
* `sendRows_done` to `sendRows_more` and `sendRows_rounds`: the same for the encoding loop;
* `Session.encodeHeld_eq`: what a session encodes that holds its geometry and its raster.
-/
import JpegTranscoder.Proofs.Results
import JpegTranscoder.Session.Operation

namespace JpegTranscoder

variable {codec : Codec} {α β : Type}

/-! ### One attempt after another -/

namespace Attempt

theorem bind_ok {first : Attempt α} {next : α → Attempt β} {value : α}
    (succeeded : first.result = .ok value) :
    first >>= next = ⟨first.trace ++ (next value).trace, (next value).result⟩ := by
  show andThen first next = _
  rw [andThen, succeeded]

theorem bind_error {first : Attempt α} {next : α → Attempt β} {error : TranscodeError}
    (failed : first.result = .error error) : first >>= next = ⟨first.trace, .error error⟩ := by
  show andThen first next = _
  rw [andThen, failed]

/-- A chain that succeeds is made of attempts that do. -/
theorem result_of_bind {first : Attempt α} {next : α → Attempt β} {last : β}
    (succeeded : (first >>= next).result = .ok last) :
    ∃ value, first.result = .ok value ∧ (next value).result = .ok last := by
  cases middle : first.result with
  | error error =>
    rw [bind_error middle] at succeeded
    cases succeeded
  | ok value =>
    rw [bind_ok middle] at succeeded
    exact ⟨value, rfl, succeeded⟩

theorem result_of_call {call : CodecCall} {answer : Except CodecError α} {value : α}
    (succeeded : (Attempt.call call answer).result = .ok value) : answer = .ok value :=
  ok_of_mapError succeeded

end Attempt

namespace Sending

theorem bind_ok {first : Sending α} {next : α → Sending β} {sink middle : Sink} {trace : Trace}
    {value : α} (succeeded : first sink = (⟨trace, .ok value⟩, middle)) :
    (first >>= next) sink =
      (⟨trace ++ (next value middle).1.trace, (next value middle).1.result⟩,
        (next value middle).2) := by
  show andThen first next sink = _
  rw [andThen, succeeded]

theorem bind_error {first : Sending α} {next : α → Sending β} {sink after : Sink} {trace : Trace}
    {error : TranscodeError} (failed : first sink = (⟨trace, .error error⟩, after)) :
    (first >>= next) sink = (⟨trace, .error error⟩, after) := by
  show andThen first next sink = _
  rw [andThen, failed]

theorem bind_of_ok {first : Sending α} {next : α → Sending β} {sink middle last : Sink}
    {trace more : Trace} {value : α} {result : Except TranscodeError β}
    (succeeded : first sink = (⟨trace, .ok value⟩, middle))
    (went : next value middle = (⟨more, result⟩, last)) :
    (first >>= next) sink = (⟨trace ++ more, result⟩, last) := by
  rw [bind_ok succeeded, went]

/-- How work on a sink ends, and how it leaves the sink. -/
def ending (work : Sending α) (sink : Sink) : Except TranscodeError α × Sink :=
  ((work sink).1.result, (work sink).2)

/-- Work after work that succeeded ends as it does alone, on the sink that was left to it. -/
theorem ending_of_ok {first : Sending α} {next : α → Sending β} {sink middle : Sink} {value : α}
    (succeeded : first.ending sink = (.ok value, middle)) :
    (first >>= next).ending sink = (next value).ending middle := by
  obtain ⟨told, left⟩ := Prod.mk.inj succeeded
  have same : first sink = (⟨(first sink).1.trace, .ok value⟩, middle) := by
    rw [← told, ← left]
  rw [ending, bind_ok same]
  rfl

theorem ending_of_error {first : Sending α} {next : α → Sending β} {sink after : Sink}
    {error : TranscodeError} (failed : first.ending sink = (.error error, after)) :
    (first >>= next).ending sink = (.error error, after) := by
  obtain ⟨told, left⟩ := Prod.mk.inj failed
  have same : first sink = (⟨(first sink).1.trace, .error error⟩, after) := by
    rw [← told, ← left]
  rw [ending, bind_error same]

/-- The sink that work leaves behind, if it succeeds. -/
def leaves (work : Sending Unit) (sink : Sink) : Except TranscodeError Sink :=
  (work.ending sink).1.map fun _ => (work.ending sink).2

theorem leaves_eq_ok_iff {work : Sending Unit} {sink after : Sink} :
    work.leaves sink = .ok after ↔ work.ending sink = (.ok (), after) := by
  rw [leaves]
  rcases work.ending sink with ⟨error | nothing, last⟩
  · simp [Except.map]
  · simp [Except.map]

end Sending

/-! ### Opening -/

theorem Attempt.readHeader_result (source : Bytes) :
    (Attempt.readHeader codec source).result = (codec.readHeader source).2.mapError .ofCodec := rfl

/-- A source opens when the codec reads a header of more than one row and one column. -/
theorem Opened.read_eq_ok_iff {source : Bytes} {opened : Opened codec} :
    (Opened.read codec source).result = .ok opened ↔
      ∃ decoder header, (codec.readHeader source).2 = .ok (decoder, header) ∧
        1 < header.width ∧ 1 < header.height ∧
        opened = ⟨decoder, ⟨header.width, header.height, header.quality⟩, header.progressive⟩ := by
  constructor
  · intro read
    obtain ⟨⟨decoder, header⟩, answered, read⟩ := Attempt.result_of_bind read
    simp only at read
    split at read
    · cases read
    · rename_i large
      obtain ⟨_, _, read⟩ := Attempt.result_of_bind read
      obtain ⟨quality, estimated, read⟩ := Attempt.result_of_bind read
      obtain ⟨_, _, read⟩ := Attempt.result_of_bind read
      cases read
      cases estimated
      rw [not_or, UInt16.not_le, UInt16.not_le] at large
      exact ⟨decoder, header, ok_of_mapError answered, large.1, large.2, rfl⟩
  · rintro ⟨decoder, header, answered, wide, high, rfl⟩
    have read : (Attempt.readHeader codec source).result = .ok (decoder, header) := by
      rw [Attempt.readHeader_result, answered]
      rfl
    have large : ¬(header.width ≤ 1 ∨ header.height ≤ 1) := by
      rw [not_or, UInt16.not_le, UInt16.not_le]
      exact ⟨wide, high⟩
    rw [Opened.read, Attempt.bind_ok read]
    simp only [if_neg large]
    rfl

theorem Opened.read_error {source : Bytes} {error : CodecError}
    (answered : (codec.readHeader source).2 = .error error) :
    (Opened.read codec source).result = .error (.ofCodec error) := by
  have failed : (Attempt.readHeader codec source).result = .error (.ofCodec error) := by
    rw [Attempt.readHeader_result, answered]
    rfl
  rw [Opened.read, Attempt.bind_error failed]

/-- A header of a single row or column is refused. -/
theorem Opened.read_degenerate {source : Bytes} {decoder : codec.Decoder} {header : Header}
    (answered : (codec.readHeader source).2 = .ok (decoder, header))
    (degenerate : header.width ≤ 1 ∨ header.height ≤ 1) :
    (Opened.read codec source).result =
      .error (.malformedHeader s!"degenerate geometry {header.width}x{header.height}") := by
  have read : (Attempt.readHeader codec source).result = .ok (decoder, header) := by
    rw [Attempt.readHeader_result, answered]
    rfl
  rw [Opened.read, Attempt.bind_ok read]
  simp only [if_pos degenerate]
  rfl

/-! ### The decoding loop -/

section Fill

variable {stride height row : Nat} {decoder next : codec.Decoder} {raster : Raster}

theorem fillRaster_done (complete : height ≤ row) :
    fillRaster codec stride height row decoder raster = .done (decoder, raster) := by
  rw [fillRaster, if_neg (Nat.not_lt.mpr complete)]

theorem Attempt.readRows_error {error : CodecError}
    (answered : codec.readRows decoder (raster.rowsFrom row) stride = (.error error, next)) :
    Attempt.readRows codec stride row decoder raster =
      ⟨[.called (.readRows (raster.rowsFrom row).length stride (.error error))],
        .error (.ofCodec error)⟩ := by
  rw [Attempt.readRows, answered]
  rfl

theorem Attempt.readRows_ok {count : Nat} {block : Refill (raster.rowsFrom row)}
    (answered : codec.readRows decoder (raster.rowsFrom row) stride = (.ok (count, block), next)) :
    Attempt.readRows codec stride row decoder raster =
      ⟨[.called (.readRows (raster.rowsFrom row).length stride (.ok count))],
        .ok (count, next, raster.setRowsFrom row block.val)⟩ := by
  rw [Attempt.readRows, answered]
  rfl

theorem fillRaster_error {error : CodecError} (due : row < height)
    (answered : codec.readRows decoder (raster.rowsFrom row) stride = (.error error, next)) :
    fillRaster codec stride height row decoder raster =
      ⟨[.called (.readRows (raster.rowsFrom row).length stride (.error error))],
        .error (.ofCodec error)⟩ := by
  rw [fillRaster, if_pos due, Attempt.readRows_error answered]
  exact Attempt.bind_error rfl

theorem fillRaster_bad {count : Nat} {block : Refill (raster.rowsFrom row)} (due : row < height)
    (answered : codec.readRows decoder (raster.rowsFrom row) stride = (.ok (count, block), next))
    (bad : count = 0 ∨ height - row < count) :
    fillRaster codec stride height row decoder raster =
      ⟨[.called (.readRows (raster.rowsFrom row).length stride (.ok count))],
        .error (.badRead count row height)⟩ := by
  rw [fillRaster, if_pos due, Attempt.readRows_ok answered, Attempt.bind_ok rfl]
  simp only [dif_pos bad]
  rfl

theorem fillRaster_more {count : Nat} {block : Refill (raster.rowsFrom row)} (due : row < height)
    (answered : codec.readRows decoder (raster.rowsFrom row) stride = (.ok (count, block), next))
    (good : ¬(count = 0 ∨ height - row < count)) :
    fillRaster codec stride height row decoder raster =
      let rest := fillRaster codec stride height (row + count) next
        (raster.setRowsFrom row block.val)
      ⟨.called (.readRows (raster.rowsFrom row).length stride (.ok count)) :: rest.trace,
        rest.result⟩ := by
  rw [fillRaster, if_pos due, Attempt.readRows_ok answered, Attempt.bind_ok rfl]
  simp only [dif_neg good]
  rfl

/-- **The rounds of the decoding loop.** Each ends the loop, for want of rows or by an error, or
leaves fewer rows to be filled. -/
theorem fillRaster_rounds (stride height : Nat) {motive : Nat → codec.Decoder → Raster → Prop}
    (done : ∀ {row decoder raster}, height ≤ row → motive row decoder raster)
    (failed : ∀ {row decoder raster error next}, row < height →
      codec.readRows decoder (raster.rowsFrom row) stride = (.error error, next) →
      motive row decoder raster)
    (bad : ∀ {row decoder raster count block next}, row < height →
      codec.readRows decoder (raster.rowsFrom row) stride = (.ok (count, block), next) →
      count = 0 ∨ height - row < count → motive row decoder raster)
    (more : ∀ {row decoder raster count block next}, row < height →
      codec.readRows decoder (raster.rowsFrom row) stride = (.ok (count, block), next) →
      ¬(count = 0 ∨ height - row < count) →
      motive (row + count) next (raster.setRowsFrom row block.val) → motive row decoder raster)
    (row : Nat) (decoder : codec.Decoder) (raster : Raster) : motive row decoder raster := by
  induction missing : height - row using Nat.strongRecOn generalizing row decoder raster with
  | ind size ih =>
    by_cases due : row < height
    · match answered : codec.readRows decoder (raster.rowsFrom row) stride with
      | (.error error, next) => exact failed due answered
      | (.ok (count, block), next) =>
        by_cases stuck : count = 0 ∨ height - row < count
        · exact bad due answered stuck
        · exact more due answered stuck
            (ih (height - (row + count)) (by omega) (row + count) next _ rfl)
    · exact done (Nat.not_lt.mp due)

/-- What is left of a decoding when the frame has begun and its raster was granted. -/
def decodeRows (codec : Codec) (geometry : Geometry) (decoder : codec.Decoder) (raster : Raster) :
    Attempt (Geometry × Raster) := do
  let (decoder, raster) ← fillRaster codec geometry.stride geometry.rows 0 decoder raster
  let (answer, _) := codec.finishDecode decoder
  Attempt.call (.finishDecode answer) answer
  return (geometry, raster)

theorem decodeFrame_granted {memory : Memory} {geometry : Geometry}
    (began : codec.beginDecode decoder = (.ok geometry, next))
    (allocated : Raster.allocate memory geometry.rows geometry.width.toNat geometry.components =
      .ok raster) :
    decodeFrame codec memory decoder =
      ⟨.called (.beginDecode (.ok geometry)) :: (decodeRows codec geometry next raster).trace,
        (decodeRows codec geometry next raster).result⟩ := by
  have beginning : (Attempt.call (.beginDecode (.ok geometry)) (.ok geometry)).result =
    .ok geometry := rfl
  have granted : (Attempt.ofExcept ((Raster.allocate memory geometry.rows
      geometry.width.toNat geometry.components).mapError .ofAllocation)).result = .ok raster := by
    rw [allocated]
    rfl
  rw [decodeFrame, began]
  simp only
  rw [Attempt.bind_ok beginning, Attempt.bind_ok granted]
  rfl

/-- A raster that is not granted ends the decoding. -/
theorem decodeFrame_refused {memory : Memory} {geometry : Geometry} {error : AllocationError}
    (began : codec.beginDecode decoder = (.ok geometry, next))
    (refused : Raster.allocate memory geometry.rows geometry.width.toNat geometry.components =
      .error error) :
    (decodeFrame codec memory decoder).result = .error (.ofAllocation error) := by
  have beginning : (Attempt.call (.beginDecode (.ok geometry)) (.ok geometry)).result =
    .ok geometry := rfl
  have failed : (Attempt.ofExcept ((Raster.allocate memory geometry.rows
      geometry.width.toNat geometry.components).mapError .ofAllocation)).result =
        .error (.ofAllocation error) := by
    rw [refused]
    rfl
  rw [decodeFrame, began]
  simp only
  rw [Attempt.bind_ok beginning]
  simp only
  rw [Attempt.bind_error failed]

/-- Decoding a frame succeeds when every answer on the way does and the raster is granted. -/
theorem decodeFrame_ok {memory : Memory} {geometry : Geometry} :
    (decodeFrame codec memory decoder).result = .ok (geometry, raster) ↔
      ∃ started fresh last,
        codec.beginDecode decoder = (.ok geometry, started) ∧
        Raster.allocate memory geometry.rows geometry.width.toNat geometry.components =
          .ok fresh ∧
        (fillRaster codec geometry.stride geometry.rows 0 started fresh).result =
          .ok (last, raster) ∧
        (codec.finishDecode last).1 = .ok () := by
  constructor
  · intro decoded
    obtain ⟨told, began, decoded⟩ := Attempt.result_of_bind decoded
    obtain ⟨fresh, allocated, decoded⟩ := Attempt.result_of_bind decoded
    obtain ⟨⟨last, filled⟩, complete, decoded⟩ := Attempt.result_of_bind decoded
    obtain ⟨_, finished, decoded⟩ := Attempt.result_of_bind decoded
    cases decoded
    exact ⟨_, fresh, last, Prod.ext (Attempt.result_of_call began) rfl, ok_of_mapError allocated,
      complete, Attempt.result_of_call finished⟩
  · rintro ⟨started, fresh, last, began, allocated, complete, finished⟩
    rw [decodeFrame_granted began allocated, decodeRows, Attempt.bind_ok complete]
    simp only [finished]
    rfl

/-- A loop that stops ends the decoding. -/
theorem decodeFrame_stopped {memory : Memory} {geometry : Geometry} {error : TranscodeError}
    (began : codec.beginDecode decoder = (.ok geometry, next))
    (allocated : Raster.allocate memory geometry.rows geometry.width.toNat geometry.components =
      .ok raster)
    (stopped : (fillRaster codec geometry.stride geometry.rows 0 next raster).result =
      .error error) :
    (decodeFrame codec memory decoder).result = .error error := by
  rw [decodeFrame_granted began allocated, decodeRows, Attempt.bind_error stopped]

end Fill

/-! ### The encoding loop -/

section Send

variable {samples : Bytes} {stride height row : Nat} {encoder next : codec.Encoder}
  {sink after : Sink}

theorem sendRows_done (complete : height ≤ row) :
    sendRows codec samples stride height row encoder sink = (.done encoder, sink) := by
  rw [sendRows, if_neg (Nat.not_lt.mpr complete)]
  rfl

theorem Sending.writeRows_error {rows : Bytes} {error : CodecError}
    (answered : codec.writeRows encoder rows stride sink = (.error error, next, after)) :
    Sending.writeRows codec encoder rows stride sink =
      (⟨[.called (.writeRows rows stride (.error error))], .error (.ofCodec error)⟩, after) := by
  rw [Sending.writeRows, answered]
  rfl

theorem Sending.writeRows_ok {rows : Bytes} {count : Nat}
    (answered : codec.writeRows encoder rows stride sink = (.ok count, next, after)) :
    Sending.writeRows codec encoder rows stride sink =
      (⟨[.called (.writeRows rows stride (.ok count))], .ok (count, next)⟩, after) := by
  rw [Sending.writeRows, answered]
  rfl

theorem sendRows_error {error : CodecError} (due : row < height)
    (answered : codec.writeRows encoder (samples.drop (row * stride)) stride sink =
      (.error error, next, after)) :
    sendRows codec samples stride height row encoder sink =
      (⟨[.called (.writeRows (samples.drop (row * stride)) stride (.error error))],
        .error (.ofCodec error)⟩, after) := by
  rw [sendRows, if_pos due, Sending.bind_error (Sending.writeRows_error answered)]

theorem sendRows_bad {count : Nat} (due : row < height)
    (answered : codec.writeRows encoder (samples.drop (row * stride)) stride sink =
      (.ok count, next, after))
    (bad : count = 0 ∨ height - row < count) :
    sendRows codec samples stride height row encoder sink =
      (⟨[.called (.writeRows (samples.drop (row * stride)) stride (.ok count))],
        .error (.badWrite count row height)⟩, after) := by
  rw [sendRows, if_pos due, Sending.bind_ok (Sending.writeRows_ok answered)]
  simp only [dif_pos bad]
  rfl

theorem sendRows_more {count : Nat} (due : row < height)
    (answered : codec.writeRows encoder (samples.drop (row * stride)) stride sink =
      (.ok count, next, after))
    (good : ¬(count = 0 ∨ height - row < count)) :
    sendRows codec samples stride height row encoder sink =
      let rest := sendRows codec samples stride height (row + count) next after
      (⟨.called (.writeRows (samples.drop (row * stride)) stride (.ok count)) :: rest.1.trace,
        rest.1.result⟩, rest.2) := by
  rw [sendRows, if_pos due, Sending.bind_ok (Sending.writeRows_ok answered)]
  simp only [dif_neg good]
  rfl

/-- **The rounds of the encoding loop.** Each ends the loop, for want of rows or by an error, or
leaves fewer rows to be offered. -/
theorem sendRows_rounds (samples : Bytes) (stride height : Nat)
    {motive : Nat → codec.Encoder → Sink → Prop}
    (done : ∀ {row encoder sink}, height ≤ row → motive row encoder sink)
    (failed : ∀ {row encoder sink error next after}, row < height →
      codec.writeRows encoder (samples.drop (row * stride)) stride sink =
        (.error error, next, after) →
      motive row encoder sink)
    (bad : ∀ {row encoder sink count next after}, row < height →
      codec.writeRows encoder (samples.drop (row * stride)) stride sink = (.ok count, next, after) →
      count = 0 ∨ height - row < count → motive row encoder sink)
    (more : ∀ {row encoder sink count next after}, row < height →
      codec.writeRows encoder (samples.drop (row * stride)) stride sink = (.ok count, next, after) →
      ¬(count = 0 ∨ height - row < count) →
      motive (row + count) next after → motive row encoder sink)
    (row : Nat) (encoder : codec.Encoder) (sink : Sink) : motive row encoder sink := by
  induction missing : height - row using Nat.strongRecOn generalizing row encoder sink with
  | ind size ih =>
    by_cases due : row < height
    · match answered : codec.writeRows encoder (samples.drop (row * stride)) stride sink with
      | (.error error, next, after) => exact failed due answered
      | (.ok count, next, after) =>
        by_cases stuck : count = 0 ∨ height - row < count
        · exact bad due answered stuck
        · exact more due answered stuck
            (ih (height - (row + count)) (by omega) (row + count) next after rfl)
    · exact done (Nat.not_lt.mp due)

end Send

/-- What a session holds is encoded as it tells. -/
theorem Session.encodeHeld_eq {session : Session codec} {geometry : Geometry} {raster : Raster}
    (told : session.geometry = some geometry) (held : session.raster = some raster) :
    session.encodeHeld =
      encodeRaster codec ⟨geometry, session.effectiveQuality, session.progressive, true⟩
        raster := by
  rw [encodeHeld, told, held]

end JpegTranscoder
