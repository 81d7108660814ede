/-
**How an operation ends.**

Opening, decoding and encoding each need a session in one state and lead it to another. In any other
state such an operation is refused; in its own it fails, and the session with it, or it succeeds.
Only the refusal reports a wrong state:

* `Attempt.Genuine`, `Sending.Genuine`: the errors of work through a codec report none, whatever the
  codec answers, down to `Opened.read_genuine`, `decodeHeld_genuine` and `encodeHeld_genuine`;
* `perform_ending`: the three ways in which an operation of a stage ends;
* `perform_misplaced`, `perform_ready`: which of them, by the state of the session.
-/
import JpegTranscoder.Proofs.Session.Outcomes
import JpegTranscoder.Proofs.Session.Steps

namespace JpegTranscoder

variable {codec : Codec} {α β : Type}

/-! ### Errors that report a wrong state -/

/-- Whether an error reports an operation in a wrong state. -/
def TranscodeError.isMisuse : TranscodeError → Bool
  | .invalidState _ _ => true
  | _ => false

theorem TranscodeError.ofCodec_isMisuse (error : CodecError) :
    (TranscodeError.ofCodec error).isMisuse = false := by
  cases error <;> rfl

theorem TranscodeError.ofAllocation_isMisuse (error : AllocationError) :
    (TranscodeError.ofAllocation error).isMisuse = false := by
  cases error <;> rfl

/-! ### Work that reports none -/

/-- Work whose errors report no wrong state. -/
def Attempt.Genuine (attempt : Attempt α) : Prop :=
  ∀ error, attempt.result = .error error → error.isMisuse = false

namespace Attempt

theorem genuine_done {trace : Trace} {value : α} : Genuine ⟨trace, .ok value⟩ := nofun

theorem genuine_error {trace : Trace} {error : TranscodeError} (honest : error.isMisuse = false) :
    Genuine (⟨trace, .error error⟩ : Attempt α) := by
  rintro _ ⟨⟩
  exact honest

/-- Work that ends as a codec answered. -/
theorem genuine_answer (trace : Trace) (answer : Except CodecError α) :
    Genuine ⟨trace, answer.mapError .ofCodec⟩ := by
  cases answer with
  | ok value => exact genuine_done
  | error error => exact genuine_error (TranscodeError.ofCodec_isMisuse error)

theorem Genuine.bind {first : Attempt α} {next : α → Attempt β} (before : first.Genuine)
    (later : ∀ value, (next value).Genuine) : (first >>= next).Genuine := by
  intro error failed
  cases middle : first.result with
  | error reason =>
    rw [bind_error middle] at failed
    cases failed
    exact before error middle
  | ok value =>
    rw [bind_ok middle] at failed
    exact later value error failed

end Attempt

/-- Work on a sink whose errors report no wrong state, whatever the sink. -/
def Sending.Genuine (work : Sending α) : Prop := ∀ sink, (work sink).1.Genuine

theorem Sending.Genuine.bind {first : Sending α} {next : α → Sending β} (before : first.Genuine)
    (later : ∀ value, (next value).Genuine) : (first >>= next).Genuine := by
  intro sink
  match outcome : first sink with
  | (⟨trace, .error error⟩, after) =>
    rw [bind_error outcome]
    have honest := before sink
    rw [outcome] at honest
    exact Attempt.genuine_error (honest error rfl)
  | (⟨trace, .ok value⟩, middle) =>
    rw [bind_ok outcome]
    exact later value middle

/-! ### Opening, decoding and encoding -/

theorem Opened.read_genuine (source : Bytes) : (Opened.read codec source).Genuine := by
  refine Attempt.Genuine.bind (Attempt.genuine_answer _ _) fun (decoder, header) => ?_
  simp only
  split
  · exact Attempt.genuine_error rfl
  · refine Attempt.Genuine.bind Attempt.genuine_done fun _ => ?_
    refine Attempt.Genuine.bind Attempt.genuine_done fun quality => ?_
    refine Attempt.Genuine.bind Attempt.genuine_done fun _ => ?_
    exact Attempt.genuine_done

theorem fillRaster_genuine (stride height row : Nat) (decoder : codec.Decoder) (raster : Raster) :
    (fillRaster codec stride height row decoder raster).Genuine := by
  induction row, decoder, raster using fillRaster_rounds stride height with
  | done rows =>
    rw [fillRaster_done rows]
    exact Attempt.genuine_done
  | failed due answered =>
    rw [fillRaster_error due answered]
    exact Attempt.genuine_error (TranscodeError.ofCodec_isMisuse _)
  | bad due answered stuck =>
    rw [fillRaster_bad due answered stuck]
    exact Attempt.genuine_error rfl
  | more due answered stuck ih =>
    rw [fillRaster_more due answered stuck]
    exact ih

theorem decodeFrame_genuine (memory : Memory) (decoder : codec.Decoder) :
    (decodeFrame codec memory decoder).Genuine := by
  refine Attempt.Genuine.bind (Attempt.genuine_answer _ _) fun geometry => ?_
  refine Attempt.Genuine.bind ?_ fun raster => ?_
  · show Attempt.Genuine ⟨[], Except.mapError _ _⟩
    cases Raster.allocate memory geometry.rows geometry.width.toNat geometry.components with
    | ok raster => exact Attempt.genuine_done
    | error error => exact Attempt.genuine_error (TranscodeError.ofAllocation_isMisuse error)
  · refine Attempt.Genuine.bind (fillRaster_genuine _ _ _ _ _) fun (last, filled) => ?_
    refine Attempt.Genuine.bind (Attempt.genuine_answer _ _) fun _ => ?_
    exact Attempt.genuine_done

theorem decodeHeld_genuine (memory : Memory) (held : Option codec.Decoder) :
    (decodeHeld codec memory held).Genuine := by
  cases held with
  | none => exact Attempt.genuine_error rfl
  | some decoder => exact decodeFrame_genuine memory decoder

theorem sendRows_genuine (samples : Bytes) (stride height row : Nat) (encoder : codec.Encoder) :
    (sendRows codec samples stride height row encoder).Genuine := by
  intro sink
  induction row, encoder, sink using sendRows_rounds samples stride height with
  | done rows =>
    rw [sendRows_done rows]
    exact Attempt.genuine_done
  | failed due answered =>
    rw [sendRows_error due answered]
    exact Attempt.genuine_error (TranscodeError.ofCodec_isMisuse _)
  | bad due answered stuck =>
    rw [sendRows_bad due answered stuck]
    exact Attempt.genuine_error rfl
  | more due answered stuck ih =>
    rw [sendRows_more due answered stuck]
    exact ih

theorem encodeRaster_genuine (settings : EncoderSettings) (raster : Raster) :
    (encodeRaster codec settings raster).Genuine := by
  refine Sending.Genuine.bind (fun _ => Attempt.genuine_done) fun _ => ?_
  refine Sending.Genuine.bind (fun _ => Attempt.genuine_answer _ _) fun encoder => ?_
  refine Sending.Genuine.bind (fun _ => Attempt.genuine_answer _ _) fun encoder => ?_
  refine Sending.Genuine.bind (sendRows_genuine _ _ _ _ _) fun encoder => ?_
  exact fun _ => Attempt.genuine_answer _ _

theorem Session.encodeHeld_genuine (session : Session codec) : session.encodeHeld.Genuine := by
  unfold encodeHeld
  split
  · exact fun _ => Attempt.genuine_error rfl
  · exact fun _ => Attempt.genuine_error rfl
  · exact encodeRaster_genuine _ _

/-! ### Stages -/

/-- The state that an operation of a stage needs. -/
def Stage.needs : Stage → State
  | .opening => .created
  | .decoding => .headerRead
  | .encoding => .decoded

/-- The state that an operation of a stage leads to. -/
def Stage.reaches : Stage → State
  | .opening => .headerRead
  | .decoding => .decoded
  | .encoding => .encoded

/-- The stage of an operation, if it needs a state. -/
def Operation.stage : Operation → Option Stage
  | .openBytes _ | .openReader _ => some .opening
  | .decode => some .decoding
  | .encode _ | .encodeToBytes => some .encoding
  | .setTargetQuality _ | .close => none

namespace Session

/-- How an operation of a stage ends. -/
inductive Ending (session : Session codec) (stage : Stage) : Outcome codec α → Prop where
  /-- The session was in a wrong state. -/
  | refused (misplaced : session.state ≠ stage.needs) : Ending session stage (session.refuse stage)
  /-- The operation failed, and what was left of the session with it. -/
  | failed (ready : session.state = stage.needs) (left : Session codec) (trace : Trace)
      {error : TranscodeError} (genuine : error.isMisuse = false) :
      Ending session stage (left.fail trace error)
  /-- The operation succeeded. -/
  | passed (ready : session.state = stage.needs) {next : Session codec} (trace : Trace) {value : α}
      (arrived : next.state = stage.reaches) : Ending session stage ⟨.ok value, next, trace⟩

variable {session : Session codec} {stage : Stage} {operation : Operation}

theorem Ending.map {outcome : Outcome codec α} (f : α → β) (ending : session.Ending stage outcome) :
    session.Ending stage (outcome.map f) := by
  cases ending with
  | refused misplaced => exact .refused misplaced
  | failed ready left trace genuine => exact .failed ready left trace genuine
  | passed ready trace arrived => exact .passed ready trace arrived

theorem Opens.ending {outcome : Outcome codec Metadata} (opens : session.Opens outcome) :
    session.Ending .opening outcome := by
  cases opens with
  | refused misplaced => exact .refused misplaced
  | broken fresh error => exact .failed fresh session [] rfl
  | empty fresh => exact .failed fresh session [] rfl
  | unopened fresh source failed =>
    exact .failed fresh _ _ (Opened.read_genuine source _ failed)
  | opened fresh source read => exact .passed fresh _ rfl

theorem Decodes.ending {outcome : Outcome codec Unit} (decodes : session.Decodes outcome) :
    session.Ending .decoding outcome := by
  cases decodes with
  | refused misplaced => exact .refused misplaced
  | undecoded ready failed =>
    exact .failed ready session _ (decodeHeld_genuine session.memory session.decoder _ failed)
  | decoded ready read => exact .passed ready _ rfl

theorem Encodes.ending {sink : Sink} {outcome : Outcome codec Unit × Sink}
    (encodes : session.Encodes sink outcome) : session.Ending .encoding outcome.1 := by
  cases encodes with
  | refused misplaced => exact .refused misplaced
  | unencoded ready failed =>
    have genuine := session.encodeHeld_genuine sink
    rw [failed] at genuine
    exact .failed ready session _ (genuine _ rfl)
  | encoded ready sent => exact .passed ready _ rfl

/-- **An operation of a stage is refused, fails or succeeds.** -/
theorem perform_ending (session : Session codec) (staged : operation.stage = some stage) :
    session.Ending stage (session.perform operation) := by
  cases operation with
  | openBytes source =>
    cases staged
    exact (session.openBytes_opens source).ending.map _
  | openReader source =>
    cases staged
    exact (session.openReader_opens source).ending.map _
  | decode =>
    cases staged
    exact session.decode_decodes.ending.map _
  | encode sink =>
    cases staged
    exact (session.encode_encodes sink).ending.map _
  | encodeToBytes =>
    cases staged
    exact ((session.encode_encodes .empty).ending.map _).map _
  | setTargetQuality quality => cases staged
  | close => cases staged

/-- In a wrong state an operation does nothing. -/
theorem perform_misplaced (staged : operation.stage = some stage)
    (misplaced : session.state ≠ stage.needs) :
    session.perform operation = session.refuse stage := by
  have ending := session.perform_ending staged
  generalize session.perform operation = outcome at ending
  cases ending with
  | refused _ => rfl
  | failed ready => exact absurd ready misplaced
  | passed ready => exact absurd ready misplaced

/-- In its own state no operation is refused. -/
theorem perform_ready (staged : operation.stage = some stage)
    (ready : session.state = stage.needs) {error : TranscodeError}
    (failed : (session.perform operation).result = .error error) : error.isMisuse = false := by
  have ending := session.perform_ending staged
  generalize session.perform operation = outcome at ending failed
  cases ending with
  | refused misplaced => exact absurd ready misplaced
  | failed _ _ _ genuine =>
    cases failed
    exact genuine
  | passed => cases failed

/-- An operation that needs no state succeeds; only a closing changes the state. -/
theorem perform_unstaged (session : Session codec) (unstaged : operation.stage = none) :
    (∃ answer, (session.perform operation).result = .ok answer) ∧
      ((session.perform operation).session.state = session.state ∨
        operation = .close ∧ (session.perform operation).session.state = .closed) := by
  cases operation with
  | setTargetQuality quality =>
    have targets := session.setTargetQuality_targets quality
    show (∃ answer, (session.setTargetQuality quality).result.map _ = .ok answer) ∧
      ((session.setTargetQuality quality).session.state = session.state ∨ _)
    generalize session.setTargetQuality quality = outcome at targets
    cases targets with
    | ignored vain record => exact ⟨⟨.nothing, rfl⟩, .inl rfl⟩
    | targeted takes valid => exact ⟨⟨.nothing, rfl⟩, .inl rfl⟩
  | close => exact ⟨⟨.nothing, rfl⟩, .inr ⟨rfl, rfl⟩⟩
  | _ => cases unstaged

end Session

end JpegTranscoder
