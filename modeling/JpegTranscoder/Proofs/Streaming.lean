/-
**Sources and sinks that stream.**

Nothing of a source is looked at before all of it was read, and all of an encoding is made before
any of it is written. So it does not show how a source was read or a sink written to:

* `Session.openReader_broken`, `Session.calls_of_broken`: a source that breaks ends the session, and
  the codec is never called;
* `transcodeStream_delivers`: a sink that never fails gets what is made in memory;
* `streaming_agrees`: opening, metadata and transcodes of a source that is read are those of its
  bytes.
-/
import JpegTranscoder.Proofs.Scanline.Verdict
import JpegTranscoder.Proofs.Session.Lifecycle
import JpegTranscoder.Proofs.Session.Protocol
import JpegTranscoder.Proofs.Source

namespace JpegTranscoder

/-! ### Sources that break -/

namespace Session

variable {codec : Codec} {session : Session codec} {reader : Source} {error : StreamError}

/-- A source that breaks ends the session before its codec is asked. -/
theorem openReader_broken (fresh : session.state = .created) (breaks : reader.Breaks error) :
    (session.openReader reader).1 = session.fail [] (.ofStream error) := by
  have read := breaks.readToEnd_eq
  rw [openReader, if_pos fresh]
  match answered : reader.readToEnd with
  | (result, after) =>
    rw [answered] at read
    cases read
    rfl

/-- An ended session asks its codec for nothing. -/
theorem perform_calls_ended (ended : State.failed.rank ≤ session.state.rank)
    (operation : Operation) : (session.perform operation).trace.calls = [] := by
  cases staged : operation.stage with
  | some stage =>
    have misplaced : session.state ≠ stage.needs := by
      intro ready
      rw [ready] at ended
      cases stage <;> exact absurd ended (by decide)
    rw [perform_misplaced staged misplaced]
    rfl
  | none =>
    cases operation with
    | setTargetQuality quality => exact session.calls_setTargetQuality quality
    | close => rfl
    | _ => cases staged

theorem history_calls_ended (ended : State.failed.rank ≤ session.state.rank)
    (operations : List Operation) : (session.history operations).calls = [] := by
  induction operations generalizing session with
  | nil => rfl
  | cons operation rest ih =>
    rw [history_cons, Trace.calls_append, perform_calls_ended ended,
      ih (Nat.le_trans ended (session.rank_le_perform operation))]
    rfl

/-- A session that is new has asked its codec for nothing. -/
theorem history_calls_created (memory : Memory) (options : Options) {operations : List Operation}
    (fresh : ((create codec memory options).after operations).state = .created) :
    ((create codec memory options).history operations).calls = [] := by
  have consistent : (create codec memory options).Consistent := consistent_create memory options
  obtain ⟨follows, stands⟩ := history_continues consistent rfl operations
  simp only [Stands, fresh] at stands
  have records : Progress.fresh.Records [] := rfl
  have known := records.after follows
  rw [stands, List.nil_append] at known
  exact known

/-- **A session whose source breaks never asks its codec for anything.** -/
theorem calls_of_broken (memory : Memory) (options : Options) {before : List Operation}
    (fresh : ((create codec memory options).after before).state = .created)
    (breaks : reader.Breaks error) (later : List Operation) :
    ((create codec memory options).history (before ++ .openReader reader :: later)).calls = [] := by
  have opened := openReader_broken fresh breaks
  have ended : (((create codec memory options).after before).perform
      (.openReader reader)).session.state = .failed := by
    show (((create codec memory options).after before).openReader reader).1.session.state = .failed
    rw [opened]
    rfl
  have quiet : (((create codec memory options).after before).perform
      (.openReader reader)).trace.calls = [] := by
    show (((create codec memory options).after before).openReader reader).1.trace.calls = []
    rw [opened]
    exact calls_fail _ _ _
  rw [history_append, Trace.calls_append, history_calls_created memory options fresh, history_cons,
    Trace.calls_append, quiet, history_calls_ended (Nat.le_of_eq (congrArg State.rank ended.symm))]
  rfl

end Session

/-! ### All of it -/

section Agreement

variable {codec : Codec} {memory : Memory} {options : Options} {reader : Source} {data : Bytes}

theorem readMetadata_delivers (delivers : reader.Delivers data) :
    readMetadata codec memory reader = readMetadataFromBytes codec memory data := by
  unfold readMetadata readMetadataFromBytes
  simp only
  rw [Session.openReader_eq delivers.readToEnd_eq]

theorem readMetadata_breaks {error : StreamError} (breaks : reader.Breaks error) :
    (readMetadata codec memory reader).result = .error (.stream error.message) := by
  unfold readMetadata
  simp only
  rw [Session.openReader_broken rfl breaks]
  rfl

theorem transcodeStream_breaks {error : StreamError} (breaks : reader.Breaks error) (sink : Sink) :
    (transcodeStream codec memory reader sink options).result = .error (.stream error.message) := by
  unfold transcodeStream
  simp only
  rw [recode_result, Session.openReader_broken rfl breaks]
  rfl

/-- A transcode from a source into a sink that never fails ends as the one in memory. -/
theorem transcodeStream_delivers (engine : Engine) (memory : Memory) (options : Options)
    (delivers : reader.Delivers data) {sink : Sink} (reliable : sink.Reliable) :
    (transcodeStream (Scanline.codec engine memory) memory reader sink options).result.map
        Sink.accepted =
      (transcode (Scanline.codec engine memory) memory data options).result.map
        (sink.accepted ++ ·) := by
  rw [transcodeStream_result delivers.readToEnd_eq, Scanline.recoded_delivers]
  cases (transcode (Scanline.codec engine memory) memory data options).result with
  | error error => rfl
  | ok written =>
    obtain ⟨after, delivered, accepted⟩ := Scanline.deliver_reliable reliable written
    show (Scanline.deliver written sink).map _ = _
    rw [delivered]
    exact congrArg Except.ok accepted

/-- **What is read and written piece by piece comes to the same as in memory.** A source that
delivers its bytes, however they are cut and however often a read is interrupted, is opened as they
are, by every session; its metadata is theirs; and a transcode of it into a sink that never fails
ends as a transcode of them, with the same bytes or the same error. A source that breaks is told so,
whatever it gave before: a new session that opens it fails, learns no metadata and never asks its
codec for anything. -/
theorem streaming_agrees (codec : Codec) (engine : Engine) (memory : Memory) (options : Options)
    (reader : Source) :
    (∀ data, reader.Delivers data →
      (∀ session : Session codec, (session.openReader reader).1 = session.openBytes data) ∧
      readMetadata codec memory reader = readMetadataFromBytes codec memory data ∧
      ∀ sink : Sink, sink.Reliable →
        let whole := (transcode (Scanline.codec engine memory) memory data options).result
        let streamed :=
          (transcodeStream (Scanline.codec engine memory) memory reader sink options).result
        (∀ written, whole = .ok written ↔
          ∃ after, streamed = .ok after ∧ after.accepted = sink.accepted ++ written) ∧
        ∀ error, whole = .error error ↔ streamed = .error error) ∧
    ∀ error, reader.Breaks error →
      (∀ before later : List Operation,
        let session := (Session.create codec memory options).after before
        let opened := (session.openReader reader).1
        session.state = .created →
          opened.result = .error (.stream error.message) ∧ opened.session.state = .failed ∧
          opened.session.metadata = none ∧
          ((Session.create codec memory options).history
            (before ++ .openReader reader :: later)).calls = []) ∧
      (readMetadata codec memory reader).result = .error (.stream error.message) ∧
      ∀ sink, (transcodeStream codec memory reader sink options).result =
        .error (.stream error.message) := by
  refine ⟨fun data delivers => ⟨?_, readMetadata_delivers delivers, ?_⟩,
    fun error breaks => ⟨?_, readMetadata_breaks breaks, transcodeStream_breaks breaks⟩⟩
  · exact Session.openReader_eq delivers.readToEnd_eq
  · intro sink reliable whole streamed
    have same : streamed.map Sink.accepted = whole.map (sink.accepted ++ ·) :=
      transcodeStream_delivers engine memory options delivers reliable
    have errors (error : TranscodeError) : whole = .error error ↔ streamed = .error error := by
      rw [← map_eq_error_iff (f := (sink.accepted ++ ·)), ← same, map_eq_error_iff]
    refine ⟨fun written => ⟨fun done => ?_, ?_⟩, errors⟩
    · rw [done] at same
      exact ok_of_map same
    · rintro ⟨after, left, accepted⟩
      rw [left] at same
      obtain ⟨given, done, joined⟩ := ok_of_map same.symm
      rw [accepted, List.append_cancel_left_eq] at joined
      rw [done, joined]
  · intro before later session opened fresh
    have consistent : session.Consistent := Session.consistent_after memory options before
    simp only [Session.Consistent, fresh] at consistent
    have failed : opened = session.fail [] (.ofStream error) :=
      Session.openReader_broken fresh breaks
    refine ⟨?_, ?_, ?_, Session.calls_of_broken memory options fresh breaks later⟩
    · rw [failed]
      rfl
    · rw [failed]
      rfl
    · rw [failed]
      exact consistent.1

end Agreement

/-! ### Pieces -/

/-- An error that lets a read or a write be made again. -/
def interruption : StreamError := ⟨.interrupted, "interrupted"⟩

/-- A source that gives seven bytes at a time, with errors planned. -/
def inPieces (data : Bytes) (faults : List Source.Fault) : Source :=
  ⟨data, 0, fun _ => some 7, faults⟩

/-- A sink that takes a byte at a time and interrupts two writes. -/
def bytewise : Sink :=
  { Sink.empty with
    limit := fun _ => some 1
    faults := [⟨0, .refuse interruption⟩, ⟨9, .refuse interruption⟩] }

/-- A gray block, interrupted before its first byte, between and behind its last, and then the same
block with a reset behind its last byte. -/
theorem streaming_agrees_block :
    let data := Flat.stream ⟨⟨8, 8, .gray⟩, 50, false, true⟩
    let reset : StreamError := ⟨.other, "connection reset"⟩
    let whole := inPieces data [⟨0, interruption⟩, ⟨20, interruption⟩, ⟨data.length, interruption⟩]
    let torn := inPieces data [⟨20, interruption⟩, ⟨data.length, reset⟩]
    whole.Delivers data ∧ bytewise.Reliable ∧ torn.Breaks reset ∧
      (∃ after,
        (transcodeStream (Scanline.codec Flat.engine (.below 65)) (.below 65) whole bytewise
          .default).result = .ok after ∧ after.accepted = data) ∧
      (readMetadata (Scanline.codec Flat.engine (.below 65)) (.below 65) torn).result =
        .error (.stream "connection reset") := by
  intro data reset whole torn
  let settings : EncoderSettings := ⟨⟨8, 8, .gray⟩, 50, false, true⟩
  have delivers : whole.Delivers data := by
    refine Source.Reliable.delivers ⟨fun _ => nofun, ?_⟩
    simp only [whole, inPieces, List.forall_mem_cons]
    exact ⟨rfl, rfl, rfl, nofun⟩
  have reliable : bytewise.Reliable := by
    refine ⟨fun _ => nofun, ?_, rfl⟩
    simp only [bytewise, List.forall_mem_cons]
    exact ⟨⟨_, rfl, rfl⟩, ⟨_, rfl, rfl⟩, fun _ due => absurd due List.not_mem_nil⟩
  have breaks : torn.Breaks reset := by
    have again : ∀ earlier ∈ [(⟨20, interruption⟩ : Source.Fault)],
        earlier.error.kind = .interrupted := by
      simp only [List.forall_mem_cons]
      exact ⟨rfl, nofun⟩
    have within : ∀ due ∈ [⟨20, interruption⟩] ++ [(⟨data.length, reset⟩ : Source.Fault)],
        due.offset ≤ torn.delivered + torn.remaining.length := by
      simp only [List.cons_append, List.nil_append, List.forall_mem_cons]
      exact ⟨by decide +kernel, Nat.le_add_left _ _, fun _ due => absurd due List.not_mem_nil⟩
    have unstopped : ∀ offset, torn.limit offset ≠ some 0 := by
      intro offset none
      cases none
    exact Source.breaks_of_planned unstopped rfl again (by decide) within
  have done :
      (transcode (Scanline.codec Flat.engine (.below 65)) (.below 65) data .default).result =
        .ok data :=
    @Scanline.flat_transcode _ settings rfl (by decide) (by decide) (by decide) .default
  obtain ⟨agrees, _⟩ :=
    streaming_agrees (Scanline.codec Flat.engine (.below 65)) Flat.engine (.below 65) .default whole
  obtain ⟨_, broken⟩ :=
    streaming_agrees (Scanline.codec Flat.engine (.below 65)) Flat.engine (.below 65) .default torn
  obtain ⟨_, _, streams⟩ := agrees data delivers
  obtain ⟨_, told, _⟩ := broken reset breaks
  exact ⟨delivers, reliable, breaks, ((streams bytewise reliable).1 data).mp done, told⟩

end JpegTranscoder
