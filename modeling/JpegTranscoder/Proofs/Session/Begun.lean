/-
**With which settings a session begins to encode.**

Only an encoding begins one, and it does so once, with what the session holds. If it fails, it may
have failed before it began:

* `Attempt.Begins`, `Sending.Begins`: the settings with which some work begins to encode, with a
  rule for one work after another;
* `encodeRaster_begins`: an encoding begins with its settings, and with no others;
* `Session.encodes_of_begun`: which operations begin an encoding;
* `Scanline.encodeRaster_begun`: over an engine, an encoding is never refused a quality.
-/
import JpegTranscoder.Proofs.Scanline.Frame
import JpegTranscoder.Proofs.Session.Chunks
import JpegTranscoder.Proofs.Session.Lifecycle

namespace JpegTranscoder

variable {codec : Codec} {α β : Type} {given more : List EncoderSettings}

/-! ### Settings that work begins to encode with -/

/-- Work that begins to encode with the given settings: with all of them if it succeeds, and with
the first of them if it fails. -/
structure Attempt.Begins (attempt : Attempt α) (given : List EncoderSettings) : Prop where
  within : settingsGiven attempt.trace.calls <+: given
  whole : ∀ {value}, attempt.result = .ok value → settingsGiven attempt.trace.calls = given

namespace Attempt

theorem begins_of_eq {attempt : Attempt α} (same : settingsGiven attempt.trace.calls = given) :
    attempt.Begins given :=
  ⟨same ▸ List.prefix_rfl, fun _ => same⟩

/-- Work that goes on behind other work. -/
theorem Begins.continued {first : Attempt α} {rest : Attempt β} {value : α}
    (before : first.Begins given) (told : first.result = .ok value) (later : rest.Begins more) :
    Begins ⟨first.trace ++ rest.trace, rest.result⟩ (given ++ more) := by
  have both : settingsGiven (first.trace ++ rest.trace).calls =
      given ++ settingsGiven rest.trace.calls := by
    rw [Trace.calls_append, settingsGiven_append, before.whole told]
  constructor
  · rw [both]
    exact (List.prefix_append_right_inj given).mpr later.within
  · intro last succeeded
    rw [both, later.whole succeeded]

/-- Work that is not gone on with, because what it goes on behind failed. -/
theorem Begins.stopped {first : Attempt α} (before : first.Begins given) (error : TranscodeError) :
    Begins (⟨first.trace, .error error⟩ : Attempt β) (given ++ more) :=
  ⟨before.within.trans (List.prefix_append given more), nofun⟩

theorem Begins.bind {first : Attempt α} {next : α → Attempt β} (before : first.Begins given)
    (later : ∀ value, (next value).Begins more) : (first >>= next).Begins (given ++ more) := by
  cases told : first.result with
  | error error =>
    rw [bind_error told]
    exact before.stopped error
  | ok value =>
    rw [bind_ok told]
    exact before.continued told (later value)

end Attempt

/-- Work on a sink that begins to encode with the given settings, whatever the sink. -/
def Sending.Begins (work : Sending α) (given : List EncoderSettings) : Prop :=
  ∀ sink, (work sink).1.Begins given

theorem Sending.Begins.bind {first : Sending α} {next : α → Sending β}
    (before : first.Begins given) (later : ∀ value, (next value).Begins more) :
    (first >>= next).Begins (given ++ more) := by
  intro sink
  have begun := before sink
  match outcome : first sink with
  | (⟨trace, .error error⟩, after) =>
    rw [outcome] at begun
    rw [bind_error outcome]
    exact begun.stopped error
  | (⟨trace, .ok value⟩, middle) =>
    rw [outcome] at begun
    rw [bind_ok outcome]
    exact begun.continued rfl (later value middle)

/-! ### What the stages call -/

/-- Opening asks for the header only. -/
theorem Opened.read_calls (codec : Codec) (source : Bytes) :
    (Opened.read codec source).trace.calls =
      [.readHeader source ((codec.readHeader source).2.map Prod.snd)] := by
  obtain ⟨next, same, quiet⟩ : ∃ next,
      Opened.read codec source = Attempt.readHeader codec source >>= next ∧
        ∀ read, (next read).trace.calls = [] := by
    refine ⟨_, rfl, fun (decoder, header) => ?_⟩
    simp only
    split
    · rfl
    · show Trace.calls ([_] ++ (header.qualityLog.map .logged ++ [_])) = []
      rw [Trace.calls_append, Trace.calls_append, Trace.calls_logged]
      rfl
  have asked : (Attempt.readHeader codec source).trace.calls =
      [.readHeader source ((codec.readHeader source).2.map Prod.snd)] :=
    congrArg _ (Trace.calls_logged _)
  rw [same]
  cases told : (Attempt.readHeader codec source).result with
  | error error =>
    rw [Attempt.bind_error told]
    exact asked
  | ok read =>
    rw [Attempt.bind_ok told, Trace.calls_append, quiet, List.append_nil]
    exact asked

theorem fillRaster_begins (stride height row : Nat) (decoder : codec.Decoder) (raster : Raster) :
    (fillRaster codec stride height row decoder raster).Begins [] := by
  induction row, decoder, raster using fillRaster_rounds stride height with
  | done rows =>
    rw [fillRaster_done rows]
    exact Attempt.begins_of_eq rfl
  | failed due answered =>
    rw [fillRaster_error due answered]
    exact Attempt.begins_of_eq rfl
  | bad due answered stuck =>
    rw [fillRaster_bad due answered stuck]
    exact Attempt.begins_of_eq rfl
  | more due answered stuck ih =>
    rw [fillRaster_more due answered stuck]
    exact ⟨ih.within, ih.whole⟩

/-- Decoding begins to encode nothing. -/
theorem decodeHeld_begins (memory : Memory) (held : Option codec.Decoder) :
    (decodeHeld codec memory held).Begins [] := by
  cases held with
  | none => exact Attempt.begins_of_eq rfl
  | some decoder =>
    refine Attempt.Begins.bind (Attempt.begins_of_eq rfl) fun geometry => ?_
    refine Attempt.Begins.bind (Attempt.begins_of_eq rfl) fun raster => ?_
    refine Attempt.Begins.bind (fillRaster_begins _ _ _ _ _) fun (last, filled) => ?_
    refine Attempt.Begins.bind (Attempt.begins_of_eq rfl) fun _ => ?_
    exact Attempt.begins_of_eq rfl

theorem sendRows_begins (samples : Bytes) (stride height row : Nat) (encoder : codec.Encoder) :
    (sendRows codec samples stride height row encoder).Begins [] := by
  intro sink
  induction row, encoder, sink using sendRows_rounds samples stride height with
  | done rows =>
    rw [sendRows_done rows]
    exact Attempt.begins_of_eq rfl
  | failed due answered =>
    rw [sendRows_error due answered]
    exact Attempt.begins_of_eq rfl
  | bad due answered stuck =>
    rw [sendRows_bad due answered stuck]
    exact Attempt.begins_of_eq rfl
  | more due answered stuck ih =>
    rw [sendRows_more due answered stuck]
    exact ⟨ih.within, ih.whole⟩

/-- What is left to do behind the beginning of an encoding begins nothing else. -/
theorem sendAll_begins (codec : Codec) (raster : Raster) (encoder : codec.Encoder) :
    Sending.Begins (do
      let last ← sendRows codec raster.samples raster.stride raster.height 0 encoder
      Sending.finishEncode codec last) [] :=
  (sendRows_begins _ _ _ _ _).bind fun _ _ => Attempt.begins_of_eq rfl

/-- **An encoding begins with its settings**, and with no others. -/
theorem encodeRaster_begins (settings : EncoderSettings) (raster : Raster) :
    (encodeRaster codec settings raster).Begins [settings] := by
  show Sending.Begins _ ([] ++ ([] ++ ([settings] ++ [])))
  refine Sending.Begins.bind (fun _ => Attempt.begins_of_eq rfl) fun _ => ?_
  refine Sending.Begins.bind (fun _ => Attempt.begins_of_eq rfl) fun encoder => ?_
  refine Sending.Begins.bind (fun _ => Attempt.begins_of_eq rfl) fun begun => ?_
  exact sendAll_begins codec raster begun

namespace Session

variable {session : Session codec} {operation : Operation} {settings : EncoderSettings}

/-! ### What a session encodes -/

theorem Opens.begins {outcome : Outcome codec Metadata} (opens : session.Opens outcome) :
    settingsGiven outcome.trace.calls = [] := by
  cases opens with
  | refused misplaced => rfl
  | broken fresh error => rfl
  | empty fresh => rfl
  | unopened fresh source failed =>
    rw [calls_fail, Opened.read_calls]
    rfl
  | opened fresh source read =>
    rw [Opened.read_calls]
    rfl

theorem Decodes.begins {outcome : Outcome codec Unit} (decodes : session.Decodes outcome) :
    settingsGiven outcome.trace.calls = [] := by
  have quiet := (decodeHeld_begins session.memory session.decoder).within
  rw [List.prefix_nil] at quiet
  cases decodes with
  | refused misplaced => rfl
  | undecoded ready failed => rw [calls_fail, quiet]
  | decoded ready read => exact quiet

/-- Only an encoding begins one. -/
theorem perform_begins (session : Session codec) (other : operation.stage ≠ some .encoding) :
    settingsGiven (session.perform operation).trace.calls = [] := by
  cases operation with
  | openBytes source => exact (session.openBytes_opens source).begins
  | openReader source => exact (session.openReader_opens source).begins
  | decode => exact session.decode_decodes.begins
  | setTargetQuality quality =>
    exact congrArg settingsGiven (session.calls_setTargetQuality quality)
  | close => rfl
  | _ => exact absurd rfl other

/-- An operation that encodes does so with what the session holds. -/
theorem perform_encodes (session : Session codec) (staged : operation.stage = some .encoding) :
    ∃ sink, (session.perform operation).trace = (session.encode sink).1.trace ∧
      (session.perform operation).session = (session.encode sink).1.session ∧
      ∀ answer, (session.perform operation).result = .ok answer →
        (session.encode sink).1.result = .ok () := by
  cases operation with
  | encode sink =>
    refine ⟨sink, rfl, rfl, fun answer succeeded => ?_⟩
    obtain ⟨_, told, _⟩ := ok_of_map succeeded
    exact told
  | encodeToBytes =>
    refine ⟨.empty, rfl, rfl, fun answer succeeded => ?_⟩
    obtain ⟨_, told, _⟩ := ok_of_map succeeded
    obtain ⟨_, first, _⟩ := ok_of_map told
    exact first
  | _ => cases staged

/-- An encoding calls what the work on its sink calls, and no target is taken behind it. -/
theorem encode_calls (ready : session.state = .decoded) (sink : Sink) :
    (session.encode sink).1.trace.calls = (session.encodeHeld sink).1.trace.calls ∧
      State.encoded.rank ≤ (session.encode sink).1.session.state.rank ∧
      ((session.encode sink).1.result = .ok () → (session.encodeHeld sink).1.result = .ok ()) := by
  have encodes := session.encode_encodes sink
  generalize session.encode sink = outcome at encodes
  cases encodes with
  | refused misplaced => exact absurd ready misplaced
  | unencoded ready failed =>
    rw [failed]
    exact ⟨calls_fail session _ _, Nat.le_succ 3, nofun⟩
  | encoded ready sent =>
    rw [sent]
    exact ⟨rfl, Nat.le_refl 3, fun _ => rfl⟩

/-- A session that encodes is ready for it, and begins with what it holds and at its own quality. -/
theorem encodes_held (consistent : session.Consistent) (ready : session.state = .decoded) :
    ∃ settings : EncoderSettings, settings.quality = session.effectiveQuality ∧
      session.encodeHeld.Begins [settings] := by
  simp only [Consistent, ready] at consistent
  obtain ⟨_, _, geometry, raster, told, held, _⟩ := consistent
  refine ⟨⟨geometry, session.effectiveQuality, session.progressive, true⟩, rfl, ?_⟩
  rw [encodeHeld_eq told held]
  exact encodeRaster_begins _ raster

/-- An operation that begins to encode is asked of a decoded session, and does what the work on its
sink does. -/
theorem encodes_of_begun
    (begun : settings ∈ settingsGiven (session.perform operation).trace.calls) :
    session.state = .decoded ∧ ∃ sink,
      (session.perform operation).trace.calls = (session.encodeHeld sink).1.trace.calls ∧
      (session.perform operation).session = (session.encode sink).1.session ∧
      State.encoded.rank ≤ (session.perform operation).session.state.rank := by
  by_cases staged : operation.stage = some .encoding
  · by_cases ready : session.state = .decoded
    · obtain ⟨sink, trace, left, _⟩ := session.perform_encodes staged
      obtain ⟨calls, late, _⟩ := encode_calls ready sink
      refine ⟨ready, sink, ?_, left, ?_⟩
      · rw [trace, calls]
      · rw [left]
        exact late
    · rw [perform_misplaced staged ready] at begun
      cases begun
  · rw [session.perform_begins staged] at begun
    cases begun

end Session

/-! ### Over an engine -/

/-- Over an engine, an encoding begins at every quality from 1 to 100. -/
theorem Scanline.encodeRaster_begun {engine : Engine} {settings other : EncoderSettings}
    {answer : Except CodecError Unit} (valid : isValidQuality settings.quality = true)
    (raster : Raster) (sink : Sink)
    (begun : .beginEncode other answer ∈
      (encodeRaster (Scanline.codec engine memory) settings raster sink).1.trace.calls) :
    answer = .ok () := by
  have logged (text : String) : Sending.ofAttempt (Attempt.log .debug text) sink =
      (⟨[.logged ⟨.debug, text⟩], .ok ()⟩, sink) := rfl
  have created : Sending.createEncoder (Scanline.codec engine memory) sink =
      (⟨[.called (.createEncoder (.ok ()))], .ok Encoder.create⟩, sink) := rfl
  have began : Sending.beginEncode (Scanline.codec engine memory) Encoder.create settings sink =
      (⟨[.called (.beginEncode settings (.ok ()))], .ok (started engine memory settings)⟩,
        sink) := by
    simp only [Sending.beginEncode, beginEncode_valid valid]
    rfl
  rw [encodeRaster, Sending.bind_ok (logged _), Sending.bind_ok created,
    Sending.bind_ok began] at begun
  simp only [Trace.calls_append, List.mem_append] at begun
  rcases begun with none | none | same | later
  · cases none
  · cases List.mem_singleton.mp none
  · cases List.mem_singleton.mp same
    rfl
  · have rest := (sendAll_begins (Scanline.codec engine memory) raster
      (started engine memory settings) sink).within
    rw [List.prefix_nil] at rest
    have found : other ∈ settingsGiven _ := mem_settingsGiven_iff.mpr ⟨_, later⟩
    rw [rest] at found
    cases found

end JpegTranscoder
