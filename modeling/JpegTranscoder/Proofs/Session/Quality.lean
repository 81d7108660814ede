/-
**The quality that a session encodes at.**

A session encodes at the last target that was set in it, if that lies strictly between 0 and 100,
else at the estimate of its source, else at 75. What is asked for once it has encoded or ended comes
too late, and so does nothing:

* `after_target`: the target after a run is the last that was set in it;
* `Session.Keeps`: what a session keeps of its past, a step at a time and then after every run;
* `Session.quality_encoded`: the quality of every encoding of every run.
-/
import JpegTranscoder.Proofs.Session.Begun

namespace JpegTranscoder

variable {codec : Codec} {α : Type}

namespace Session

variable {session : Session codec} {operation : Operation} {settings : EncoderSettings}

/-! ### Targets -/

/-- The target that an operation sets: one from 1 to 100, before the session has encoded or
ended. -/
def targetSet (session : Session codec) : Operation → Option UInt8
  | .setTargetQuality quality =>
    if (session.state = .created ∨ session.state = .headerRead ∨ session.state = .decoded) ∧
        1 ≤ quality ∧ quality ≤ 100 then
      some quality
    else none
  | _ => none

/-- The targets that are set in a run, in order. -/
def targetsSet (session : Session codec) : List Operation → List UInt8
  | [] => []
  | operation :: rest =>
    (session.targetSet operation).toList ++ (session.perform operation).session.targetsSet rest

/-- The last target that is set in a run, or the one that the session began with. -/
def lastTarget (session : Session codec) (operations : List Operation) : UInt8 :=
  (session.targetsSet operations).getLast?.getD session.options.targetQuality

theorem takesTarget_iff (session : Session codec) :
    session.takesTarget = true ↔
      session.state = .created ∨ session.state = .headerRead ∨ session.state = .decoded := by
  simp only [takesTarget, Bool.or_eq_true, beq_iff_eq, or_assoc]

theorem targetSet_eq (session : Session codec) (quality : UInt8) :
    session.targetSet (.setTargetQuality quality) =
      if session.takesTarget = true ∧ isValidQuality quality = true then some quality
      else none := by
  simp only [targetSet, takesTarget_iff, isValidQuality, Bool.and_eq_true, decide_eq_true_eq]

/-- A request leaves the target that it sets, and otherwise the session as it was. -/
theorem Targets.session_eq {quality : UInt8} {outcome : Outcome codec Unit}
    (targets : session.Targets quality outcome) :
    outcome.session =
      (session.targetSet (.setTargetQuality quality)).elim session session.targeting := by
  rw [targetSet_eq]
  cases targets with
  | ignored vain record =>
    rw [if_neg vain]
    rfl
  | targeted takes valid =>
    rw [if_pos ⟨takes, valid⟩]
    rfl

/-- What is asked for in vain changes nothing. -/
theorem setTargetQuality_ignored {quality : UInt8}
    (vain : session.targetSet (.setTargetQuality quality) = none) :
    (session.setTargetQuality quality).session = session := by
  rw [(session.setTargetQuality_targets quality).session_eq, vain]
  rfl

/-! ### What is kept by all but one -/

theorem Opens.options_eq {outcome : Outcome codec Metadata} (opens : session.Opens outcome) :
    outcome.session.options = session.options := by
  cases opens with
  | _ => rfl

theorem Decodes.keeps {outcome : Outcome codec Unit} (decodes : session.Decodes outcome) :
    outcome.session.options = session.options ∧ outcome.session.metadata = session.metadata := by
  cases decodes with
  | _ => exact ⟨rfl, rfl⟩

theorem Encodes.keeps {sink : Sink} {outcome : Outcome codec Unit × Sink}
    (encodes : session.Encodes sink outcome) :
    outcome.1.session.options = session.options ∧
      outcome.1.session.metadata = session.metadata := by
  cases encodes with
  | _ => exact ⟨rfl, rfl⟩

/-- Only a request for a target changes the options. -/
theorem perform_options (session : Session codec)
    (other : ∀ quality, operation ≠ .setTargetQuality quality) :
    (session.perform operation).session.options = session.options := by
  cases operation with
  | openBytes source => exact (session.openBytes_opens source).options_eq
  | openReader source => exact (session.openReader_opens source).options_eq
  | decode => exact session.decode_decodes.keeps.1
  | encode sink => exact (session.encode_encodes sink).keeps.1
  | encodeToBytes => exact (session.encode_encodes .empty).keeps.1
  | setTargetQuality quality => exact absurd rfl (other quality)
  | close => rfl

/-- An operation leaves the target that it sets, or else the one before. -/
theorem perform_target (session : Session codec) (operation : Operation) :
    (session.perform operation).session.options.targetQuality =
      (session.targetSet operation).getD session.options.targetQuality := by
  cases operation with
  | setTargetQuality quality =>
    show (session.setTargetQuality quality).session.options.targetQuality = _
    rw [(session.setTargetQuality_targets quality).session_eq]
    cases session.targetSet (.setTargetQuality quality) with
    | none => rfl
    | some target => rfl
  | _ =>
    refine congrArg Options.targetQuality (session.perform_options ?_)
    rintro quality ⟨⟩

/-- **The target after a run is the last that was set in it.** -/
theorem after_target (session : Session codec) (operations : List Operation) :
    (session.after operations).options.targetQuality = session.lastTarget operations := by
  induction operations generalizing session with
  | nil => rfl
  | cons operation rest ih =>
    show ((session.perform operation).session.after rest).options.targetQuality = _
    rw [ih, lastTarget, lastTarget, perform_target, targetsSet, List.getLast?_append]
    cases ((session.perform operation).session.targetsSet rest).getLast? with
    | none => cases session.targetSet operation <;> rfl
    | some target => rfl

/-! ### What is learned of the source -/

/-- What an operation tells of the source is as before, or the codec has read it in the
operation. -/
def Learns (session : Session codec) (outcome : Outcome codec α) : Prop :=
  outcome.session.metadata = session.metadata ∨
    ∃ source header, .readHeader source (.ok header) ∈ outcome.trace.calls ∧
      outcome.session.metadata = some ⟨header.width, header.height, header.quality⟩

theorem Opens.learns {outcome : Outcome codec Metadata} (opens : session.Opens outcome) :
    session.Learns outcome := by
  cases opens with
  | opened fresh source read =>
    obtain ⟨decoder, header, answered, _, _, rfl⟩ := Opened.read_eq_ok_iff.mp read
    refine .inr ⟨source, header, ?_, rfl⟩
    rw [Opened.read_calls, answered]
    exact List.mem_singleton.mpr rfl
  | _ => exact .inl rfl

theorem perform_learns (session : Session codec) (operation : Operation) :
    session.Learns (session.perform operation) := by
  cases operation with
  | openBytes source => exact (session.openBytes_opens source).learns
  | openReader source => exact (session.openReader_opens source).learns
  | decode => exact .inl session.decode_decodes.keeps.2
  | encode sink => exact .inl (session.encode_encodes sink).keeps.2
  | encodeToBytes => exact .inl (session.encode_encodes .empty).keeps.2
  | setTargetQuality quality =>
    refine .inl ?_
    show (session.setTargetQuality quality).session.metadata = session.metadata
    rw [(session.setTargetQuality_targets quality).session_eq]
    cases session.targetSet (.setTargetQuality quality) with
    | none => rfl
    | some target => rfl
  | close => exact .inl rfl

/-! ### What is kept -/

/-- Once a session has encoded or ended, nothing changes its quality. -/
theorem quality_late (late : State.encoded.rank ≤ session.state.rank) (operation : Operation) :
    (session.perform operation).session.metadata = session.metadata ∧
      (session.perform operation).session.effectiveQuality = session.effectiveQuality := by
  have change := session.perform_change operation
  generalize (session.perform operation).session = next at change
  have early {state : State} (reached : session.state = state)
      (before : state.rank < State.encoded.rank) : False := by
    rw [reached] at late
    exact Nat.not_lt.mpr late before
  cases change with
  | none => exact ⟨rfl, rfl⟩
  | opened source opened fresh read => exact (early fresh (by decide)).elim
  | unopened length fresh => exact (early fresh (by decide)).elim
  | decoded geometry raster ready read => exact (early ready (by decide)).elim
  | undecoded ready => exact (early ready (by decide)).elim
  | encoded ready => exact (early ready (by decide)).elim
  | unencoded ready => exact (early ready (by decide)).elim
  | targeted quality takes valid =>
    rcases (takesTarget_iff session).mp takes with reached | reached | reached
    · exact (early reached (by decide)).elim
    · exact (early reached (by decide)).elim
    · exact (early reached (by decide)).elim
  | closed => exact ⟨rfl, rfl⟩

/-- A session has learned of its source what the codec read in its past, and it has the quality that
was encoded at in its past. -/
structure Keeps (past : Trace) (session : Session codec) : Prop where
  consistent : session.Consistent
  learned : ∀ {metadata}, session.metadata = some metadata →
    ∃ source header, .readHeader source (.ok header) ∈ past.calls ∧
      metadata = ⟨header.width, header.height, header.quality⟩
  encoded : ∀ {settings}, settings ∈ settingsGiven past.calls →
    (∃ metadata, session.metadata = some metadata) ∧
      State.encoded.rank ≤ session.state.rank ∧ settings.quality = session.effectiveQuality

theorem keeps_create (memory : Memory) (options : Options) :
    Keeps [] (create codec memory options) :=
  ⟨consistent_create memory options, nofun, nofun⟩

/-- **Every operation keeps it.** -/
theorem Keeps.perform {past : Trace} (keeps : Keeps past session) (operation : Operation) :
    Keeps (past ++ (session.perform operation).trace) (session.perform operation).session := by
  obtain ⟨consistent, learned, encoded⟩ := keeps
  refine ⟨consistent_change consistent (session.perform_change operation), ?_, ?_⟩
  · intro metadata known
    rw [Trace.calls_append]
    rcases session.perform_learns operation with same | ⟨source, header, read, told⟩
    · rw [same] at known
      obtain ⟨source, header, read, rfl⟩ := learned known
      exact ⟨source, header, List.mem_append_left _ read, rfl⟩
    · rw [told] at known
      cases known
      exact ⟨source, header, List.mem_append_right _ read, rfl⟩
  · intro settings begun
    rw [Trace.calls_append, settingsGiven_append, List.mem_append] at begun
    rcases begun with before | now
    · obtain ⟨⟨metadata, known⟩, late, quality⟩ := encoded before
      obtain ⟨same, kept⟩ := quality_late late operation
      refine ⟨⟨metadata, same.trans known⟩, ?_, quality.trans kept.symm⟩
      exact Nat.le_trans late (session.rank_le_perform operation)
    · obtain ⟨ready, sink, calls, left, late⟩ := encodes_of_begun now
      obtain ⟨own, quality, begins⟩ := encodes_held consistent ready
      obtain ⟨sameOptions, sameMetadata⟩ := (session.encode_encodes sink).keeps
      rw [calls] at now
      cases List.mem_singleton.mp ((begins sink).within.subset now)
      simp only [Consistent, ready] at consistent
      obtain ⟨⟨metadata, known⟩, _⟩ := consistent
      refine ⟨⟨metadata, ?_⟩, late, ?_⟩
      · rw [left, sameMetadata, known]
      · rw [quality, left, effectiveQuality, effectiveQuality, sameOptions, sameMetadata]

theorem keeps_after (codec : Codec) (memory : Memory) (options : Options)
    (operations : List Operation) :
    Keeps ((create codec memory options).history operations)
      ((create codec memory options).after operations) :=
  history_induction Keeps.perform (keeps_create memory options) operations

/-- The quality of a session is one. -/
theorem Keeps.valid {past : Trace} (keeps : Keeps past session) :
    isValidQuality session.effectiveQuality = true := by
  cases known : session.metadata with
  | none =>
    have unknown : session.effectiveQuality = session.options.qualityFor ⟨0, 0, 0⟩ := by
      rw [effectiveQuality, known]
      rfl
    rw [unknown]
    exact session.options.qualityFor_valid (Nat.zero_le 100)
  | some metadata =>
    obtain ⟨_, header, _, rfl⟩ := keeps.learned known
    rw [effectiveQuality_eq known]
    exact session.options.qualityFor_valid header.quality_le

/-- Over an engine, a session is never refused the quality that it begins to encode at. -/
theorem begun_answered (engine : Engine) (memory : Memory) (options : Options)
    (operations : List Operation) {settings : EncoderSettings} {answer : Except CodecError Unit}
    (begun : .beginEncode settings answer ∈
      ((create (Scanline.codec engine memory) memory options).history operations).calls) :
    answer = .ok () := by
  let holds (past : Trace) (session : Session (Scanline.codec engine memory)) : Prop :=
    Keeps past session ∧ ∀ settings answer, .beginEncode settings answer ∈ past.calls →
      answer = .ok ()
  have step {past : Trace} {session : Session (Scanline.codec engine memory)}
      (before : holds past session) (operation : Operation) :
      holds (past ++ (session.perform operation).trace) (session.perform operation).session := by
    refine ⟨before.1.perform operation, fun settings answer called => ?_⟩
    rw [Trace.calls_append, List.mem_append] at called
    rcases called with earlier | now
    · exact before.2 settings answer earlier
    · have given : settings ∈ settingsGiven (session.perform operation).trace.calls :=
        mem_settingsGiven_iff.mpr ⟨answer, now⟩
      obtain ⟨ready, sink, calls, _⟩ := encodes_of_begun given
      have consistent := before.1.consistent
      simp only [Consistent, ready] at consistent
      obtain ⟨_, _, geometry, raster, told, held, _⟩ := consistent
      rw [calls, encodeHeld_eq told held] at now
      exact Scanline.encodeRaster_begun before.1.valid raster sink now
  have start : holds [] (create (Scanline.codec engine memory) memory options) :=
    ⟨keeps_create memory options, fun _ _ called => absurd called List.not_mem_nil⟩
  exact (history_induction step start operations).2 settings answer begun

/-! ### All runs -/

/-- **The quality that a session encodes at**, in every run of every codec. Whenever it begins to
encode, it does so at the last target that was set in the run, if that is one from 1 to 99, else at
the estimate of the header that the codec read, else at 75; and that stays its quality whatever is
asked of it later. A target that is asked for in vain changes nothing at all. Its quality is always
one from 1 to 100, which no encoder over an engine refuses, and an encoding that succeeds began at
the quality that the session had before. -/
theorem quality_encoded (codec : Codec) (memory : Memory) (options : Options)
    (operations : List Operation) :
    let start := create codec memory options
    let session := start.after operations
    let target := start.lastTarget operations
    (∀ settings answer, .beginEncode settings answer ∈ (start.history operations).calls →
      (∃ source header, .readHeader source (.ok header) ∈ (start.history operations).calls ∧
        settings.quality =
          if 1 ≤ target ∧ target ≤ 99 then target
          else if header.quality ≠ 0 then header.quality
          else 75) ∧
      ∀ later, (session.after later).effectiveQuality = settings.quality) ∧
    (∀ quality, session.targetSet (.setTargetQuality quality) = none →
      (session.perform (.setTargetQuality quality)).session = session) ∧
    (1 ≤ session.effectiveQuality ∧ session.effectiveQuality ≤ 100) ∧
    (∀ encoder settings, settings.quality = session.effectiveQuality →
      (Scanline.Encoder.begin encoder settings).1 ≠ .error (.qualityRange settings.quality)) ∧
    (∀ engine settings answer, .beginEncode settings answer ∈
        ((create (Scanline.codec engine memory) memory options).history operations).calls →
      answer = .ok ()) ∧
    ∀ encoding answer, encoding.stage = some .encoding →
      (session.perform encoding).result = .ok answer →
      ∃ settings, settingsGiven (session.perform encoding).trace.calls = [settings] ∧
        settings.quality = session.effectiveQuality := by
  intro start session target
  have keeps : Keeps (start.history operations) session :=
    keeps_after codec memory options operations
  have valid := keeps.valid
  refine ⟨fun settings answer called => ⟨?_, fun later => ?_⟩, ?_, ?_, ?_, ?_, ?_⟩
  · have begun : settings ∈ settingsGiven (start.history operations).calls :=
      mem_settingsGiven_iff.mpr ⟨answer, called⟩
    obtain ⟨⟨metadata, known⟩, _, quality⟩ := keeps.encoded begun
    obtain ⟨source, header, read, rfl⟩ := keeps.learned known
    have set : session.options.targetQuality = target := start.after_target operations
    refine ⟨source, header, read, ?_⟩
    rw [quality, effectiveQuality_eq known, Options.qualityFor_eq, set]
  · -- Seen from the end of the longer run, the settings were begun with in its past.
    have longer := keeps_after codec memory options (operations ++ later)
    rw [history_append, after_append] at longer
    refine (longer.encoded ?_).2.2.symm
    rw [Trace.calls_append, settingsGiven_append]
    exact List.mem_append_left _ (mem_settingsGiven_iff.mpr ⟨answer, called⟩)
  · exact fun quality vain => setTargetQuality_ignored vain
  · rw [isValidQuality, Bool.and_eq_true, decide_eq_true_eq, decide_eq_true_eq] at valid
    exact valid
  · intro encoder settings same
    unfold Scanline.Encoder.begin
    rw [same, valid]
    split
    · intro refused
      cases refused
    · intro refused
      cases refused
  · exact fun engine settings answer => begun_answered engine memory options operations
  · intro encoding answer staged succeeded
    by_cases ready : session.state = .decoded
    · obtain ⟨sink, trace, _, told⟩ := session.perform_encodes staged
      obtain ⟨calls, _, whole⟩ := encode_calls ready sink
      obtain ⟨settings, quality, begins⟩ := encodes_held keeps.consistent ready
      refine ⟨settings, ?_, quality⟩
      rw [trace, calls]
      exact (begins sink).whole (whole (told answer succeeded))
    · rw [perform_misplaced staged ready] at succeeded
      cases succeeded

/-- A source of quality 87 in a session that began with a target of 200: targets of 40 and 100 are
set, those of 150 and 0 are not, and those of 30 and 20 come too late. -/
theorem quality_encoded_among_requests :
    let table : Quant.Table := ⟨Vector.replicate 64 16⟩
    let header : Header := ⟨2, 2, 1, false, #v[some table, none, none, none]⟩
    let codec := Scripted.codec (faultless header ⟨2, 2, .gray⟩)
    let start := create codec (.below 100) ⟨200, false⟩
    let before : List Operation :=
      [.setTargetQuality 40, .openBytes [0xFF], .setTargetQuality 150, .setTargetQuality 100,
        .decode, .setTargetQuality 0]
    let operations := before ++ [.encodeToBytes, .setTargetQuality 30, .close]
    let session := start.after operations
    let calls := (start.history operations).calls
    start.targetsSet operations = [40, 100] ∧
      settingsGiven calls = [⟨⟨2, 2, .gray⟩, 87, false, true⟩] ∧
      (∃ source header, .readHeader source (.ok header) ∈ calls ∧
        87 = if header.quality ≠ 0 then header.quality else 75) ∧
      (∀ later, (session.after later).effectiveQuality = 87) ∧
      (session.perform (.setTargetQuality 20)).session = session ∧
      ∃ settings,
        settingsGiven ((start.after before).perform .encodeToBytes).trace.calls = [settings] ∧
        settings.quality = (start.after before).effectiveQuality := by
  intro table header codec start before operations session calls
  have targets : start.targetsSet operations = [40, 100] := by decide +kernel
  have last : start.lastTarget operations = 100 := by rw [lastTarget, targets]; rfl
  have begun : settingsGiven calls = [⟨⟨2, 2, .gray⟩, 87, false, true⟩] := by decide +kernel
  have vain : session.targetSet (.setTargetQuality 20) = none := by decide +kernel
  have finished : ((start.after before).perform .encodeToBytes).result.isOk = true := by
    decide +kernel
  obtain ⟨answer, called⟩ := mem_settingsGiven_iff.mp (begun ▸ List.mem_singleton.mpr rfl)
  obtain ⟨encoded, ignored, _⟩ := quality_encoded codec (.below 100) ⟨200, false⟩ operations
  obtain ⟨_, _, _, _, _, succeeds⟩ := quality_encoded codec (.below 100) ⟨200, false⟩ before
  obtain ⟨⟨source, header, read, quality⟩, kept⟩ := encoded _ answer called
  obtain ⟨written, told⟩ := ok_of_isOk finished
  rw [last, if_neg (by decide)] at quality
  exact ⟨targets, begun, ⟨source, header, read, quality⟩, kept, ignored 20 vain,
    succeeds .encodeToBytes written rfl told⟩

end Session

end JpegTranscoder
