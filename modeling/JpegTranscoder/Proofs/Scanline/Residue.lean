/-
**What failed calls leave in a sink.**

A call that brings the last rows of a frame writes its encoding, and may be stopped on the way; what
the sink had taken by then stays there. A frame is finished behind it:

* `run_finishes`: what a run leaves that ends with an encoded frame;
* `finish_ok_accepted`: what a sink has accepted when encoding ends, and when that is the frame
  alone.
-/
import JpegTranscoder.Proofs.Scanline.Retry
import JpegTranscoder.Proofs.Scanline.Runs

namespace JpegTranscoder.Scanline.Encoder

variable {engine : Engine} {memory : Memory} {settings : EncoderSettings} {encoder : Encoder}
  {sink after : Sink} {content : Bytes} {taken : Nat} {frame : Frame.Samples settings.geometry}

/-- A call offered the whole frame, and its sink stopped it at the start of the encoding. -/
structure Call.Abandons (engine : Engine) (settings : EncoderSettings) (call : Call) : Prop where
  stopped : ∃ error, call.answer = .error (.sink error)
  begun : ∃ frame : Frame.Samples settings.geometry,
    frame.val = call.rows.take settings.geometry.byteCount ∧
    call.residue <+: engine.encode settings frame ∧ call.residue ≠ engine.encode settings frame

/-- What a run leaves that encodes a frame of which the first rows are staged. -/
structure Finishes (engine : Engine) (settings : EncoderSettings) (content : Bytes) (sink : Sink)
    (run : Run) (frame : Frame.Samples settings.geometry) : Prop where
  rows_eq : frame.val = content ++ run.calls.flatMap Call.accepted
  sink_eq : run.sink.accepted =
    sink.accepted ++ run.calls.flatMap Call.residue ++ engine.encode settings frame
  abandons : ∀ call ∈ run.calls, call.residue ≠ [] → call.Abandons engine settings

theorem Finishes.cons {grown : Bytes} {rest : Run} {call : Call}
    (finishes : Finishes engine settings grown after rest frame)
    (brought : grown = content ++ call.accepted)
    (took : after.accepted = sink.accepted ++ call.residue)
    (abandons : call.residue ≠ [] → call.Abandons engine settings) :
    Finishes engine settings content sink (.cons call rest) frame := by
  refine ⟨?_, ?_, List.forall_mem_cons.mpr ⟨abandons, finishes.abandons⟩⟩
  · show _ = content ++ (call :: rest.calls).flatMap Call.accepted
    rw [List.flatMap_cons, ← List.append_assoc, ← brought]
    exact finishes.rows_eq
  · show rest.sink.accepted = sink.accepted ++ (call :: rest.calls).flatMap Call.residue ++ _
    rw [List.flatMap_cons, ← List.append_assoc, ← took]
    exact finishes.sink_eq

/-- When the sink takes the frame, what follows adds nothing. -/
theorem finishes_encoded {rows : Bytes} {stride count : Nat} (wide : 0 < settings.geometry.stride)
    (brought : frame.val = content ++ rows.take (count * stride))
    (wrote : sink.writeAll (engine.encode settings frame) = (.ok (), after))
    (outcome : write engine memory ⟨some settings, content, taken, false⟩ rows stride sink =
      (.ok count, ⟨some settings, [], settings.geometry.rows, true⟩, after))
    (later : List Block) :
    Finishes engine settings content sink
      (run engine ⟨some settings, content, taken, false⟩ sink (⟨rows, stride, memory⟩ :: later))
      frame := by
  obtain ⟨written, _, took, _, all⟩ := sink.writeAll_takes (engine.encode settings frame)
  rw [wrote] at took all
  obtain rfl : written = engine.encode settings frame := all.mp rfl
  obtain ⟨_, same, idle⟩ := run_complete engine wide later after
  have noRows := List.flatMap_eq_nil_iff.mpr fun call member => (idle call member).1
  have noResidue := List.flatMap_eq_nil_iff.mpr fun call member => (idle call member).2
  rw [run_cons outcome took]
  refine ⟨?_, ?_, List.forall_mem_cons.mpr ⟨absurd rfl, fun call member some =>
    absurd (idle call member).2 some⟩⟩
  · show frame.val = content ++ (rows.take (count * stride) ++ List.flatMap _ _)
    rw [noRows, List.append_nil]
    exact brought
  · show (run engine ⟨some settings, [], settings.geometry.rows, true⟩ after later).sink.accepted =
      sink.accepted ++ ([] ++ List.flatMap _ _) ++ _
    rw [noResidue, same, took]
    simp only [List.append_nil]

/-- **A run that ends with an encoded frame writes it behind what its failed calls left.** -/
theorem run_finishes (wide : 0 < settings.geometry.stride) (blocks : List Block)
    (short : taken < settings.geometry.rows)
    (whole : content.length = taken * settings.geometry.stride) (sink : Sink)
    (finished : (run engine ⟨some settings, content, taken, false⟩ sink blocks).encoder.encoded =
      true) :
    ∃ frame, Finishes engine settings content sink
      (run engine ⟨some settings, content, taken, false⟩ sink blocks) frame := by
  induction blocks generalizing sink content taken with
  | nil => cases finished
  | cons block later ih =>
    obtain ⟨rows, stride, memory⟩ := block
    have nothing : sink.accepted = sink.accepted ++ [] := (List.append_nil _).symm
    have sound : Sound settings ⟨some settings, content, taken, false⟩ :=
      .waiting short (Nat.le_of_eq whole)
    cases sound.turn wide engine memory rows stride sink with
    | refused other outcome silent
    | starved count brings more full outcome silent =>
      rw [run_cons outcome nothing] at finished ⊢
      obtain ⟨frame, finishes⟩ := ih short whole sink finished
      exact ⟨frame, finishes.cons (List.append_nil _).symm nothing (absurd rfl)⟩
    | kept count brings due outcome silent =>
      rw [run_cons outcome nothing] at finished ⊢
      -- what is staged grows by the rows whose acceptance is told
      have grown : (content ++ rows.take (count * stride)).length =
          (taken + count) * settings.geometry.stride := by
        rw [List.length_append, brings.length, whole, brings.stride_eq, Nat.add_mul]
      obtain ⟨frame, finishes⟩ := ih (due short) grown sink finished
      exact ⟨frame, finishes.cons rfl nothing (absurd rfl)⟩
    | completed count completes ending =>
      cases ending with
      | encoded frame after brought wrote outcome =>
        exact ⟨frame, finishes_encoded wide brought wrote outcome later⟩
      | stopped frame error after brought wrote outcome =>
        obtain ⟨written, before, took, _, all⟩ := sink.writeAll_takes (engine.encode settings frame)
        rw [wrote] at took all
        rw [run_cons outcome took] at finished ⊢
        rcases Nat.eq_zero_or_pos taken with rfl | some
        · -- nothing was staged, so the encoder is as it was
          obtain rfl : content = [] := by
            rw [Nat.zero_mul] at whole
            exact List.eq_nil_of_length_eq_zero whole
          have every : count = settings.geometry.rows :=
            (Nat.zero_add count).symm.trans completes.last
          rw [every, completes.stride_eq] at brought
          obtain ⟨last, finishes⟩ := ih short whole after finished
          refine ⟨last, finishes.cons rfl took fun _ => ⟨⟨error, rfl⟩, frame, brought, before, ?_⟩⟩
          intro same
          cases all.mpr same
        · have lossy := (completes.lossy sound wide some).reaches wide
            (run_reaches engine later _ after)
          rw [show (Run.cons _ _).encoder.encoded = false from lossy.unfinished] at finished
          cases finished
      | lacking lost outcome =>
        rw [completes.stride_eq] at lost
        exact absurd whole (Nat.ne_of_lt lost)

/-- **What a sink holds when encoding ends**, whatever faults it had, whichever calls found no
memory, and however often failed calls were made again: what each failed call had left, and then the
frame of the rows whose acceptance was told. Only calls that offered the whole frame leave
something, and the frame stands alone if and only if none of them does. -/
theorem finish_ok_accepted (wide : settings.geometry.width ≠ 0)
    (high : settings.geometry.height ≠ 0) {begun : Encoder}
    (began : create.begin settings = (.ok (), begun)) (blocks : List Block)
    (finished : (begun.run engine sink blocks).encoder.finish (begun.run engine sink blocks).sink =
      (.ok (), after)) :
    let calls := (begun.run engine sink blocks).calls
    ∃ frame : Frame.Samples settings.geometry,
      frame.val = calls.flatMap Call.accepted ∧
      after.accepted =
        sink.accepted ++ calls.flatMap Call.residue ++ engine.encode settings frame ∧
      (∀ call ∈ calls, call.residue ≠ [] → call.Abandons engine settings) ∧
      (after.accepted = sink.accepted ++ engine.encode settings frame ↔
        ∀ call ∈ calls, call.residue = []) := by
  intro calls
  obtain ⟨_, rfl⟩ := begin_eq_ok_iff.mp began
  obtain ⟨encoded, _, flushed⟩ := finish_eq_ok_iff.mp finished
  have none : ([] : Bytes).length = 0 * settings.geometry.stride := (Nat.zero_mul _).symm
  obtain ⟨frame, finishes⟩ := run_finishes (Geometry.stride_pos wide) blocks
    (Geometry.rows_pos high) none sink encoded
  have accepted : after.accepted =
      sink.accepted ++ calls.flatMap Call.residue ++ engine.encode settings frame := by
    rw [flushed]
    exact finishes.sink_eq
  refine ⟨frame, finishes.rows_eq, accepted, finishes.abandons, ?_⟩
  rw [accepted, List.append_cancel_right_eq, List.append_right_eq_self, List.flatMap_eq_nil_iff]

/-! ### A block that is offered twice -/

/-- The samples of the block. -/
def blockFrame : Frame.Samples blockSettings.geometry := ⟨graySamples 64, rfl⟩

/-- The block is offered to a sink that fails once, at an offset, and offered again behind what the
sink has taken. -/
def blockRun (offset : Nat) : Run :=
  (fresh blockSettings).run Dct.engine (failingAt offset)
    [⟨graySamples 64, 8, .below 65⟩, ⟨graySamples 64, 8, .below 65⟩]

theorem blockRun_calls (offset : Nat) (early : offset < 2) :
    let encoding := Dct.engine.encode blockSettings blockFrame
    let rows := graySamples 64
    (blockRun offset).calls =
        [⟨rows, 8, .error (.sink pipeClosed), some rows, encoding.take offset⟩,
          ⟨rows, 8, .ok 8, some rows, encoding⟩] ∧
      (blockRun offset).sink.accepted = encoding.take offset ++ encoding ∧
      ∃ after, (blockRun offset).encoder.finish (blockRun offset).sink = (.ok (), after) ∧
        after.accepted = (blockRun offset).sink.accepted := by
  intro encoding rows
  have sound : Sound blockSettings (fresh blockSettings) := sound_fresh (by decide)
  have completes : Completes (.below 65) blockSettings (fresh blockSettings) rows 8 8 :=
    ⟨⟨rfl, by decide⟩, by decide, by decide, .inl ⟨rfl, rfl⟩⟩
  have handed : (fresh blockSettings).handed (.below 65) rows 8 = some rows :=
    completes.handed_eq rfl
  let after : Sink := { Sink.empty.accept (encoding.take offset) with faults := [] }
  have left : after.accepted = (failingAt offset).accepted ++ encoding.take offset :=
    (failingAt offset).accepted_accept _
  have reliable : after.Reliable := ⟨fun _ => nofun, nofun, rfl⟩
  obtain ⟨last, wrote, took, _, still⟩ := reliable.writeAll_ok encoding
  have stopped : (fresh blockSettings).write Dct.engine (.below 65) rows 8 (failingAt offset) =
      (.error (.sink pipeClosed), fresh blockSettings, after) := by
    rw [completes.write_frame sound (by decide) Dct.engine _ blockFrame rfl,
      failingAt_encode blockFrame early]
    rfl
  have taken : (fresh blockSettings).write Dct.engine (.below 65) rows 8 after =
      (.ok 8, ⟨some blockSettings, [], 8, true⟩, last) := by
    rw [completes.write_frame sound (by decide) Dct.engine _ blockFrame rfl, wrote]
    rfl
  have ran : blockRun offset =
      .cons ⟨rows, 8, .error (.sink pipeClosed), some rows, encoding.take offset⟩
        (.cons ⟨rows, 8, .ok 8, some rows, encoding⟩
          ⟨[], ⟨some blockSettings, [], 8, true⟩, last⟩) := by
    rw [← handed]
    exact (run_cons stopped left _).trans (congrArg _ (run_cons taken took _))
  rw [ran]
  refine ⟨rfl, ?_, { last with flushes := last.flushes + 1 },
    finish_eq_ok_iff.mpr ⟨rfl, still.flushError_eq, rfl⟩, rfl⟩
  show last.accepted = _
  rw [took, left, failingAt_accepted, List.nil_append]

/-- A sink that fails before its first byte holds the block alone. -/
theorem finish_ok_accepted_block :
    create.begin blockSettings = (.ok (), fresh blockSettings) ∧
      ∃ after, (blockRun 0).encoder.finish (blockRun 0).sink = (.ok (), after) ∧
        after.accepted = Dct.engine.encode blockSettings blockFrame := by
  have began : create.begin blockSettings = (.ok (), fresh blockSettings) :=
    begin_eq_ok_iff.mpr ⟨rfl, rfl⟩
  obtain ⟨calls_eq, _, after, finished, _⟩ := blockRun_calls 0 (by decide)
  obtain ⟨frame, rows_eq, _, _, alone⟩ :=
    finish_ok_accepted (by decide) (by decide) began _ finished
  rw [← blockRun, calls_eq] at rows_eq alone
  rw [failingAt_accepted, List.nil_append] at alone
  obtain rfl : frame = blockFrame := Subtype.ext rows_eq
  refine ⟨began, after, finished, alone.mpr ?_⟩
  simp [Call.residue]

/-- **What a failed call has left stays before the frame**: a sink that fails behind the first byte
of the block holds that byte, and then the block that is offered again. -/
theorem finish_ok_accepted_torn_block :
    create.begin blockSettings = (.ok (), fresh blockSettings) ∧
      (blockRun 1).calls.flatMap Call.accepted = blockFrame.val ∧
      ∃ after, (blockRun 1).encoder.finish (blockRun 1).sink = (.ok (), after) ∧
        after.accepted = 0xFF :: Dct.engine.encode blockSettings blockFrame ∧
        ∀ frame : Frame.Samples blockSettings.geometry,
          frame.val = (blockRun 1).calls.flatMap Call.accepted →
          after.accepted ≠ Dct.engine.encode blockSettings frame := by
  obtain ⟨calls_eq, taken, after, finished, accepted⟩ := blockRun_calls 1 (by decide)
  have rows_eq : (blockRun 1).calls.flatMap Call.accepted = blockFrame.val := by
    rw [calls_eq]
    rfl
  have torn : after.accepted = 0xFF :: Dct.engine.encode blockSettings blockFrame :=
    accepted.trans taken
  refine ⟨begin_eq_ok_iff.mpr ⟨rfl, rfl⟩, rows_eq, after, finished, torn, ?_⟩
  intro frame same
  obtain rfl : frame = blockFrame := Subtype.ext (same.trans rows_eq)
  rw [torn]
  exact List.cons_ne_self _ _

end JpegTranscoder.Scanline.Encoder
