/-
**Rows that an encoder is given.**

A call offers rows to an encoder, which stages them until the frame has all of its rows, and then
hands it to the engine. A frame that is offered whole at once comes to the same, and takes no memory
to be staged; without memory other rows are refused, and nothing changes:

* `Sound.turn`: what a call can come to;
* `Completes.ending`: how a call ends that brings the last rows;
* `Completes.write_frame`: the frame that it hands to the engine, if no rows are lost.
-/
import JpegTranscoder.Proofs.Scanline.Frame
import JpegTranscoder.Proofs.Scanline.Rows
import JpegTranscoder.Proofs.Sink

namespace JpegTranscoder.Scanline.Encoder

variable {engine : Engine} {memory : Memory} {settings : EncoderSettings} {encoder : Encoder}
  {sink : Sink} {rows staged content : Bytes} {stride taken count : Nat}

/-- The encoder of a frame, after encoding has begun. -/
def fresh (settings : EncoderSettings) : Encoder := ⟨some settings, [], 0, false⟩

theorem begin_eq_ok_iff : create.begin settings = (.ok (), encoder) ↔
    isValidQuality settings.quality = true ∧ encoder = fresh settings := by
  have idle : create.settings.isSome = false := rfl
  rw [begin, idle, if_neg Bool.false_ne_true]
  split
  · rename_i valid
    rw [Prod.mk.injEq]
    constructor
    · rintro ⟨_, same⟩
      exact ⟨valid, same.symm⟩
    · rintro ⟨_, same⟩
      exact ⟨rfl, same.symm⟩
  · rename_i invalid
    constructor
    · intro begins
      cases begins
    · rintro ⟨valid, _⟩
      exact absurd valid invalid

/-- Encoding ends once the frame is encoded, with one flush that the sink has to allow. -/
theorem finish_eq_ok_iff {after : Sink} : encoder.finish sink = (.ok (), after) ↔
    encoder.encoded = true ∧ sink.flushError = none ∧
      after = { sink with flushes := sink.flushes + 1 } := by
  rw [finish]
  split
  · rename_i encoded
    unfold Sink.flush
    constructor
    · intro ended
      cases known : sink.flushError with
      | none =>
        rw [known] at ended
        exact ⟨encoded, rfl, (congrArg Prod.snd ended).symm⟩
      | some error =>
        rw [known] at ended
        cases congrArg Prod.fst ended
    · rintro ⟨_, allowed, rfl⟩
      rw [allowed]
      rfl
  · rename_i unfinished
    constructor
    · intro ended
      cases ended
    · rintro ⟨encoded, _⟩
      exact absurd encoded unfinished

/-! ### One call -/

/-- There is room for the rows of a call: they are the whole frame, or rows are staged already, or
there is memory to stage the frame. -/
def Holds (memory : Memory) (settings : EncoderSettings) (encoder : Encoder) (count : Nat) : Prop :=
  (encoder.rowsWritten = 0 ∧ count = settings.geometry.rows) ∨
    encoder.hasRoom memory settings = true

instance (memory : Memory) (settings : EncoderSettings) (encoder : Encoder) (count : Nat) :
    Decidable (Holds memory settings encoder count) :=
  inferInstanceAs (Decidable (_ ∨ _))

/-- What a call hands to the engine: the rows of the frame, when it brings the last of them. -/
def handed (memory : Memory) (encoder : Encoder) (rows : Bytes) (stride : Nat) : Option Bytes :=
  encoder.settings.bind fun settings =>
    let count := settings.geometry.rowsIn rows encoder.rowsWritten
    if stride = settings.geometry.stride ∧ count ≠ 0 ∧
        encoder.rowsWritten + count = settings.geometry.rows ∧
        Holds memory settings encoder count then
      some (encoder.staged ++ rows.take (count * stride))
    else none

theorem write_refused (engine : Engine) (memory : Memory) (sink : Sink)
    (known : encoder.settings = some settings) (other : stride ≠ settings.geometry.stride) :
    encoder.write engine memory rows stride sink =
        (.error (.strideMismatch stride settings.geometry.stride), encoder, sink) ∧
      encoder.handed memory rows stride = none := by
  rw [write, handed, known]
  exact ⟨if_pos other, if_neg fun last => other last.1⟩

theorem write_rows (known : encoder.settings = some settings) (wide : 0 < settings.geometry.stride)
    (counted : settings.geometry.rowsIn rows encoder.rowsWritten = count) :
    encoder.write engine memory rows settings.geometry.stride sink =
      if count = 0 then (.ok 0, encoder, sink)
      else
        encoder.take engine memory settings count
          (rows.take (count * settings.geometry.stride)) sink := by
  subst counted
  rw [write, known]
  simp only [ne_eq, not_true_eq_false, if_false, if_neg (Nat.ne_of_gt wide)]
  rfl

/-- A call without rows takes none. -/
theorem write_idle (engine : Engine) (memory : Memory) (sink : Sink)
    (known : encoder.settings = some settings) (wide : 0 < settings.geometry.stride)
    (counted : settings.geometry.rowsIn rows encoder.rowsWritten = 0) :
    encoder.write engine memory rows settings.geometry.stride sink = (.ok 0, encoder, sink) ∧
      encoder.handed memory rows settings.geometry.stride = none := by
  constructor
  · rw [write_rows known wide counted, if_pos rfl]
  · rw [handed, known]
    simp only [Option.bind_some, counted]
    exact if_neg fun last => last.2.1 rfl

theorem take_due (engine : Engine) (sink : Sink) {block : Bytes}
    (due : encoder.rowsWritten + count ≠ settings.geometry.rows)
    (room : encoder.hasRoom memory settings = true) :
    encoder.take engine memory settings count block sink =
      (.ok count, { encoder with staged := encoder.staged ++ block }.advance settings.geometry.rows
        count, sink) := by
  have notWhole : ¬(encoder.rowsWritten = 0 ∧ count = settings.geometry.rows) := by
    rintro ⟨first, whole⟩
    exact due (by rw [first, whole, Nat.zero_add])
  rw [take, if_neg notWhole, if_pos room, if_neg due]

/-- Without room the rows of a call are refused, and nothing is taken or handed on. -/
theorem write_starved (engine : Engine) (sink : Sink) (known : encoder.settings = some settings)
    (wide : 0 < settings.geometry.stride)
    (counted : settings.geometry.rowsIn rows encoder.rowsWritten = count) (more : count ≠ 0)
    (full : ¬Holds memory settings encoder count) :
    encoder.write engine memory rows settings.geometry.stride sink =
        (.error .outOfMemory, encoder, sink) ∧
      encoder.handed memory rows settings.geometry.stride = none := by
  obtain ⟨notWhole, noRoom⟩ := not_or.mp full
  constructor
  · rw [write_rows known wide counted, if_neg more, take, if_neg notWhole, if_neg noRoom]
  · rw [handed, known]
    simp only [Option.bind_some, counted]
    exact if_neg fun last => full last.2.2.2

/-- A call that hands nothing to the engine comes to the same with any other. -/
theorem write_silent (silent : encoder.handed memory rows stride = none) (engine other : Engine)
    (sink : Sink) :
    encoder.write engine memory rows stride sink =
      encoder.write other memory rows stride sink := by
  cases known : encoder.settings with
  | none => rw [write, write, known]
  | some settings =>
    by_cases same : stride = settings.geometry.stride
    · rcases Nat.eq_zero_or_pos settings.geometry.stride with empty | wide
      · rw [write, write, known]
        simp only [same, empty, ne_eq, not_true_eq_false, if_false, if_true]
      · subst same
        generalize counted : settings.geometry.rowsIn rows encoder.rowsWritten = count
        by_cases more : count = 0
        · subst more
          rw [(write_idle engine memory sink known wide counted).1,
            (write_idle other memory sink known wide counted).1]
        · by_cases room : Holds memory settings encoder count
          · have due : encoder.rowsWritten + count ≠ settings.geometry.rows := by
              intro last
              rw [handed, known] at silent
              simp only [Option.bind_some, ite_eq_right_iff, counted] at silent
              exact absurd (silent ⟨trivial, more, last, room⟩) (Option.some_ne_none _)
            have staging := room.resolve_left fun whole =>
              due (by rw [whole.1, whole.2, Nat.zero_add])
            rw [write_rows known wide counted, write_rows known wide counted, if_neg more,
              if_neg more, take_due engine sink due staging, take_due other sink due staging]
          · rw [(write_starved engine sink known wide counted more room).1,
              (write_starved other sink known wide counted more room).1]
    · rw [(write_refused engine memory sink known same).1,
        (write_refused other memory sink known same).1]

/-- While rows are still due after it, a call has its rows staged if there is room for them. -/
theorem write_partial (engine : Engine) (sink : Sink) (wide : 0 < settings.geometry.stride)
    (counted : settings.geometry.rowsIn rows taken = count)
    (due : taken + count < settings.geometry.rows)
    (room : count = 0 ∨ hasRoom memory ⟨some settings, staged, taken, false⟩ settings = true) :
    write engine memory ⟨some settings, staged, taken, false⟩ rows settings.geometry.stride sink =
        (.ok count,
          ⟨some settings, staged ++ rows.take (count * settings.geometry.stride), taken + count,
            false⟩, sink) ∧
      handed memory ⟨some settings, staged, taken, false⟩ rows settings.geometry.stride = none := by
  have notLast : ¬taken + count = settings.geometry.rows := Nat.ne_of_lt due
  constructor
  · rw [write_rows rfl wide counted]
    split
    · rename_i none
      rw [none, Nat.zero_mul, List.take_zero, List.append_nil]
      rfl
    · rename_i more
      rw [take_due engine sink notLast (room.resolve_left more), advance, decide_eq_false notLast]
  · rw [handed]
    simp only [Option.bind_some, counted]
    exact if_neg fun last => notLast last.2.2.1

/-- Once the frame is encoded, a call takes nothing. -/
theorem write_complete (engine : Engine) (memory : Memory) (sink : Sink)
    (wide : 0 < settings.geometry.stride) (rows : Bytes) :
    let complete : Encoder := ⟨some settings, [], settings.geometry.rows, true⟩
    complete.write engine memory rows settings.geometry.stride sink = (.ok 0, complete, sink) ∧
      complete.handed memory rows settings.geometry.stride = none :=
  write_idle engine memory sink rfl wide (settings.geometry.rowsIn_done rows)

/-! ### What a call can come to -/

/-- What holds of an encoder from its beginning on: rows are due, and no more is staged than was
taken; or the frame is encoded. -/
inductive Sound (settings : EncoderSettings) : Encoder → Prop where
  | waiting {staged : Bytes} {taken : Nat} (short : taken < settings.geometry.rows)
      (held : staged.length ≤ taken * settings.geometry.stride) :
      Sound settings ⟨some settings, staged, taken, false⟩
  | complete : Sound settings ⟨some settings, [], settings.geometry.rows, true⟩

theorem Sound.settings_eq (sound : Sound settings encoder) : encoder.settings = some settings := by
  cases sound <;> rfl

theorem sound_fresh (high : 0 < settings.geometry.rows) : Sound settings (fresh settings) :=
  .waiting high (Nat.zero_le _)

/-- A call brings a number of rows. -/
structure Brings (settings : EncoderSettings) (encoder : Encoder) (rows : Bytes)
    (stride count : Nat) : Prop where
  stride_eq : stride = settings.geometry.stride
  counted : settings.geometry.rowsIn rows encoder.rowsWritten = count

theorem Brings.length (brings : Brings settings encoder rows stride count) :
    (rows.take (count * stride)).length = count * stride := by
  rw [brings.stride_eq, ← brings.counted, Geometry.length_take_rowsIn]

/-- A call brings the rows that the frame still lacks, and there is room for them. -/
structure Completes (memory : Memory) (settings : EncoderSettings) (encoder : Encoder)
    (rows : Bytes) (stride count : Nat) : Prop
    extends Brings settings encoder rows stride count where
  due : encoder.rowsWritten < settings.geometry.rows
  last : encoder.rowsWritten + count = settings.geometry.rows
  room : Holds memory settings encoder count

theorem Completes.handed_eq (completes : Completes memory settings encoder rows stride count)
    (known : encoder.settings = some settings) :
    encoder.handed memory rows stride = some (encoder.staged ++ rows.take (count * stride)) := by
  have due := completes.due
  have last := completes.last
  rw [handed, known]
  simp only [Option.bind_some, completes.counted]
  exact if_pos ⟨completes.stride_eq, by omega, last, completes.room⟩

theorem Completes.byteCount_eq (completes : Completes memory settings encoder rows stride count) :
    settings.geometry.byteCount = encoder.rowsWritten * stride + count * stride := by
  rw [Geometry.byteCount, ← completes.last, completes.stride_eq, Nat.add_mul]

/-- A call that brings the last rows has the frame encoded, and nothing is staged any more. -/
theorem Completes.write_last (completes : Completes memory settings encoder rows stride count)
    (sound : Sound settings encoder) (wide : 0 < settings.geometry.stride) (engine : Engine)
    (sink : Sink) :
    encoder.write engine memory rows stride sink =
      match encodeFrame engine settings (encoder.staged ++ rows.take (count * stride)) sink with
      | (.error fault, after) => (.error fault, { encoder with staged := [] }, after)
      | (.ok (), after) =>
        (.ok count, ⟨some settings, [], settings.geometry.rows, true⟩, after) := by
  have last := completes.last
  obtain rfl := completes.stride_eq
  cases sound with
  | complete => exact absurd completes.due (Nat.lt_irrefl _)
  | @waiting staged taken short held =>
    have more : count ≠ 0 := by
      rintro rfl
      exact Nat.ne_of_lt short last
    rw [write_rows rfl wide completes.counted, if_neg more, take]
    split
    · -- the frame is not staged, so nothing else is encoded than its rows
      rename_i whole
      obtain rfl : taken = 0 := whole.1
      rw [Nat.zero_mul, Nat.le_zero] at held
      rw [List.eq_nil_of_length_eq_zero held, List.nil_append]
      rcases encodeFrame engine settings _ sink with ⟨fault | done, after⟩
      · rfl
      · simp only [advance, last, decide_true]
    · rename_i parts
      rw [if_pos (completes.room.resolve_left parts)]
      dsimp only at last ⊢
      rcases encodeFrame engine settings _ sink with ⟨fault | done, after⟩
      · rfl
      · simp only [advance, last, decide_true]

theorem Completes.exists_frame (completes : Completes memory settings encoder rows stride count)
    (whole : encoder.staged.length = encoder.rowsWritten * stride) :
    ∃ frame : Frame.Samples settings.geometry,
      frame.val = encoder.staged ++ rows.take (count * stride) := by
  refine ⟨⟨encoder.staged ++ rows.take (count * stride), ?_⟩, rfl⟩
  rw [List.length_append, whole, completes.length, completes.byteCount_eq]

/-- If no rows are lost, the engine encodes the frame and the sink takes what it can. -/
theorem Completes.write_frame (completes : Completes memory settings encoder rows stride count)
    (sound : Sound settings encoder) (wide : 0 < settings.geometry.stride) (engine : Engine)
    (sink : Sink) (frame : Frame.Samples settings.geometry)
    (brought : frame.val = encoder.staged ++ rows.take (count * stride)) :
    encoder.write engine memory rows stride sink =
      match sink.writeAll (engine.encode settings frame) with
      | (.error error, after) => (.error (.sink error), { encoder with staged := [] }, after)
      | (.ok (), after) =>
        (.ok count, ⟨some settings, [], settings.geometry.rows, true⟩, after) := by
  rw [completes.write_last sound wide, ← brought, encodeFrame_whole frame]
  rcases sink.writeAll (engine.encode settings frame) with ⟨error | done, after⟩ <;> rfl

/-- If rows are lost, the engine refuses the frame. -/
theorem Completes.write_lacking (completes : Completes memory settings encoder rows stride count)
    (sound : Sound settings encoder) (wide : 0 < settings.geometry.stride) (engine : Engine)
    (sink : Sink) (lost : encoder.staged.length < encoder.rowsWritten * stride) :
    encoder.write engine memory rows stride sink =
      (.error (.engine (engine.refuse settings (encoder.staged.length + count * stride))),
        { encoder with staged := [] }, sink) := by
  have length : (encoder.staged ++ rows.take (count * stride)).length =
      encoder.staged.length + count * stride := by
    rw [List.length_append, completes.length]
  have short : (encoder.staged ++ rows.take (count * stride)).length <
      settings.geometry.byteCount := by
    rw [length, completes.byteCount_eq]
    exact Nat.add_lt_add_right lost _
  have refused : engine.submit settings (encoder.staged ++ rows.take (count * stride)) =
      .error (engine.refuse settings (encoder.staged ++ rows.take (count * stride)).length) :=
    dif_pos short
  rw [completes.write_last sound wide, encodeFrame, refused, length]

/-- How a call ends that brings the last rows. -/
inductive Ending (engine : Engine) (memory : Memory) (settings : EncoderSettings)
    (encoder : Encoder) (rows : Bytes) (stride : Nat) (sink : Sink) (count : Nat) : Prop where
  /-- The sink takes the frame. -/
  | encoded (frame : Frame.Samples settings.geometry) (after : Sink)
      (brought : frame.val = encoder.staged ++ rows.take (count * stride))
      (wrote : sink.writeAll (engine.encode settings frame) = (.ok (), after))
      (outcome : encoder.write engine memory rows stride sink =
        (.ok count, ⟨some settings, [], settings.geometry.rows, true⟩, after))
  /-- The sink stops the encoding. -/
  | stopped (frame : Frame.Samples settings.geometry) (error : StreamError) (after : Sink)
      (brought : frame.val = encoder.staged ++ rows.take (count * stride))
      (wrote : sink.writeAll (engine.encode settings frame) = (.error error, after))
      (outcome : encoder.write engine memory rows stride sink =
        (.error (.sink error), { encoder with staged := [] }, after))
  /-- Some of the rows before these are lost. -/
  | lacking (lost : encoder.staged.length < encoder.rowsWritten * stride)
      (outcome : encoder.write engine memory rows stride sink =
        (.error (.engine (engine.refuse settings (encoder.staged.length + count * stride))),
          { encoder with staged := [] }, sink))

/-- What a call can come to. -/
inductive Turn (engine : Engine) (memory : Memory) (settings : EncoderSettings)
    (encoder : Encoder) (rows : Bytes) (stride : Nat) (sink : Sink) : Prop where
  /-- The rows have another length than the frame's. -/
  | refused (other : stride ≠ settings.geometry.stride)
      (outcome : encoder.write engine memory rows stride sink =
        (.error (.strideMismatch stride settings.geometry.stride), encoder, sink))
      (silent : encoder.handed memory rows stride = none)
  /-- The rows are staged, or there are none to take. -/
  | kept (count : Nat) (brings : Brings settings encoder rows stride count)
      (due : encoder.rowsWritten < settings.geometry.rows →
        encoder.rowsWritten + count < settings.geometry.rows)
      (outcome : encoder.write engine memory rows stride sink =
        (.ok count,
          { encoder with
            staged := encoder.staged ++ rows.take (count * stride)
            rowsWritten := encoder.rowsWritten + count }, sink))
      (silent : encoder.handed memory rows stride = none)
  /-- The rows would have to be staged, and there is no memory for that. -/
  | starved (count : Nat) (brings : Brings settings encoder rows stride count) (more : count ≠ 0)
      (full : ¬Holds memory settings encoder count)
      (outcome : encoder.write engine memory rows stride sink =
        (.error .outOfMemory, encoder, sink))
      (silent : encoder.handed memory rows stride = none)
  /-- The frame has all of its rows. -/
  | completed (count : Nat) (completes : Completes memory settings encoder rows stride count)
      (ending : Ending engine memory settings encoder rows stride sink count)

theorem Completes.ending (completes : Completes memory settings encoder rows stride count)
    (sound : Sound settings encoder) (wide : 0 < settings.geometry.stride) (engine : Engine)
    (sink : Sink) : Ending engine memory settings encoder rows stride sink count := by
  have held : encoder.staged.length ≤ encoder.rowsWritten * stride := by
    obtain rfl := completes.stride_eq
    cases sound with
    | complete => exact Nat.zero_le _
    | waiting short held => exact held
  by_cases whole : encoder.staged.length = encoder.rowsWritten * stride
  · obtain ⟨frame, brought⟩ := completes.exists_frame whole
    have outcome := completes.write_frame sound wide engine sink frame brought
    cases wrote : sink.writeAll (engine.encode settings frame) with
    | mk result after =>
      rw [wrote] at outcome
      cases result with
      | ok done => exact .encoded frame after brought wrote outcome
      | error error => exact .stopped frame error after brought wrote outcome
  · have lost := Nat.lt_of_le_of_ne held whole
    exact .lacking lost (completes.write_lacking sound wide engine sink lost)

/-- **Every call comes to one of the turns.** -/
theorem Sound.turn (sound : Sound settings encoder) (wide : 0 < settings.geometry.stride)
    (engine : Engine) (memory : Memory) (rows : Bytes) (stride : Nat) (sink : Sink) :
    Turn engine memory settings encoder rows stride sink := by
  by_cases same : stride = settings.geometry.stride
  · subst same
    generalize counted : settings.geometry.rowsIn rows encoder.rowsWritten = count
    have brings : Brings settings encoder rows settings.geometry.stride count := ⟨rfl, counted⟩
    by_cases none : count = 0
    · subst none
      obtain ⟨outcome, silent⟩ := write_idle engine memory sink sound.settings_eq wide counted
      refine .kept 0 brings id ?_ silent
      rw [outcome, Nat.zero_mul, List.take_zero, List.append_nil]
      rfl
    · by_cases room : Holds memory settings encoder count
      · cases sound with
        | complete => exact absurd (counted.symm.trans (settings.geometry.rowsIn_done rows)) none
        | @waiting staged taken short held =>
          by_cases last : taken + count = settings.geometry.rows
          · have completes : Completes memory settings ⟨some settings, staged, taken, false⟩ rows
                settings.geometry.stride count := ⟨brings, short, last, room⟩
            exact .completed count completes
              (completes.ending (.waiting short held) wide engine sink)
          · have bound := Geometry.add_rowsIn_le (Nat.le_of_lt short) rows
            rw [show settings.geometry.rowsIn rows taken = count from counted] at bound
            have due := Nat.lt_of_le_of_ne bound last
            have staging := room.resolve_left fun whole =>
              last (by rw [show taken = 0 from whole.1, whole.2, Nat.zero_add])
            obtain ⟨outcome, silent⟩ := write_partial engine sink wide counted due (.inr staging)
            exact .kept count brings (fun _ => due) outcome silent
      · obtain ⟨outcome, silent⟩ :=
          write_starved engine sink sound.settings_eq wide counted none room
        exact .starved count brings none room outcome silent
  · obtain ⟨outcome, silent⟩ := write_refused engine memory sink sound.settings_eq same
    exact .refused same outcome silent

end JpegTranscoder.Scanline.Encoder
