/-
**Calls that are made again.**

A call that fails leaves the encoder as it was, so that it can be made again; but rows that were
staged are given up when their encoding fails, and are missing from then on:

* `write_direct`: a call that brings a whole frame, with a sink that takes it;
* `Completes.lost_for_good`: a call that is made again without the rows before it;
* `Completes.again`: which of the two a call comes to that its sink stopped;
* `write_failed`: what a failed call leaves, and what becomes of it when it is made again.
-/
import JpegTranscoder.Dct.Engine
import JpegTranscoder.Proofs.Scanline.Reached

namespace JpegTranscoder.Scanline.Encoder

variable {engine : Engine} {memory : Memory} {settings : EncoderSettings} {encoder next : Encoder}
  {sink after : Sink} {rows : Bytes} {stride count : Nat}

/-- A call that brings a whole frame to an encoder that has nothing staged has it encoded, to any
sink that takes it, and needs no memory for that. -/
theorem write_direct (sound : Sound settings encoder) (wide : 0 < settings.geometry.stride)
    (first : encoder.rowsWritten = 0) (due : 0 < settings.geometry.rows)
    (brings : Brings settings encoder rows stride settings.geometry.rows) (engine : Engine) :
    ∃ frame : Frame.Samples settings.geometry, ∀ memory : Memory,
      encoder.handed memory rows stride = some frame.val ∧
      ∀ sink last, sink.writeAll (engine.encode settings frame) = (.ok (), last) →
        encoder.write engine memory rows stride sink =
          (.ok settings.geometry.rows, ⟨some settings, [], settings.geometry.rows, true⟩,
            last) := by
  have completes (memory : Memory) :
      Completes memory settings encoder rows stride settings.geometry.rows :=
    ⟨brings, first ▸ due, by rw [first, Nat.zero_add], .inl ⟨first, rfl⟩⟩
  have none : encoder.staged.length = encoder.rowsWritten * stride := by
    rw [first, Nat.zero_mul]
    cases sound with
    | complete => rfl
    | @waiting staged taken short held =>
      rw [show taken = 0 from first, Nat.zero_mul] at held
      exact Nat.le_zero.mp held
  obtain ⟨frame, brought⟩ := (completes ⟨fun _ => false⟩).exists_frame none
  refine ⟨frame, fun memory => ⟨?_, fun sink last wrote => ?_⟩⟩
  · rw [(completes memory).handed_eq sound.settings_eq, brought]
  · rw [(completes memory).write_frame sound wide engine sink frame brought, wrote]

/-- How a call is refused that lacks the rows before it: by the engine, or before that for want of
memory. -/
def lackingFault (engine : Engine) (memory : Memory) (settings : EncoderSettings) (length : Nat) :
    Fault :=
  if memory.grants settings.geometry.byteCount then .engine (engine.refuse settings length)
  else .outOfMemory

/-- **A frame whose encoding was stopped after rows had been staged is never finished**: the call
made again lacks them, whatever its sink does. -/
theorem Completes.lost_for_good (completes : Completes memory settings encoder rows stride count)
    (sound : Sound settings encoder) (wide : 0 < settings.geometry.stride)
    (some : 0 < encoder.rowsWritten) :
    (∀ memory sink, write engine memory { encoder with staged := [] } rows stride sink =
      (.error (lackingFault engine memory settings (count * stride)),
        { encoder with staged := [] }, sink)) ∧
    ∀ later, Reaches engine { encoder with staged := [] } later → ∀ sink,
      later.finish sink =
        (.error (.unfinished later.rowsWritten settings.geometry.rows), sink) := by
  have lossy := completes.lossy sound wide some
  have notWhole : ¬(encoder.rowsWritten = 0 ∧ count = settings.geometry.rows) :=
    fun whole => Nat.ne_of_gt some whole.1
  constructor
  · intro memory sink
    rw [lackingFault]
    split
    · rename_i granted
      have again : Completes memory settings { encoder with staged := [] } rows stride count :=
        ⟨⟨completes.stride_eq, completes.counted⟩, completes.due, completes.last, .inr granted⟩
      rw [lossy.write_last wide again engine sink, List.length_nil, Nat.zero_add]
    · rename_i refused
      have more : count ≠ 0 := by
        have due := completes.due
        have last := completes.last
        omega
      have full : ¬Holds memory settings { encoder with staged := [] } count :=
        not_or.mpr ⟨notWhole, refused⟩
      rw [completes.stride_eq]
      exact (write_starved engine sink lossy.sound.settings_eq wide completes.counted more full).1
  · intro later reached sink
    exact (lossy.reaches wide reached).finish_eq sink

theorem without_staged_eq_iff : { encoder with staged := [] } = encoder ↔ encoder.staged = [] := by
  cases encoder
  rw [Encoder.mk.injEq]
  constructor
  · rintro ⟨_, same, _⟩
    exact same.symm
  · intro none
    exact ⟨rfl, none.symm, rfl, rfl⟩

/-- Rows find no room only where none are staged. -/
theorem staged_of_full (full : ¬Holds memory settings encoder count) : encoder.staged = [] := by
  have noRoom := (not_or.mp full).2
  rw [hasRoom, Bool.or_eq_true, not_or, Bool.not_eq_true', Bool.not_eq_false] at noRoom
  exact List.isEmpty_iff.mp noRoom.1

/-- The call that brings the last rows, made again after its encoding was stopped. -/
theorem Completes.again (completes : Completes memory settings encoder rows stride count)
    (sound : Sound settings encoder) (wide : 0 < settings.geometry.stride)
    (whole : encoder.staged.length = encoder.rowsWritten * stride) :
    (encoder.staged = [] →
      ∃ frame : Frame.Samples settings.geometry, ∀ memory : Memory,
        handed memory { encoder with staged := [] } rows stride = some frame.val ∧
        ∀ other last, other.writeAll (engine.encode settings frame) = (.ok (), last) →
          write engine memory { encoder with staged := [] } rows stride other =
            (.ok settings.geometry.rows, ⟨some settings, [], settings.geometry.rows, true⟩,
              last)) ∧
    (encoder.staged ≠ [] →
      (∀ memory other, write engine memory { encoder with staged := [] } rows stride other =
        (.error (lackingFault engine memory settings
          ((settings.geometry.rows - encoder.rowsWritten) * stride)),
          { encoder with staged := [] }, other)) ∧
      ∀ later, Reaches engine { encoder with staged := [] } later → ∀ other,
        later.finish other =
          (.error (.unfinished later.rowsWritten settings.geometry.rows), other)) := by
  have last := completes.last
  constructor
  · intro none
    have empty : encoder.rowsWritten = 0 := by
      rw [none, List.length_nil, completes.stride_eq] at whole
      exact (Nat.mul_eq_zero.mp whole.symm).resolve_right (Nat.ne_of_gt wide)
    obtain rfl : count = settings.geometry.rows := by omega
    rw [without_staged_eq_iff.mpr none]
    exact write_direct sound wide empty (empty ▸ completes.due) completes.toBrings engine
  · intro staged
    have some : 0 < encoder.rowsWritten := by
      refine Nat.pos_of_ne_zero fun none => staged ?_
      rw [none, Nat.zero_mul] at whole
      exact List.eq_nil_of_length_eq_zero whole
    rw [show settings.geometry.rows - encoder.rowsWritten = count by omega]
    exact completes.lost_for_good sound wide some

/-- **What a failed call leaves.** The rows taken so far stay counted, and nothing else changes,
except that the staged rows are given up when their encoding fails; so the encoder is as it was
unless rows were staged for the frame. When a sink stopped the call, the same call made again with
a sink that does not fail is accepted if none were staged, and hands the engine the whole frame,
with whatever memory there is; else it is refused with any sink, and the frame is never finished. -/
theorem write_failed (wide : settings.geometry.width ≠ 0) (high : settings.geometry.height ≠ 0)
    {begun : Encoder} (began : create.begin settings = (.ok (), begun))
    (reached : Reaches engine begun encoder) {fault : Fault}
    (failed : encoder.write engine memory rows stride sink = (.error fault, next, after)) :
    next = { encoder with staged := next.staged } ∧
      (next = encoder ↔ stride ≠ settings.geometry.stride ∨ encoder.staged = []) ∧
      ∀ error, fault = .sink error →
        encoder.staged.length = encoder.rowsWritten * stride ∧
        (encoder.staged = [] →
          ∃ frame : Frame.Samples settings.geometry, ∀ memory : Memory,
            next.handed memory rows stride = some frame.val ∧
            ∀ other last, other.writeAll (engine.encode settings frame) = (.ok (), last) →
              next.write engine memory rows stride other =
                (.ok settings.geometry.rows, ⟨some settings, [], settings.geometry.rows, true⟩,
                  last)) ∧
        (encoder.staged ≠ [] →
          (∀ (memory : Memory) (other : Sink), next.write engine memory rows stride other =
            (.error (lackingFault engine memory settings
              ((settings.geometry.rows - encoder.rowsWritten) * stride)), next, other)) ∧
          ∀ later, Reaches engine next later → ∀ other : Sink,
            later.finish other =
              (.error (.unfinished later.rowsWritten settings.geometry.rows), other)) := by
  obtain ⟨_, rfl⟩ := begin_eq_ok_iff.mp began
  have wideRow := Geometry.stride_pos wide
  have sound := (sound_fresh (Geometry.rows_pos high)).reaches wideRow reached
  cases sound.turn wideRow engine memory rows stride sink with
  | refused other outcome silent =>
    rw [failed] at outcome
    cases outcome
    exact ⟨rfl, iff_of_true rfl (.inl other), nofun⟩
  | starved count brings more full outcome silent =>
    rw [failed] at outcome
    cases outcome
    exact ⟨rfl, iff_of_true rfl (.inr (staged_of_full full)), nofun⟩
  | kept count brings due outcome silent =>
    rw [failed] at outcome
    cases outcome
  | completed count completes ending =>
    have unchanged : { encoder with staged := [] } = encoder ↔
        stride ≠ settings.geometry.stride ∨ encoder.staged = [] := by
      rw [without_staged_eq_iff, or_iff_right fun other => other completes.stride_eq]
    cases ending with
    | encoded frame after brought wrote outcome =>
      rw [failed] at outcome
      cases outcome
    | lacking lost outcome =>
      rw [failed] at outcome
      cases outcome
      exact ⟨rfl, unchanged, nofun⟩
    | stopped frame error after brought wrote outcome =>
      rw [failed] at outcome
      cases outcome
      have whole : encoder.staged.length = encoder.rowsWritten * stride := by
        have length := congrArg List.length brought
        rw [frame.property, List.length_append, completes.length, completes.byteCount_eq] at length
        omega
      exact ⟨rfl, unchanged, fun _ _ => ⟨whole, completes.again sound wideRow whole⟩⟩

/-! ### A block of eight gray rows -/

section Block

/-- What a sink answers whose reader is gone. -/
def pipeClosed : StreamError := ⟨.brokenPipe, "pipe closed"⟩

/-- A sink that fails at an offset, once. -/
def failingAt (offset : Nat) : Sink := { Sink.empty with faults := [⟨offset, .refuse pipeClosed⟩] }

theorem failingAt_accepted (offset : Nat) : (failingAt offset).accepted = [] := rfl

/-- Eight rows of eight gray samples. -/
def blockSettings : EncoderSettings := ⟨⟨8, 8, .gray⟩, 60, false, false⟩

/-- Gray samples, all the same. -/
def graySamples (count : Nat) : Bytes := List.replicate count 128

/-- The sink takes what the engine writes up to the offset. -/
theorem failingAt_encode {settings : EncoderSettings} (frame : Frame.Samples settings.geometry)
    {offset : Nat} (early : offset < 2) :
    (failingAt offset).writeAll (Dct.engine.encode settings frame) =
      (.error pipeClosed,
        { Sink.empty.accept ((Dct.engine.encode settings frame).take offset) with
          faults := [] }) := by
  have planned : (failingAt offset).faults =
      [⟨(failingAt offset).offset + offset, .refuse pipeClosed⟩] := by
    rw [show (failingAt offset).offset = 0 from rfl, Nat.zero_add]
    rfl
  -- an image begins with a marker of two bytes
  obtain ⟨rest, begins⟩ : ∃ rest, Dct.engine.encode settings frame = 0xFF :: 0xD8 :: rest :=
    ⟨_, rfl⟩
  have short : offset < (Dct.engine.encode settings frame).length := by
    rw [begins, List.length_cons, List.length_cons]
    omega
  exact Sink.writeAll_struck (fun _ => rfl) planned (by decide) short

/-- A block that is offered whole, and stopped behind its first byte, is taken when it is offered
again, though there is no memory to stage it. -/
theorem write_failed_whole_block :
    let begun := fresh blockSettings
    let rows := graySamples 64
    let after : Sink := { Sink.empty.accept [0xFF] with faults := [] }
    create.begin blockSettings = (.ok (), begun) ∧ Reaches Dct.engine begun begun ∧
      begun.write Dct.engine (.below 65) rows 8 (failingAt 1) =
        (.error (.sink pipeClosed), begun, after) ∧
      ∃ (frame : Frame.Samples blockSettings.geometry) (last : Sink),
        begun.handed (.below 0) rows 8 = some frame.val ∧
        after.writeAll (Dct.engine.encode blockSettings frame) = (.ok (), last) ∧
        begun.write Dct.engine (.below 0) rows 8 after =
          (.ok 8, ⟨some blockSettings, [], 8, true⟩, last) := by
  intro begun rows after
  have began : create.begin blockSettings = (.ok (), begun) := begin_eq_ok_iff.mpr ⟨rfl, rfl⟩
  have completes : Completes (.below 65) blockSettings begun rows 8 8 :=
    ⟨⟨rfl, by decide⟩, by decide, by decide, .inl ⟨rfl, rfl⟩⟩
  obtain ⟨frame, brought⟩ := completes.exists_frame rfl
  have failed : begun.write Dct.engine (.below 65) rows 8 (failingAt 1) =
      (.error (.sink pipeClosed), begun, after) := by
    rw [completes.write_frame (sound_fresh (by decide)) (by decide) Dct.engine _ frame brought,
      failingAt_encode frame (by decide)]
    rfl
  have reliable : after.Reliable := ⟨fun _ => nofun, nofun, rfl⟩
  obtain ⟨_, _, causes⟩ := write_failed (by decide) (by decide) began .refl failed
  obtain ⟨_, accepted, _⟩ := causes pipeClosed rfl
  obtain ⟨frame, repeated⟩ := accepted rfl
  obtain ⟨handed, again⟩ := repeated (.below 0)
  obtain ⟨last, wrote, _⟩ := reliable.writeAll_ok (Dct.engine.encode blockSettings frame)
  exact ⟨began, .refl, failed, frame, last, handed, wrote, again after last wrote⟩

/-- **Rows are lost when their encoding is stopped**: the last three rows of a block, whose other
five are staged, are not taken when they are offered again. -/
theorem write_failed_staged_block :
    let memory : Memory := .below 65
    let encoder : Encoder := ⟨some blockSettings, graySamples 40, 5, false⟩
    let next : Encoder := ⟨some blockSettings, [], 5, false⟩
    let after : Sink := { failingAt 0 with faults := [] }
    create.begin blockSettings = (.ok (), fresh blockSettings) ∧
      (fresh blockSettings).write Dct.engine memory (graySamples 40) 8 (failingAt 0) =
        (.ok 5, encoder, failingAt 0) ∧
      encoder.write Dct.engine memory (graySamples 24) 8 (failingAt 0) =
        (.error (.sink pipeClosed), next, after) ∧
      next ≠ encoder ∧ after.Reliable ∧
      next.write Dct.engine memory (graySamples 24) 8 after =
        (.error (.engine (Dct.engine.refuse blockSettings 24)), next, after) := by
  intro memory encoder next after
  have staged : (fresh blockSettings).write Dct.engine memory (graySamples 40) 8 (failingAt 0) =
      (.ok 5, encoder, failingAt 0) :=
    (write_partial Dct.engine (failingAt 0) (by decide) (by decide) (by decide)
      (.inr (by decide))).1
  have sound : Sound blockSettings encoder := .waiting (by decide) (by decide)
  have completes : Completes memory blockSettings encoder (graySamples 24) 8 3 :=
    ⟨⟨rfl, by decide⟩, by decide, by decide, .inr (by decide)⟩
  obtain ⟨frame, brought⟩ := completes.exists_frame rfl
  refine ⟨begin_eq_ok_iff.mpr ⟨rfl, rfl⟩, staged, ?_, by decide, ⟨fun _ => nofun, nofun, rfl⟩,
    (completes.lost_for_good sound (by decide) (by decide)).1 memory after⟩
  rw [completes.write_frame sound (by decide) Dct.engine _ frame brought,
    failingAt_encode frame (by decide)]
  rfl

end Block

end JpegTranscoder.Scanline.Encoder
