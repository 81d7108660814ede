/-
**The encoders that calls lead to.**

Whatever calls are made of an encoder that has begun, and whatever becomes of their sinks or of the
memory they find, it stays sound; and once it has lost rows that it took, it stays without them:

* `Sound.reaches`: calls keep an encoder sound;
* `Lossy.reaches`, `Lossy.finish_eq`: a frame of which rows were lost is never finished.
-/
import JpegTranscoder.Proofs.Scanline.Calls
import Mathlib.Logic.Relation

namespace JpegTranscoder.Scanline.Encoder

variable {engine : Engine} {memory : Memory} {settings : EncoderSettings} {encoder next : Encoder}
  {rows : Bytes} {stride count : Nat}

/-- One call makes an encoder of another, with some sink and some memory. -/
def Writes (engine : Engine) (encoder next : Encoder) : Prop :=
  ∃ memory rows stride sink, (encoder.write engine memory rows stride sink).2.1 = next

/-- Calls make an encoder of another, whatever becomes of their sinks, and whether or not they find
memory. -/
abbrev Reaches (engine : Engine) : Encoder → Encoder → Prop := Relation.ReflTransGen (Writes engine)

theorem Sound.write (sound : Sound settings encoder) (wide : 0 < settings.geometry.stride)
    (engine : Engine) (memory : Memory) (rows : Bytes) (stride : Nat) (sink : Sink) :
    Sound settings (encoder.write engine memory rows stride sink).2.1 := by
  cases sound.turn wide engine memory rows stride sink with
  | refused other outcome silent
  | starved count brings more full outcome silent =>
    rw [outcome]
    exact sound
  | kept count brings due outcome silent =>
    rw [outcome]
    cases sound with
    | complete =>
      obtain rfl : count = 0 := brings.counted.symm.trans (settings.geometry.rowsIn_done rows)
      rw [Nat.zero_mul, List.take_zero]
      exact .complete
    | @waiting staged taken short held =>
      refine .waiting (due short) ?_
      rw [List.length_append, brings.length, brings.stride_eq, Nat.add_mul]
      exact Nat.add_le_add_right held _
  | completed count completes ending =>
    cases sound with
    | complete => exact absurd completes.due (Nat.lt_irrefl _)
    | waiting short held =>
      cases ending with
      | encoded frame after brought wrote outcome =>
        rw [outcome]
        exact .complete
      | stopped frame error after brought wrote outcome =>
        rw [outcome]
        exact .waiting short (Nat.zero_le _)
      | lacking lost outcome =>
        rw [outcome]
        exact .waiting short (Nat.zero_le _)

theorem Sound.reaches (sound : Sound settings encoder) (wide : 0 < settings.geometry.stride)
    (reached : Reaches engine encoder next) : Sound settings next := by
  induction reached with
  | refl => exact sound
  | tail _ written ih =>
    obtain ⟨memory, rows, stride, sink, rfl⟩ := written
    exact ih.write wide engine memory rows stride sink

/-! ### Rows that are lost -/

/-- Some of the rows that were taken are not staged any more. -/
structure Lossy (settings : EncoderSettings) (encoder : Encoder) : Prop where
  sound : Sound settings encoder
  lost : encoder.staged.length < encoder.rowsWritten * settings.geometry.stride
  unfinished : encoder.encoded = false

/-- Giving up what is staged loses the rows that were taken. -/
theorem Completes.lossy (completes : Completes memory settings encoder rows stride count)
    (sound : Sound settings encoder) (wide : 0 < settings.geometry.stride)
    (some : 0 < encoder.rowsWritten) : Lossy settings { encoder with staged := [] } := by
  have due := completes.due
  cases sound with
  | complete => exact absurd due (Nat.lt_irrefl _)
  | waiting short held => exact ⟨.waiting short (Nat.zero_le _), Nat.mul_pos some wide, rfl⟩

theorem Lossy.write_last (lossy : Lossy settings encoder) (wide : 0 < settings.geometry.stride)
    (completes : Completes memory settings encoder rows stride count) (engine : Engine)
    (sink : Sink) :
    encoder.write engine memory rows stride sink =
      (.error (.engine (engine.refuse settings (encoder.staged.length + count * stride))),
        { encoder with staged := [] }, sink) := by
  refine completes.write_lacking lossy.sound wide engine sink ?_
  rw [completes.stride_eq]
  exact lossy.lost

theorem Lossy.write (lossy : Lossy settings encoder) (wide : 0 < settings.geometry.stride)
    (engine : Engine) (memory : Memory) (rows : Bytes) (stride : Nat) (sink : Sink) :
    Lossy settings (encoder.write engine memory rows stride sink).2.1 := by
  have sound := lossy.sound.write wide engine memory rows stride sink
  cases lossy.sound.turn wide engine memory rows stride sink with
  | refused other outcome silent
  | starved count brings more full outcome silent =>
    rw [outcome]
    exact lossy
  | kept count brings due outcome silent =>
    rw [outcome] at sound ⊢
    refine ⟨sound, ?_, lossy.unfinished⟩
    rw [List.length_append, brings.length, brings.stride_eq, Nat.add_mul]
    exact Nat.add_lt_add_right lossy.lost _
  | completed count completes ending =>
    rw [lossy.write_last wide completes engine sink] at sound ⊢
    exact ⟨sound, Nat.zero_lt_of_lt lossy.lost, lossy.unfinished⟩

/-- **A frame of which rows were lost is never encoded.** -/
theorem Lossy.reaches (lossy : Lossy settings encoder) (wide : 0 < settings.geometry.stride)
    (reached : Reaches engine encoder next) : Lossy settings next := by
  induction reached with
  | refl => exact lossy
  | tail _ written ih =>
    obtain ⟨memory, rows, stride, sink, rfl⟩ := written
    exact ih.write wide engine memory rows stride sink

theorem Lossy.finish_eq (lossy : Lossy settings encoder) (sink : Sink) :
    encoder.finish sink =
      (.error (.unfinished encoder.rowsWritten settings.geometry.rows), sink) := by
  rw [finish, lossy.unfinished, lossy.sound.settings_eq]
  rfl

end JpegTranscoder.Scanline.Encoder
