/-
**Runs of calls.**

An encoder is offered rows, call after call, and its sink takes what the engine makes of them. What
memory there is may be another in every call:

* `run_cons`: a run is a call and the run behind it;
* `run_complete`: a run behind the end of the frame takes nothing.
-/
import JpegTranscoder.Proofs.Scanline.Reached

namespace JpegTranscoder.Scanline.Encoder

variable {engine : Engine} {memory : Memory} {settings : EncoderSettings} {encoder next : Encoder}
  {sink after : Sink} {rows : Bytes} {stride : Nat}

/-- Rows that are offered, and the memory that there is when they are. -/
structure Block where
  rows : Bytes
  stride : Nat
  memory : Memory

/-- A call and what came of it. -/
structure Call where
  rows : Bytes
  stride : Nat
  answer : Except Fault Nat
  /-- What it handed to the engine. -/
  handed : Option Bytes
  /-- What the sink took in it. -/
  written : Bytes

/-- The rows whose acceptance was told. -/
def Call.accepted (call : Call) : Bytes :=
  match call.answer with
  | .ok count => call.rows.take (count * call.stride)
  | .error _ => []

/-- What a call left in the sink though it failed. -/
def Call.residue (call : Call) : Bytes :=
  match call.answer with
  | .ok _ => []
  | .error _ => call.written

/-- Calls that were made, and what they left behind. -/
structure Run where
  calls : List Call
  encoder : Encoder
  sink : Sink

/-- A run with a call before it. -/
def Run.cons (call : Call) (rest : Run) : Run := { rest with calls := call :: rest.calls }

/-- Offers rows to an encoder, call after call. -/
def run (engine : Engine) (encoder : Encoder) (sink : Sink) : List Block → Run
  | [] => ⟨[], encoder, sink⟩
  | ⟨rows, stride, memory⟩ :: later =>
    let (answer, next, after) := encoder.write engine memory rows stride sink
    let written := after.accepted.drop sink.accepted.length
    .cons ⟨rows, stride, answer, encoder.handed memory rows stride, written⟩
      (next.run engine after later)

theorem run_cons {answer : Except Fault Nat} {written : Bytes}
    (outcome : encoder.write engine memory rows stride sink = (answer, next, after))
    (took : after.accepted = sink.accepted ++ written) (later : List Block) :
    encoder.run engine sink (⟨rows, stride, memory⟩ :: later) =
      .cons ⟨rows, stride, answer, encoder.handed memory rows stride, written⟩
        (next.run engine after later) := by
  rw [run, outcome]
  simp only [took, List.drop_left]

theorem run_reaches (engine : Engine) (blocks : List Block) (encoder : Encoder) (sink : Sink) :
    Reaches engine encoder (encoder.run engine sink blocks).encoder := by
  induction blocks generalizing encoder sink with
  | nil => exact .refl
  | cons block later ih =>
    obtain ⟨rows, stride, memory⟩ := block
    exact .head ⟨memory, rows, stride, sink, rfl⟩ (ih _ _)

/-- Once the frame is encoded, no call takes rows or writes bytes. -/
theorem run_complete (engine : Engine) (wide : 0 < settings.geometry.stride)
    (blocks : List Block) (sink : Sink) :
    let complete : Encoder := ⟨some settings, [], settings.geometry.rows, true⟩
    (complete.run engine sink blocks).encoder = complete ∧
      (complete.run engine sink blocks).sink = sink ∧
      ∀ call ∈ (complete.run engine sink blocks).calls, call.accepted = [] ∧ call.residue = [] := by
  intro complete
  have nothing : sink.accepted = sink.accepted ++ [] := (List.append_nil _).symm
  induction blocks with
  | nil => exact ⟨rfl, rfl, nofun⟩
  | cons block later ih =>
    obtain ⟨rows, stride, memory⟩ := block
    by_cases same : stride = settings.geometry.stride
    · subst same
      rw [run_cons (write_complete engine memory sink wide rows).1 nothing]
      refine ⟨ih.1, ih.2.1, List.forall_mem_cons.mpr ⟨⟨?_, rfl⟩, ih.2.2⟩⟩
      show rows.take (0 * _) = []
      rw [Nat.zero_mul, List.take_zero]
    · have known : complete.settings = some settings := rfl
      rw [run_cons (write_refused engine memory sink known same).1 nothing]
      exact ⟨ih.1, ih.2.1, List.forall_mem_cons.mpr ⟨⟨rfl, rfl⟩, ih.2.2⟩⟩

end JpegTranscoder.Scanline.Encoder
