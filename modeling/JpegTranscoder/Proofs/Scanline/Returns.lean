/-
**Calls that return.**

An encoder divides by the length of a row. It has to be that of the frame's rows, but a frame
without width has rows of no bytes, and nothing refuses it:

* `write_eq_crash_iff`: which writes do not return;
* `Counts.respond`: no more rows are counted than the frame has;
* `Counts.crash_mem_iff`: the calls of a run that do not return;
* `respondAll_returns_iff`: when every call of a run returns.
-/
import JpegTranscoder.Dct.Engine
import JpegTranscoder.Proofs.Scanline.Rows
import JpegTranscoder.Scanline.Encoder

namespace JpegTranscoder.Scanline.Encoder

variable {engine : Engine} {memory : Memory} {settings : EncoderSettings} {encoder : Encoder}
  {sink : Sink} {rows : Bytes} {stride count : Nat}

/-! ### Which calls do not return -/

theorem encodeFrame_ne_crash (engine : Engine) (settings : EncoderSettings) (samples : Bytes)
    (sink : Sink) : (encodeFrame engine settings samples sink).1 ≠ .error .crash := by
  rw [encodeFrame]
  split
  · exact nofun
  · dsimp only
    generalize sink.writeAll _ = wrote
    obtain ⟨error | done, after⟩ := wrote
    · exact nofun
    · exact nofun

/-- Rows that are offered fail for want of memory, or as the encoding of a frame does. -/
theorem take_fault {block : Bytes} {fault : Fault}
    (failed : (encoder.take engine memory settings count block sink).1 = .error fault) :
    fault = .outOfMemory ∨
      ∃ samples, (encodeFrame engine settings samples sink).1 = .error fault := by
  rw [take] at failed
  split at failed
  · refine .inr ⟨block, ?_⟩
    generalize encodeFrame engine settings block sink = outcome at failed ⊢
    obtain ⟨error | done, after⟩ := outcome
    · cases failed
      rfl
    · cases failed
  · split at failed
    · dsimp only at failed
      split at failed
      · refine .inr ⟨encoder.staged ++ block, ?_⟩
        generalize encodeFrame engine settings _ sink = outcome at failed ⊢
        obtain ⟨error | done, after⟩ := outcome
        · cases failed
          rfl
        · cases failed
      · cases failed
    · cases failed
      exact .inl rfl

/-- **A write does not return** exactly if it offers rows of no bytes to a frame without width. -/
theorem write_eq_crash_iff :
    (encoder.write engine memory rows stride sink).1 = .error .crash ↔
      stride = 0 ∧ ∃ settings, encoder.settings = some settings ∧ settings.geometry.width = 0 := by
  rw [write]
  cases known : encoder.settings with
  | none =>
    constructor
    · exact nofun
    · rintro ⟨_, _, begun, _⟩
      cases begun
  | some settings =>
    have narrow := settings.geometry.stride_eq_zero_iff
    dsimp only
    by_cases same : stride = settings.geometry.stride
    · rw [if_neg (not_not_intro same)]
      by_cases empty : stride = 0
      · rw [if_pos empty]
        exact ⟨fun _ => ⟨empty, settings, rfl, narrow.mp (same ▸ empty)⟩, fun _ => rfl⟩
      · rw [if_neg empty]
        refine ⟨fun crashes => ?_, fun degenerate => absurd degenerate.1 empty⟩
        split at crashes
        · cases crashes
        · rcases take_fault crashes with same | ⟨samples, failed⟩
          · cases same
          · exact absurd failed (encodeFrame_ne_crash engine settings samples sink)
    · rw [if_pos same]
      constructor
      · exact nofun
      · rintro ⟨empty, _, begun, flat⟩
        obtain rfl := Option.some.inj begun
        exact absurd (empty.trans (narrow.mpr flat).symm) same

theorem begin_ne_crash (encoder : Encoder) (settings : EncoderSettings) :
    (encoder.begin settings).1 ≠ .error .crash := by
  rw [begin]
  split
  · exact nofun
  · split
    · exact nofun
    · exact nofun

theorem finish_ne_crash (encoder : Encoder) (sink : Sink) :
    (encoder.finish sink).1 ≠ .error .crash := by
  rw [finish]
  split
  · generalize sink.flush = flushed
    obtain ⟨error | done, after⟩ := flushed
    · exact nofun
    · exact nofun
  · exact nofun

/-! ### Rows that are counted -/

theorem take_counts (engine : Engine) (memory : Memory) (encoder : Encoder)
    (settings : EncoderSettings) (count : Nat) (block : Bytes) (sink : Sink) :
    (encoder.take engine memory settings count block sink).2.1.settings = encoder.settings ∧
      (encoder.take engine memory settings count block sink).2.1.rowsWritten ≤
        encoder.rowsWritten + count := by
  have same : encoder.settings = encoder.settings ∧
      encoder.rowsWritten ≤ encoder.rowsWritten + count := ⟨rfl, Nat.le_add_right _ _⟩
  rw [take]
  split
  · rcases encodeFrame engine settings block sink with ⟨fault | done, after⟩
    · exact same
    · exact ⟨rfl, Nat.le_refl _⟩
  · split
    · dsimp only
      split
      · rcases encodeFrame engine settings (encoder.staged ++ block) sink with
          ⟨fault | done, after⟩
        · exact same
        · exact ⟨rfl, Nat.le_refl _⟩
      · exact ⟨rfl, Nat.le_refl _⟩
    · exact same

/-- What has begun, if anything has, and no more rows than its frame has are counted. -/
structure Counts (begun : Option EncoderSettings) (encoder : Encoder) : Prop where
  settings_eq : encoder.settings = begun
  rows_le : encoder.rowsWritten ≤ begun.elim 0 (·.geometry.rows)

theorem counts_create : Counts none create := ⟨rfl, Nat.le_refl _⟩

variable {begun : Option EncoderSettings}

theorem Counts.write (counts : Counts begun encoder) (engine : Engine) (memory : Memory)
    (rows : Bytes) (stride : Nat) (sink : Sink) :
    Counts begun (encoder.write engine memory rows stride sink).2.1 := by
  have known := counts.settings_eq
  have bound := counts.rows_le
  rw [Encoder.write, known]
  cases begun with
  | none => exact counts
  | some settings =>
    dsimp only
    split
    · exact counts
    · split
      · exact counts
      · split
        · exact counts
        · generalize taken : min (rows.length / stride)
            (settings.geometry.rows - encoder.rowsWritten) = count
          obtain ⟨kept, more⟩ :=
            encoder.take_counts engine memory settings count (rows.take (count * stride)) sink
          refine ⟨kept.trans known, Nat.le_trans more ?_⟩
          simp only [Option.elim_some] at bound ⊢
          omega

/-- Encoding begins with settings whose quality is in range. -/
def admitted (settings : EncoderSettings) : Option EncoderSettings :=
  if isValidQuality settings.quality then some settings else none

theorem Counts.begin (counts : Counts begun encoder) (settings : EncoderSettings) :
    Counts (begun.or (admitted settings)) (encoder.begin settings).2 := by
  have known := counts.settings_eq
  have bound := counts.rows_le
  rw [Encoder.begin, known]
  cases begun with
  | some earlier => exact counts
  | none =>
    rw [admitted, Option.none_or]
    simp only [Option.isSome_none, Bool.false_eq_true, if_false]
    split
    · exact ⟨rfl, Nat.le_trans bound (Nat.zero_le _)⟩
    · exact counts

/-- What a write computes is in range: no more rows are counted than the frame has, also with those
that the write brings, and these lie in its buffer. -/
structure InRange (settings : EncoderSettings) (encoder : Encoder) (rows : Bytes) : Prop where
  rows_le : encoder.rowsWritten ≤ settings.geometry.rows
  sum_le : encoder.rowsWritten + settings.geometry.rowsIn rows encoder.rowsWritten ≤
    settings.geometry.rows
  block_le : settings.geometry.rowsIn rows encoder.rowsWritten * settings.geometry.stride ≤
    rows.length

theorem Counts.inRange (counts : Counts begun encoder) (known : encoder.settings = some settings)
    (rows : Bytes) : InRange settings encoder rows := by
  have bound := counts.rows_le
  rw [← counts.settings_eq, known, Option.elim_some] at bound
  refine ⟨bound, Geometry.add_rowsIn_le bound rows, ?_⟩
  rw [← Geometry.length_take_rowsIn]
  exact List.length_take_le' _ _

/-! ### Runs of calls -/

/-- A call before the end of encoding. -/
inductive Request where
  | begin (settings : EncoderSettings)
  /-- Rows are offered, with the memory that there is then. -/
  | write (rows : Bytes) (stride : Nat) (memory : Memory)

def failure {α : Type} : Except Fault α → Option Fault
  | .ok _ => none
  | .error fault => some fault

/-- Makes a call: how it fails, if it does, and what it leaves. -/
def respond (engine : Engine) (encoder : Encoder) (sink : Sink) :
    Request → Option Fault × Encoder × Sink
  | .begin settings =>
    let (answer, next) := encoder.begin settings
    (failure answer, next, sink)
  | .write rows stride memory =>
    let (answer, next, after) := encoder.write engine memory rows stride sink
    (failure answer, next, after)

/-- Makes calls, one after another. -/
def respondAll (engine : Engine) :
    Encoder → Sink → List Request → List (Option Fault) × Encoder × Sink
  | encoder, sink, [] => ([], encoder, sink)
  | encoder, sink, request :: later =>
    let (fault, next, after) := encoder.respond engine sink request
    let (faults, last) := respondAll engine next after later
    (fault :: faults, last)

theorem respondAll_cons (request : Request) (later : List Request) :
    encoder.respondAll engine sink (request :: later) =
      let reply := encoder.respond engine sink request
      let rest := reply.2.1.respondAll engine reply.2.2 later
      (reply.1 :: rest.1, rest.2) := rfl

/-- The settings that a call begins encoding with, unless it has begun before. -/
def Request.begins : Request → Option EncoderSettings
  | .begin settings => admitted settings
  | .write _ _ _ => none

/-- The settings that calls begin encoding with. -/
def begunBy (requests : List Request) : Option EncoderSettings := requests.findSome? Request.begins

/-- Rows of no bytes are offered to a frame without width. -/
def Request.Degenerate (begun : Option EncoderSettings) (request : Request) : Prop :=
  ∃ rows memory settings, request = .write rows 0 memory ∧ begun = some settings ∧
    settings.geometry.width = 0

theorem failure_eq_some_iff {α : Type} {answer : Except Fault α} {fault : Fault} :
    failure answer = some fault ↔ answer = .error fault := by
  cases answer with
  | ok value => exact iff_of_false nofun nofun
  | error known => rw [failure, Option.some.injEq, Except.error.injEq]

theorem respond_crash_iff {request : Request} :
    (encoder.respond engine sink request).1 = some .crash ↔
      request.Degenerate encoder.settings := by
  cases request with
  | begin settings =>
    show failure (encoder.begin settings).1 = some .crash ↔ _
    rw [failure_eq_some_iff]
    refine iff_of_false (begin_ne_crash encoder settings) ?_
    rintro ⟨_, _, _, same, _⟩
    cases same
  | write rows stride memory =>
    show failure (encoder.write engine memory rows stride sink).1 = some .crash ↔ _
    rw [failure_eq_some_iff, write_eq_crash_iff]
    constructor
    · rintro ⟨rfl, settings, known, flat⟩
      exact ⟨rows, memory, settings, rfl, known, flat⟩
    · rintro ⟨_, _, settings, same, known, flat⟩
      cases same
      exact ⟨rfl, settings, known, flat⟩

theorem Counts.respond (counts : Counts begun encoder) (engine : Engine) (sink : Sink)
    (request : Request) :
    Counts (begun.or request.begins) (encoder.respond engine sink request).2.1 := by
  cases request with
  | begin settings => exact counts.begin settings
  | write rows stride memory =>
    rw [Request.begins, Option.or_none]
    exact counts.write engine memory rows stride sink

theorem begunBy_cons (request : Request) (later : List Request) :
    begunBy (request :: later) = request.begins.or (begunBy later) := by
  rw [begunBy, ← List.singleton_append, List.findSome?_append, List.findSome?_singleton]
  rfl

theorem Counts.respondAll (counts : Counts begun encoder) (engine : Engine) (sink : Sink)
    (requests : List Request) :
    Counts (begun.or (begunBy requests)) (encoder.respondAll engine sink requests).2.1 := by
  induction requests generalizing begun encoder sink with
  | nil =>
    rw [show begunBy [] = none from rfl, Option.or_none]
    exact counts
  | cons request later ih =>
    rw [respondAll_cons, begunBy_cons, ← Option.or_assoc]
    exact ih (counts.respond engine sink request) _

/-- **The calls of a run that do not return.** -/
theorem Counts.crash_mem_iff (counts : Counts begun encoder) (engine : Engine) (sink : Sink)
    (requests : List Request) :
    some .crash ∈ (encoder.respondAll engine sink requests).1 ↔
      ∃ before request later, requests = before ++ request :: later ∧
        request.Degenerate (begun.or (begunBy before)) := by
  induction requests generalizing begun encoder sink with
  | nil =>
    refine iff_of_false List.not_mem_nil ?_
    rintro ⟨before, request, later, split, _⟩
    exact List.append_ne_nil_of_right_ne_nil before (List.cons_ne_nil request later) split.symm
  | cons request later ih =>
    rw [respondAll_cons, List.mem_cons, eq_comm, respond_crash_iff, counts.settings_eq,
      ih (counts.respond engine sink request)]
    constructor
    · rintro (first | ⟨before, other, behind, rfl, degenerate⟩)
      · refine ⟨[], request, later, rfl, ?_⟩
        rw [show begunBy [] = none from rfl, Option.or_none]
        exact first
      · refine ⟨request :: before, other, behind, rfl, ?_⟩
        rw [begunBy_cons, ← Option.or_assoc]
        exact degenerate
    · rintro ⟨before, other, behind, split, degenerate⟩
      cases before with
      | nil =>
        cases split
        rw [show begunBy [] = none from rfl, Option.or_none] at degenerate
        exact .inl degenerate
      | cons first before =>
        cases split
        rw [begunBy_cons, ← Option.or_assoc] at degenerate
        exact .inr ⟨before, other, behind, rfl, degenerate⟩

/-- **When every call returns.** All calls of a run return, with a value or with an error, unless
one of them offers rows of no bytes after encoding has begun for a frame without width. Whatever the
calls, and whatever memory they find, what the next one computes is in range, and ending the
encoding returns. -/
theorem respondAll_returns_iff (engine : Engine) (sink : Sink) (requests : List Request) :
    let run := create.respondAll engine sink requests
    (some .crash ∉ run.1 ↔
      ∀ before rows memory later settings, requests = before ++ .write rows 0 memory :: later →
        begunBy before = some settings → settings.geometry.width ≠ 0) ∧
      (∀ settings rows, run.2.1.settings = some settings → InRange settings run.2.1 rows) ∧
      ∀ last, failure (run.2.1.finish last).1 ≠ some .crash := by
  intro run
  refine ⟨?_, fun settings rows known => ?_, fun last crashes => ?_⟩
  · rw [counts_create.crash_mem_iff]
    constructor
    · intro returns before rows memory later settings split begun flat
      exact returns
        ⟨before, .write rows 0 memory, later, split, rows, memory, settings, rfl, begun, flat⟩
    · rintro wide ⟨before, _, later, split, rows, memory, settings, rfl, begun, flat⟩
      exact wide before rows memory later settings split begun flat
  · exact (counts_create.respondAll engine sink requests).inRange known rows
  · exact finish_ne_crash _ _ (failure_eq_some_iff.mp crashes)

/-- **Rows of no bytes are divided by**: eight rows of a frame without width. -/
theorem respondAll_crash_without_width :
    let settings : EncoderSettings := ⟨⟨0, 8, .gray⟩, 60, false, false⟩
    create.begin settings = (.ok (), ⟨some settings, [], 0, false⟩) ∧
      (create.respondAll Dct.engine Sink.empty [.begin settings, .write [] 0 (.below 0)]).1 =
        [none, some .crash] :=
  ⟨rfl, rfl⟩

end JpegTranscoder.Scanline.Encoder
