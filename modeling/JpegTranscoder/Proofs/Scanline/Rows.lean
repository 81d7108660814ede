/-
**Whole rows of a buffer.**

A buffer brings as many rows as it holds whole, or takes as many as it has room for; but never more
than the frame still lacks. A list of buffers divides the frame between them, each starting where
the one before it stopped:

* `add_rowsInAll_le`: no more rows are counted than the frame has;
* `Splits`, `AtOnce`: whether a frame is divided at all, or one of the buffers has all of it;
* `Ends`, `ends_add_iff`: rows that end a frame.
-/
import JpegTranscoder.Geometry
import JpegTranscoder.Bytes

namespace JpegTranscoder.Geometry

variable {geometry : Geometry} {buffer : Bytes} {before : Nat}

/-- The whole rows of a buffer, up to those that the frame lacks behind its first ones. -/
def rowsIn (geometry : Geometry) (buffer : Bytes) (before : Nat) : Nat :=
  min (buffer.length / geometry.stride) (geometry.rows - before)

theorem rowsIn_done (geometry : Geometry) (buffer : Bytes) :
    geometry.rowsIn buffer geometry.rows = 0 := by
  rw [rowsIn, Nat.sub_self, Nat.min_zero]

theorem add_rowsIn_le (below : before ≤ geometry.rows) (buffer : Bytes) :
    before + geometry.rowsIn buffer before ≤ geometry.rows := by
  rw [rowsIn]
  omega

theorem length_take_rowsIn (geometry : Geometry) (buffer : Bytes) (before : Nat) :
    (buffer.take (geometry.rowsIn buffer before * geometry.stride)).length =
      geometry.rowsIn buffer before * geometry.stride := by
  rw [List.length_take, Nat.min_eq_left]
  calc geometry.rowsIn buffer before * geometry.stride ≤
        buffer.length / geometry.stride * geometry.stride :=
        Nat.mul_le_mul_right _ (Nat.min_le_left _ _)
    _ ≤ buffer.length := Nat.div_mul_le_self _ _

theorem take_rows {frame : Bytes} (whole : frame.length = geometry.byteCount) :
    frame.take (geometry.rows * geometry.stride) = frame :=
  List.take_of_length_le (Nat.le_of_eq whole)

/-- A buffer that holds the whole frame brings all of its rows. -/
theorem rowsIn_whole (wide : geometry.width ≠ 0) (long : geometry.byteCount ≤ buffer.length) :
    geometry.rowsIn buffer 0 = geometry.rows := by
  have held := (Nat.le_div_iff_mul_le (stride_pos wide)).mpr long
  rw [rowsIn]
  omega

/-- The rows of all buffers of a list. -/
def rowsInAll (geometry : Geometry) : Nat → List Bytes → Nat
  | _, [] => 0
  | before, buffer :: later =>
    geometry.rowsIn buffer before +
      geometry.rowsInAll (before + geometry.rowsIn buffer before) later

/-- **No more rows are counted than the frame has.** -/
theorem add_rowsInAll_le (below : before ≤ geometry.rows) (buffers : List Bytes) :
    before + geometry.rowsInAll before buffers ≤ geometry.rows := by
  induction buffers generalizing before with
  | nil => exact below
  | cons buffer later ih =>
    rw [rowsInAll, ← Nat.add_assoc]
    exact ih (add_rowsIn_le below buffer)

theorem rowsInAll_le (buffers : List Bytes) : geometry.rowsInAll 0 buffers ≤ geometry.rows := by
  rw [← Nat.zero_add (geometry.rowsInAll 0 buffers)]
  exact add_rowsInAll_le (Nat.zero_le _) buffers

/-- A buffer at the start of a frame has some of its rows, but not all. -/
def Splits (geometry : Geometry) (buffer : Bytes) : Prop :=
  geometry.rowsIn buffer 0 ≠ 0 ∧ geometry.rowsIn buffer 0 ≠ geometry.rows

instance (geometry : Geometry) (buffer : Bytes) : Decidable (geometry.Splits buffer) :=
  inferInstanceAs (Decidable (_ ∧ _))

/-- The first buffer that has rows at all has all those of the frame. -/
def AtOnce (geometry : Geometry) : List Bytes → Prop
  | [] => True
  | buffer :: later =>
    if geometry.rowsIn buffer 0 = 0 then geometry.AtOnce later
    else geometry.rowsIn buffer 0 = geometry.rows

theorem atOnce_cons_of_idle (idle : geometry.rowsIn buffer 0 = 0) (later : List Bytes) :
    geometry.AtOnce (buffer :: later) ↔ geometry.AtOnce later := by
  rw [AtOnce, if_pos idle]

theorem atOnce_cons_of_rows (some : geometry.rowsIn buffer 0 ≠ 0) (later : List Bytes) :
    geometry.AtOnce (buffer :: later) ↔ geometry.rowsIn buffer 0 = geometry.rows := by
  rw [AtOnce, if_neg some]

/-- Rows end a frame behind its first ones. -/
def Ends (geometry : Geometry) (before count : Nat) : Prop :=
  before < geometry.rows ∧ before + count = geometry.rows

instance (geometry : Geometry) (before count : Nat) : Decidable (geometry.Ends before count) :=
  inferInstanceAs (Decidable (_ ∧ _))

/-- Behind a buffer that does not end a frame, those after it end it. -/
theorem ends_add_iff {count more : Nat} (bound : before + count ≤ geometry.rows)
    (due : ¬geometry.Ends before count) :
    geometry.Ends before (count + more) ↔ geometry.Ends (before + count) more := by
  unfold Ends at *
  omega

end JpegTranscoder.Geometry
