/-
**Byte sinks.**

A sink accepts bytes in writes of limited size, with errors planned at offsets. An error of kind
`interrupted` is not the end of the writing: the write is made again. A write of which no byte is
taken is an error.

Writes that are cut short are continued, so bytes come to the same in one `writeAll` or in several,
unless a limit is zero just where one of several begins. The bytes of a frame are written in one.

* `Sink.writeAll` writes everything or stops at the first other error;
* `Sink.flush` counts the calls made to it.
-/
import JpegTranscoder.Bytes
import JpegTranscoder.Error

namespace JpegTranscoder

/-- What a planned fault makes of the write that it strikes. -/
inductive Sink.Trouble where
  /-- The write takes no byte. -/
  | stall
  /-- The write fails. -/
  | refuse (error : StreamError)
  deriving DecidableEq, Repr

/-- A trouble that strikes the next write at or after an offset, once. -/
structure Sink.Fault where
  offset : Nat
  trouble : Sink.Trouble
  deriving DecidableEq, Repr

/-- A byte sink. -/
structure Sink where
  /-- The bytes accepted so far, the latest first. -/
  backwards : Bytes
  /-- The offset of the next byte. -/
  offset : Nat
  /-- The number of calls to `flush`. -/
  flushes : Nat
  /-- The most bytes that a write takes which begins at an offset; `none` is no limit. -/
  limit : Nat → Option Nat
  /-- The faults to come, in order. -/
  faults : List Sink.Fault
  /-- The error of every flush, if flushing fails. -/
  flushError : Option StreamError
  /-- The next byte follows the accepted ones. -/
  offset_eq : offset = backwards.length := by rfl

namespace Sink

/-- A sink in memory, which takes everything. -/
def empty : Sink where
  backwards := []
  offset := 0
  flushes := 0
  limit := fun _ => none
  faults := []
  flushError := none

/-- The bytes accepted so far. -/
def accepted (sink : Sink) : Bytes := sink.backwards.reverse

/-- The sink with more bytes accepted. -/
def accept (sink : Sink) (bytes : Bytes) : Sink :=
  { sink with
    backwards := bytes.reverse ++ sink.backwards
    offset := sink.offset + bytes.length
    offset_eq := by rw [List.length_append, List.length_reverse, sink.offset_eq, Nat.add_comm] }

/-- Bytes are accepted behind those accepted before. -/
theorem accepted_accept (sink : Sink) (bytes : Bytes) :
    (sink.accept bytes).accepted = sink.accepted ++ bytes := by
  simp [accepted, accept]

/-- The most bytes that the next write takes, by the limit and by the next fault; `none` is no
limit. -/
def room (sink : Sink) : Option Nat :=
  match sink.limit sink.offset, sink.faults with
  | limit, [] => limit
  | none, fault :: _ => some (fault.offset - sink.offset)
  | some limit, fault :: _ => some (min limit (fault.offset - sink.offset))

/-- What the next write takes of the given bytes. -/
def fitting (sink : Sink) (bytes : Bytes) : Bytes :=
  match sink.room with
  | none => bytes
  | some count => bytes.take count

/-- One write, and how many bytes it took. -/
def write (sink : Sink) (bytes : Bytes) : Except StreamError Nat × Sink :=
  let taken := sink.fitting bytes
  match sink.faults with
  | [] => (.ok taken.length, sink.accept taken)
  | fault :: later =>
    if fault.offset ≤ sink.offset then
      match fault.trouble with
      | .stall => (.ok 0, { sink with faults := later })
      | .refuse error => (.error error, { sink with faults := later })
    else (.ok taken.length, sink.accept taken)

/-- A write that took bytes used up no fault. -/
theorem write_ok_faults {sink after : Sink} {bytes : Bytes} {count : Nat}
    (taken : sink.write bytes = (.ok (count + 1), after)) : after.faults = sink.faults := by
  unfold write at taken
  simp only at taken
  split at taken
  · simp only [Prod.mk.injEq] at taken
    rw [← taken.2]
    rfl
  · split at taken
    · split at taken <;> simp at taken
    · simp only [Prod.mk.injEq] at taken
      rw [← taken.2]
      rfl

/-- A write that failed used up a fault. -/
theorem write_error_faults {sink after : Sink} {bytes : Bytes} {error : StreamError}
    (failed : sink.write bytes = (.error error, after)) :
    after.faults.length < sink.faults.length := by
  unfold write at failed
  simp only at failed
  split at failed
  · simp at failed
  · rename_i fault later planned
    split at failed
    · split at failed
      · simp at failed
      · simp only [Prod.mk.injEq] at failed
        rw [← failed.2]
        simp [planned]
    · simp at failed

/-- Writes all bytes. An interrupted write is made again; any other error ends the writing. -/
def writeAll (sink : Sink) (bytes : Bytes) : Except StreamError Unit × Sink :=
  match bytes with
  | [] => (.ok (), sink)
  | first :: rest =>
    match _outcome : sink.write (first :: rest) with
    | (.ok 0, after) => (.error .nothingWritten, after)
    | (.ok (count + 1), after) => writeAll after (rest.drop count)
    | (.error error, after) =>
      if error.kind = .interrupted then writeAll after (first :: rest) else (.error error, after)
termination_by bytes.length + sink.faults.length
decreasing_by
  · have same := write_ok_faults _outcome
    simp only [List.length_drop, List.length_cons, same]
    omega
  · have fewer := write_error_faults _outcome
    simp only [List.length_cons]
    omega

def flush (sink : Sink) : Except StreamError Unit × Sink :=
  (match sink.flushError with
    | none => .ok ()
    | some error => .error error,
    { sink with flushes := sink.flushes + 1 })

end Sink

end JpegTranscoder
