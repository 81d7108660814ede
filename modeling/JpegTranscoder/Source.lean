/-
**Byte sources.**

A source delivers its bytes in reads of limited size, with errors planned at offsets. An error of
kind `interrupted` is not the end of the reading: the read is made again.

* `Source.readToEnd` reads up to the end or to the first other error.
-/
import JpegTranscoder.Bytes
import JpegTranscoder.Error

namespace JpegTranscoder

/-- An error that the next read at or after an offset gives, once. -/
structure Source.Fault where
  offset : Nat
  error : StreamError
  deriving DecidableEq, Repr

structure Source where
  /-- The bytes not yet delivered. -/
  remaining : Bytes
  /-- The number of bytes delivered. -/
  delivered : Nat
  /-- The most bytes that one read gives at an offset; `none` is no limit. -/
  limit : Nat → Option Nat
  /-- The errors to come, in order. -/
  faults : List Source.Fault

namespace Source

/-- A source that delivers everything in one read. -/
def ofBytes (bytes : Bytes) : Source := ⟨bytes, 0, fun _ => none, []⟩

/-- What the limit leaves of the bytes to come. -/
def limited (source : Source) : Bytes :=
  match source.limit source.delivered with
  | none => source.remaining
  | some most => source.remaining.take most

/-- What the next read gives if no error strikes it: it stops short where the next error is due. -/
def upcoming (source : Source) : Bytes :=
  match source.faults with
  | [] => source.limited
  | fault :: _ => source.limited.take (fault.offset - source.delivered)

/-- A read gives the first of the bytes to come. -/
theorem upcoming_initial (source : Source) : source.upcoming <+: source.remaining := by
  have within : source.limited <+: source.remaining := by
    unfold limited
    split
    · exact List.prefix_rfl
    · exact List.take_prefix _ _
  unfold upcoming
  split
  · exact within
  · exact (List.take_prefix _ _).trans within

/-- The source after `count` bytes. -/
def advance (source : Source) (count : Nat) : Source :=
  { source with
    remaining := source.remaining.drop count
    delivered := source.delivered + count }

/-- One read. It gives no bytes only at the end, or where the limit is zero. -/
def read (source : Source) : Except StreamError Bytes × Source :=
  let bytes := source.upcoming
  match source.faults with
  | [] => (.ok bytes, source.advance bytes.length)
  | fault :: later =>
    if fault.offset ≤ source.delivered then (.error fault.error, { source with faults := later })
    else (.ok bytes, source.advance bytes.length)

/-- The reads that a source can still give: each delivers a byte or uses up an error. -/
def pending (source : Source) : Nat := source.remaining.length + source.faults.length

/-- A read that delivers bytes leaves fewer to come. -/
theorem read_ok_pending {source after : Source} {byte : UInt8} {bytes : Bytes}
    (delivered : source.read = (.ok (byte :: bytes), after)) : after.pending < source.pending := by
  have shorter (given : source.upcoming = byte :: bytes) :
      (source.advance source.upcoming.length).pending < source.pending := by
    have within := source.upcoming_initial.length_le
    rw [given, List.length_cons] at within
    simp only [pending, advance, given, List.length_drop, List.length_cons]
    omega
  unfold read at delivered
  split at delivered
  · obtain ⟨given, rfl⟩ := Prod.mk.inj delivered
    exact shorter (Except.ok.inj given)
  · split at delivered
    · simp at delivered
    · obtain ⟨given, rfl⟩ := Prod.mk.inj delivered
      exact shorter (Except.ok.inj given)

/-- A read that fails uses up an error. -/
theorem read_error_pending {source after : Source} {error : StreamError}
    (failed : source.read = (.error error, after)) : after.pending < source.pending := by
  unfold read at failed
  split at failed
  · simp at failed
  · rename_i fault later planned
    split at failed
    · simp only [Prod.mk.injEq] at failed
      rw [← failed.2]
      simp [pending, planned]
    · simp at failed

/-- Reads up to the end. An interrupted read is made again; any other error ends the reading, and
what was delivered before it is lost. -/
def readToEnd (source : Source) : Except StreamError Bytes × Source :=
  match _outcome : source.read with
  | (.ok [], after) => (.ok [], after)
  | (.ok (byte :: bytes), after) =>
    let (result, last) := readToEnd after
    (result.map (byte :: bytes ++ ·), last)
  | (.error error, after) =>
    if error.kind = .interrupted then readToEnd after else (.error error, after)
termination_by source.pending
decreasing_by
  · exact read_ok_pending _outcome
  · exact read_error_pending _outcome

end Source

end JpegTranscoder
