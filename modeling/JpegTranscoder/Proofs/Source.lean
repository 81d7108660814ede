/-
**What a source delivers.**

A source is read in pieces of any sizes. Some reads are interrupted and made again, until one finds
nothing more or fails for another reason. So a source delivers its bytes or breaks:

* `Delivers`, `Breaks`: the two ways in which the reads of a source go;
* `Delivers.readToEnd_eq`, `Breaks.readToEnd_eq`: what reading to the end gives in each;
* `Reliable.delivers`, `breaks_of_planned`: which way it goes by the errors that are planned.
-/
import JpegTranscoder.Source

namespace JpegTranscoder.Source

variable {source after : Source} {first : UInt8} {rest bytes : Bytes} {error : StreamError}

/-! ### The two ways -/

/-- The reads of a source give these bytes, in pieces of any sizes and with any number of
interruptions, and then nothing. -/
inductive Delivers : Source → Bytes → Prop where
  | ended {source after : Source} (read : source.read = (.ok [], after)) : Delivers source []
  | gave {source after : Source} {first : UInt8} {rest later : Bytes}
      (read : source.read = (.ok (first :: rest), after)) (more : Delivers after later) :
      Delivers source (first :: rest ++ later)
  | interrupted {source after : Source} {error : StreamError} {bytes : Bytes}
      (read : source.read = (.error error, after)) (again : error.kind = .interrupted)
      (more : Delivers after bytes) : Delivers source bytes

/-- The reads of a source come to an error that is no interruption, whatever they gave before. -/
inductive Breaks : Source → StreamError → Prop where
  | failed {source after : Source} {error : StreamError}
      (read : source.read = (.error error, after)) (final : error.kind ≠ .interrupted) :
      Breaks source error
  | gave {source after : Source} {first : UInt8} {rest : Bytes} {error : StreamError}
      (read : source.read = (.ok (first :: rest), after)) (later : Breaks after error) :
      Breaks source error
  | interrupted {source after : Source} {reason error : StreamError}
      (read : source.read = (.error reason, after)) (again : reason.kind = .interrupted)
      (later : Breaks after error) : Breaks source error

/-! ### Reading to the end -/

theorem readToEnd_ended (read : source.read = (.ok [], after)) :
    source.readToEnd = (.ok [], after) := by
  rw [readToEnd]
  split
  · rename_i outcome
    cases read.symm.trans outcome
    rfl
  · rename_i outcome
    cases read.symm.trans outcome
  · rename_i outcome
    cases read.symm.trans outcome

theorem readToEnd_gave (read : source.read = (.ok (first :: rest), after)) :
    source.readToEnd =
      (after.readToEnd.1.map (first :: rest ++ ·), after.readToEnd.2) := by
  rw [readToEnd]
  split
  · rename_i outcome
    cases read.symm.trans outcome
  · rename_i outcome
    cases read.symm.trans outcome
    rfl
  · rename_i outcome
    cases read.symm.trans outcome

theorem readToEnd_error (read : source.read = (.error error, after)) :
    source.readToEnd =
      if error.kind = .interrupted then after.readToEnd else (.error error, after) := by
  rw [readToEnd]
  split
  · rename_i outcome
    cases read.symm.trans outcome
  · rename_i outcome
    cases read.symm.trans outcome
  · rename_i outcome
    cases read.symm.trans outcome
    rfl

theorem Delivers.readToEnd_eq (delivers : source.Delivers bytes) :
    source.readToEnd.1 = .ok bytes := by
  induction delivers with
  | ended read => rw [readToEnd_ended read]
  | gave read _ ih =>
    rw [readToEnd_gave read, ih]
    rfl
  | interrupted read again _ ih => rw [readToEnd_error read, if_pos again, ih]

theorem Breaks.readToEnd_eq (breaks : source.Breaks error) :
    source.readToEnd.1 = .error error := by
  induction breaks with
  | failed read final => rw [readToEnd_error read, if_neg final]
  | gave read _ ih =>
    rw [readToEnd_gave read, ih]
    rfl
  | interrupted read again _ ih => rw [readToEnd_error read, if_pos again, ih]

/-! ### Planned errors -/

/-- How a read of a source goes whose limits are not zero: it meets the next error, or it gives a
byte at least, or there is none. -/
inductive Turn (source : Source) : Except StreamError Bytes → Source → Prop where
  | struck {fault : Fault} {later : List Fault} (planned : source.faults = fault :: later)
      (due : fault.offset ≤ source.delivered) :
      Turn source (.error fault.error) { source with faults := later }
  | gave {given : Bytes} (some : given ≠ []) {left : Bytes}
      (split : source.remaining = given ++ left) :
      Turn source (.ok given)
        { source with remaining := left, delivered := source.delivered + given.length }
  | ended (nothing : source.remaining = [])
      (ahead : ∀ fault ∈ source.faults.head?, source.delivered < fault.offset) :
      Turn source (.ok []) { source with delivered := source.delivered + 0 }

theorem limited_ne (unstopped : ∀ offset, source.limit offset ≠ some 0)
    (given : source.remaining ≠ []) : source.limited ≠ [] := by
  unfold limited
  split
  · exact given
  · rename_i most known
    rw [ne_eq, List.take_eq_nil_iff, not_or]
    refine ⟨?_, given⟩
    rintro rfl
    exact unstopped _ known

theorem upcoming_ne (unstopped : ∀ offset, source.limit offset ≠ some 0)
    (ahead : ∀ fault ∈ source.faults.head?, source.delivered < fault.offset)
    (given : source.remaining ≠ []) : source.upcoming ≠ [] := by
  have some := limited_ne unstopped given
  unfold upcoming
  split
  · exact some
  · rename_i fault later planned
    have due := ahead fault (by rw [planned]; rfl)
    rw [ne_eq, List.take_eq_nil_iff, not_or]
    exact ⟨by omega, some⟩

theorem read_turn (unstopped : ∀ offset, source.limit offset ≠ some 0) :
    source.Turn source.read.1 source.read.2 := by
  have unstruck (ahead : ∀ fault ∈ source.faults.head?, source.delivered < fault.offset) :
      source.Turn (.ok source.upcoming) (source.advance source.upcoming.length) := by
    obtain ⟨left, split⟩ := source.upcoming_initial
    by_cases nothing : source.remaining = []
    · have none : source.upcoming = [] := by
        rw [nothing] at split
        exact (List.append_eq_nil_iff.mp split).1
      rw [none, advance, List.length_nil, List.drop_zero]
      exact .ended nothing ahead
    · have same : source.remaining.drop source.upcoming.length = left := by
        rw [← split, List.drop_left]
      rw [advance, same]
      exact .gave (upcoming_ne unstopped ahead nothing) split.symm
  unfold read
  split
  · rename_i none
    refine unstruck ?_
    rw [none]
    rintro _ ⟨⟩
  · rename_i fault later planned
    split
    · rename_i due
      exact .struck planned due
    · rename_i notDue
      refine unstruck ?_
      rw [planned]
      rintro _ ⟨⟩
      exact Nat.lt_of_not_le notDue

/-- A source that never breaks. Its reads give a byte at least, whatever limits them; if one is
interrupted, it is made again. -/
structure Reliable (source : Source) : Prop where
  limit_ne : ∀ offset, source.limit offset ≠ some 0
  interrupted : ∀ fault ∈ source.faults, fault.error.kind = .interrupted

/-- **A source that never breaks delivers all its bytes.** -/
theorem Reliable.delivers (reliable : source.Reliable) : source.Delivers source.remaining := by
  induction source using readToEnd.induct with
  | case1 source after read =>
    have turn := read_turn reliable.limit_ne
    rw [read] at turn
    cases turn with
    | gave some => exact absurd rfl some
    | ended nothing =>
      rw [nothing]
      exact .ended read
  | case2 source first rest after read result last outcome ih =>
    have turn := read_turn reliable.limit_ne
    rw [read] at turn
    cases turn with
    | gave some split =>
      rw [split]
      exact .gave read (ih ⟨reliable.limit_ne, reliable.interrupted⟩)
  | case3 source error after read again ih =>
    have turn := read_turn reliable.limit_ne
    rw [read] at turn
    cases turn with
    | struck planned due =>
      refine .interrupted read again (ih ⟨reliable.limit_ne, fun fault member => ?_⟩)
      refine reliable.interrupted fault ?_
      rw [planned]
      exact List.mem_cons_of_mem _ member
  | case4 source error after read final =>
    have turn := read_turn reliable.limit_ne
    rw [read] at turn
    cases turn with
    | struck planned due =>
      refine absurd (reliable.interrupted _ ?_) final
      rw [planned]
      exact List.mem_cons_self

/-- **A source breaks at the first error that is no interruption**, if its bytes reach so far: a
read strikes an error that is due where they end, too. -/
theorem breaks_of_planned (unstopped : ∀ offset, source.limit offset ≠ some 0)
    {before later : List Fault} {fault : Fault}
    (planned : source.faults = before ++ fault :: later)
    (again : ∀ earlier ∈ before, earlier.error.kind = .interrupted)
    (final : fault.error.kind ≠ .interrupted)
    (within : ∀ due ∈ before ++ [fault], due.offset ≤ source.delivered + source.remaining.length) :
    source.Breaks fault.error := by
  induction source using readToEnd.induct generalizing before with
  | case1 source after read =>
    have turn := read_turn unstopped
    rw [read] at turn
    cases turn with
    | gave some => exact absurd rfl some
    | ended nothing ahead =>
      -- the next error is due where the bytes end, so the read would have struck it
      have inside (due : Fault) (member : due ∈ before ++ [fault]) :
          due.offset ≤ source.delivered := by
        have reached := within due member
        rwa [nothing, List.length_nil, Nat.add_zero] at reached
      rw [planned] at ahead
      cases before with
      | nil =>
        exact absurd (ahead fault rfl) (Nat.not_lt.mpr (inside fault List.mem_cons_self))
      | cons earlier rest =>
        exact absurd (ahead earlier rfl) (Nat.not_lt.mpr (inside earlier List.mem_cons_self))
  | case2 source first rest after read result last outcome ih =>
    have turn := read_turn unstopped
    rw [read] at turn
    cases turn with
    | gave some split =>
      refine .gave read (ih unstopped planned again fun due member => ?_)
      have reached := within due member
      rwa [split, List.length_append, ← Nat.add_assoc] at reached
  | case3 source error after read interrupted ih =>
    have turn := read_turn unstopped
    rw [read] at turn
    cases turn with
    | struck head due =>
      rw [planned] at head
      cases before with
      | nil =>
        cases head
        exact absurd interrupted final
      | cons earlier before =>
        cases head
        rw [List.cons_append, List.forall_mem_cons] at within
        rw [List.forall_mem_cons] at again
        exact .interrupted read interrupted (ih unstopped rfl again.2 within.2)
  | case4 source error after read stops =>
    have turn := read_turn unstopped
    rw [read] at turn
    cases turn with
    | struck head due =>
      rw [planned] at head
      cases before with
      | nil =>
        cases head
        exact .failed read final
      | cons earlier before =>
        cases head
        exact absurd (again _ List.mem_cons_self) stops

end JpegTranscoder.Source
