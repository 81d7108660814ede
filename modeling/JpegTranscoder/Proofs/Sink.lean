/-
**What a sink takes.**

Whatever limits the writes of a sink and whatever faults are planned for it, it takes bytes in order
and drops none of them. A sink that never fails takes everything:

* `writeAll_takes`: what a writing takes, whether it succeeds or fails;
* `Reliable.writeAll_ok`: a writing to a sink that never fails;
* `writeAll_struck`: a writing that a planned fault stops.
-/
import JpegTranscoder.Sink

namespace JpegTranscoder.Sink

variable {sink : Sink} {bytes : Bytes}

/-! ### What a sink takes -/

theorem fitting_prefix (sink : Sink) (bytes : Bytes) : sink.fitting bytes <+: bytes := by
  unfold fitting
  split
  · exact List.prefix_rfl
  · exact List.take_prefix _ _

/-- A write takes bytes from the start of what it is given, and none if it fails. -/
theorem write_takes (sink : Sink) (bytes : Bytes) :
    ∃ taken, taken <+: bytes ∧ (sink.write bytes).2.accepted = sink.accepted ++ taken ∧
      (sink.write bytes).2.flushes = sink.flushes ∧
      match (sink.write bytes).1 with
      | .ok count => count = taken.length
      | .error _ => taken = [] := by
  have nothing (later : List Fault) :
      ({ sink with faults := later } : Sink).accepted = sink.accepted ++ [] :=
    (List.append_nil _).symm
  unfold write
  split
  · exact ⟨_, sink.fitting_prefix bytes, accepted_accept _ _, rfl, rfl⟩
  · split
    · split
      · exact ⟨[], List.nil_prefix, nothing _, rfl, rfl⟩
      · exact ⟨[], List.nil_prefix, nothing _, rfl, rfl⟩
    · exact ⟨_, sink.fitting_prefix bytes, accepted_accept _ _, rfl, rfl⟩

/-- **A writing takes bytes from the start of what it is given**: all of them if it succeeds, and
fewer if it fails. -/
theorem writeAll_takes (sink : Sink) (bytes : Bytes) :
    ∃ taken, taken <+: bytes ∧ (sink.writeAll bytes).2.accepted = sink.accepted ++ taken ∧
      (sink.writeAll bytes).2.flushes = sink.flushes ∧
      ((sink.writeAll bytes).1 = .ok () ↔ taken = bytes) := by
  fun_induction sink.writeAll bytes with
  | case1 sink => exact ⟨[], List.prefix_rfl, (List.append_nil _).symm, rfl, by simp⟩
  | case2 sink first rest after outcome =>
    obtain ⟨taken, before, accepted, flushes, count⟩ := sink.write_takes (first :: rest)
    rw [outcome] at accepted flushes count
    obtain rfl : taken = [] := List.eq_nil_of_length_eq_zero count.symm
    exact ⟨[], before, accepted, flushes, by simp⟩
  | case3 sink first rest count after outcome ih =>
    obtain ⟨taken, before, accepted, flushes, length⟩ := sink.write_takes (first :: rest)
    rw [outcome] at accepted flushes length
    obtain ⟨more, later, acceptedAfter, flushesAfter, whole⟩ := ih
    -- what the first write left is what its prefix leaves
    obtain ⟨left, split⟩ := before
    have remaining : rest.drop count = left := by
      have dropped : (first :: rest).drop (count + 1) = left := by
        rw [← split, show count + 1 = taken.length from length, List.drop_left]
      exact dropped
    rw [remaining] at later acceptedAfter flushesAfter whole ⊢
    refine ⟨taken ++ more, ?_, ?_, flushesAfter.trans flushes, ?_⟩
    · rw [← split]
      exact (List.prefix_append_right_inj taken).mpr later
    · rw [acceptedAfter, accepted, List.append_assoc]
    · rw [whole, ← split, List.append_cancel_left_eq]
  | case4 sink first rest after error outcome interrupted ih =>
    obtain ⟨taken, _, accepted, flushes, none⟩ := sink.write_takes (first :: rest)
    rw [outcome] at accepted flushes none
    obtain rfl : taken = [] := none
    rw [List.append_nil] at accepted
    rw [← accepted, ← flushes]
    exact ih
  | case5 sink first rest after error outcome other =>
    obtain ⟨taken, before, accepted, flushes, none⟩ := sink.write_takes (first :: rest)
    rw [outcome] at accepted flushes none
    obtain rfl : taken = [] := none
    exact ⟨[], before, accepted, flushes, by simp⟩

theorem write_flushError (sink : Sink) (bytes : Bytes) :
    (sink.write bytes).2.flushError = sink.flushError := by
  unfold write
  split
  · rfl
  · split
    · split
      · rfl
      · rfl
    · rfl

/-- A writing changes nothing about the flushing behind it. -/
theorem writeAll_flushError (sink : Sink) (bytes : Bytes) :
    (sink.writeAll bytes).2.flushError = sink.flushError := by
  fun_induction sink.writeAll bytes with
  | case1 sink => rfl
  | case2 sink first rest after outcome
  | case5 sink first rest after error outcome other =>
    have kept := sink.write_flushError (first :: rest)
    rw [outcome] at kept
    exact kept
  | case3 sink first rest count after outcome ih
  | case4 sink first rest after error outcome interrupted ih =>
    have kept := sink.write_flushError (first :: rest)
    rw [outcome] at kept
    exact ih.trans kept

/-! ### Sinks that never fail -/

/-- A sink that never fails. Its writes take a byte at least, whatever limits them; if one is
interrupted, it is made again. -/
structure Reliable (sink : Sink) : Prop where
  limit_ne : ∀ offset, sink.limit offset ≠ some 0
  interrupted : ∀ fault ∈ sink.faults, ∃ error, fault.trouble = .refuse error ∧
    error.kind = .interrupted
  flushError_eq : sink.flushError = none

theorem reliable_empty : empty.Reliable := ⟨fun _ => nofun, nofun, rfl⟩

theorem Reliable.room_ne (reliable : sink.Reliable)
    (ahead : ∀ fault ∈ sink.faults.head?, sink.offset < fault.offset) : sink.room ≠ some 0 := by
  have limited := reliable.limit_ne sink.offset
  unfold room
  split
  · exact limited
  · rename_i fault _ _ planned
    have due := ahead fault (by rw [planned]; rfl)
    rw [ne_eq, Option.some.injEq]
    omega
  · rename_i limit fault _ known planned
    have due := ahead fault (by rw [planned]; rfl)
    rw [known, ne_eq, Option.some.injEq] at limited
    rw [ne_eq, Option.some.injEq]
    omega

theorem Reliable.fitting_ne (reliable : sink.Reliable) (given : bytes ≠ [])
    (ahead : ∀ fault ∈ sink.faults.head?, sink.offset < fault.offset) :
    (sink.fitting bytes).length ≠ 0 := by
  have room := reliable.room_ne ahead
  have long : 0 < bytes.length := List.length_pos_iff.mpr given
  unfold fitting
  split
  · exact Nat.ne_of_gt long
  · rename_i count known
    rw [known, ne_eq, Option.some.injEq] at room
    rw [List.length_take]
    omega

/-- A write to a sink that never fails takes a byte at least, or is interrupted. -/
theorem Reliable.write_progress (reliable : sink.Reliable) (given : bytes ≠ []) :
    (sink.write bytes).2.Reliable ∧
      match (sink.write bytes).1 with
      | .ok count => count ≠ 0
      | .error error => error.kind = .interrupted := by
  have later {fault : Fault} {faults : List Fault} (planned : sink.faults = fault :: faults) :
      ({ sink with faults } : Sink).Reliable := by
    refine ⟨reliable.limit_ne, fun other member => reliable.interrupted other ?_,
      reliable.flushError_eq⟩
    rw [planned]
    exact List.mem_cons_of_mem _ member
  have accepting (taken : Bytes) : (sink.accept taken).Reliable :=
    ⟨reliable.limit_ne, reliable.interrupted, reliable.flushError_eq⟩
  unfold write
  split
  · rename_i none
    refine ⟨accepting _, reliable.fitting_ne given ?_⟩
    rw [none]
    nofun
  · rename_i fault faults planned
    obtain ⟨error, refuses, interrupted⟩ := reliable.interrupted fault (by simp [planned])
    split
    · rw [refuses]
      exact ⟨later planned, interrupted⟩
    · rename_i notDue
      refine ⟨accepting _, reliable.fitting_ne given ?_⟩
      rw [planned]
      rintro _ ⟨⟩
      exact Nat.lt_of_not_le notDue

/-- **A sink that never fails takes everything**, and never fails later either. -/
theorem Reliable.writeAll_ok (reliable : sink.Reliable) (bytes : Bytes) :
    ∃ after, sink.writeAll bytes = (.ok (), after) ∧ after.accepted = sink.accepted ++ bytes ∧
      after.flushes = sink.flushes ∧ after.Reliable := by
  have succeeds : (sink.writeAll bytes).1 = .ok () ∧ (sink.writeAll bytes).2.Reliable := by
    fun_induction sink.writeAll bytes with
    | case1 sink => exact ⟨rfl, reliable⟩
    | case2 sink first rest after outcome =>
      obtain ⟨_, taken⟩ := reliable.write_progress (List.cons_ne_nil first rest)
      rw [outcome] at taken
      exact absurd rfl taken
    | case3 sink first rest count after outcome ih =>
      obtain ⟨still, _⟩ := reliable.write_progress (List.cons_ne_nil first rest)
      rw [outcome] at still
      exact ih still
    | case4 sink first rest after error outcome interrupted ih =>
      obtain ⟨still, _⟩ := reliable.write_progress (List.cons_ne_nil first rest)
      rw [outcome] at still
      exact ih still
    | case5 sink first rest after error outcome other =>
      obtain ⟨_, interrupted⟩ := reliable.write_progress (List.cons_ne_nil first rest)
      rw [outcome] at interrupted
      exact absurd interrupted other
  obtain ⟨taken, _, accepted, flushes, whole⟩ := sink.writeAll_takes bytes
  rw [whole.mp succeeds.1] at accepted
  exact ⟨_, Prod.ext succeeds.1 rfl, accepted, flushes, succeeds.2⟩

/-- A sink that does not fail when bytes are written to it, nor when it is flushed behind them. -/
structure Takes (sink : Sink) (bytes : Bytes) (after : Sink) : Prop where
  wrote : sink.writeAll bytes = (.ok (), after)
  flushError_eq : after.flushError = none

theorem Takes.accepted_eq {after : Sink} (takes : sink.Takes bytes after) :
    after.accepted = sink.accepted ++ bytes := by
  obtain ⟨taken, _, accepted, _, all⟩ := sink.writeAll_takes bytes
  rw [takes.wrote] at accepted all
  rw [← all.mp rfl]
  exact accepted

theorem Takes.flushes_eq {after : Sink} (takes : sink.Takes bytes after) :
    after.flushes = sink.flushes := by
  obtain ⟨_, _, _, flushes, _⟩ := sink.writeAll_takes bytes
  rw [takes.wrote] at flushes
  exact flushes

theorem Reliable.takes (reliable : sink.Reliable) (bytes : Bytes) :
    ∃ after, sink.Takes bytes after := by
  obtain ⟨after, wrote, _, _, still⟩ := reliable.writeAll_ok bytes
  exact ⟨after, wrote, still.flushError_eq⟩

/-! ### Sinks that fail -/

theorem writeAll_of_write {after : Sink} {count : Nat} {first : UInt8} {rest : Bytes}
    (wrote : sink.write (first :: rest) = (.ok (count + 1), after)) :
    sink.writeAll (first :: rest) = after.writeAll (rest.drop count) := by
  rw [writeAll]
  split
  · rename_i outcome
    rw [wrote] at outcome
    cases outcome
  · rename_i outcome
    rw [wrote] at outcome
    cases outcome
    rfl
  · rename_i outcome
    rw [wrote] at outcome
    cases outcome

theorem writeAll_of_refusal {after : Sink} {error : StreamError} (given : bytes ≠ [])
    (failed : sink.write bytes = (.error error, after)) (final : error.kind ≠ .interrupted) :
    sink.writeAll bytes = (.error error, after) := by
  obtain ⟨first, rest, rfl⟩ := List.exists_cons_of_ne_nil given
  rw [writeAll]
  split
  · rename_i outcome
    rw [failed] at outcome
    cases outcome
  · rename_i outcome
    rw [failed] at outcome
    cases outcome
  · rename_i outcome
    rw [failed] at outcome
    cases outcome
    exact if_neg final

/-- A write of which no byte is taken stops the writing. -/
theorem writeAll_of_stall {after : Sink} (given : bytes ≠ [])
    (stalled : sink.write bytes = (.ok 0, after)) :
    sink.writeAll bytes = (.error .nothingWritten, after) := by
  obtain ⟨first, rest, rfl⟩ := List.exists_cons_of_ne_nil given
  rw [writeAll]
  split
  · rename_i outcome
    cases stalled.symm.trans outcome
    rfl
  · rename_i outcome
    cases stalled.symm.trans outcome
  · rename_i outcome
    cases stalled.symm.trans outcome

/-- A fault within the bytes that are given stops the writing where it strikes. -/
theorem writeAll_struck {count : Nat} {later : List Fault} {error : StreamError}
    (unlimited : ∀ offset, sink.limit offset = none)
    (planned : sink.faults = ⟨sink.offset + count, .refuse error⟩ :: later)
    (final : error.kind ≠ .interrupted) (short : count < bytes.length) :
    sink.writeAll bytes =
      (.error error, { sink.accept (bytes.take count) with faults := later }) := by
  have refuses (due : Sink) (given : Bytes) (same : due.faults = sink.faults)
      (reached : due.offset = sink.offset + count) :
      due.write given = (.error error, { due with faults := later }) := by
    rw [write]
    simp only [same, planned, reached, Nat.le_refl, if_true]
  cases count with
  | zero =>
    exact writeAll_of_refusal (List.ne_nil_of_length_pos short) (refuses sink _ rfl rfl) final
  | succ count =>
    obtain ⟨first, rest, rfl⟩ := List.exists_cons_of_length_pos (Nat.zero_lt_of_lt short)
    have length : ((first :: rest).take (count + 1)).length = count + 1 := by
      rw [List.length_take, Nat.min_eq_left (Nat.le_of_lt short)]
    have wrote : sink.write (first :: rest) =
        (.ok (count + 1), sink.accept ((first :: rest).take (count + 1))) := by
      have fitting : sink.fitting (first :: rest) = (first :: rest).take (count + 1) := by
        simp only [Sink.fitting, room, unlimited, planned, Nat.add_sub_cancel_left]
      have notDue : ¬sink.offset + (count + 1) ≤ sink.offset := by omega
      rw [write, fitting]
      simp only [planned, if_neg notDue, length]
    have more : rest.drop count ≠ [] := by
      refine List.ne_nil_of_length_pos ?_
      rw [List.length_cons] at short
      rw [List.length_drop]
      omega
    rw [writeAll_of_write wrote]
    refine writeAll_of_refusal more (refuses _ _ rfl ?_) final
    show sink.offset + _ = _
    rw [length]

end JpegTranscoder.Sink
