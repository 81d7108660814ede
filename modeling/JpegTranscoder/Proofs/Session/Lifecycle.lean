/-
**The lifecycle of a session.**

A session goes from state to state along the edges of its lifecycle only, and never back:

* `perform_edge`: the edge that an operation takes, if it changes the state;
* `perform_error_iff`: the operation that ends a session is the one that reports why;
* `rank_le_after`: no operation leads back, so that each stage is passed once at most
  (`successes_le_one`), and an ended session stays ended;
* `lifecycle`: all of it, of every session that is ever reached.
-/
import JpegTranscoder.Proofs.Session.Endings
import JpegTranscoder.Proofs.Session.Holdings

namespace JpegTranscoder

/-- How far a state is in the lifecycle. -/
def State.rank : State → Nat
  | .created => 0
  | .headerRead => 1
  | .decoded => 2
  | .encoded => 3
  | .failed => 4
  | .closed => 5

namespace Session

variable {codec : Codec} {session : Session codec} {stage : Stage} {operation : Operation}

/-! ### Edges -/

/-- The edges of the lifecycle: the state before, the operation with its result, the state after. -/
inductive Edge : State → Operation → Except TranscodeError Answer → State → Prop where
  /-- An operation of a stage succeeds. -/
  | passed {stage : Stage} {operation : Operation} {answer : Answer}
      (staged : operation.stage = some stage) :
      Edge stage.needs operation (.ok answer) stage.reaches
  /-- An operation of a stage fails. -/
  | failed {stage : Stage} {operation : Operation} {error : TranscodeError}
      (staged : operation.stage = some stage) (genuine : error.isMisuse = false) :
      Edge stage.needs operation (.error error) .failed
  /-- The owner closes the session. -/
  | closed (state : State) {answer : Answer} : Edge state .close (.ok answer) .closed

/-- **An operation that changes the state takes an edge.** -/
theorem perform_edge (session : Session codec) (operation : Operation) :
    (session.perform operation).session.state = session.state ∨
      Edge session.state operation (session.perform operation).result
        (session.perform operation).session.state := by
  cases staged : operation.stage with
  | some stage =>
    have ending := session.perform_ending staged
    generalize session.perform operation = outcome at ending
    cases ending with
    | refused misplaced => exact .inl rfl
    | failed ready left trace genuine =>
      rw [ready]
      exact .inr (.failed staged genuine)
    | passed ready trace arrived =>
      rw [ready]
      show _ ∨ Edge _ _ _ (Session.state _)
      rw [arrived]
      exact .inr (.passed staged)
  | none =>
    obtain ⟨⟨answer, succeeded⟩, same | ⟨rfl, closed⟩⟩ := session.perform_unstaged staged
    · exact .inl same
    · rw [succeeded, closed]
      exact .inr (.closed session.state)

/-- **The operation that ends a session reports why**, and no other does: the error is not that of
a misplaced operation. -/
theorem perform_error_iff (session : Session codec) (operation : Operation) :
    (∃ error, (session.perform operation).result = .error error ∧ error.isMisuse = false) ↔
      session.state ≠ .failed ∧ (session.perform operation).session.state = .failed := by
  cases staged : operation.stage with
  | some stage =>
    have ending := session.perform_ending staged
    generalize session.perform operation = outcome at ending
    cases ending with
    | refused misplaced =>
      constructor
      · rintro ⟨_, ⟨⟩, honest⟩
        cases honest
      · rintro ⟨before, after⟩
        exact absurd after before
    | failed ready left trace genuine =>
      refine iff_of_true ⟨_, rfl, genuine⟩ ⟨?_, rfl⟩
      rw [ready]
      cases stage <;> decide
    | passed ready trace arrived =>
      refine iff_of_false (fun ⟨_, failed, _⟩ => nomatch failed) fun ⟨_, after⟩ => ?_
      have ended : stage.reaches = .failed := arrived.symm.trans after
      cases stage <;> cases ended
  | none =>
    obtain ⟨⟨answer, succeeded⟩, unended⟩ := session.perform_unstaged staged
    refine iff_of_false ?_ ?_
    · rintro ⟨error, failed, _⟩
      rw [succeeded] at failed
      cases failed
    · rintro ⟨before, after⟩
      rcases unended with same | ⟨_, closed⟩
      · exact before (same.symm.trans after)
      · rw [after] at closed
        cases closed

/-! ### No way back -/

theorem Edge.rank_le {before after : State} {result : Except TranscodeError Answer}
    (edge : Edge before operation result after) : before.rank ≤ after.rank := by
  cases edge with
  | @passed stage => cases stage <;> decide
  | @failed stage => cases stage <;> decide
  | closed => cases before <;> decide

theorem rank_le_perform (session : Session codec) (operation : Operation) :
    session.state.rank ≤ (session.perform operation).session.state.rank := by
  rcases session.perform_edge operation with same | edge
  · exact Nat.le_of_eq (congrArg State.rank same.symm)
  · exact edge.rank_le

/-- **No run leads back.** -/
theorem rank_le_after (session : Session codec) (operations : List Operation) :
    session.state.rank ≤ (session.after operations).state.rank := by
  induction operations generalizing session with
  | nil => exact Nat.le_refl _
  | cons operation rest ih => exact Nat.le_trans (session.rank_le_perform operation) (ih _)

/-- A closed session stays closed. -/
theorem after_closed (closed : session.state = .closed) (operations : List Operation) :
    (session.after operations).state = .closed := by
  have reached := session.rank_le_after operations
  rw [closed] at reached
  cases after : (session.after operations).state with
  | closed => rfl
  | _ =>
    rw [after] at reached
    exact absurd reached (by decide)

/-- A failed session stays failed until it is closed. -/
theorem after_failed (failed : session.state = .failed) (operations : List Operation) :
    (session.after operations).state = .failed ∨ (session.after operations).state = .closed := by
  have reached := session.rank_le_after operations
  rw [failed] at reached
  cases after : (session.after operations).state with
  | failed => exact .inl rfl
  | closed => exact .inr rfl
  | _ =>
    rw [after] at reached
    exact absurd reached (by decide)

/-! ### Once at most -/

/-- Whether an operation is one of a stage, and succeeded. -/
def passes (stage : Stage) (operation : Operation) (outcome : Outcome codec Answer) : Bool :=
  operation.stage == some stage && outcome.result.isOk

/-- How often a stage is passed in a run. -/
def successes (stage : Stage) (session : Session codec) (operations : List Operation) : Nat :=
  (operations.zip (session.run operations)).countP fun (operation, outcome) =>
    passes stage operation outcome

theorem successes_cons (stage : Stage) (session : Session codec) (operation : Operation)
    (rest : List Operation) :
    successes stage session (operation :: rest) =
      successes stage (session.perform operation).session rest +
        if passes stage operation (session.perform operation) then 1 else 0 := by
  unfold successes
  rw [run, List.zip_cons_cons, List.countP_cons]

/-- A stage is passed from the state that it needs to the one that it reaches. -/
theorem passes_state (passed : passes stage operation (session.perform operation) = true) :
    session.state = stage.needs ∧ (session.perform operation).session.state = stage.reaches := by
  obtain ⟨staged, succeeded⟩ := Bool.and_eq_true_iff.mp passed
  have ending := session.perform_ending (beq_iff_eq.mp staged)
  generalize session.perform operation = outcome at ending succeeded
  cases ending with
  | refused => cases succeeded
  | failed => cases succeeded
  | passed ready trace arrived => exact ⟨ready, arrived⟩

/-- Behind the state that it needs, a stage is not passed. -/
theorem successes_eq_zero (beyond : stage.needs.rank < session.state.rank)
    (operations : List Operation) : successes stage session operations = 0 := by
  induction operations generalizing session with
  | nil => rfl
  | cons operation rest ih =>
    have failing : ¬passes stage operation (session.perform operation) = true := by
      intro passed
      rw [(passes_state passed).1] at beyond
      exact Nat.lt_irrefl _ beyond
    rw [successes_cons, if_neg failing,
      ih (Nat.lt_of_lt_of_le beyond (session.rank_le_perform operation))]

/-- **A stage is passed once at most.** -/
theorem successes_le_one (stage : Stage) (session : Session codec) (operations : List Operation) :
    successes stage session operations ≤ 1 := by
  induction operations generalizing session with
  | nil => exact Nat.zero_le _
  | cons operation rest ih =>
    rw [successes_cons]
    split
    · rename_i passed
      have beyond : stage.needs.rank < (session.perform operation).session.state.rank := by
        rw [(passes_state passed).2]
        cases stage <;> decide
      exact Nat.le_of_eq (congrArg (· + 1) (successes_eq_zero beyond rest))
    · exact ih _

/-! ### All runs -/

/-- **The lifecycle of a session**, after every run of every codec. Each operation that changes the
state takes an edge; it reports an error other than that of a misplaced operation exactly if it ends
the session, which then holds nothing. An ended session can only be closed, and no stage is ever
passed twice. -/
theorem lifecycle (codec : Codec) (memory : Memory) (options : Options)
    (operations : List Operation) :
    let session := (create codec memory options).after operations
    (∀ operation,
      let outcome := session.perform operation
      (outcome.session.state = session.state ∨
        Edge session.state operation outcome.result outcome.session.state) ∧
      ((∃ error, outcome.result = .error error ∧ error.isMisuse = false) ↔
        session.state ≠ .failed ∧ outcome.session.state = .failed) ∧
      (outcome.session.state = .failed → outcome.session.decoder = none ∧
        outcome.session.geometry = none ∧ outcome.session.raster = none)) ∧
      (session.state = .failed → ∀ later, (session.after later).state = .failed ∨
        (session.after later).state = .closed) ∧
      (session.state = .closed → ∀ later, (session.after later).state = .closed) ∧
      ∀ stage, successes stage (create codec memory options) operations ≤ 1 := by
  intro session
  have consistent : session.Consistent := consistent_after memory options operations
  refine ⟨fun operation => ?_, after_failed, after_closed,
    fun stage => successes_le_one stage _ operations⟩
  refine ⟨session.perform_edge operation, session.perform_error_iff operation, fun ended => ?_⟩
  have kept := consistent_change consistent (session.perform_change operation)
  simp only [Consistent, ended] at kept
  exact kept

/-- A decoder that stalls ends the session, which is never decoded afterwards. -/
theorem lifecycle_stalled :
    let codec := Scripted.codec
      { faultless ⟨2, 2, 1, false, Vector.replicate 4 none⟩ ⟨2, 2, .gray⟩ with reads := [.ok 0] }
    let opened := (create codec (.below 100) .default).after [.openBytes [0xFF]]
    let ended := (create codec (.below 100) .default).after [.openBytes [0xFF], .decode]
    Edge .headerRead .decode (opened.perform .decode).result .failed ∧
      (∃ error, (opened.perform .decode).result = .error error ∧ error.isMisuse = false) ∧
      (ended.decoder = none ∧ ended.geometry = none ∧ ended.raster = none) ∧
      ∀ later, (ended.after later).state = .failed ∨ (ended.after later).state = .closed := by
  intro codec opened ended
  have ready : opened.state = .headerRead := by decide +kernel
  have stopped : (opened.perform .decode).session.state = .failed := by decide +kernel
  obtain ⟨turn, _⟩ := lifecycle codec (.below 100) .default [.openBytes [0xFF]]
  obtain ⟨_, afterwards, _⟩ := lifecycle codec (.below 100) .default [.openBytes [0xFF], .decode]
  obtain ⟨moved, reported, released⟩ := turn .decode
  refine ⟨?_, reported.mpr ⟨?_, stopped⟩, released stopped, afterwards stopped⟩
  · rcases moved with same | edge
    · rw [stopped] at same
      rw [← same] at ready
      cases ready
    · rw [ready, stopped] at edge
      exact edge
  · rw [ready]
    decide

end Session

end JpegTranscoder
