/-
**Rows that are moved in rounds.**

The rows of a frame are moved by asking a partner again and again, who answers with a number of rows
or with an error. The partner is not trusted: the loop that asks looks at every answer before it
counts it. What comes of that is told by the answers alone, which the partner would give if it were
asked without end:

* `Partner.answers`: those answers, each to a question for the rows from the one on that the answers
  before it add up to;
* `Course`: how a loop goes that stops at an answer which is an error, none or too much;
* `Course.given_eq`, `Course.given_length_le`, `Course.counted`: which answers it gets, how many,
  and where it stands before each;
* `Course.passes_iff`, `Course.stops_iff`: it goes through exactly if the first answers tile the
  frame, and stops with an error exactly at the first answer that cannot be counted.
-/
import JpegTranscoder.Error
import JpegTranscoder.Proofs.Results
import Mathlib.Algebra.GroupWithZero.Nat

namespace JpegTranscoder

/-- One who moves rows: what it answers when it is asked for the rows from one on, and what it is
then. -/
abbrev Partner (σ : Type) : Type := Nat → σ → Except CodecError Nat × σ

/-- The rows that an answer tells. -/
def rowsTold : Except CodecError Nat → Nat
  | .ok count => count
  | .error _ => 0

/-- The rows that the answers tell together. -/
def rowsToldAll (answers : List (Except CodecError Nat)) : Nat := (answers.map rowsTold).sum

/-- Numbers of rows, none of them zero, that make up a frame of `height` rows. -/
structure Tiles (counts : List Nat) (height : Nat) : Prop where
  positive : ∀ count ∈ counts, 0 < count
  whole : counts.sum = height

/-- An answer that cannot be counted at a row of a frame, and the error that it comes to: an error,
or a number of rows that is none or more than are missing. -/
inductive Stop (bad : Nat → Nat → Nat → TranscodeError) (height row : Nat) :
    Except CodecError Nat → TranscodeError → Prop where
  | failed (error : CodecError) : Stop bad height row (.error error) (.ofCodec error)
  | bad {count : Nat} (wrong : count = 0 ∨ height - row < count) :
      Stop bad height row (.ok count) (bad count row height)

theorem rowsToldAll_cons (answer : Except CodecError Nat) (later : List (Except CodecError Nat)) :
    rowsToldAll (answer :: later) = rowsTold answer + rowsToldAll later := by
  rw [rowsToldAll, List.map_cons, List.sum_cons]
  rfl

variable {σ : Type}

namespace Partner

/-- The first answers of a partner who is asked on and on, whatever it answers. -/
def answers (partner : Partner σ) : Nat → Nat → σ → List (Except CodecError Nat)
  | 0, _, _ => []
  | rounds + 1, row, side =>
    let (answer, next) := partner row side
    answer :: answers partner rounds (row + rowsTold answer) next

/-- What the partner is behind those answers. -/
def behind (partner : Partner σ) : Nat → Nat → σ → σ
  | 0, _, side => side
  | rounds + 1, row, side =>
    let (answer, next) := partner row side
    behind partner rounds (row + rowsTold answer) next

variable {partner : Partner σ} {row : Nat} {side next : σ} {answer : Except CodecError Nat}

theorem answers_succ (asked : partner row side = (answer, next)) (rounds : Nat) :
    partner.answers (rounds + 1) row side =
      answer :: partner.answers rounds (row + rowsTold answer) next := by
  rw [answers, asked]

theorem behind_succ (asked : partner row side = (answer, next)) (rounds : Nat) :
    partner.behind (rounds + 1) row side = partner.behind rounds (row + rowsTold answer) next := by
  rw [behind, asked]

end Partner

/-- How a loop goes from a row of a frame on: the answers that it gets, and how it ends. -/
inductive Course (partner : Partner σ) (bad : Nat → Nat → Nat → TranscodeError) (height : Nat) :
    Nat → σ → List (Except CodecError Nat) → Except TranscodeError σ → Prop where
  | passed (side : σ) : Course partner bad height height side [] (.ok side)
  | stopped {row : Nat} {side next : σ} {answer : Except CodecError Nat} {error : TranscodeError}
      (due : row < height) (asked : partner row side = (answer, next))
      (stop : Stop bad height row answer error) :
      Course partner bad height row side [answer] (.error error)
  | more {row count : Nat} {side next : σ} {given : List (Except CodecError Nat)}
      {ending : Except TranscodeError σ} (some : 0 < count) (within : row + count ≤ height)
      (asked : partner row side = (.ok count, next))
      (later : Course partner bad height (row + count) next given ending) :
      Course partner bad height row side (.ok count :: given) ending

namespace Course

variable {partner : Partner σ} {bad : Nat → Nat → Nat → TranscodeError} {height row : Nat}
  {side last : σ} {given : List (Except CodecError Nat)} {ending : Except TranscodeError σ}
  {error : TranscodeError}

/-! ### The answers that a loop gets -/

/-- A loop gets the answers that the partner gives first. -/
theorem given_eq (course : Course partner bad height row side given ending) :
    given = partner.answers given.length row side := by
  induction course with
  | passed side => rfl
  | stopped due asked stop =>
    rw [List.length_singleton, Partner.answers_succ asked]
    rfl
  | more some within asked later ih =>
    rw [List.length_cons, Partner.answers_succ asked]
    exact congrArg _ ih

/-- A loop asks at most once for each row. -/
theorem given_length_le (course : Course partner bad height row side given ending) :
    row + given.length ≤ height := by
  induction course with
  | passed side => exact Nat.le_refl _
  | stopped due asked stop => exact due
  | more some within asked later ih =>
    rw [List.length_cons]
    omega

/-- Before each answer a loop stands before a row of the frame. -/
theorem counted (course : Course partner bad height row side given ending)
    {before after : List (Except CodecError Nat)} {answer : Except CodecError Nat}
    (parts : given = before ++ answer :: after) : row + rowsToldAll before < height := by
  induction course generalizing before with
  | passed side => cases before <;> cases parts
  | stopped due asked stop =>
    cases before with
    | nil => exact due
    | cons first before =>
      obtain ⟨_, none⟩ := List.cons.inj parts
      cases before <;> cases none
  | @more row count side next given ending some within asked later ih =>
    cases before with
    | nil =>
      have due := later.given_length_le
      show row + 0 < height
      omega
    | cons first before =>
      obtain ⟨rfl, rest⟩ := List.cons.inj parts
      have inner := ih rest
      rw [rowsToldAll_cons, ← Nat.add_assoc]
      exact inner

/-- When a loop goes through, its answers add up to the frame. -/
theorem rowsToldAll_eq (course : Course partner bad height row side given (.ok last)) :
    row + rowsToldAll given = height := by
  generalize whole : (Except.ok last : Except TranscodeError σ) = ending at course
  induction course with
  | passed side => rfl
  | stopped due asked stop => cases whole
  | more some within asked later ih =>
    rw [rowsToldAll_cons, ← Nat.add_assoc]
    exact ih whole

/-! ### How a loop ends -/

/-- An answer that can be counted does not stop a loop. -/
theorem not_stop {count : Nat} (some : 0 < count) (within : row + count ≤ height) :
    ¬Stop bad height row (.ok count) error := by
  rintro ⟨_, wrong⟩
  omega

theorem stop_unique {answer : Except CodecError Nat} {other : TranscodeError}
    (stop : Stop bad height row answer error) (same : Stop bad height row answer other) :
    error = other := by
  cases stop <;> cases same <;> rfl

/-- **A loop goes through exactly if the first answers tile the frame.** -/
theorem passes_iff (course : Course partner bad height row side given ending) :
    ending = .ok last ↔
      ∃ counts : List Nat, (∀ count ∈ counts, 0 < count) ∧ row + counts.sum = height ∧
        partner.answers counts.length row side = counts.map .ok ∧
        partner.behind counts.length row side = last := by
  constructor
  · rintro rfl
    generalize whole : (Except.ok last : Except TranscodeError σ) = ending at course
    induction course with
    | passed side =>
      cases whole
      exact ⟨[], List.forall_mem_nil _, rfl, rfl, rfl⟩
    | stopped due asked stop => cases whole
    | @more row count side next given ending some within asked later ih =>
      obtain ⟨counts, positive, tiled, answered, reached⟩ := ih whole
      refine ⟨count :: counts, List.forall_mem_cons.mpr ⟨some, positive⟩, ?_, ?_, ?_⟩
      · rw [List.sum_cons, ← Nat.add_assoc]
        exact tiled
      · rw [List.length_cons, Partner.answers_succ asked, List.map_cons]
        exact congrArg _ answered
      · rw [List.length_cons, Partner.behind_succ asked]
        exact reached
  · rintro ⟨counts, positive, tiled, answered, rfl⟩
    -- The course follows the numbers: none of them stops it, and it ends where they do.
    induction course generalizing counts with
    | passed side =>
      cases counts with
      | nil => rfl
      | cons count counts =>
        have some := positive count List.mem_cons_self
        rw [List.sum_cons] at tiled
        omega
    | stopped due asked stop =>
      cases counts with
      | nil => exact absurd tiled (Nat.ne_of_lt due)
      | cons count counts =>
        rw [List.length_cons, Partner.answers_succ asked, List.map_cons] at answered
        obtain ⟨rfl, _⟩ := List.cons.inj answered
        rw [List.sum_cons] at tiled
        exact absurd stop (not_stop (positive count List.mem_cons_self) (by omega))
    | more some within asked later ih =>
      cases counts with
      | nil =>
        rw [List.sum_nil] at tiled
        omega
      | cons count counts =>
        rw [List.length_cons, Partner.answers_succ asked, List.map_cons] at answered
        obtain ⟨same, rest⟩ := List.cons.inj answered
        cases same
        rw [List.sum_cons, ← Nat.add_assoc] at tiled
        rw [List.length_cons, Partner.behind_succ asked]
        exact ih counts (List.forall_mem_cons.mp positive).2 tiled rest

/-- **A loop stops with an error exactly at the first answer that cannot be counted.** -/
theorem stops_iff (course : Course partner bad height row side given ending) :
    ending = .error error ↔
      ∃ (counts : List Nat) (answer : Except CodecError Nat), (∀ count ∈ counts, 0 < count) ∧
        row + counts.sum < height ∧
        partner.answers (counts.length + 1) row side = counts.map .ok ++ [answer] ∧
        Stop bad height (row + counts.sum) answer error := by
  constructor
  · rintro rfl
    generalize whole : (Except.error error : Except TranscodeError σ) = ending at course
    induction course with
    | passed side => cases whole
    | @stopped row side next answer reason due asked stop =>
      cases whole
      refine ⟨[], answer, List.forall_mem_nil _, due, ?_, stop⟩
      rw [List.length_nil, Partner.answers_succ asked]
      rfl
    | @more row count side next given ending some within asked later ih =>
      obtain ⟨counts, answer, positive, due, answered, stop⟩ := ih whole
      refine ⟨count :: counts, answer, List.forall_mem_cons.mpr ⟨some, positive⟩, ?_, ?_, ?_⟩
      · rw [List.sum_cons, ← Nat.add_assoc]
        exact due
      · rw [List.length_cons, Partner.answers_succ asked, List.map_cons, List.cons_append]
        exact congrArg _ answered
      · rw [List.sum_cons, ← Nat.add_assoc]
        exact stop
  · rintro ⟨counts, answer, positive, due, answered, stop⟩
    -- The course follows the numbers up to the answer behind them, which stops it.
    induction course generalizing counts with
    | passed side => omega
    | stopped before asked other =>
      rw [Partner.answers_succ asked] at answered
      cases counts with
      | nil =>
        obtain ⟨rfl, _⟩ := List.cons.inj answered
        rw [stop_unique stop other]
      | cons count counts =>
        obtain ⟨rfl, _⟩ := List.cons.inj answered
        rw [List.sum_cons] at due
        exact absurd other (not_stop (positive count List.mem_cons_self) (by omega))
    | more some within asked later ih =>
      rw [Partner.answers_succ asked] at answered
      cases counts with
      | nil =>
        obtain ⟨rfl, _⟩ := List.cons.inj answered
        exact absurd stop (not_stop some within)
      | cons count counts =>
        obtain ⟨same, rest⟩ := List.cons.inj answered
        cases same
        rw [List.sum_cons, ← Nat.add_assoc] at due stop
        exact ih counts (List.forall_mem_cons.mp positive).2 due rest stop

end Course

/-! ### Frames that are moved -/

/-- What becomes of a frame of `height` rows that is moved in rounds and then finished: which
answers are asked for, and what they come to. -/
structure Tiling (partner : Partner σ) (finish : σ → Except CodecError Unit)
    (bad : Nat → Nat → Nat → TranscodeError) (height : Nat) (side : σ)
    (given : List (Except CodecError Nat)) (result : Except TranscodeError Unit) : Prop where
  /-- The answers that are asked for are the first ones. -/
  first : given = partner.answers given.length 0 side
  /-- There are no more of them than rows. -/
  bounded : given.length ≤ height
  /-- Before each of them, the rows told so far are fewer than the frame has. -/
  counted : ∀ {before answer after}, given = before ++ answer :: after →
    rowsToldAll before < height
  /-- When all went well, they are as many as the frame has. -/
  reached : result = .ok () → rowsToldAll given = height
  /-- All goes well exactly if the first answers tile the frame and then it is finished. -/
  succeeds : result = .ok () ↔
    ∃ counts, Tiles counts height ∧ partner.answers counts.length 0 side = counts.map .ok ∧
      finish (partner.behind counts.length 0 side) = .ok ()
  /-- It fails exactly at the first answer that cannot be counted, or when it is to be finished. -/
  fails : ∀ {error}, result = .error error ↔
    (∃ (counts : List Nat) (answer : Except CodecError Nat), (∀ count ∈ counts, 0 < count) ∧
      counts.sum < height ∧
      partner.answers (counts.length + 1) 0 side = counts.map .ok ++ [answer] ∧
      Stop bad height counts.sum answer error) ∨
    ∃ counts reason, Tiles counts height ∧
      partner.answers counts.length 0 side = counts.map .ok ∧
      finish (partner.behind counts.length 0 side) = .error reason ∧ error = .ofCodec reason

/-- **A loop from the first row on, with the finish behind it, moves the frame so.** -/
theorem Course.tiling {partner : Partner σ} {bad : Nat → Nat → Nat → TranscodeError} {height : Nat}
    {side : σ} {given : List (Except CodecError Nat)} {ending : Except TranscodeError σ}
    (course : Course partner bad height 0 side given ending) (finish : σ → Except CodecError Unit) :
    Tiling partner finish bad height side given
      (ending.bind fun last => (finish last).mapError .ofCodec) := by
  have bounded := course.given_length_le
  rw [Nat.zero_add] at bounded
  have through {last : σ} : ending = .ok last ↔ ∃ counts, Tiles counts height ∧
      partner.answers counts.length 0 side = counts.map .ok ∧
      partner.behind counts.length 0 side = last := by
    rw [course.passes_iff]
    simp only [Nat.zero_add]
    constructor
    · rintro ⟨counts, positive, tiled, rest⟩
      exact ⟨counts, ⟨positive, tiled⟩, rest⟩
    · rintro ⟨counts, ⟨positive, tiled⟩, rest⟩
      exact ⟨counts, positive, tiled, rest⟩
  refine ⟨course.given_eq, bounded, fun parts => ?_, fun succeeded => ?_, ?_, ?_⟩
  · have due := course.counted parts
    rwa [Nat.zero_add] at due
  · obtain ⟨last, rfl, _⟩ := ok_of_bind succeeded
    have whole := course.rowsToldAll_eq
    rwa [Nat.zero_add] at whole
  · constructor
    · intro succeeded
      obtain ⟨last, passed, finished⟩ := ok_of_bind succeeded
      obtain ⟨counts, tiles, answered, rfl⟩ := through.mp passed
      exact ⟨counts, tiles, answered, ok_of_mapError finished⟩
    · rintro ⟨counts, tiles, answered, finished⟩
      rw [through.mpr ⟨counts, tiles, answered, rfl⟩]
      show (finish _).mapError _ = _
      rw [finished]
      rfl
  · intro error
    rw [bind_eq_error_iff, course.stops_iff]
    simp only [Nat.zero_add]
    refine or_congr_right ⟨?_, ?_⟩
    · rintro ⟨last, passed, failed⟩
      obtain ⟨counts, tiles, answered, rfl⟩ := through.mp passed
      obtain ⟨reason, finished, told⟩ := mapError_eq_error_iff.mp failed
      exact ⟨counts, reason, tiles, answered, finished, told⟩
    · rintro ⟨counts, reason, tiles, answered, finished, told⟩
      exact ⟨_, through.mpr ⟨counts, tiles, answered, rfl⟩,
        mapError_eq_error_iff.mpr ⟨reason, finished, told⟩⟩

end JpegTranscoder
