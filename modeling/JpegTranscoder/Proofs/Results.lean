/-
**Results that were mapped or bound.**

A result that is a value after its value or its error was mapped was one before, and so was one that
is a value after more was done with it. A result that is an error then was one before, or what was
done with it failed.
-/

namespace JpegTranscoder

variable {ε ε' α β γ : Type}

theorem ok_of_mapError {reword : ε → ε'} {result : Except ε α} {value : α}
    (succeeded : result.mapError reword = .ok value) : result = .ok value := by
  cases result with
  | error error => cases succeeded
  | ok given =>
    cases succeeded
    rfl

theorem mapError_eq_error_iff {reword : ε → ε'} {result : Except ε α} {told : ε'} :
    result.mapError reword = .error told ↔
      ∃ error, result = .error error ∧ told = reword error := by
  cases result with
  | error error =>
    constructor
    · intro failed
      exact ⟨error, rfl, (Except.error.inj failed).symm⟩
    · rintro ⟨_, ⟨⟩, rfl⟩
      rfl
  | ok value =>
    constructor
    · intro failed
      cases failed
    · rintro ⟨_, ⟨⟩, _⟩

theorem ok_of_isOk {result : Except ε α} (succeeded : result.isOk = true) :
    ∃ value, result = .ok value := by
  cases result with
  | error error => cases succeeded
  | ok given => exact ⟨given, rfl⟩

theorem ok_of_map {f : α → β} {result : Except ε α} {value : β}
    (succeeded : result.map f = .ok value) : ∃ given, result = .ok given ∧ f given = value := by
  cases result with
  | error error => cases succeeded
  | ok given => exact ⟨given, rfl, Except.ok.inj succeeded⟩

theorem map_eq_error_iff {f : α → β} {result : Except ε α} {error : ε} :
    result.map f = .error error ↔ result = .error error := by
  cases result with
  | error given => simp [Except.map]
  | ok value => simp [Except.map]

theorem ok_of_bind {f : α → Except ε β} {result : Except ε α} {value : β}
    (succeeded : result.bind f = .ok value) :
    ∃ given, result = .ok given ∧ f given = .ok value := by
  cases result with
  | error error => cases succeeded
  | ok given => exact ⟨given, rfl, succeeded⟩

theorem bind_eq_error_iff {f : α → Except ε β} {result : Except ε α} {error : ε} :
    result.bind f = .error error ↔
      result = .error error ∨ ∃ value, result = .ok value ∧ f value = .error error := by
  cases result with
  | error given => simp [Except.bind]
  | ok value => simp [Except.bind]

end JpegTranscoder
