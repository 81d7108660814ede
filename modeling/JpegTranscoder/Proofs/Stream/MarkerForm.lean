/-
**The written form of a marker.**

A marker is written as stray bytes, fill bytes and its code. The search for a marker takes exactly
such a form off the front of the bytes, and counts the stray bytes in it:

* `Stray`: bytes that belong to no marker, and how many of them count;
* `Marker.Form`: a marker's written form;
* `Marker.seek_eq_some_iff`: the search finds a marker where its written form stands.
-/
import JpegTranscoder.Stream.Marker

namespace JpegTranscoder

/-- Bytes that belong to no marker, with the number they count for: bytes other than `FF` for one
each, and runs of `FF` that end in `00` for two. -/
inductive Stray : Nat → Bytes → Prop where
  | none : Stray 0 []
  | byte {count : Nat} {rest : Bytes} (value : UInt8) (plain : value ≠ 0xFF)
      (later : Stray count rest) : Stray (count + 1) (value :: rest)
  | stuffed {count : Nat} {rest : Bytes} (fill : Nat) (later : Stray count rest) :
      Stray (count + 2) (List.replicate (fill + 1) 0xFF ++ 0x00 :: rest)

namespace Marker

/-- The written form of a marker: its stray bytes, one or more `FF`, and its code. -/
inductive Form : Marker → Bytes → Prop where
  | mk {code : UInt8} {count : Nat} {stray : Bytes} (fill : Nat) (before : Stray count stray)
      (notZero : code ≠ 0x00) (notFill : code ≠ 0xFF) :
      Form ⟨code, count⟩ (stray ++ (List.replicate (fill + 1) 0xFF ++ [code]))

/-! ### Finding a written marker -/

theorem seekFrom_fill (afterFill : Bool) (stray fill : Nat) (rest : Bytes) :
    seekFrom afterFill stray (List.replicate (fill + 1) 0xFF ++ rest) =
      seekFrom true stray rest := by
  induction fill generalizing afterFill with
  | zero => simp [seekFrom]
  | succ fill ih =>
    rw [List.replicate_succ, List.cons_append, seekFrom, if_pos rfl, ih]

theorem seekFrom_stray {count : Nat} {stray : Bytes} (form : Stray count stray) (before : Nat)
    (rest : Bytes) :
    seekFrom false before (stray ++ rest) = seekFrom false (before + count) rest := by
  induction form generalizing before with
  | none => rfl
  | byte value plain later ih =>
    rw [List.cons_append, seekFrom, if_neg plain, if_neg (by decide), ih, Nat.add_assoc,
      Nat.add_comm 1]
  | stuffed fill later ih =>
    rw [List.append_assoc, seekFrom_fill, List.cons_append, seekFrom, if_neg (by decide),
      if_pos rfl, if_pos rfl, ih, Nat.add_assoc, Nat.add_comm 2]

/-- A written marker is found, whatever follows it. -/
theorem seek_form {marker : Marker} {written : Bytes} (form : marker.Form written)
    (rest : Bytes) : seek (written ++ rest) = some (marker, rest) := by
  obtain ⟨fill, before, notZero, notFill⟩ := form
  rw [seek, List.append_assoc, seekFrom_stray before, List.append_assoc, seekFrom_fill,
    List.singleton_append, seekFrom, if_neg notFill, if_pos rfl, if_neg notZero, Nat.zero_add]

/-! ### What the search finds was written -/

theorem Form.fill {marker : Marker} {written : Bytes} (form : marker.Form (0xFF :: written)) :
    marker.Form (0xFF :: 0xFF :: written) := by
  generalize whole : (0xFF :: written : Bytes) = bytes at form ⊢
  obtain ⟨fill, before, notZero, notFill⟩ := form
  cases before with
  | none => exact Form.mk (fill + 1) .none notZero notFill
  | byte value plain later =>
    rw [List.cons_append, List.cons.injEq] at whole
    exact absurd whole.1.symm plain
  | stuffed more later => exact Form.mk fill (.stuffed (more + 1) later) notZero notFill

theorem Form.byte {code value : UInt8} {count : Nat} {written : Bytes}
    (form : Form ⟨code, count⟩ written) (plain : value ≠ 0xFF) :
    Form ⟨code, count + 1⟩ (value :: written) := by
  obtain ⟨fill, before, notZero, notFill⟩ := form
  exact Form.mk fill (.byte value plain before) notZero notFill

theorem Form.stuffed {code : UInt8} {count : Nat} {written : Bytes}
    (form : Form ⟨code, count⟩ written) : Form ⟨code, count + 2⟩ (0xFF :: 0x00 :: written) := by
  obtain ⟨fill, before, notZero, notFill⟩ := form
  exact Form.mk fill (.stuffed 0 before) notZero notFill

/-- The bytes already read when the search goes on after a fill byte. -/
def lead (afterFill : Bool) : Bytes := if afterFill then [0xFF] else []

theorem form_of_seekFrom {afterFill : Bool} {before : Nat} {bytes rest : Bytes} {marker : Marker}
    (found : seekFrom afterFill before bytes = some (marker, rest)) :
    ∃ count written, marker.stray = before + count ∧
      Form ⟨marker.code, count⟩ (lead afterFill ++ written) ∧ bytes = written ++ rest := by
  induction bytes generalizing afterFill before with
  | nil => cases found
  | cons byte tail ih =>
    unfold seekFrom at found
    split at found
    · rename_i fill
      obtain ⟨count, written, counted, form, rfl⟩ := ih found
      refine ⟨count, byte :: written, counted, ?_, rfl⟩
      rw [fill]
      cases afterFill with
      | false => exact form
      | true => exact form.fill
    · rename_i plain
      split at found
      · rename_i fill
        rw [fill]
        split at found
        · rename_i zero
          obtain ⟨count, written, counted, form, rfl⟩ := ih found
          refine ⟨count + 2, byte :: written, by omega, ?_, rfl⟩
          rw [zero]
          exact Form.stuffed form
        · rename_i code
          cases found
          exact ⟨0, [byte], rfl, @Form.mk byte 0 [] 0 .none code plain, rfl⟩
      · rename_i fresh
        rw [Bool.not_eq_true] at fresh
        rw [fresh]
        obtain ⟨count, written, counted, form, rfl⟩ := ih found
        exact ⟨count + 1, byte :: written, by omega, Form.byte form plain, rfl⟩

/-- **The search takes a written marker off the front of the bytes.** -/
theorem seek_eq_some_iff {bytes rest : Bytes} {marker : Marker} :
    seek bytes = some (marker, rest) ↔
      ∃ written, marker.Form written ∧ bytes = written ++ rest := by
  constructor
  · intro found
    obtain ⟨count, written, counted, form, whole⟩ := form_of_seekFrom found
    rw [Nat.zero_add] at counted
    subst counted
    exact ⟨written, form, whole⟩
  · rintro ⟨written, form, rfl⟩
    exact seek_form form rest

end Marker

end JpegTranscoder
