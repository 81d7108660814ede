/-
**The written form of a header's items.**

A header is a start of image, items, and a closing marker: a start of scan or an end of image. An
item is a marker that stands alone, or a marker with the length of its segment and a payload.

* `Item.Form`, `ItemsForm`: the written form of one item and of many;
* `Segment.split_form`: taking written items apart gives the items, and the closing marker;
* `Segment.form_of_split`: what was taken apart up to a closing marker was written so.
-/
import JpegTranscoder.Proofs.Stream.MarkerForm
import JpegTranscoder.Stream.Segment

namespace JpegTranscoder

/-! ### Kinds of codes -/

namespace Marker

/-- The codes of the markers without a segment: the restart markers and `01`. -/
def StandsAlone (code : UInt8) : Prop := (0xD0 ≤ code ∧ code ≤ 0xD7) ∨ code = 0x01
  deriving Decidable

/-- The codes that close a header: start of scan and end of image. -/
def Closes (code : UInt8) : Prop := code = startOfScan ∨ code = endOfImage
  deriving Decidable

/-- The codes of the markers with a segment. -/
def HasSegment (code : UInt8) : Prop :=
  code ≠ 0x00 ∧ code ≠ 0xFF ∧ ¬StandsAlone code ∧ ¬Closes code
  deriving Decidable

theorem isStandalone_iff {code : UInt8} : isStandalone code = true ↔ StandsAlone code := by
  simp [isStandalone, isRestart, StandsAlone]

theorem not_closes_of_standsAlone {code : UInt8} (alone : StandsAlone code) : ¬Closes code := by
  rintro (rfl | rfl) <;> exact absurd alone (by decide)

end Marker

/-! ### Items -/

/-- The written form of an item. The length of a segment, high byte first, counts its own two
bytes. -/
inductive Item.Form : Item → Bytes → Prop where
  | standalone {marker : Marker} {written : Bytes} (form : marker.Form written)
      (alone : Marker.StandsAlone marker.code) : Item.Form (.standalone marker) written
  | segment {marker : Marker} {written payload : Bytes} (high low : UInt8)
      (form : marker.Form written) (notAlone : ¬Marker.StandsAlone marker.code)
      (notClosing : ¬Marker.Closes marker.code)
      (length : high.toNat * 256 + low.toNat = payload.length + 2) :
      Item.Form (.segment marker payload) (written ++ high :: low :: payload)

/-- The written form of items, one after another. -/
inductive ItemsForm : List Item → Bytes → Prop where
  | nil : ItemsForm [] []
  | cons {item : Item} {items : List Item} {written rest : Bytes} (first : item.Form written)
      (later : ItemsForm items rest) : ItemsForm (item :: items) (written ++ rest)

/-- How a header ends at a closing marker. -/
def Ending.at (marker : Marker) (rest : Bytes) : Ending :=
  if marker.code = Marker.startOfScan then .scan marker rest else .endOfImage marker rest

/-- The closing marker of a header and what follows it, if the header ends at one. -/
def Ending.closing : Ending → Option (Marker × Bytes)
  | .scan marker rest | .endOfImage marker rest => some (marker, rest)
  | .noMarker | .broken _ _ => none

namespace Segment

/-! ### Payloads -/

/-- A payload is taken off behind the length that declares it. -/
theorem takePayload_eq_ok_iff {code : UInt8} {bytes payload rest : Bytes} :
    takePayload code bytes = .ok (payload, rest) ↔
      ∃ high low : UInt8, high.toNat * 256 + low.toNat = payload.length + 2 ∧
        bytes = high :: low :: (payload ++ rest) := by
  constructor
  · intro taken
    unfold takePayload at taken
    split at taken
    · rename_i high low tail
      simp only at taken
      rw [toNat_word16] at taken
      split at taken
      · cases taken
      · split at taken
        · cases taken
        · rename_i enough whole
          cases taken
          refine ⟨high, low, ?_, by rw [List.take_append_drop]⟩
          rw [List.length_take] at whole ⊢
          omega
    · cases taken
  · rintro ⟨high, low, length, rfl⟩
    have declared : high.toNat * 256 + low.toNat - 2 = payload.length := by omega
    unfold takePayload
    simp only [toNat_word16, declared, List.take_left, List.drop_left]
    rw [if_neg (by omega), if_neg (by omega)]

/-! ### Taking written items apart -/

theorem split_eq (bytes : Bytes) :
    split bytes =
      match Marker.seek bytes with
      | none => ([], .noMarker)
      | some (marker, rest) =>
        if marker.code = Marker.startOfScan then ([], .scan marker rest)
        else if marker.code = Marker.endOfImage then ([], .endOfImage marker rest)
        else if Marker.isStandalone marker.code then
          (.standalone marker :: (split rest).1, (split rest).2)
        else
          match takePayload marker.code rest with
          | .error fault => ([], .broken marker fault)
          | .ok (payload, after) =>
            (.segment marker payload :: (split after).1, (split after).2) := by
  rw [split, splitBy, splitOnto]
  split
  · rename_i missing
    rw [missing]
    rfl
  · rename_i marker rest found
    rw [found]
    simp only
    split
    · rfl
    · split
      · rfl
      · split
        · rw [splitOnto_eq]
          rfl
        · split
          · rename_i fault failed
            rw [failed]
            rfl
          · rename_i payload after taken
            rw [taken, splitOnto_eq]
            rfl

theorem split_item {item : Item} {written : Bytes} (form : item.Form written) (rest : Bytes) :
    split (written ++ rest) = (item :: (split rest).1, (split rest).2) := by
  cases form with
  | standalone form alone =>
    rename_i marker
    have notClosing : ¬Marker.Closes marker.code := Marker.not_closes_of_standsAlone alone
    rw [Marker.Closes, not_or] at notClosing
    rw [split_eq, Marker.seek_form form rest]
    simp only
    rw [if_neg notClosing.1, if_neg notClosing.2, if_pos (Marker.isStandalone_iff.mpr alone)]
  | segment high low form notAlone notClosing length =>
    rename_i marker written payload
    rw [Marker.Closes, not_or] at notClosing
    rw [← Marker.isStandalone_iff] at notAlone
    have taken : takePayload marker.code (high :: low :: (payload ++ rest)) = .ok (payload, rest) :=
      takePayload_eq_ok_iff.mpr ⟨high, low, length, rfl⟩
    rw [List.append_assoc, List.cons_append, List.cons_append, split_eq,
      Marker.seek_form form (high :: low :: (payload ++ rest))]
    simp only [taken]
    rw [if_neg notClosing.1, if_neg notClosing.2, if_neg notAlone]

theorem split_closing {closing : Marker} {written : Bytes} (form : closing.Form written)
    (closes : Marker.Closes closing.code) (rest : Bytes) :
    split (written ++ rest) = ([], .at closing rest) := by
  rw [split_eq, Marker.seek_form form rest]
  unfold Ending.at
  by_cases scan : closing.code = Marker.startOfScan
  · simp only [if_pos scan]
  · have last : closing.code = Marker.endOfImage := closes.resolve_left scan
    simp only [if_neg scan, if_pos last]

/-- Written items are taken off the front of the bytes. -/
theorem split_items {items : List Item} {body : Bytes} (form : ItemsForm items body)
    (rest : Bytes) : split (body ++ rest) = (items ++ (split rest).1, (split rest).2) := by
  induction form with
  | nil => rfl
  | cons first later ih => rw [List.append_assoc, split_item first, ih, List.cons_append]

/-- **Written items are taken apart as they were written.** -/
theorem split_form {items : List Item} {body ending : Bytes} {closing : Marker}
    (form : ItemsForm items body) (last : closing.Form ending)
    (closes : Marker.Closes closing.code) (rest : Bytes) :
    split (body ++ (ending ++ rest)) = (items, .at closing rest) := by
  rw [split_items form, split_closing last closes, List.append_nil]

/-- **Items that were taken apart up to a closing marker were written so.** -/
theorem form_of_split {bytes rest : Bytes} {closing : Marker}
    (taken : (split bytes).2.closing = some (closing, rest)) :
    ∃ body ending, ItemsForm (split bytes).1 body ∧ closing.Form ending ∧
      Marker.Closes closing.code ∧ (split bytes).2 = .at closing rest ∧
      bytes = body ++ (ending ++ rest) := by
  -- On the length of the bytes: an item takes at least its marker off them.
  induction length : bytes.length using Nat.strongRecOn generalizing bytes with
  | ind size ih =>
    rw [split_eq] at taken ⊢
    cases found : Marker.seek bytes with
    | none =>
      rw [found] at taken
      cases taken
    | some pair =>
      obtain ⟨marker, after⟩ := pair
      have shorter := Marker.seek_length found
      obtain ⟨written, form, whole⟩ := Marker.seek_eq_some_iff.mp found
      rw [found] at taken
      simp only at taken ⊢
      by_cases scan : marker.code = Marker.startOfScan
      · simp only [if_pos scan] at taken ⊢
        cases taken
        exact ⟨[], written, .nil, form, Or.inl scan, (if_pos scan).symm, whole⟩
      by_cases last : marker.code = Marker.endOfImage
      · simp only [if_neg scan, if_pos last] at taken ⊢
        cases taken
        exact ⟨[], written, .nil, form, Or.inr last, (if_neg scan).symm, whole⟩
      simp only [if_neg scan, if_neg last] at taken ⊢
      by_cases alone : Marker.isStandalone marker.code = true
      · simp only [if_pos alone] at taken ⊢
        obtain ⟨body, ending, items, closes, code, ends, same⟩ := ih _ (by omega) taken rfl
        refine ⟨written ++ body, ending, .cons ?_ items, closes, code, ends, ?_⟩
        · exact .standalone form (Marker.isStandalone_iff.mp alone)
        · rw [whole, same, List.append_assoc]
      · simp only [if_neg alone] at taken ⊢
        cases payloadTaken : takePayload marker.code after with
        | error fault =>
          rw [payloadTaken] at taken
          cases taken
        | ok pair =>
          obtain ⟨payload, tail⟩ := pair
          have within := takePayload_length payloadTaken
          obtain ⟨high, low, declared, cut⟩ := takePayload_eq_ok_iff.mp payloadTaken
          rw [payloadTaken] at taken
          obtain ⟨body, ending, items, closes, code, ends, same⟩ := ih _ (by omega) taken rfl
          refine ⟨written ++ high :: low :: payload ++ body, ending, .cons ?_ items, closes, code,
            ends, ?_⟩
          · refine .segment high low form ?_ ?_ declared
            · rw [← Marker.isStandalone_iff]
              exact alone
            · rw [Marker.Closes, not_or]
              exact ⟨scan, last⟩
          · rw [whole, cut, same]
            simp only [List.append_assoc, List.cons_append]

end Segment

end JpegTranscoder
