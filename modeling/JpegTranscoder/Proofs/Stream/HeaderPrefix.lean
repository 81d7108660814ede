/-
**How much of a stream its header takes.**

The walk over a header stops behind the first start of scan or end of image that it comes to. What
follows that marker is not looked at, and whatever is cut off before it is missed:

* `Header.stop`: the marker that the walk stops at, and the offset just past it;
* `Segment.split_cut`: items that are cut short are taken apart as far as they go, and then the
  bytes end too early, in a marker, in a length or in a payload;
* `Header.read_cut`: so the header that is cut short is not read;
* `Header.prefix_law`: a header that is read, on every truncation and every extension of its stream.
-/
import JpegTranscoder.Proofs.Stream.HeaderForm
import JpegTranscoder.Proofs.Stream.ScansForm

namespace JpegTranscoder

/-- The faults of bytes that end too early. -/
inductive HeaderFault.EndsEarly : HeaderFault → Prop where
  | noMarker : EndsEarly .noMarker
  | lengthCut : EndsEarly .lengthCut
  | payloadCut (code : UInt8) : EndsEarly (.payloadCut code)

/-- The fault that the items of a header end with, if they do not end at a closing marker. -/
def Ending.fault : Ending → Option HeaderFault
  | .scan _ _ | .endOfImage _ _ => none
  | .noMarker => some .noMarker
  | .broken _ fault => some fault

/-! ### Bytes that are cut short -/

theorem take_behind {head rest : Bytes} {cut : Nat} (behind : head.length ≤ cut) :
    (head ++ rest).take cut = head ++ rest.take (cut - head.length) := by
  rw [List.take_append, List.take_of_length_le behind]

/-- A cut falls inside the first part or behind it. -/
theorem cut_append {front first second : Bytes} (cut : front <+: first ++ second) :
    (front <+: first ∧ front.length < first.length) ∨
      ∃ rest, front = first ++ rest ∧ rest <+: second := by
  by_cases short : front.length < first.length
  · exact .inl
      ⟨List.prefix_of_prefix_length_le cut (List.prefix_append _ _) (Nat.le_of_lt short), short⟩
  · obtain ⟨rest, rfl⟩ := List.prefix_of_prefix_length_le (List.prefix_append first second) cut
      (Nat.not_lt.mp short)
    exact .inr ⟨rest, rfl, (List.prefix_append_right_inj first).mp cut⟩

/-- In a part of a written marker there is no marker. -/
theorem Marker.seek_cut {marker : Marker} {written front : Bytes} (form : marker.Form written)
    (cut : front <+: written) (short : front.length < written.length) : seek front = none := by
  cases found : seek front with
  | none => rfl
  | some pair =>
    obtain ⟨other, rest⟩ := pair
    obtain ⟨behind, rfl⟩ := cut
    obtain ⟨before, otherForm, rfl⟩ := Marker.seek_eq_some_iff.mp found
    -- The marker in the part would be the marker of the whole, with more behind it.
    have first := seek_form otherForm (rest ++ behind)
    have whole := seek_form form []
    rw [List.append_nil, List.append_assoc, first] at whole
    have none : rest ++ behind = [] := congrArg Prod.snd (Option.some.inj whole)
    rw [(List.append_eq_nil_iff.mp none).2, List.append_nil] at short
    exact absurd short (Nat.lt_irrefl _)

namespace Segment

/-- A part of a written segment ends in its length or in its payload. -/
theorem takePayload_cut (code : UInt8) {high low : UInt8} {payload front : Bytes}
    (length : high.toNat * 256 + low.toNat = payload.length + 2)
    (cut : front <+: high :: low :: payload) (short : front.length < payload.length + 2) :
    ∃ fault, takePayload code front = .error fault ∧ fault.EndsEarly := by
  match front with
  | [] => exact ⟨_, rfl, .lengthCut⟩
  | [_] => exact ⟨_, rfl, .lengthCut⟩
  | first :: second :: rest =>
    rw [List.cons_prefix_cons, List.cons_prefix_cons] at cut
    obtain ⟨rfl, rfl, _⟩ := cut
    rw [List.length_cons, List.length_cons] at short
    have missing : (rest.take (first.toNat * 256 + second.toNat - 2)).length <
        first.toNat * 256 + second.toNat - 2 := by
      rw [List.length_take]
      omega
    refine ⟨.payloadCut code, ?_, .payloadCut code⟩
    unfold takePayload
    simp only [toNat_word16]
    rw [if_neg (by omega), if_pos missing]

/-- A part of a written item ends too early. -/
theorem split_item_cut {item : Item} {written front : Bytes} (form : item.Form written)
    (cut : front <+: written) (short : front.length < written.length) :
    (split front).1 = [] ∧ ∃ fault, (split front).2.fault = some fault ∧ fault.EndsEarly := by
  cases form with
  | standalone form alone =>
    rw [split_eq, Marker.seek_cut form cut short]
    exact ⟨rfl, _, rfl, .noMarker⟩
  | segment high low form notAlone notClosing length =>
    rename_i marker written payload
    rcases cut_append cut with ⟨within, shorter⟩ | ⟨rest, rfl, within⟩
    · rw [split_eq, Marker.seek_cut form within shorter]
      exact ⟨rfl, _, rfl, .noMarker⟩
    · rw [List.length_append, List.length_append, Nat.add_lt_add_iff_left] at short
      obtain ⟨fault, failed, early⟩ := takePayload_cut marker.code length within short
      rw [Marker.Closes, not_or] at notClosing
      rw [← Marker.isStandalone_iff] at notAlone
      rw [split_eq, Marker.seek_form form rest]
      simp only [failed]
      rw [if_neg notClosing.1, if_neg notClosing.2, if_neg notAlone]
      exact ⟨rfl, fault, rfl, early⟩

/-- **Written items that are cut short** are taken apart as far as they go. -/
theorem split_cut {items : List Item} {body ending front : Bytes} {closing : Marker}
    (form : ItemsForm items body) (last : closing.Form ending) (cut : front <+: body ++ ending)
    (short : front.length < (body ++ ending).length) :
    (split front).1 <+: items ∧
      ∃ fault, (split front).2.fault = some fault ∧ fault.EndsEarly := by
  -- On the items: the cut falls inside the first of them, or what is behind it is cut short.
  induction form generalizing front with
  | nil =>
    rw [split_eq, Marker.seek_cut last cut short]
    exact ⟨List.nil_prefix, _, rfl, .noMarker⟩
  | cons first later ih =>
    rw [List.append_assoc] at cut short
    rcases cut_append cut with ⟨within, shorter⟩ | ⟨rest, rfl, within⟩
    · obtain ⟨none, fault⟩ := split_item_cut first within shorter
      rw [none]
      exact ⟨List.nil_prefix, fault⟩
    · rw [List.length_append, List.length_append, Nat.add_lt_add_iff_left] at short
      rw [split_item first]
      obtain ⟨fewer, fault⟩ := ih within short
      exact ⟨List.cons_prefix_cons.mpr ⟨rfl, fewer⟩, fault⟩

end Segment

/-! ### Headers that are cut short -/

namespace Header

variable {items : List Item} {closing : Marker} {written : Bytes} {header : Header}

/-- Where items can be added, fewer can. -/
theorem Draft.addAll_fewer {draft last : Draft} {fewer : List Item} (within : fewer <+: items)
    (added : (draft.addAll items).2 = .ok last) :
    ∃ middle, (draft.addAll fewer).2 = .ok middle := by
  obtain ⟨rest, rfl⟩ := within
  rw [addAll_append] at added
  cases middle : (draft.addAll fewer).2 with
  | error fault =>
    rw [middle] at added
    cases added
  | ok next => exact ⟨next, rfl⟩

theorem Draft.close_fault {ending : Ending} {fault : HeaderFault}
    (ends : ending.fault = some fault) (draft : Draft) : draft.close ending = .error fault := by
  cases ending with
  | scan marker rest => cases ends
  | endOfImage marker rest => cases ends
  | noMarker =>
    cases ends
    rfl
  | broken marker fault =>
    cases ends
    rfl

/-- **A header that is cut short is not read**, since the bytes end too early. -/
theorem read_cut (form : HeaderForm items closing written) (declared : header.DeclaredBy items)
    {n : Nat} (begun : 2 ≤ n) (short : n < written.length) :
    ∃ fault, fault.EndsEarly ∧ read (written.take n) = .error (.malformed fault) := by
  obtain ⟨form, last, closes⟩ := form
  rename_i body ending
  obtain ⟨draft, adds, _⟩ := declaredBy_iff.mp declared
  obtain ⟨more, rfl⟩ := Nat.exists_eq_add_of_le' begun
  rw [List.length_cons, List.length_cons] at short
  have cut : (body ++ ending).take more <+: body ++ ending := List.take_prefix _ _
  have shorter : ((body ++ ending).take more).length < (body ++ ending).length := by
    rw [List.length_take]
    omega
  obtain ⟨fewer, fault, ends, early⟩ := Segment.split_cut form last cut shorter
  obtain ⟨middle, added⟩ := Draft.addAll_fewer fewer (Draft.addAll_eq_ok_iff.mpr adds)
  refine ⟨fault, early, ?_⟩
  rw [List.take_succ_cons, List.take_succ_cons, read, walk_result, added]
  simp only [Draft.close_fault ends]
  rfl

/-- Bytes that end in the start of image do not begin like one. -/
theorem read_few {bytes : Bytes} (few : bytes.length < 2) : read bytes = .error .notAJpeg := by
  rw [read_eq_notAJpeg_iff]
  intro begins
  exact absurd begins.length_le (Nat.not_le.mpr few)

/-! ### Where the walk stops -/

/-- The marker that the walk over a header stops at, and the offset just past it. -/
def stop (data : Bytes) : Option (Marker × Nat) :=
  if beginsImage data then
    (Segment.split (data.drop 2)).2.closing.map fun (closing, rest) =>
      (closing, data.length - rest.length)
  else none

theorem begins_append (form : HeaderForm items closing written) (rest : Bytes) :
    beginsImage (written ++ rest) = true := by
  obtain ⟨form, last, closes⟩ := form
  exact beginsImage_iff.mpr ⟨_, rfl⟩

/-- A written header is taken apart up to its end, whatever follows. -/
theorem split_append (form : HeaderForm items closing written) (rest : Bytes) :
    Segment.split ((written ++ rest).drop 2) = (items, .at closing rest) := by
  obtain ⟨form, last, closes⟩ := form
  rename_i body ending
  have past : (0xFF :: 0xD8 :: (body ++ ending) ++ rest).drop 2 = body ++ (ending ++ rest) :=
    List.append_assoc _ _ _
  rw [past, Segment.split_form form last closes rest]

theorem stop_append (form : HeaderForm items closing written) (rest : Bytes) :
    stop (written ++ rest) = some (closing, written.length) := by
  have ends : (Ending.at closing rest).closing = some (closing, rest) := by
    unfold Ending.at
    split <;> rfl
  have past : (written ++ rest).length - rest.length = written.length := by
    rw [List.length_append, Nat.add_sub_cancel]
  rw [stop, if_pos (begins_append form rest), split_append form rest]
  simp only [ends, Option.map_some, past]

/-- What follows a written header is not warned of. -/
theorem walk_log_append (form : HeaderForm items closing written) (first second : Bytes) :
    (walk (written ++ first)).log = (walk (written ++ second)).log := by
  have warns (rest : Bytes) : (Ending.at closing rest).warning = closing.warning := by
    unfold Ending.at
    split <;> rfl
  rw [walk, walk, if_pos (begins_append form first), if_pos (begins_append form second),
    split_append form first, split_append form second]
  dsimp only
  rcases Draft.empty.addAll items with ⟨log, fault | draft⟩
  · rfl
  · show log ++ (Ending.at closing first).warning = log ++ (Ending.at closing second).warning
    rw [warns, warns]

end Header

/-! ### A header of one frame -/

/-- A frame header of 16 by 16 gray samples. -/
def grayFrame : Item :=
  .segment ⟨0xC0, 0⟩ [0x08, 0x00, 0x10, 0x00, 0x10, 0x01, 0x01, 0x11, 0x00]

/-- A header with nothing else, up to its start of scan. -/
def grayHead : Bytes :=
  [0xFF, 0xD8, 0xFF, 0xC0, 0x00, 0x0B, 0x08, 0x00, 0x10, 0x00, 0x10, 0x01, 0x01, 0x11, 0x00,
    0xFF, 0xDA]

/-- The header with nothing else, up to either closing marker. -/
theorem gray_form {code : UInt8} (closes : Marker.Closes code) :
    HeaderForm [grayFrame] ⟨code, 0⟩ (grayHead.take 15 ++ [0xFF, code]) := by
  have frame : (Marker.mk 0xC0 0).Form [0xFF, 0xC0] := .mk 0 .none (by decide) (by decide)
  have item : grayFrame.Form _ := .segment 0x00 0x0B frame (by decide) (by decide) rfl
  have last : (Marker.mk code 0).Form [0xFF, code] := by
    refine .mk 0 .none ?_ ?_
    · rintro rfl
      exact absurd closes (by decide)
    · rintro rfl
      exact absurd closes (by decide)
  exact .mk (.cons item .nil) last closes

theorem grayHead_form : HeaderForm [grayFrame] ⟨0xDA, 0⟩ grayHead := gray_form (.inl rfl)

theorem grayHead_declared :
    Header.DeclaredBy ⟨16, 16, 1, false, Vector.replicate 4 none⟩ [grayFrame] := by
  refine ⟨⟨⟨0xC0, 16, 16, 1⟩, [0x08, 0x00, 0x10, 0x00, 0x10, 0x01, 0x01, 0x11, 0x00], rfl,
    .mk 0x08 [0x01, 0x11, 0x00] (by decide), rfl, rfl, rfl, by decide⟩, [], rfl, nofun, ?_⟩
  decide

namespace Header

/-! ### All streams -/

/-- **What a header takes of its stream.** The header of `data` ends at the marker that the walk
stops at, with the offset just past it: a walk that stops there finds the same header and warns of
the same, whatever is cut off or put behind. Cut off before it, the header is missed, because the
bytes end too early. An end of image that was found behind the first scan is found whatever follows,
and none is ever found behind an end of image that closes the header. -/
theorem prefix_law (data : Bytes) (header : Header) (known : read data = .ok header) :
    ∃ closing k, stop data = some (closing, k) ∧ Marker.Closes closing.code ∧ k ≤ data.length ∧
      (walk data).result = .ok (header,
        if closing.code = Marker.startOfScan then some (data.drop k) else none) ∧
      (∀ n t, k ≤ n → read (data.take n ++ t) = .ok header ∧
        stop (data.take n ++ t) = some (closing, k) ∧
        (walk (data.take n ++ t)).log = (walk data).log) ∧
      (∀ n, 2 ≤ n → n < k →
        ∃ fault, fault.EndsEarly ∧ read (data.take n) = .error (.malformed fault)) ∧
      (∀ n, n < 2 → read (data.take n) = .error .notAJpeg) ∧
      (isTerminated data = .ok true → ∀ t, isTerminated (data ++ t) = .ok true) ∧
      (closing.code = Marker.endOfImage → ∀ t, isTerminated (data ++ t) = .ok false) := by
  obtain ⟨items, closing, written, ⟨rest, rfl⟩, form, declared⟩ :=
    (read_ok_iff_written data header).mp known
  have closes : Marker.Closes closing.code := by
    obtain ⟨_, _, closes⟩ := form
    exact closes
  refine ⟨closing, written.length, stop_append form rest, closes, ?_, ?_, ?_, ?_, ?_, ?_, ?_⟩
  · rw [List.length_append]
    exact Nat.le_add_right _ _
  · rw [List.drop_left]
    exact walk_eq_ok_iff.mpr ⟨items, closing, written, rest, form, rfl, declared, rfl⟩
  · intro n t more
    rw [take_behind more, List.append_assoc]
    exact ⟨read_append form declared _, stop_append form _, walk_log_append form _ rest⟩
  · intro n begun short
    rw [List.take_append_of_le_length (Nat.le_of_lt short)]
    exact read_cut form declared begun short
  · intro n few
    refine read_few (Nat.lt_of_le_of_lt ?_ few)
    rw [List.length_take]
    exact Nat.min_le_left _ _
  · intro ended t
    rw [isTerminated_written form declared] at ended
    rw [List.append_assoc, isTerminated_written form declared]
    split at ended
    · rename_i scan
      have holds : holdsEnd rest = true := Except.ok.inj ended
      have longer := holdsEnd_of_prefix holds t
      rw [if_pos scan]
      exact congrArg Except.ok longer
    · cases ended
  · intro last t
    rw [List.append_assoc, isTerminated_written form declared, if_neg]
    rw [last]
    decide

/-- A gray frame before a scan that an end of image follows, and before an end of image. -/
theorem prefix_law_gray :
    let header : Header := ⟨16, 16, 1, false, Vector.replicate 4 none⟩
    let scanned := grayHead ++ [0xFF, 0xD9]
    let closed := grayHead.take 15 ++ [0xFF, 0xD9]
    (∀ n t, 17 ≤ n → read (scanned.take n ++ t) = .ok header) ∧
      (∀ n, 2 ≤ n → n < 17 → ∃ fault, read (scanned.take n) = .error (.malformed fault)) ∧
      (∀ n, n < 2 → read (scanned.take n) = .error .notAJpeg) ∧
      (∀ t, isTerminated (scanned ++ t) = .ok true) ∧
      ∀ t, isTerminated (closed ++ t) = .ok false := by
  intro header scanned closed
  have last : HeaderForm [grayFrame] ⟨0xD9, 0⟩ closed := gray_form (.inr rfl)
  have stopped := stop_append last []
  have known := read_append last grayHead_declared []
  rw [List.append_nil] at stopped known
  obtain ⟨_, _, stops, _, _, _, stable, cut, few, kept, _⟩ :=
    prefix_law scanned header (read_append grayHead_form grayHead_declared _)
  obtain ⟨_, _, ends, _, _, _, _, _, _, _, bare⟩ := prefix_law closed header known
  cases stops.symm.trans (stop_append grayHead_form [0xFF, 0xD9])
  cases ends.symm.trans stopped
  refine ⟨fun n t more => (stable n t more).1, fun n begun short => ?_, few, ?_, bare rfl⟩
  · obtain ⟨fault, _, failed⟩ := cut n begun short
    exact ⟨fault, failed⟩
  · exact kept (isTerminated_append grayHead_form rfl grayHead_declared [0xFF, 0xD9])

end Header

end JpegTranscoder
