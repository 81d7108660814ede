/-
**Which byte strings are headers, and what they declare.**

The header that is read from a byte string is the one that its written form declares:

* `HeaderForm`: the written form of a header, up to its closing marker;
* `Header.DeclaredBy`: what items declare: the one frame, and the last table for each slot;
* `Header.read_ok_iff_written`: a header is read exactly from the byte strings that begin with its
  written form;
* `Header.read_eq_notAJpeg_iff`: what does not begin like an image is told to be none.
-/
import JpegTranscoder.Proofs.Results
import JpegTranscoder.Proofs.Stream.SegmentForm
import JpegTranscoder.Proofs.Stream.TableEntries
import JpegTranscoder.Stream.Header

namespace JpegTranscoder

/-- The written form of a header: a start of image, items, and a closing marker. -/
inductive HeaderForm : List Item → Marker → Bytes → Prop where
  | mk {items : List Item} {closing : Marker} {body ending : Bytes} (form : ItemsForm items body)
      (last : closing.Form ending) (closes : Marker.Closes closing.code) :
      HeaderForm items closing (0xFF :: 0xD8 :: (body ++ ending))

/-! ### Kinds of segments -/

namespace Marker

/-- The codes of frame headers: `C0` to `CF`, less three that mean something else. -/
def StartsFrame (code : UInt8) : Prop :=
  (0xC0 ≤ code ∧ code ≤ 0xCF) ∧ code ≠ 0xC4 ∧ code ≠ 0xC8 ∧ code ≠ 0xCC
  deriving Decidable

/-- The codes of progressive frames. -/
def StartsProgressive (code : UInt8) : Prop :=
  code = 0xC2 ∨ code = 0xC6 ∨ code = 0xCA ∨ code = 0xCE
  deriving Decidable

theorem isFrame_iff {code : UInt8} : isFrame code = true ↔ StartsFrame code := by
  simp [isFrame, StartsFrame, and_assoc]

theorem isProgressive_iff {code : UInt8} : isProgressive code = true ↔ StartsProgressive code := by
  simp [isProgressive, StartsProgressive, or_assoc]

end Marker

/-- The code and the payload of a frame header. -/
def Item.frameHeader : Item → Option (UInt8 × Bytes)
  | .standalone _ => none
  | .segment marker payload =>
    if Marker.StartsFrame marker.code then some (marker.code, payload) else none

/-- The payload of a quantization table segment. -/
def Item.tablePayload : Item → Option Bytes
  | .standalone _ => none
  | .segment marker payload => if marker.code = Marker.quantTables then some payload else none

/-- The payload of a frame header: a precision, height and width with the high byte first, the
number of components, and at least three bytes for each. -/
inductive Frame.Form (frame : Frame) : Bytes → Prop where
  | mk (precision : UInt8) (list : Bytes) (enough : 3 * frame.components.toNat ≤ list.length) :
      Frame.Form frame (precision ::
        (wordBytes frame.height ++ wordBytes frame.width ++ frame.components :: list))

/-- What the items declare is the header. -/
structure Header.DeclaredBy (header : Header) (items : List Item) : Prop where
  /-- There is exactly one frame header. -/
  frame : ∃ (frame : Frame) (payload : Bytes),
    items.filterMap Item.frameHeader = [(frame.code, payload)] ∧ frame.Form payload ∧
      header.width = frame.width ∧ header.height = frame.height ∧
      header.components = frame.components ∧
      (header.progressive = true ↔ Marker.StartsProgressive frame.code)
  /-- Every table segment is a list of entries, and a slot has the last table given for it. -/
  tables : ∃ lists : List (List QuantSegment.Entry),
    items.filterMap Item.tablePayload = lists.map QuantSegment.write ∧
      (∀ entries ∈ lists, ∀ entry ∈ entries, entry.Fits) ∧
      ∀ slot : Fin 4, header.slots.get slot = QuantSegment.lastTable slot lists.flatten

/-! ### Reading a frame header -/

theorem Frame.read_eq_ok_iff {code : UInt8} {payload : Bytes} {frame : Frame} :
    Frame.read code payload = .ok frame ↔ frame.code = code ∧ frame.Form payload := by
  constructor
  · intro read
    unfold Frame.read at read
    split at read
    · rename_i precision heightHigh heightLow widthHigh widthLow components list
      split at read
      · cases read
      · rename_i enough
        cases read
        obtain ⟨sameHigh, sameLow⟩ := split_word16 heightHigh heightLow
        obtain ⟨otherHigh, otherLow⟩ := split_word16 widthHigh widthLow
        have form := @Frame.Form.mk ⟨code, word16 widthHigh widthLow,
          word16 heightHigh heightLow, components⟩ precision list (Nat.not_lt.mp enough)
        simp only [wordBytes, sameHigh, sameLow, otherHigh, otherLow, List.cons_append,
          List.nil_append] at form
        exact ⟨rfl, form⟩
    · cases read
  · rintro ⟨rfl, form⟩
    obtain ⟨precision, list, enough⟩ := form
    simp only [wordBytes, List.cons_append, List.nil_append, Frame.read, word16_split]
    rw [if_neg (Nat.not_lt.mpr enough)]

/-! ### Adding items to a draft -/

namespace Header

/-- What items add to a draft. -/
structure Draft.Adds (draft : Draft) (items : List Item) (last : Draft) : Prop where
  frame :
    (items.filterMap Item.frameHeader = [] ∧ last.frame = draft.frame) ∨
      (draft.frame = none ∧ ∃ (frame : Frame) (payload : Bytes),
        items.filterMap Item.frameHeader = [(frame.code, payload)] ∧ frame.Form payload ∧
          last.frame = some frame)
  tables : ∃ lists : List (List QuantSegment.Entry),
    items.filterMap Item.tablePayload = lists.map QuantSegment.write ∧
    (∀ entries ∈ lists, ∀ entry ∈ entries, entry.Fits) ∧
    last.slots = QuantSegment.store draft.slots lists.flatten

/-- An item's warning is told whether or not the item can be added, and then what is told of the
others. -/
theorem Draft.addAll_item (draft : Draft) (item : Item) (rest : List Item) :
    draft.addAll (item :: rest) =
      match draft.add item with
      | .error fault => (item.marker.warning, .error fault)
      | .ok next => (item.marker.warning ++ (next.addAll rest).1, (next.addAll rest).2) := by
  rw [addAll, addOnto, List.append_nil]
  cases draft.add item with
  | error fault =>
    dsimp only
    rw [List.reverse_reverse]
  | ok next =>
    dsimp only
    rw [addOnto_eq, List.reverse_reverse]

theorem Draft.addAll_cons (draft : Draft) (item : Item) (rest : List Item) :
    (draft.addAll (item :: rest)).2 =
      match draft.add item with
      | .error fault => .error fault
      | .ok next => (next.addAll rest).2 := by
  rw [addAll_item]
  cases draft.add item with
  | error fault => rfl
  | ok next => rfl

/-- Items are added one list behind another. -/
theorem Draft.addAll_append (draft : Draft) (first second : List Item) :
    (draft.addAll (first ++ second)).2 =
      match (draft.addAll first).2 with
      | .error fault => .error fault
      | .ok next => (next.addAll second).2 := by
  induction first generalizing draft with
  | nil => rfl
  | cons item first ih =>
    rw [List.cons_append, addAll_cons, addAll_cons]
    cases draft.add item with
    | error fault => rfl
    | ok next => exact ih next

theorem Draft.adds_plain {draft last : Draft} {item : Item} {rest : List Item}
    (noFrame : item.frameHeader = none) (noTables : item.tablePayload = none) :
    draft.Adds (item :: rest) last ↔ draft.Adds rest last := by
  constructor <;> rintro ⟨frame, tables⟩ <;> refine ⟨?_, ?_⟩
  · rwa [List.filterMap_cons_none noFrame] at frame
  · rwa [List.filterMap_cons_none noTables] at tables
  · rwa [List.filterMap_cons_none noFrame]
  · rwa [List.filterMap_cons_none noTables]

theorem Draft.adds_frame {draft last : Draft} {item : Item} {rest : List Item} {code : UInt8}
    {payload : Bytes} (starts : item.frameHeader = some (code, payload))
    (noTables : item.tablePayload = none) :
    draft.Adds (item :: rest) last ↔
      draft.frame = none ∧ ∃ frame, Frame.read code payload = .ok frame ∧
        Draft.Adds { draft with frame := some frame } rest last := by
  constructor
  · rintro ⟨frame, tables⟩
    rw [List.filterMap_cons_none noTables] at tables
    rw [List.filterMap_cons_some starts] at frame
    rcases frame with ⟨empty, _⟩ | ⟨fresh, frame, _, alone, form, known⟩
    · cases empty
    · rw [List.cons.injEq, Prod.mk.injEq] at alone
      obtain ⟨⟨rfl, rfl⟩, none⟩ := alone
      exact ⟨fresh, frame, Frame.read_eq_ok_iff.mpr ⟨rfl, form⟩, Or.inl ⟨none, known⟩, tables⟩
  · rintro ⟨fresh, frame, read, later, tables⟩
    obtain ⟨rfl, form⟩ := Frame.read_eq_ok_iff.mp read
    rcases later with ⟨none, known⟩ | ⟨absent, _⟩
    · refine ⟨Or.inr ⟨fresh, frame, payload, ?_, form, known⟩, ?_⟩
      · rw [List.filterMap_cons_some starts, none]
      · rwa [List.filterMap_cons_none noTables]
    · cases absent

theorem Draft.adds_tables {draft last : Draft} {item : Item} {rest : List Item} {payload : Bytes}
    (noFrame : item.frameHeader = none) (holds : item.tablePayload = some payload) :
    draft.Adds (item :: rest) last ↔
      ∃ entries, QuantSegment.read payload = .ok entries ∧
        Draft.Adds { draft with slots := QuantSegment.store draft.slots entries } rest last := by
  constructor
  · rintro ⟨frame, lists, written, fit, stored⟩
    rw [List.filterMap_cons_none noFrame] at frame
    rw [List.filterMap_cons_some holds] at written
    cases lists with
    | nil => cases written
    | cons entries lists =>
      rw [List.map_cons, List.cons.injEq] at written
      rw [List.forall_mem_cons] at fit
      refine ⟨entries, QuantSegment.read_eq_ok_iff.mpr ⟨fit.1, written.1⟩, frame, lists,
        written.2, fit.2, ?_⟩
      rw [stored, List.flatten_cons, QuantSegment.store_append]
  · rintro ⟨entries, read, frame, lists, written, fit, stored⟩
    obtain ⟨fits, rfl⟩ := QuantSegment.read_eq_ok_iff.mp read
    refine ⟨?_, entries :: lists, ?_, ?_, ?_⟩
    · rwa [List.filterMap_cons_none noFrame]
    · rw [List.filterMap_cons_some holds, written, List.map_cons]
    · rw [List.forall_mem_cons]
      exact ⟨fits, fit⟩
    · rw [stored, List.flatten_cons, QuantSegment.store_append]

/-- **A draft is extended by exactly what the items declare.** -/
theorem Draft.addAll_eq_ok_iff {draft last : Draft} {items : List Item} :
    (draft.addAll items).2 = .ok last ↔ draft.Adds items last := by
  induction items generalizing draft with
  | nil =>
    constructor
    · intro added
      cases added
      exact ⟨Or.inl ⟨rfl, rfl⟩, [], rfl, nofun, rfl⟩
    · rintro ⟨⟨_, frame⟩ | ⟨_, _, _, absurdity, _⟩, lists, written, _, stored⟩
      · rw [List.filterMap_nil, eq_comm, List.map_eq_nil_iff] at written
        subst written
        cases last
        cases draft
        cases frame
        cases stored
        rfl
      · cases absurdity
  | cons item rest ih =>
    rw [addAll_cons]
    cases item with
    | standalone marker => rw [adds_plain rfl rfl, add, ih]
    | segment marker payload =>
      by_cases starts : Marker.StartsFrame marker.code
      · have noTables : (Item.segment marker payload).tablePayload = none := by
          refine if_neg ?_
          rintro same
          rw [same] at starts
          exact absurd starts (by decide)
        have isHeader : (Item.segment marker payload).frameHeader = some (marker.code, payload) :=
          if_pos starts
        rw [adds_frame isHeader noTables, add, if_pos (Marker.isFrame_iff.mpr starts)]
        cases known : draft.frame with
        | some frame => simp
        | none =>
          cases read : Frame.read marker.code payload with
          | error fault => simp [Except.map]
          | ok frame => simp [Except.map, ih]
      · have noFrame : (Item.segment marker payload).frameHeader = none := if_neg starts
        have other : ¬Marker.isFrame marker.code = true := by
          rw [Marker.isFrame_iff]
          exact starts
        rw [add, if_neg other]
        by_cases tables : marker.code = Marker.quantTables
        · rw [adds_tables noFrame (if_pos tables), if_pos tables]
          cases read : QuantSegment.read payload with
          | error fault => simp [Except.map]
          | ok entries => simp [Except.map, ih]
        · rw [adds_plain noFrame (if_neg tables), if_neg tables, ih]

/-! ### Reading a header -/

theorem Draft.finish_eq_ok_iff {draft : Draft} {header : Header} :
    draft.finish = .ok header ↔ ∃ frame, draft.frame = some frame ∧
      header = ⟨frame.width, frame.height, frame.components, Marker.isProgressive frame.code,
        draft.slots⟩ := by
  unfold finish
  cases draft.frame with
  | none => simp
  | some frame => simp [eq_comm]

/-- Items declare the header that a draft amounts to after they were added. -/
theorem declaredBy_iff {header : Header} {items : List Item} :
    header.DeclaredBy items ↔
      ∃ draft, Draft.empty.Adds items draft ∧ draft.finish = .ok header := by
  have slots_empty : ∀ slot : Fin 4, Draft.empty.slots[slot] = none := by decide
  constructor
  · rintro ⟨⟨frame, payload, alone, form, width, height, components, progressive⟩,
      lists, written, fit, slots⟩
    refine ⟨⟨some frame, header.slots⟩, ⟨Or.inr ⟨rfl, frame, payload, alone, form, rfl⟩, lists,
      written, fit, ?_⟩, ?_⟩
    · apply Vector.ext
      intro index bound
      have last : header.slots[index] = QuantSegment.lastTable ⟨index, bound⟩ lists.flatten :=
        slots ⟨index, bound⟩
      have stored := QuantSegment.store_slot Draft.empty.slots lists.flatten ⟨index, bound⟩
      rw [slots_empty, Option.or_none, ← last] at stored
      exact stored.symm
    · rw [← Marker.isProgressive_iff, Bool.eq_iff_iff.symm] at progressive
      obtain ⟨headerWidth, headerHeight, headerComponents, mode, table⟩ := header
      simp only at width height components progressive
      rw [Draft.finish_eq_ok_iff]
      exact ⟨frame, rfl, by rw [width, height, components, progressive]⟩
  · rintro ⟨draft, ⟨frame, lists, written, fit, stored⟩, finished⟩
    obtain ⟨found, known, rfl⟩ := Draft.finish_eq_ok_iff.mp finished
    rcases frame with ⟨_, same⟩ | ⟨_, frame, payload, alone, form, same⟩
    · rw [known] at same
      cases same
    · rw [known] at same
      cases same
      refine ⟨⟨found, payload, alone, form, rfl, rfl, rfl, Marker.isProgressive_iff⟩, lists,
        written, fit, fun slot => ?_⟩
      show draft.slots[slot] = _
      rw [stored, QuantSegment.store_slot, slots_empty, Option.or_none]

theorem beginsImage_iff {bytes : Bytes} :
    beginsImage bytes = true ↔ ∃ rest, bytes = 0xFF :: 0xD8 :: rest := by
  unfold beginsImage
  split
  · simp [Marker.startOfImage]
  · rename_i short
    simp only [Bool.false_eq_true, false_iff, not_exists]
    rintro rest rfl
    exact short 0xFF 0xD8 rest rfl

/-- A walk adds the items and closes the draft. -/
theorem walk_begun (tail : Bytes) :
    walk (0xFF :: 0xD8 :: tail) =
      match Draft.empty.addAll (Segment.split tail).1 with
      | (log, .error fault) => ⟨log, .error (.malformed fault)⟩
      | (log, .ok draft) =>
        ⟨log ++ (Segment.split tail).2.warning,
          (draft.close (Segment.split tail).2).mapError .malformed⟩ :=
  if_pos (beginsImage_iff.mpr ⟨tail, rfl⟩)

theorem walk_result (tail : Bytes) :
    (walk (0xFF :: 0xD8 :: tail)).result =
      match (Draft.empty.addAll (Segment.split tail).1).2 with
      | .error fault => .error (.malformed fault)
      | .ok draft => (draft.close (Segment.split tail).2).mapError .malformed := by
  rw [walk_begun]
  rcases Draft.empty.addAll (Segment.split tail).1 with ⟨log, fault | draft⟩ <;> rfl

theorem Draft.closing_of_close {draft : Draft} {ending : Ending} {walked : Header × Option Bytes}
    (closed : draft.close ending = .ok walked) :
    ∃ closing rest, ending.closing = some (closing, rest) := by
  cases ending with
  | scan marker rest => exact ⟨marker, rest, rfl⟩
  | endOfImage marker rest => exact ⟨marker, rest, rfl⟩
  | noMarker => cases closed
  | broken marker fault => cases closed

theorem Draft.close_at (draft : Draft) (closing : Marker) (rest : Bytes) :
    draft.close (.at closing rest) = draft.finish.map fun header =>
      (header, if closing.code = Marker.startOfScan then some rest else none) := by
  unfold Ending.at
  split <;> rfl

/-- **A walk succeeds exactly on what begins with a written header**, with the header that it
declares and with the bytes after it if it is closed by a start of scan. -/
theorem walk_eq_ok_iff {bytes : Bytes} {header : Header} {after : Option Bytes} :
    (walk bytes).result = .ok (header, after) ↔
      ∃ items closing written rest, HeaderForm items closing written ∧ bytes = written ++ rest ∧
        header.DeclaredBy items ∧
        after = if closing.code = Marker.startOfScan then some rest else none := by
  constructor
  · intro walked
    by_cases begins : beginsImage bytes = true
    · obtain ⟨tail, rfl⟩ := beginsImage_iff.mp begins
      rw [walk_result] at walked
      cases added : (Draft.empty.addAll (Segment.split tail).1).2 with
      | error fault =>
        rw [added] at walked
        cases walked
      | ok draft =>
        rw [added] at walked
        have closed : draft.close (Segment.split tail).2 = .ok (header, after) :=
          ok_of_mapError walked
        obtain ⟨closing, rest, ends⟩ := Draft.closing_of_close closed
        obtain ⟨body, ending, form, last, closes, same, rfl⟩ := Segment.form_of_split ends
        rw [same, Draft.close_at] at closed
        obtain ⟨given, finished, pair⟩ := ok_of_map closed
        cases pair
        refine ⟨_, closing, _, rest, ⟨form, last, closes⟩, ?_, ?_, rfl⟩
        · simp only [List.cons_append, List.append_assoc]
        · exact declaredBy_iff.mpr ⟨draft, Draft.addAll_eq_ok_iff.mp added, finished⟩
    · rw [walk, if_neg begins] at walked
      cases walked
  · rintro ⟨items, closing, written, rest, ⟨form, last, closes⟩, rfl, declared, rfl⟩
    rename_i body ending
    obtain ⟨draft, adds, finished⟩ := declaredBy_iff.mp declared
    have added := Draft.addAll_eq_ok_iff.mpr adds
    rw [List.cons_append, List.cons_append, List.append_assoc, walk_result,
      Segment.split_form form last closes rest]
    simp only [added]
    rw [Draft.close_at, finished]
    rfl

theorem beginsImage_iff_prefix {bytes : Bytes} :
    beginsImage bytes = true ↔ [0xFF, 0xD8] <+: bytes := by
  rw [beginsImage_iff]
  constructor
  · rintro ⟨rest, rfl⟩
    exact ⟨rest, rfl⟩
  · rintro ⟨rest, rfl⟩
    exact ⟨rest, rfl⟩

/-- A walk that has begun objects to the segments only. -/
theorem walk_eq_notAJpeg_iff {bytes : Bytes} :
    (walk bytes).result = .error .notAJpeg ↔ ¬[0xFF, 0xD8] <+: bytes := by
  rw [← beginsImage_iff_prefix]
  constructor
  · intro foreign begins
    obtain ⟨tail, rfl⟩ := beginsImage_iff.mp begins
    rw [walk_result] at foreign
    split at foreign
    · cases foreign
    · rename_i draft _
      cases closed : draft.close (Segment.split tail).2 with
      | error fault =>
        rw [closed] at foreign
        cases foreign
      | ok walked =>
        rw [closed] at foreign
        cases foreign
  · intro other
    rw [walk, if_neg other]

/-- **What does not begin like an image is told to be none**, and nothing else is. -/
theorem read_eq_notAJpeg_iff {bytes : Bytes} :
    read bytes = .error .notAJpeg ↔ ¬[0xFF, 0xD8] <+: bytes := by
  rw [← walk_eq_notAJpeg_iff, read]
  cases (walk bytes).result with
  | error error => simp [Except.map]
  | ok walked => simp [Except.map]

theorem read_append {items : List Item} {closing : Marker} {written : Bytes} {header : Header}
    (form : HeaderForm items closing written) (declared : header.DeclaredBy items) (rest : Bytes) :
    read (written ++ rest) = .ok header := by
  have walked := walk_eq_ok_iff.mpr ⟨items, closing, written, rest, form, rfl, declared, rfl⟩
  rw [read, walked]
  rfl

/-- Whether an end of image follows a written header: none behind an end of image. -/
theorem isTerminated_written {items : List Item} {closing : Marker} {written : Bytes}
    {header : Header} (form : HeaderForm items closing written) (declared : header.DeclaredBy items)
    (rest : Bytes) :
    isTerminated (written ++ rest) =
      .ok (if closing.code = Marker.startOfScan then containsPair 0xFF Marker.endOfImage rest
        else false) := by
  have walked := walk_eq_ok_iff.mpr ⟨items, closing, written, rest, form, rfl, declared, rfl⟩
  rw [isTerminated, walked]
  split <;> rfl

/-- Behind a header that a start of scan closes, an end of image is looked for in what follows. -/
theorem isTerminated_append {items : List Item} {closing : Marker} {written : Bytes}
    {header : Header} (form : HeaderForm items closing written)
    (start : closing.code = Marker.startOfScan) (declared : header.DeclaredBy items)
    (rest : Bytes) :
    isTerminated (written ++ rest) = .ok (containsPair 0xFF Marker.endOfImage rest) := by
  rw [isTerminated_written form declared, if_pos start]

/-- **A header is read exactly from the byte strings that begin with its written form**: a start
of image, items of which one is a frame header, and a closing marker, where the header says what
the frame header and the last table for each slot say. -/
theorem read_ok_iff_written (bytes : Bytes) (header : Header) :
    read bytes = .ok header ↔
      ∃ items closing written, written <+: bytes ∧ HeaderForm items closing written ∧
        header.DeclaredBy items := by
  constructor
  · intro known
    obtain ⟨⟨same, after⟩, walked, rfl⟩ := ok_of_map known
    obtain ⟨items, closing, written, rest, form, whole, declared, _⟩ := walk_eq_ok_iff.mp walked
    exact ⟨items, closing, written, ⟨rest, whole.symm⟩, form, declared⟩
  · rintro ⟨items, closing, written, ⟨rest, rfl⟩, form, declared⟩
    exact read_append form declared rest

end Header

end JpegTranscoder
