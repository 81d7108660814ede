/-
**What a segment of quantization tables leaves in the slots.**

The payload of such a segment is the written form of one list of entries, or it is refused, and then
so is the header that holds it:

* `Zigzag.position_precedes_iff`: the order that divisors are written in runs along the diagonals;
* `QuantSegment.Entry.write_eq`, `QuantSegment.Encoded`: the written form of an entry and of many;
* `QuantSegment.Refused`: what stands where an entry is due, but is none, and how it is told;
* `QuantSegment.read_eq_error_iff`: a payload is refused for what follows its entries;
* `Header.Draft.tables_as_encoded`: every payload, and every header that holds it.
-/
import JpegTranscoder.Proofs.Stream.HeaderForm
import Mathlib.Logic.ExistsUnique
import Mathlib.Order.Fin.Basic

namespace JpegTranscoder

/-! ### The order of the divisors -/

namespace Zigzag

/-- The diagonal that a position lies on. -/
def diagonal (position : Fin 64) : Nat := position.val / 8 + position.val % 8

/-- How far along its diagonal a position lies: odd diagonals run down, even ones up. -/
def along (position : Fin 64) : Nat :=
  if diagonal position % 2 = 1 then position.val / 8 else position.val % 8

/-- One position comes before another when the diagonals are run along, one after the other. -/
def Precedes (first second : Fin 64) : Prop :=
  diagonal first < diagonal second ∨
    diagonal first = diagonal second ∧ along first < along second

theorem along_lt (position : Fin 64) : along position < 8 := by
  have bound := position.isLt
  unfold along
  split <;> omega

theorem precedes_iff (first second : Fin 64) :
    Precedes first second ↔
      diagonal first * 8 + along first < diagonal second * 8 + along second := by
  have near := along_lt first
  have far := along_lt second
  unfold Precedes
  omega

/-- **The zigzag order runs along the diagonals.** -/
theorem position_precedes_iff (first second : Fin 64) :
    Precedes (position first) (position second) ↔ first < second := by
  have steps : StrictMono fun rank : Fin 64 =>
      diagonal (position rank) * 8 + along (position rank) :=
    Fin.strictMono_iff_lt_succ.mpr (by decide)
  rw [precedes_iff]
  exact steps.lt_iff_lt

end Zigzag

namespace QuantSegment

open Quant

variable {payload : Bytes} {entries : List Entry} {head : UInt8} {rest : Bytes}
  {fault : HeaderFault}

/-! ### Entries and what is none -/

theorem Precision.code_shift (precision : Precision) (slot : Fin 4) :
    precision.code * 16 + slot.val = precision.code <<< 4 ||| slot.val := by
  cases precision <;> revert slot <;> decide

/-- An entry is written as its precision above its slot, and then its divisors in zigzag order. -/
theorem Entry.write_eq (entry : Entry) :
    entry.write = UInt8.ofNat (entry.precision.code <<< 4 ||| entry.slot.val) ::
      (List.finRange 64).flatMap fun rank =>
        entry.precision.writeWord (entry.table.values.get (Zigzag.position rank)) := by
  have divisors : entry.table.toZigzag.toList =
      (List.finRange 64).map fun rank => entry.table.values.get (Zigzag.position rank) := by
    rw [Table.toZigzag, Zigzag.ofNatural, Vector.toList_ofFn, List.finRange, List.map_ofFn]
    rfl
  rw [Entry.write, Precision.code_shift, divisors, List.flatMap_map]

/-- The payload is the written form of the entries, whose divisors fit their precision. -/
structure Encoded (entries : List Entry) (payload : Bytes) : Prop where
  fit : ∀ entry ∈ entries, entry.Fits
  written : payload = write entries

/-- What begins with `head` where an entry is due, and the fault that it is told with: a slot beyond
the four, a precision that is neither of the two, or divisors that are cut short. -/
inductive Refused (head : UInt8) (rest : Bytes) : HeaderFault → Prop where
  | slot (beyond : 4 ≤ head.toNat % 16) : Refused head rest (.tableSlot (head.toNat % 16))
  | precision (within : head.toNat % 16 < 4) (neither : 2 ≤ head.toNat / 16) :
      Refused head rest (.tablePrecision (head.toNat / 16))
  | cut (slot : Fin 4) (precision : Precision)
      (coded : head = UInt8.ofNat (precision.code * 16 + slot.val))
      (short : rest.length < precision.size) : Refused head rest precision.cut

theorem readHead_eq_error_iff :
    readHead head = .error fault ↔
      (4 ≤ head.toNat % 16 ∧ fault = .tableSlot (head.toNat % 16)) ∨
        (head.toNat % 16 < 4 ∧ 2 ≤ head.toNat / 16 ∧
          fault = .tablePrecision (head.toNat / 16)) := by
  constructor
  · intro failed
    unfold readHead at failed
    split at failed
    · rename_i within
      split at failed
      · cases failed
      · cases failed
      · rename_i notByte notWord
        cases failed
        have some : 0 < head.toNat / 16 := Nat.pos_of_ne_zero notByte
        have more : head.toNat / 16 ≠ 1 := notWord
        exact .inr ⟨within, by omega, rfl⟩
    · rename_i beyond
      cases failed
      exact .inl ⟨Nat.not_lt.mp beyond, rfl⟩
  · rintro (⟨beyond, rfl⟩ | ⟨within, neither, rfl⟩)
    · rw [readHead, dif_neg (Nat.not_lt.mpr beyond)]
    · rw [readHead, dif_pos within]
      split
      · omega
      · omega
      · rfl

/-- **What is refused as an entry**, and how it is told. -/
theorem readEntry_eq_error_iff : readEntry head rest = .error fault ↔ Refused head rest fault := by
  constructor
  · intro failed
    unfold readEntry at failed
    split at failed
    · rename_i reason known
      cases failed
      rcases readHead_eq_error_iff.mp known with ⟨beyond, rfl⟩ | ⟨within, neither, rfl⟩
      · exact .slot beyond
      · exact .precision within neither
    · rename_i slot precision known
      split at failed
      · rename_i short
        cases failed
        exact .cut slot precision (readHead_eq_ok_iff.mp known) short
      · cases failed
  · intro refused
    unfold readEntry
    cases refused with
    | slot beyond => rw [readHead_eq_error_iff.mpr (.inl ⟨beyond, rfl⟩)]
    | precision within neither =>
      rw [readHead_eq_error_iff.mpr (.inr ⟨within, neither, rfl⟩)]
    | cut slot precision coded short =>
      rw [readHead_eq_ok_iff.mpr coded]
      exact if_pos short

/-! ### Payloads -/

/-- A written entry is read off the front of a payload. -/
theorem read_write_append {entry : Entry} (fits : entry.Fits) (rest : Bytes) :
    read (entry.write ++ rest) = (read rest).map (entry :: ·) := by
  have taken : readEntry (UInt8.ofNat (entry.precision.code * 16 + entry.slot.val))
      (entry.divisorBytes ++ rest) = .ok (entry, rest) := readEntry_eq_ok_iff.mpr ⟨fits, rfl⟩
  show read (_ :: (entry.divisorBytes ++ rest)) = _
  rw [read_cons, taken]

/-- **A payload is refused for what follows its entries** and is none. -/
theorem read_eq_error_iff :
    read payload = .error fault ↔
      ∃ entries head rest, (∀ entry ∈ entries, entry.Fits) ∧
        payload = write entries ++ head :: rest ∧ Refused head rest fault := by
  constructor
  · intro failed
    -- On the length of the payload: an entry takes at least its first byte off it.
    induction length : payload.length using Nat.strongRecOn generalizing payload with
    | ind size ih =>
      cases payload with
      | nil =>
        rw [read] at failed
        cases failed
      | cons head bytes =>
        rw [read_cons] at failed
        cases taken : readEntry head bytes with
        | error reason =>
          rw [taken] at failed
          cases failed
          exact ⟨[], head, bytes, List.forall_mem_nil _, rfl, readEntry_eq_error_iff.mp taken⟩
        | ok pair =>
          obtain ⟨entry, rest⟩ := pair
          have shorter := readEntry_length taken
          obtain ⟨fits, front⟩ := readEntry_eq_ok_iff.mp taken
          rw [taken] at failed
          obtain ⟨entries, next, behind, fit, rfl, refused⟩ :=
            ih rest.length (by rw [← length, List.length_cons]; omega)
              (map_eq_error_iff.mp failed) rfl
          refine ⟨entry :: entries, next, behind, List.forall_mem_cons.mpr ⟨fits, fit⟩, ?_, refused⟩
          rw [front, write, write, List.flatMap_cons, List.append_assoc]
  · rintro ⟨entries, head, rest, fit, rfl, refused⟩
    induction entries with
    | nil =>
      show read (head :: rest) = _
      rw [read_cons, readEntry_eq_error_iff.mpr refused]
    | cons entry entries ih =>
      rw [List.forall_mem_cons] at fit
      rw [write, List.flatMap_cons, List.append_assoc, read_write_append fit.1]
      exact map_eq_error_iff.mpr (ih fit.2)

theorem encoded_iff : Encoded entries payload ↔ read payload = .ok entries := by
  rw [read_eq_ok_iff]
  exact ⟨fun encoded => ⟨encoded.fit, encoded.written⟩, fun whole => ⟨whole.1, whole.2⟩⟩

/-! ### Slots -/

theorem lastTable_of_last {before behind : List Entry} {entry : Entry}
    (last : ∀ later ∈ behind, later.slot ≠ entry.slot) :
    lastTable entry.slot (before ++ entry :: behind) = some entry.table := by
  have none : behind.reverse.find? (fun later => later.slot = entry.slot) = none := by
    rw [List.find?_eq_none]
    intro later member
    rw [decide_eq_true_eq]
    exact last later (List.mem_reverse.mp member)
  rw [lastTable, List.reverse_append, List.reverse_cons, List.append_assoc, List.find?_append, none]
  simp

theorem lastTable_of_absent {slot : Fin 4} (absent : ∀ entry ∈ entries, entry.slot ≠ slot) :
    lastTable slot entries = none := by
  rw [lastTable, Option.map_eq_none_iff, List.find?_eq_none]
  intro entry member
  rw [decide_eq_true_eq]
  exact absent entry (List.mem_reverse.mp member)

end QuantSegment

namespace Header

open QuantSegment

/-- A segment of quantization tables is added by reading its payload. -/
theorem Draft.add_tables (draft : Draft) (stray : Nat) (payload : Bytes) :
    draft.add (.segment ⟨Marker.quantTables, stray⟩ payload) =
      (QuantSegment.read payload).map fun entries =>
        { draft with slots := store draft.slots entries } := by
  have other : ¬Marker.isFrame Marker.quantTables = true := by decide
  rw [add, if_neg other, if_pos rfl]

/-- **A header with a refused segment is refused like it**, whatever follows. -/
theorem read_refused {items : List Item} {item : Item} {body written : Bytes} {draft : Draft}
    {fault : HeaderFault} (form : ItemsForm items body)
    (added : (Draft.empty.addAll items).2 = .ok draft) (next : item.Form written)
    (refused : draft.add item = .error fault) (tail : Bytes) :
    Header.read (0xFF :: 0xD8 :: (body ++ (written ++ tail))) = .error (.malformed fault) := by
  have fails : (Draft.empty.addAll (items ++ item :: (Segment.split tail).1)).2 = .error fault := by
    rw [Draft.addAll_append, added]
    dsimp only
    rw [Draft.addAll_cons, refused]
  rw [Header.read, walk_result, Segment.split_items form, Segment.split_item next]
  dsimp only
  rw [fails]
  rfl

/-- **Tables are decoded exactly as they were encoded.** An entry is encoded as its precision above
its slot, and then its divisors along the diagonals. Added to any draft, a segment with the
payload of entries that fit leaves in each slot the last table that they give for it, and what was
there in the others. Every payload that is taken is the written form of exactly one list of such
entries. Every other one has something behind such entries that is refused as one, and so is every
header that holds it. -/
theorem Draft.tables_as_encoded (draft : Draft) (stray : Nat) (payload : Bytes) :
    let segment : Item := .segment ⟨Marker.quantTables, stray⟩ payload
    (∀ entry : Entry, entry.write =
      UInt8.ofNat (entry.precision.code <<< 4 ||| entry.slot.val) ::
        (List.finRange 64).flatMap fun rank =>
          entry.precision.writeWord (entry.table.values.get (Zigzag.position rank))) ∧
    (∀ first second, Zigzag.Precedes (Zigzag.position first) (Zigzag.position second) ↔
      first < second) ∧
    (∀ entries, Encoded entries payload → ∃ slots, draft.add segment = .ok { draft with slots } ∧
      (∀ before entry behind, entries = before ++ entry :: behind →
        (∀ later ∈ behind, later.slot ≠ entry.slot) →
        slots.get entry.slot = some entry.table) ∧
      ∀ slot, (∀ entry ∈ entries, entry.slot ≠ slot) → slots.get slot = draft.slots.get slot) ∧
    ((∃ next, draft.add segment = .ok next) ↔ ∃! entries, Encoded entries payload) ∧
    ((∃ fault, draft.add segment = .error fault) ↔ ¬∃ entries, Encoded entries payload) ∧
    (∀ fault, draft.add segment = .error fault ↔
      ∃ entries head rest, (∀ entry ∈ entries, entry.Fits) ∧
        payload = write entries ++ head :: rest ∧ Refused head rest fault) ∧
    ∀ fault items body written tail, draft.add segment = .error fault → ItemsForm items body →
      (Draft.empty.addAll items).2 = .ok draft → segment.Form written →
      Header.read (0xFF :: 0xD8 :: (body ++ (written ++ tail))) = .error (.malformed fault) := by
  intro segment
  have adds : draft.add segment = _ := draft.add_tables stray payload
  refine ⟨Entry.write_eq, Zigzag.position_precedes_iff, ?_, ?_, ?_, ?_, ?_⟩
  · intro entries encoded
    rw [adds, encoded_iff.mp encoded]
    refine ⟨_, rfl, ?_, ?_⟩
    · rintro before entry behind rfl last
      have stored := store_slot draft.slots (before ++ entry :: behind) entry.slot
      rw [lastTable_of_last last] at stored
      exact stored
    · intro slot absent
      have stored := store_slot draft.slots entries slot
      rw [lastTable_of_absent absent] at stored
      exact stored
  · constructor
    · rintro ⟨next, added⟩
      rw [adds] at added
      obtain ⟨entries, read, _⟩ := ok_of_map added
      refine ⟨entries, encoded_iff.mpr read, fun others encoded => ?_⟩
      exact Except.ok.inj ((encoded_iff.mp encoded).symm.trans read)
    · rintro ⟨entries, encoded, _⟩
      rw [adds, encoded_iff.mp encoded]
      exact ⟨_, rfl⟩
  · rw [adds]
    constructor
    · rintro ⟨fault, failed⟩ ⟨entries, encoded⟩
      rw [encoded_iff.mp encoded] at failed
      cases failed
    · intro none
      cases read : QuantSegment.read payload with
      | error fault => exact ⟨fault, rfl⟩
      | ok entries => exact absurd ⟨entries, encoded_iff.mpr read⟩ none
  · intro fault
    rw [adds, map_eq_error_iff, read_eq_error_iff]
  · intro fault items body written tail refused form added next
    exact read_refused form added next refused tail

/-- A table of bytes that another replaces, with a table of words between them, and a slot beyond
the four. -/
theorem Draft.tables_as_encoded_replaced :
    let flat (divisor : UInt16) : Quant.Table := ⟨Vector.replicate 64 divisor⟩
    let ramp : Quant.Table := ⟨Vector.ofFn fun position => UInt16.ofNat (position.val + 256)⟩
    let entries : List Entry := [⟨0, .byte, flat 7⟩, ⟨1, .word, ramp⟩, ⟨0, .byte, flat 9⟩]
    let segment (payload : Bytes) : Item := .segment ⟨Marker.quantTables, 0⟩ payload
    (∃ slots, Draft.empty.add (segment (write entries)) = .ok { Draft.empty with slots } ∧
      slots.get 0 = some (flat 9) ∧ slots.get 1 = some ramp ∧ slots.get 2 = none) ∧
      Draft.empty.add (segment [0x04]) = .error (.tableSlot 4) ∧
      ∀ tail, Header.read (0xFF :: 0xD8 :: 0xFF :: 0xDB :: 0x00 :: 0x03 :: 0x04 :: tail) =
        .error (.malformed (.tableSlot 4)) := by
  intro flat ramp entries segment
  have fits (slot : Fin 4) {divisor : UInt16} (small : divisor < 256) :
      Entry.Fits ⟨slot, .byte, flat divisor⟩ := by
    intro position
    show (Vector.replicate 64 divisor)[position] < 256
    rw [Fin.getElem_fin, Vector.getElem_replicate]
    exact small
  have fit : ∀ entry ∈ entries, entry.Fits :=
    List.forall_mem_cons.mpr ⟨fits 0 (by decide), List.forall_mem_cons.mpr
      ⟨fun _ => trivial, List.forall_mem_singleton.mpr (fits 0 (by decide))⟩⟩
  obtain ⟨_, _, stored, _⟩ := Draft.empty.tables_as_encoded 0 (write entries)
  obtain ⟨slots, added, last, absent⟩ := stored entries ⟨fit, rfl⟩
  obtain ⟨_, _, _, _, _, refusal, refuses⟩ := Draft.empty.tables_as_encoded 0 [0x04]
  have refused : Draft.empty.add (segment [0x04]) = .error (.tableSlot 4) :=
    (refusal _).mpr ⟨[], 0x04, [], List.forall_mem_nil _, rfl, .slot (by decide)⟩
  refine ⟨⟨slots, added, ?_, ?_, ?_⟩, refused, fun tail => ?_⟩
  · exact last [⟨0, .byte, flat 7⟩, ⟨1, .word, ramp⟩] ⟨0, .byte, flat 9⟩ [] rfl
      (List.forall_mem_nil _)
  · exact last [⟨0, .byte, flat 7⟩] ⟨1, .word, ramp⟩ [⟨0, .byte, flat 9⟩] rfl (by simp)
  · exact absent 2 (by simp [entries])
  · have marker : (Marker.mk 0xDB 0).Form [0xFF, 0xDB] := .mk 0 .none (by decide) (by decide)
    have written : (segment [0x04]).Form _ :=
      .segment 0x00 0x03 marker (by decide) (by decide) rfl
    exact refuses _ [] [] _ tail refused .nil rfl written

end Header

end JpegTranscoder
