/-
**Quantization table entries, written and read.**

Reading a payload and writing one are inverse to each other on entries whose divisors fit their
precision, so a payload that can be read is the written form of exactly one list of entries:

* `read_eq_ok_iff`: reading gives the entries that the payload is the written form of;
* `store_slot`: after the entries were stored, each slot has the last table given for it.
-/
import JpegTranscoder.Proofs.Results
import JpegTranscoder.Stream.QuantSegment

namespace JpegTranscoder

/-! ### Bytes of words -/

theorem toNat_lowByte (word : UInt16) : (lowByte word).toNat = word.toNat % 256 := by
  rw [lowByte, UInt8.toNat_ofNat', Nat.mod_mod]

theorem lowByte_toUInt16 (byte : UInt8) : lowByte byte.toUInt16 = byte := by
  apply UInt8.toNat_inj.mp
  have bound := byte.toNat_lt
  rw [toNat_lowByte, UInt8.toNat_toUInt16]
  omega

theorem toUInt16_lowByte {word : UInt16} (small : word < 256) : (lowByte word).toUInt16 = word := by
  apply UInt16.toNat_inj.mp
  have bound : word.toNat < 256 := small
  rw [UInt8.toNat_toUInt16, toNat_lowByte]
  omega

namespace QuantSegment

open Quant

/-! ### Divisors -/

/-- A word can be stored in the given precision. -/
def Precision.Holds : Precision → UInt16 → Prop
  | .byte, divisor => divisor < 256
  | .word, _ => True

/-- Every divisor of the entry can be stored in its precision. -/
def Entry.Fits (entry : Entry) : Prop :=
  ∀ position : Fin 64, entry.precision.Holds (entry.table.values.get position)

theorem Entry.fits_iff (entry : Entry) :
    entry.Fits ↔ ∀ divisor ∈ entry.table.toZigzag.toList, entry.precision.Holds divisor := by
  have direct (position : Fin 64) :
      entry.table.values.get position = entry.table.values[position] := rfl
  simp only [Fits, direct]
  constructor
  · intro fits divisor member
    obtain ⟨index, bound, rfl⟩ := List.getElem_of_mem member
    rw [Vector.length_toList] at bound
    simpa [Table.toZigzag, Zigzag.ofNatural] using fits (Zigzag.position ⟨index, bound⟩)
  · intro hold position
    apply hold
    rw [Vector.mem_toList_iff, Vector.mem_iff_getElem]
    refine ⟨(Zigzag.rank position).val, (Zigzag.rank position).isLt, ?_⟩
    simp [Table.toZigzag, Zigzag.ofNatural, Zigzag.position_rank]

theorem pairsToWords_wordBytes (divisors : List UInt16) :
    pairsToWords (divisors.flatMap wordBytes) = divisors := by
  induction divisors with
  | nil => rfl
  | cons divisor rest ih =>
    rw [List.flatMap_cons, wordBytes, List.cons_append, List.cons_append, List.nil_append,
      pairsToWords, word16_split, ih]

theorem Precision.words_write {precision : Precision} {divisors : List UInt16}
    (fit : ∀ divisor ∈ divisors, precision.Holds divisor) :
    precision.words (divisors.flatMap precision.writeWord) = divisors := by
  cases precision with
  | word => exact pairsToWords_wordBytes divisors
  | byte =>
    show bytesToWords (divisors.flatMap fun divisor => [lowByte divisor]) = divisors
    rw [← List.map_eq_flatMap, bytesToWords, List.map_map]
    have kept : ∀ divisor ∈ divisors, (UInt8.toUInt16 ∘ lowByte) divisor = id divisor :=
      fun divisor member => toUInt16_lowByte (fit divisor member)
    rw [List.map_congr_left kept, List.map_id]

theorem wordBytes_pairsToWords :
    ∀ (count : Nat) (bytes : Bytes), bytes.length = 2 * count →
      (pairsToWords bytes).length = count ∧ (pairsToWords bytes).flatMap wordBytes = bytes
  | 0, [], _ => ⟨rfl, rfl⟩
  | 0, _ :: _, length => by simp at length
  | count + 1, [], length => by simp at length
  | count + 1, [_], odd => by
    rw [List.length_singleton] at odd
    omega
  | count + 1, high :: low :: rest, length => by
    rw [List.length_cons, List.length_cons] at length
    obtain ⟨counted, written⟩ := wordBytes_pairsToWords count rest (by omega)
    obtain ⟨sameHigh, sameLow⟩ := split_word16 high low
    rw [pairsToWords, List.length_cons, counted, List.flatMap_cons, written, wordBytes, sameHigh,
      sameLow]
    exact ⟨rfl, rfl⟩

/-- The bytes of 64 divisors are the written form of what is read from them. -/
theorem Precision.write_words {precision : Precision} {bytes : Bytes}
    (length : bytes.length = precision.size) :
    (precision.words bytes).length = 64 ∧
      (precision.words bytes).flatMap precision.writeWord = bytes ∧
      ∀ divisor ∈ precision.words bytes, precision.Holds divisor := by
  cases precision with
  | word =>
    obtain ⟨counted, written⟩ := wordBytes_pairsToWords 64 bytes length
    exact ⟨counted, written, fun _ _ => trivial⟩
  | byte =>
    refine ⟨by rw [words, bytesToWords, List.length_map, length]; rfl, ?_, ?_⟩
    · show (bytes.map UInt8.toUInt16).flatMap (fun divisor => [lowByte divisor]) = bytes
      rw [← List.map_eq_flatMap, List.map_map]
      have kept : ∀ byte ∈ bytes, (lowByte ∘ UInt8.toUInt16) byte = id byte :=
        fun byte _ => lowByte_toUInt16 byte
      rw [List.map_congr_left kept, List.map_id]
    · intro divisor member
      obtain ⟨byte, _, rfl⟩ := List.mem_map.mp member
      show byte.toUInt16.toNat < 256
      rw [UInt8.toNat_toUInt16]
      exact byte.toNat_lt

theorem Precision.writeWord_length (precision : Precision) (divisors : List UInt16) :
    64 * (divisors.flatMap precision.writeWord).length = divisors.length * precision.size := by
  induction divisors with
  | nil => simp
  | cons divisor rest ih =>
    cases precision <;>
      simp only [List.flatMap_cons, List.length_append, List.length_cons, writeWord, wordBytes,
        List.length_nil, size] at ih ⊢ <;> omega

theorem firstWords_toList (divisors : Vector UInt16 64) :
    firstWords divisors.toList = divisors := by
  ext index bound
  simp [firstWords]

theorem toList_firstWords {words : List UInt16} (length : words.length = 64) :
    (firstWords words).toList = words := by
  apply List.ext_getElem
  · rw [Vector.length_toList, length]
  · intro index below within
    simp [firstWords, within]

/-! ### Entries -/

theorem readHead_eq_ok_iff {head : UInt8} {slot : Fin 4} {precision : Precision} :
    readHead head = .ok (slot, precision) ↔
      head = UInt8.ofNat (precision.code * 16 + slot.val) := by
  have small := slot.isLt
  constructor
  · intro read
    apply UInt8.toNat_inj.mp
    have bound := head.toNat_lt
    rw [UInt8.toNat_ofNat']
    unfold readHead at read
    split at read
    · split at read
      · cases read
        simp only [Precision.code]
        omega
      · cases read
        simp only [Precision.code]
        omega
      · cases read
    · cases read
  · rintro rfl
    have value : (UInt8.ofNat (precision.code * 16 + slot.val)).toNat =
        precision.code * 16 + slot.val := by
      rw [UInt8.toNat_ofNat']
      cases precision <;> simp only [Precision.code] <;> omega
    have below : (precision.code * 16 + slot.val) % 16 = slot.val := by omega
    have above : (precision.code * 16 + slot.val) / 16 = precision.code := by omega
    unfold readHead
    simp only [value, below, above, small, dif_pos]
    cases precision <;> rfl

/-- The bytes that follow the first one of an entry. -/
def Entry.divisorBytes (entry : Entry) : Bytes :=
  entry.table.toZigzag.toList.flatMap entry.precision.writeWord

theorem Entry.divisorBytes_length (entry : Entry) :
    entry.divisorBytes.length = entry.precision.size := by
  have counted := entry.precision.writeWord_length entry.table.toZigzag.toList
  rw [Vector.length_toList] at counted
  exact Nat.eq_of_mul_eq_mul_left (by decide) counted

/-- Reading an entry takes its written form off the bytes. -/
theorem readEntry_eq_ok_iff {head : UInt8} {bytes rest : Bytes} {entry : Entry} :
    readEntry head bytes = .ok (entry, rest) ↔
      entry.Fits ∧ head :: bytes = entry.write ++ rest := by
  constructor
  · intro read
    unfold readEntry at read
    split at read
    · cases read
    · rename_i slot precision known
      split at read
      · cases read
      · rename_i enough
        cases read
        have length : (bytes.take precision.size).length = precision.size :=
          List.length_take_of_le (Nat.not_lt.mp enough)
        obtain ⟨counted, written, hold⟩ := Precision.write_words length
        have divisors : (Table.ofZigzag (firstWords
            (precision.words (bytes.take precision.size)))).toZigzag.toList =
            precision.words (bytes.take precision.size) := by
          rw [Table.toZigzag, Table.ofZigzag, Zigzag.ofNatural_toNatural, toList_firstWords counted]
        refine ⟨?_, ?_⟩
        · rw [Entry.fits_iff]
          simp only [divisors]
          exact hold
        · rw [Entry.write, divisors, written, ← readHead_eq_ok_iff.mp known, List.cons_append,
            List.take_append_drop]
  · rintro ⟨fits, whole⟩
    obtain ⟨slot, precision, table⟩ := entry
    rw [Entry.write, List.cons_append, List.cons.injEq] at whole
    obtain ⟨known, tail⟩ := whole
    have length := Entry.divisorBytes_length ⟨slot, precision, table⟩
    unfold Entry.divisorBytes at length
    simp only at length known tail
    unfold readEntry
    rw [readHead_eq_ok_iff.mpr known, tail]
    have enough : ¬(table.toZigzag.toList.flatMap precision.writeWord ++ rest).length <
        precision.size := by
      rw [List.length_append, length]
      omega
    simp only [if_neg enough]
    rw [List.take_left' length, List.drop_left' length,
      Precision.words_write ((Entry.fits_iff _).mp fits),
      firstWords_toList, Table.ofZigzag_toZigzag]

theorem read_cons (head : UInt8) (bytes : Bytes) :
    read (head :: bytes) =
      match readEntry head bytes with
      | .error fault => .error fault
      | .ok (entry, rest) => (read rest).map (entry :: ·) := by
  rw [read]
  split
  · rename_i failed
    rw [failed]
  · rename_i entry rest taken
    rw [taken]
    dsimp only
    cases read rest <;> rfl

/-- **A payload is read as the entries that it is the written form of.** -/
theorem read_eq_ok_iff {payload : Bytes} {entries : List Entry} :
    read payload = .ok entries ↔
      (∀ entry ∈ entries, entry.Fits) ∧ payload = write entries := by
  induction entries generalizing payload with
  | nil =>
    cases payload with
    | nil => simp [read, write]
    | cons head bytes =>
      rw [read]
      split
      · simp [write]
      · split <;> simp [write]
  | cons entry entries ih =>
    cases payload with
    | nil => simp [read, write, Entry.write]
    | cons head bytes =>
      have written : write (entry :: entries) = entry.write ++ write entries := List.flatMap_cons
      rw [List.forall_mem_cons, written, read_cons]
      constructor
      · intro whole
        cases taken : readEntry head bytes with
        | error fault =>
          rw [taken] at whole
          cases whole
        | ok pair =>
          obtain ⟨first, rest⟩ := pair
          rw [taken] at whole
          obtain ⟨others, readRest, same⟩ := ok_of_map whole
          cases same
          obtain ⟨fits, front⟩ := readEntry_eq_ok_iff.mp taken
          obtain ⟨fit, back⟩ := ih.mp readRest
          exact ⟨⟨fits, fit⟩, by rw [front, back]⟩
      · rintro ⟨⟨fits, fit⟩, whole⟩
        rw [readEntry_eq_ok_iff.mpr ⟨fits, whole⟩]
        dsimp only
        rw [ih.mpr ⟨fit, rfl⟩]
        rfl

/-! ### Slots -/

/-- The last table that the entries give for a slot. -/
def lastTable (slot : Fin 4) (entries : List Entry) : Option Table :=
  (entries.reverse.find? fun entry => entry.slot = slot).map Entry.table

theorem store_append (slots : Slots) (first second : List Entry) :
    store slots (first ++ second) = store (store slots first) second := List.foldl_append

/-- After the entries were stored, a slot has the last table given for it, or what it had. -/
theorem store_slot (slots : Slots) (entries : List Entry) (slot : Fin 4) :
    (store slots entries)[slot] = (lastTable slot entries).or slots[slot] := by
  induction entries generalizing slots with
  | nil => rfl
  | cons entry rest ih =>
    have stored := ih (slots.set entry.slot (some entry.table))
    rw [store, List.foldl_cons]
    rw [store] at stored
    rw [stored, lastTable, lastTable, List.reverse_cons, List.find?_append, Option.map_or]
    cases (rest.reverse.find? fun entry => decide (entry.slot = slot)) with
    | some found => rfl
    | none =>
      by_cases same : entry.slot = slot
      · subst same
        simp
      · have apart : entry.slot.val ≠ slot.val := fun equal => same (Fin.ext equal)
        simp [same, Vector.getElem_set_ne _ _ apart]

end QuantSegment

end JpegTranscoder
