/-
**Bytes and the words made of them.**

A byte string is a list of bytes. JPEG headers hold 16-bit words with the high byte first:

* `word16_split`: a word is read back from its two halves;
* `split_word16`: two bytes are the halves of the word that they make;
* `overlay_length`: writing over a block keeps its length.
-/

namespace JpegTranscoder

/-- A byte string. -/
abbrev Bytes := List UInt8

/-- The 16-bit word with the given high and low bytes. -/
def word16 (high low : UInt8) : UInt16 := UInt16.ofNat (high.toNat * 256 + low.toNat)

def highByte (word : UInt16) : UInt8 := UInt8.ofNat (word.toNat / 256)

def lowByte (word : UInt16) : UInt8 := UInt8.ofNat (word.toNat % 256)

/-- A word as it is written in a header. -/
def wordBytes (word : UInt16) : Bytes := [highByte word, lowByte word]

theorem toNat_word16 (high low : UInt8) :
    (word16 high low).toNat = high.toNat * 256 + low.toNat := by
  have highBound := high.toNat_lt
  have lowBound := low.toNat_lt
  rw [word16, UInt16.toNat_ofNat']
  omega

/-- **A word is read back from its two halves.** -/
theorem word16_split (word : UInt16) : word16 (highByte word) (lowByte word) = word := by
  apply UInt16.toNat_inj.mp
  have bound := word.toNat_lt
  rw [toNat_word16, highByte, lowByte, UInt8.toNat_ofNat', UInt8.toNat_ofNat']
  omega

/-- **Two bytes are the halves of the word that they make.** -/
theorem split_word16 (high low : UInt8) :
    highByte (word16 high low) = high ∧ lowByte (word16 high low) = low := by
  have highBound := high.toNat_lt
  have lowBound := low.toNat_lt
  constructor <;> apply UInt8.toNat_inj.mp
  · rw [highByte, toNat_word16, UInt8.toNat_ofNat']
    omega
  · rw [lowByte, toNat_word16, UInt8.toNat_ofNat']
    omega

/-- Writes `written` over the start of `block`; what does not fit is dropped. -/
def overlay (written block : Bytes) : Bytes :=
  written.take block.length ++ block.drop written.length

/-- Writing over a block keeps its length. -/
theorem overlay_length (written block : Bytes) : (overlay written block).length = block.length := by
  simp only [overlay, List.length_append, List.length_take, List.length_drop]
  omega

theorem overlay_whole {written block : Bytes} (same : written.length = block.length) :
    overlay written block = written := by
  rw [overlay, ← same, List.take_length, same, List.drop_length, List.append_nil]

theorem overlay_of_fits {written block : Bytes} (fits : written.length ≤ block.length) :
    overlay written block = written ++ block.drop written.length := by
  rw [overlay, List.take_of_length_le fits]

/-- Whether `first` stands directly before `second` somewhere in the bytes. -/
def containsPair (first second : UInt8) : Bytes → Bool
  | a :: b :: rest => (a == first && b == second) || containsPair first second (b :: rest)
  | _ => false

end JpegTranscoder
