/-
**Bit strings of entropy-coded data.**

Bits are read from the high end of each byte. A reader that runs out of bits reads zeros. In a
stream a byte `FF` of the data is followed by a stuffed `00`, so that no data looks like a marker.

* `takeStretches_length`: what follows the data is not longer than the data with it.
-/
import JpegTranscoder.Bytes
import JpegTranscoder.Stream.Marker

namespace JpegTranscoder.Dct

/-- A string of bits. -/
abbrev Bits := List Bool

namespace Bits

/-- The low `width` bits of a number, high bit first. -/
def ofNat (width value : Nat) : Bits := (List.range width).reverse.map value.testBit

/-- The bits of a byte string. -/
def ofBytes (bytes : Bytes) : Bits := bytes.flatMap fun byte => ofNat 8 byte.toNat

/-- The number that some bits stand for. -/
def toNat (bits : Bits) : Nat := bits.foldl (fun value bit => 2 * value + bit.toNat) 0

def readBit : Bits → Bool × Bits
  | [] => (false, [])
  | bit :: rest => (bit, rest)

/-- Reads a number of `width` bits. -/
def readNat (width : Nat) (bits : Bits) : Nat × Bits :=
  let taken := bits.take width
  (toNat taken * Nat.pow 2 (width - taken.length), bits.drop width)

/-- Bytes of a bit string; the last one is filled up with ones. -/
def toBytes : Bits → Bytes
  | [] => []
  | bit :: rest =>
    UInt8.ofNat (toNat (((bit :: rest).take 8 ++ List.replicate 7 true).take 8)) ::
      toBytes (rest.drop 7)
termination_by bits => bits.length
decreasing_by
  simp only [List.length_drop, List.length_cons]
  omega

end Bits

/-- Data with a `00` after each `FF`. -/
def stuff (bytes : Bytes) : Bytes :=
  bytes.flatMap fun byte => if byte = 0xFF then [0xFF, 0x00] else [byte]

/-- The stretches of entropy-coded data up to the next marker that is no restart marker, without
stuffed bytes, and what follows. `data` is what was read of the current stretch, last byte
first. -/
def takeStretches (data : Bytes) : Bytes → List Bytes × Bytes
  | [] => ([data.reverse], [])
  | [byte] => ([(byte :: data).reverse], [])
  | byte :: next :: rest =>
    if byte ≠ 0xFF then takeStretches (byte :: data) (next :: rest)
    else if next = 0x00 then takeStretches (0xFF :: data) rest
    else if next = 0xFF then takeStretches data (next :: rest)
    else if Marker.isRestart next then
      let (stretches, after) := takeStretches [] rest
      (data.reverse :: stretches, after)
    else ([data.reverse], byte :: next :: rest)
termination_by bytes => bytes.length

/-- What follows the data is not longer than the data with it. -/
theorem takeStretches_length (data bytes : Bytes) :
    (takeStretches data bytes).2.length ≤ bytes.length := by
  fun_induction takeStretches data bytes with
  | case1 => simp
  | case2 => simp
  | case3 data byte next rest plain ih =>
    simp only [List.length_cons] at ih ⊢
    omega
  | case4 data byte rest isFill ih =>
    simp only [List.length_cons]
    omega
  | case5 data byte rest isFill notStuffed ih =>
    simp only [List.length_cons] at ih ⊢
    omega
  | case6 data byte next rest isFill notStuffed notFill restart stretches after eq ih =>
    simp only [List.length_cons]
    rw [eq] at ih
    simp only at ih
    omega
  | case7 => simp

end JpegTranscoder.Dct
