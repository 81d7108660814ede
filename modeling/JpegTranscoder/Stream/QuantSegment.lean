/-
**The payload of a quantization table segment.**

It is a list of entries: a byte with the precision above and the slot below, then the divisors in
zigzag order, one byte each or two.

* `QuantSegment.read` reads the entries, `QuantSegment.write` writes them;
* `QuantSegment.store` puts each entry into its slot, so that the last one for a slot stays.
-/
import JpegTranscoder.Quant.Table
import JpegTranscoder.Stream.Fault

namespace JpegTranscoder.QuantSegment

open Quant

/-- How the divisors of an entry are stored. -/
inductive Precision where
  /-- One byte each. -/
  | byte
  /-- Two bytes each. -/
  | word
  deriving DecidableEq, Repr

/-- The number that stands for a precision. -/
def Precision.code : Precision → Nat
  | .byte => 0
  | .word => 1

/-- The bytes that the divisors of an entry take. -/
def Precision.size : Precision → Nat
  | .byte => 64
  | .word => 128

/-- A table and the slot that it is for. -/
structure Entry where
  slot : Fin 4
  precision : Precision
  table : Table
  deriving DecidableEq

/-! ### Reading -/

def bytesToWords (bytes : Bytes) : List UInt16 := bytes.map UInt8.toUInt16

def pairsToWords : Bytes → List UInt16
  | high :: low :: rest => word16 high low :: pairsToWords rest
  | _ => []

/-- The 64 words that a list begins with. -/
def firstWords (words : List UInt16) : Vector UInt16 64 :=
  Vector.ofFn fun index => words[index.val]?.getD 0

/-- The words of the divisors that the bytes begin with. -/
def Precision.words : Precision → Bytes → List UInt16
  | .byte, bytes => bytesToWords bytes
  | .word, bytes => pairsToWords bytes

/-- The fault of an entry whose divisors are cut short. -/
def Precision.cut : Precision → HeaderFault
  | .byte => .byteTableCut
  | .word => .wordTableCut

/-- The slot and the precision in the first byte of an entry. -/
def readHead (head : UInt8) : Except HeaderFault (Fin 4 × Precision) :=
  if bound : head.toNat % 16 < 4 then
    match head.toNat / 16 with
    | 0 => .ok (⟨head.toNat % 16, bound⟩, .byte)
    | 1 => .ok (⟨head.toNat % 16, bound⟩, .word)
    | precision => .error (.tablePrecision precision)
  else .error (.tableSlot (head.toNat % 16))

/-- The first entry and what follows it. -/
def readEntry (head : UInt8) (bytes : Bytes) : Except HeaderFault (Entry × Bytes) :=
  match readHead head with
  | .error fault => .error fault
  | .ok (slot, precision) =>
    if bytes.length < precision.size then .error precision.cut
    else
      let words := precision.words (bytes.take precision.size)
      .ok (⟨slot, precision, Table.ofZigzag (firstWords words)⟩, bytes.drop precision.size)

/-- What follows an entry is not longer than what it was read from. -/
theorem readEntry_length {head : UInt8} {bytes rest : Bytes} {entry : Entry}
    (read : readEntry head bytes = .ok (entry, rest)) : rest.length ≤ bytes.length := by
  unfold readEntry at read
  split at read
  · cases read
  · split at read
    · cases read
    · simp only [Except.ok.injEq, Prod.mk.injEq] at read
      rw [← read.2, List.length_drop]
      omega

/-- All entries of a payload. -/
def read : Bytes → Except HeaderFault (List Entry)
  | [] => .ok []
  | head :: bytes =>
    match _taken : readEntry head bytes with
    | .error fault => .error fault
    | .ok (entry, rest) =>
      match read rest with
      | .error fault => .error fault
      | .ok entries => .ok (entry :: entries)
termination_by bytes => bytes.length
decreasing_by
  have shorter := readEntry_length _taken
  rw [List.length_cons]
  omega

/-! ### Writing -/

/-- A word as an entry of the given precision stores it. -/
def Precision.writeWord : Precision → UInt16 → Bytes
  | .byte, divisor => [lowByte divisor]
  | .word, divisor => wordBytes divisor

def Entry.write (entry : Entry) : Bytes :=
  UInt8.ofNat (entry.precision.code * 16 + entry.slot.val) ::
    entry.table.toZigzag.toList.flatMap entry.precision.writeWord

/-- The payload that holds the given entries. -/
def write (entries : List Entry) : Bytes := entries.flatMap Entry.write

/-! ### Slots -/

/-- Puts the entries into their slots, in order. -/
def store (slots : Slots) (entries : List Entry) : Slots :=
  entries.foldl (fun slots entry => slots.set entry.slot (some entry.table)) slots

end JpegTranscoder.QuantSegment
