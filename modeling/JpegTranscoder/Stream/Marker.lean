/-
**Markers.**

A marker is a byte `FF` followed by a code other than `00` and `FF`. Before it a stream may hold
fill bytes (more `FF`), which are part of the format, and stray bytes, which are not: bytes other
than `FF`, and runs of `FF` that end in `00`.

* `Marker.seek` finds the next marker and counts the stray bytes before it;
* `Marker.seek_length`: what is left is shorter by at least the two bytes of the marker.
-/
import JpegTranscoder.Bytes
import JpegTranscoder.Log

namespace JpegTranscoder

/-- A marker as it was found: its code and the number of stray bytes before it. -/
structure Marker where
  code : UInt8
  stray : Nat
  deriving DecidableEq, Repr

namespace Marker

/-! ### Codes -/

def startOfImage : UInt8 := 0xD8
def endOfImage : UInt8 := 0xD9
def startOfScan : UInt8 := 0xDA
def quantTables : UInt8 := 0xDB
def huffmanTables : UInt8 := 0xC4
def restartInterval : UInt8 := 0xDD

/-- A code that starts a frame: C0 to CF, less the three codes that mean something else. -/
def isFrame (code : UInt8) : Bool :=
  0xC0 ≤ code && code ≤ 0xCF && !(code == 0xC4 || code == 0xC8 || code == 0xCC)

/-- A code that starts a progressive frame. -/
def isProgressive (code : UInt8) : Bool :=
  code == 0xC2 || code == 0xC6 || code == 0xCA || code == 0xCE

/-- A restart marker. -/
def isRestart (code : UInt8) : Bool := 0xD0 ≤ code && code ≤ 0xD7

/-- A code that stands alone, without a length and a payload. -/
def isStandalone (code : UInt8) : Bool := isRestart code || code == 0x01

/-! ### Search -/

/-- The next marker and what follows it. `afterFill` tells that an `FF` was just read, `stray`
counts the stray bytes so far. -/
def seekFrom (afterFill : Bool) (stray : Nat) : Bytes → Option (Marker × Bytes)
  | [] => none
  | byte :: rest =>
    if byte = 0xFF then seekFrom true stray rest
    else if afterFill then
      if byte = 0 then seekFrom false (stray + 2) rest else some (⟨byte, stray⟩, rest)
    else seekFrom false (stray + 1) rest

/-- The next marker of the bytes and what follows it. -/
def seek (bytes : Bytes) : Option (Marker × Bytes) := seekFrom false 0 bytes

/-- A marker takes at least two bytes, or one if its `FF` was already read. -/
theorem seekFrom_length {afterFill : Bool} {stray : Nat} {bytes rest : Bytes} {marker : Marker}
    (found : seekFrom afterFill stray bytes = some (marker, rest)) :
    rest.length + (if afterFill then 1 else 2) ≤ bytes.length := by
  induction bytes generalizing afterFill stray with
  | nil => simp [seekFrom] at found
  | cons byte tail ih =>
    unfold seekFrom at found
    rw [List.length_cons]
    split at found
    · have shorter := ih found
      simp only [if_true] at shorter
      split <;> omega
    · split at found
      · rename_i fill
        rw [if_pos fill]
        split at found
        · have shorter := ih found
          simp only [Bool.false_eq_true, if_false] at shorter
          omega
        · obtain ⟨_, same⟩ := Prod.mk.inj (Option.some.inj found)
          exact Nat.le_of_eq (by rw [same])
      · rename_i fresh
        rw [if_neg fresh]
        have shorter := ih found
        simp only [Bool.false_eq_true, if_false] at shorter
        omega

/-- What follows a marker is shorter. -/
theorem seek_length {bytes rest : Bytes} {marker : Marker}
    (found : seek bytes = some (marker, rest)) : rest.length + 2 ≤ bytes.length := by
  have shorter := seekFrom_length found
  simpa using shorter

/-! ### Warning -/

/-- An upper-case hexadecimal digit. -/
def hexDigit (digit : Nat) : Char :=
  if digit < 10 then Char.ofNat (48 + digit) else Char.ofNat (55 + digit)

/-- A code as messages write it. -/
def codeText (code : UInt8) : String :=
  String.ofList ['0', 'x', hexDigit (code.toNat / 16), hexDigit (code.toNat % 16)]

/-- Stray bytes before a marker are worth a warning. -/
def warning (marker : Marker) : List Log.Record :=
  if marker.stray = 0 then []
  else [⟨.warn, s!"skipped {marker.stray} extraneous bytes before marker {codeText marker.code}"⟩]

end Marker

end JpegTranscoder
