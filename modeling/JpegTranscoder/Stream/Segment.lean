/-
**The segments of a header.**

A header is a sequence of items, each a marker that stands alone or a marker with a length and a
payload, closed by a start of scan or an end of image. Taking the bytes after the start of image
apart reads no payload, and stops at the closing marker or where the bytes stop making sense.

* `Segment.splitBy` is told which markers stand alone;
* `Segment.split` goes by the format: restart markers stand alone, and the one code for private use.
-/
import JpegTranscoder.Stream.Fault

namespace JpegTranscoder

/-- One item of a header. -/
inductive Item where
  | standalone (marker : Marker)
  | segment (marker : Marker) (payload : Bytes)
  deriving DecidableEq

/-- The marker that an item begins with. -/
def Item.marker : Item → Marker
  | .standalone marker => marker
  | .segment marker _ => marker

/-- How a header ends. -/
inductive Ending where
  /-- At a start of scan, with the bytes after that marker. -/
  | scan (marker : Marker) (rest : Bytes)
  /-- At an end of image, with the bytes after that marker. -/
  | endOfImage (marker : Marker) (rest : Bytes)
  /-- At the end of the bytes, where a marker is due. -/
  | noMarker
  /-- At a marker whose segment cannot be read. -/
  | broken (marker : Marker) (fault : HeaderFault)
  deriving DecidableEq

/-- The warning of the marker that a header ends at, if it ends at one. -/
def Ending.warning : Ending → List Log.Record
  | .scan marker _ | .endOfImage marker _ | .broken marker _ => marker.warning
  | .noMarker => []

namespace Segment

/-- The payload of a segment, from its length on, and what follows it. -/
def takePayload (code : UInt8) : Bytes → Except HeaderFault (Bytes × Bytes)
  | high :: low :: rest =>
    let length := (word16 high low).toNat
    let payload := rest.take (length - 2)
    if length < 2 then .error (.lengthShort code length)
    else if payload.length < length - 2 then .error (.payloadCut code)
    else .ok (payload, rest.drop (length - 2))
  | _ => .error .lengthCut

/-- A segment takes at least the two bytes of its length. -/
theorem takePayload_length {code : UInt8} {bytes payload rest : Bytes}
    (taken : takePayload code bytes = .ok (payload, rest)) :
    payload.length + rest.length + 2 = bytes.length := by
  unfold takePayload at taken
  split at taken
  · rename_i high low tail
    simp only at taken
    split at taken
    · cases taken
    · split at taken
      · cases taken
      · simp only [Except.ok.injEq, Prod.mk.injEq] at taken
        rw [← taken.1, ← taken.2, List.length_take, List.length_drop, List.length_cons,
          List.length_cons]
        omega
  · cases taken

/-- The items of a header, after the ones in `before`, which has the latest first, and how it ends.
The markers of the given codes stand alone. -/
def splitOnto (alone : UInt8 → Bool) (before : List Item) (bytes : Bytes) : List Item × Ending :=
  match _found : Marker.seek bytes with
  | none => (before.reverse, .noMarker)
  | some (marker, rest) =>
    if marker.code = Marker.startOfScan then (before.reverse, .scan marker rest)
    else if marker.code = Marker.endOfImage then (before.reverse, .endOfImage marker rest)
    else if alone marker.code then splitOnto alone (.standalone marker :: before) rest
    else
      match _taken : takePayload marker.code rest with
      | .error fault => (before.reverse, .broken marker fault)
      | .ok (payload, after) => splitOnto alone (.segment marker payload :: before) after
termination_by bytes.length
decreasing_by
  · have shorter := Marker.seek_length _found
    omega
  · have shorter := Marker.seek_length _found
    have within := takePayload_length _taken
    omega

/-- The items of a header and how it ends, with the markers of the given codes standing alone. -/
def splitBy (alone : UInt8 → Bool) (bytes : Bytes) : List Item × Ending := splitOnto alone [] bytes

/-- The items of a header and how it ends. -/
def split (bytes : Bytes) : List Item × Ending := splitBy Marker.isStandalone bytes

/-- The items before are put in front of the others. -/
theorem splitOnto_eq (alone : UInt8 → Bool) (before : List Item) (bytes : Bytes) :
    splitOnto alone before bytes =
      (before.reverse ++ (splitBy alone bytes).1, (splitBy alone bytes).2) := by
  unfold splitBy
  induction length : bytes.length using Nat.strongRecOn generalizing bytes before with
  | ind size ih =>
    rw [splitOnto, splitOnto]
    split
    · simp
    · rename_i marker rest found
      have shorter := Marker.seek_length found
      split
      · simp
      · split
        · simp
        · split
          · rw [ih rest.length (by omega) (.standalone marker :: before) rest rfl,
              ih rest.length (by omega) [.standalone marker] rest rfl]
            simp
          · split
            · simp
            · rename_i payload after taken
              have within := takePayload_length taken
              rw [ih after.length (by omega) (.segment marker payload :: before) after rfl,
                ih after.length (by omega) [.segment marker payload] after rfl]
              simp

/-- What follows the start of a scan is shorter than the bytes. -/
theorem splitOnto_scan_length {alone : UInt8 → Bool} {before : List Item} {bytes rest : Bytes}
    {marker : Marker} (ends : (splitOnto alone before bytes).2 = .scan marker rest) :
    rest.length < bytes.length := by
  fun_induction splitOnto alone before bytes with
  | case1 => cases ends
  | case2 before bytes marker rest found isScan =>
    simp only [Ending.scan.injEq] at ends
    have shorter := Marker.seek_length found
    rw [← ends.2]
    omega
  | case3 => cases ends
  | case4 before bytes marker after found notScan notEnd stands ih =>
    have shorter := Marker.seek_length found
    have inner := ih ends
    omega
  | case5 => cases ends
  | case6 before bytes marker after found notScan notEnd stands payload tail taken ih =>
    have shorter := Marker.seek_length found
    have within := takePayload_length taken
    have inner := ih ends
    omega

end Segment

end JpegTranscoder
