/-
**The written form of a stream's scans.**

Behind the header's start of scan stand the scans, with segments between them, and an end of image.
Only the bytes of a segment can hold a pair that reads like an end of image:

* `EntropyCoded`, `ScanForm`, `ScansForm`: the written form, with the parts that can hold such a
  pair shown apart;
* `EntropyCoded.holdsEnd`: entropy-coded bytes hold no such pair;
* `ScansForm.endsLast`: what follows the first scan holds the pairs of its parts, and then its end
  of image.
-/
import JpegTranscoder.Proofs.Stream.SegmentForm

namespace JpegTranscoder

/-! ### Pairs that read like an end of image -/

/-- Whether the bytes hold a pair that reads like an end of image. -/
def holdsEnd (bytes : Bytes) : Bool := containsPair 0xFF Marker.endOfImage bytes

theorem holdsEnd_cons (first second : UInt8) (rest : Bytes) :
    holdsEnd (first :: second :: rest) =
      ((first == 0xFF && second == Marker.endOfImage) || holdsEnd (second :: rest)) := rfl

theorem holdsEnd_cons_of_ne {byte : UInt8} (plain : byte ≠ 0xFF) (rest : Bytes) :
    holdsEnd (byte :: rest) = holdsEnd rest := by
  cases rest with
  | nil => rfl
  | cons next rest => rw [holdsEnd_cons, beq_false_of_ne plain, Bool.false_and, Bool.false_or]

/-- Two stretches that share a byte hold the pairs of the whole. -/
theorem holdsEnd_joint (bytes : Bytes) (byte : UInt8) (rest : Bytes) :
    holdsEnd (bytes ++ byte :: rest) = (holdsEnd (bytes ++ [byte]) || holdsEnd (byte :: rest)) := by
  induction bytes with
  | nil => rfl
  | cons first bytes ih =>
    cases bytes with
    | nil =>
      rw [List.cons_append, List.cons_append, List.nil_append, List.nil_append, holdsEnd_cons,
        holdsEnd_cons, Bool.or_assoc]
      rfl
    | cons second bytes =>
      rw [List.cons_append, List.cons_append, List.cons_append, List.cons_append, holdsEnd_cons,
        holdsEnd_cons, ← List.cons_append, ← List.cons_append, ih, Bool.or_assoc]

theorem holdsEnd_concat_of_ne {byte : UInt8} (other : byte ≠ Marker.endOfImage) (bytes : Bytes) :
    holdsEnd (bytes ++ [byte]) = holdsEnd bytes := by
  induction bytes with
  | nil => rfl
  | cons first bytes ih =>
    cases bytes with
    | nil =>
      rw [List.cons_append, List.nil_append, holdsEnd_cons, beq_false_of_ne other, Bool.and_false]
      rfl
    | cons second bytes =>
      rw [List.cons_append, List.cons_append, holdsEnd_cons, holdsEnd_cons, ← List.cons_append, ih]

/-- A pair does not lie across a place where its second byte does not follow. -/
theorem holdsEnd_append {byte : UInt8} (other : byte ≠ Marker.endOfImage) (bytes rest : Bytes) :
    holdsEnd (bytes ++ byte :: rest) = (holdsEnd bytes || holdsEnd (byte :: rest)) := by
  rw [holdsEnd_joint, holdsEnd_concat_of_ne other]

theorem holdsEnd_of_suffix {rest : Bytes} (holds : holdsEnd rest = true) (bytes : Bytes) :
    holdsEnd (bytes ++ rest) = true := by
  cases rest with
  | nil => cases holds
  | cons byte rest => rw [holdsEnd_joint, holds, Bool.or_true]

theorem holdsEnd_of_prefix {bytes : Bytes} (holds : holdsEnd bytes = true) (rest : Bytes) :
    holdsEnd (bytes ++ rest) = true := by
  induction bytes with
  | nil => cases holds
  | cons first bytes ih =>
    cases bytes with
    | nil => cases holds
    | cons second bytes =>
      rw [holdsEnd_cons, Bool.or_eq_true] at holds
      rw [List.cons_append, List.cons_append, holdsEnd_cons, Bool.or_eq_true]
      exact holds.imp_right ih

/-! ### The written form -/

/-- Entropy-coded bytes: every `FF` is followed by `00` or by the code of a restart marker. -/
inductive EntropyCoded : Bytes → Prop where
  | nil : EntropyCoded []
  | plain {byte : UInt8} {rest : Bytes} (plain : byte ≠ 0xFF) (later : EntropyCoded rest) :
      EntropyCoded (byte :: rest)
  | escaped {code : UInt8} {rest : Bytes} (follows : code = 0x00 ∨ (0xD0 ≤ code ∧ code ≤ 0xD7))
      (later : EntropyCoded rest) : EntropyCoded (0xFF :: code :: rest)

/-- A segment behind its marker: its length, high byte first and counting its own two bytes, and
any payload. -/
inductive SegmentBody : Bytes → Prop where
  | mk (high low : UInt8) {payload : Bytes}
      (length : high.toNat * 256 + low.toNat = payload.length + 2) :
      SegmentBody (high :: low :: payload)

/-- A scan behind its marker: a segment and entropy-coded bytes. Shown apart is the segment with
the first coded byte, which can be the second of a pair. -/
inductive ScanForm : Bytes → Bytes → Prop where
  | mk {body coded : Bytes} (segment : SegmentBody body) (entropy : EntropyCoded coded) :
      ScanForm (body ++ coded.take 1) (body ++ coded)

/-- What follows a scan: segments and scans, then an end of image. Each marker may have fill bytes
before it. Shown apart are the segments, and what `ScanForm` shows of the scans. -/
inductive ScansForm : List Bytes → Bytes → Prop where
  | finish (fill : Nat) : ScansForm [] (List.replicate fill 0xFF ++ [0xFF, Marker.endOfImage])
  | segment (fill : Nat) {code : UInt8} {body rest : Bytes} {parts : List Bytes}
      (has : Marker.HasSegment code) (form : SegmentBody body) (later : ScansForm parts rest) :
      ScansForm (body :: parts) (List.replicate fill 0xFF ++ 0xFF :: code :: (body ++ rest))
  | scan (fill : Nat) {shown scan rest : Bytes} {parts : List Bytes} (form : ScanForm shown scan)
      (later : ScansForm parts rest) :
      ScansForm (shown :: parts)
        (List.replicate fill 0xFF ++ 0xFF :: Marker.startOfScan :: (scan ++ rest))

/-! ### Where a pair can stand -/

theorem EntropyCoded.holdsEnd {coded : Bytes} (entropy : EntropyCoded coded) :
    holdsEnd coded = false := by
  induction entropy with
  | nil => rfl
  | plain plain later ih => rw [holdsEnd_cons_of_ne plain, ih]
  | escaped follows later ih =>
    rename_i code rest
    have other : code ≠ Marker.endOfImage ∧ code ≠ 0xFF := by
      rcases follows with rfl | ⟨_, high⟩
      · decide
      · constructor <;> rintro rfl <;> exact absurd high (by decide)
    rw [holdsEnd_cons, beq_false_of_ne other.1, Bool.and_false, Bool.false_or,
      holdsEnd_cons_of_ne other.2, ih]

/-- A scan holds a pair only in what is shown of it. -/
theorem ScanForm.holdsEnd {shown scan : Bytes} (form : ScanForm shown scan) :
    holdsEnd scan = holdsEnd shown := by
  obtain ⟨segment, entropy⟩ := form
  rename_i body coded
  cases coded with
  | nil => rfl
  | cons first coded =>
    rw [holdsEnd_joint, entropy.holdsEnd, Bool.or_false]
    rfl

theorem holdsEnd_fill (fill : Nat) : holdsEnd (List.replicate fill 0xFF) = false := by
  induction fill with
  | zero => rfl
  | succ fill ih =>
    cases fill with
    | zero => rfl
    | succ fill =>
      rw [List.replicate_succ, List.replicate_succ, holdsEnd_cons, ← List.replicate_succ, ih]
      rfl

theorem fill_shift (fill : Nat) (bytes : Bytes) :
    List.replicate fill 0xFF ++ 0xFF :: bytes = 0xFF :: (List.replicate fill 0xFF ++ bytes) := by
  rw [← List.cons_append, ← List.replicate_succ, List.replicate_succ', List.append_assoc]
  rfl

/-- A marker holds no pair, whatever its fill bytes, and completes none with what follows. -/
theorem holdsEnd_marker {code : UInt8} (notEnd : code ≠ Marker.endOfImage) (notFill : code ≠ 0xFF)
    (fill : Nat) (rest : Bytes) :
    holdsEnd (List.replicate fill 0xFF ++ 0xFF :: code :: rest) = holdsEnd rest := by
  have first : (0xFF : UInt8) ≠ Marker.endOfImage := by decide
  rw [holdsEnd_append first, holdsEnd_fill, Bool.false_or, holdsEnd_cons, beq_false_of_ne notEnd,
    Bool.and_false, Bool.false_or, holdsEnd_cons_of_ne notFill]

/-- What follows a scan, as a cut sees it: it starts with the `FF` of a marker and ends in an end of
image, and before its last byte it holds a pair as `held` tells. -/
inductive EndsLast (held : Bool) : Bytes → Prop where
  | mk {front : Bytes} (ends : holdsEnd (0xFF :: front ++ [Marker.endOfImage]) = true)
      (inner : holdsEnd (0xFF :: front) = held) :
      EndsLast held (0xFF :: front ++ [Marker.endOfImage])

/-- A marker and a part before it add the pairs of the part. -/
theorem EndsLast.behind {held : Bool} {code : UInt8} {rest : Bytes} (last : EndsLast held rest)
    (notEnd : code ≠ Marker.endOfImage) (notFill : code ≠ 0xFF) (fill : Nat) (part : Bytes) :
    EndsLast (holdsEnd part || held)
      (List.replicate fill 0xFF ++ 0xFF :: code :: (part ++ rest)) := by
  obtain ⟨ends, inner⟩ := last
  rename_i front
  have whole : List.replicate fill 0xFF ++
        0xFF :: code :: (part ++ (0xFF :: front ++ [Marker.endOfImage])) =
      0xFF :: (List.replicate fill 0xFF ++ code :: (part ++ 0xFF :: front)) ++
        [Marker.endOfImage] := by
    rw [fill_shift]
    simp only [List.cons_append, List.append_assoc]
  have kept := holdsEnd_of_suffix ends (List.replicate fill 0xFF ++ 0xFF :: code :: part)
  rw [List.append_assoc, List.cons_append, List.cons_append, whole] at kept
  rw [whole]
  refine ⟨kept, ?_⟩
  have first : (0xFF : UInt8) ≠ Marker.endOfImage := by decide
  rw [← fill_shift, holdsEnd_marker notEnd notFill, holdsEnd_append first, inner]

/-- **What follows the first scan holds the pairs of its parts, and the end of image.** -/
theorem ScansForm.endsLast {parts : List Bytes} {rest : Bytes} (form : ScansForm parts rest) :
    EndsLast (parts.any holdsEnd) rest := by
  induction form with
  | finish fill =>
    have pair : holdsEnd [0xFF, Marker.endOfImage] = true := rfl
    have ends := holdsEnd_of_suffix pair (List.replicate fill 0xFF)
    rw [fill_shift] at ends ⊢
    refine ⟨ends, ?_⟩
    rw [← List.replicate_succ, holdsEnd_fill]
    rfl
  | segment fill has form later ih =>
    exact ih.behind (fun same => has.2.2.2 (Or.inr same)) has.2.1 fill _
  | scan fill form later ih =>
    rw [List.any_cons, ← form.holdsEnd]
    exact ih.behind (by decide) (by decide) fill _

end JpegTranscoder
