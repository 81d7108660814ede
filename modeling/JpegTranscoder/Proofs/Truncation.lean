/-
**Streams that were cut short.**

A stream is taken for complete if an end of image follows the start of its first scan. What a cut
leaves of the scans is searched for the pair of bytes, wherever it stands; so a cut is noticed
unless a whole segment before it holds the pair:

* `ScansForm.noticed_iff`: when every cut of the scans is noticed;
* `isTerminated_take`: what becomes of a stream of scans at every cut.
-/
import JpegTranscoder.Proofs.Scanline.Frame
import JpegTranscoder.Proofs.Session.Stages
import JpegTranscoder.Proofs.Stream.HeaderPrefix

namespace JpegTranscoder

/-! ### Cuts -/

/-- **Every cut of the scans is noticed exactly when none of their parts holds the pair.** -/
theorem ScansForm.noticed_iff {shown scan rest : Bytes} {parts : List Bytes}
    (first : ScanForm shown scan) (later : ScansForm parts rest) :
    (∀ count < (scan ++ rest).length, holdsEnd ((scan ++ rest).take count) = false) ↔
      ∀ part ∈ shown :: parts, holdsEnd part = false := by
  obtain ⟨_, inner⟩ := later.endsLast
  rename_i front _
  have pairs : holdsEnd (scan ++ 0xFF :: front) = (shown :: parts).any holdsEnd := by
    have byte : (0xFF : UInt8) ≠ Marker.endOfImage := by decide
    rw [holdsEnd_append byte, first.holdsEnd, inner, List.any_cons]
  have whole : scan ++ (0xFF :: front ++ [Marker.endOfImage]) =
      (scan ++ 0xFF :: front) ++ [Marker.endOfImage] := (List.append_assoc _ _ _).symm
  have clean : (∀ part ∈ shown :: parts, holdsEnd part = false) ↔
      holdsEnd (scan ++ 0xFF :: front) = false := by
    rw [pairs, List.any_eq_false]
    simp only [Bool.not_eq_true]
  rw [clean, whole, List.length_append, List.length_singleton]
  constructor
  · intro noticed
    have last := noticed (scan ++ 0xFF :: front).length (Nat.lt_succ_self _)
    rwa [List.take_left] at last
  · intro none count short
    rw [List.take_append_of_le_length (Nat.le_of_lt_succ short)]
    cases held : holdsEnd ((scan ++ 0xFF :: front).take count) with
    | false => rfl
    | true =>
      have kept := holdsEnd_of_prefix held ((scan ++ 0xFF :: front).drop count)
      rw [List.take_append_drop, none] at kept
      cases kept

/-! ### What a session makes of a cut -/

/-- No session decodes the source: whichever opens it, over any engine, fails without a raster. -/
def Undecodable (source : Bytes) : Prop :=
  ∀ (engine : Engine) (memory : Memory) (options : Options) (metadata : Metadata),
    let opened := (Session.create (Scanline.codec engine memory) memory options).openBytes source
    opened.result = .ok metadata →
      opened.session.decode.result =
          .error (.codecFailure (Scanline.Decoder.Fault.message .truncated)) ∧
        opened.session.decode.session.state = .failed ∧
        opened.session.decode.session.raster = none

/-- **A stream that is taken for cut short is never decoded.** -/
theorem undecodable_of_unterminated {source : Bytes}
    (unterminated : isTerminated source = .ok false) : Undecodable source := by
  intro engine memory options metadata outcome opens
  let session := Session.create (Scanline.codec engine memory) memory options
  have created : session.state = .created := rfl
  obtain ⟨given, opened, read, rfl⟩ := (Session.openBytes_eq_ok_iff created).mp opens
  obtain ⟨decoder, header, answered, _, _, same⟩ := Opened.read_eq_ok_iff.mp read
  obtain ⟨shape, terminated, _, told, _, rfl⟩ := Scanline.openSource_eq_ok_iff.mp answered
  rw [unterminated] at told
  cases told
  have held : (session.opening source opened).decoder =
      some (Scanline.accepted engine memory source shape false) := by
    rw [same]
    rfl
  obtain ⟨failed, left⟩ := Session.decode_error (session.opening source opened) rfl held
    Scanline.decodeFrame_unterminated
  have after : outcome.session = session.opening source opened :=
    (Session.openBytes_session created given read).2
  rw [after]
  refine ⟨failed, ?_, ?_⟩
  · rw [left]
    rfl
  · rw [left]
    rfl

/-! ### Streams of scans -/

/-- **What becomes of a stream of scans.** The whole is complete. A cut behind the first start of
scan is taken for complete exactly if it still holds the pair that reads like an end of image; so
every cut is noticed exactly when none of the segments holds that pair, on its own or with the
first coded byte of its scan. A cut that is noticed is never decoded. -/
theorem isTerminated_take {items : List Item} {closing : Marker} {header : Header}
    {head shown scan rest : Bytes} {parts : List Bytes} (written : HeaderForm items closing head)
    (start : closing.code = Marker.startOfScan) (declared : header.DeclaredBy items)
    (first : ScanForm shown scan) (later : ScansForm parts rest) :
    let stream := head ++ (scan ++ rest)
    isTerminated stream = .ok true ∧
      (∀ cut, head.length ≤ cut →
        isTerminated (stream.take cut) =
          .ok (holdsEnd ((scan ++ rest).take (cut - head.length)))) ∧
      ((∀ cut, head.length ≤ cut → cut < stream.length →
          isTerminated (stream.take cut) = .ok false) ↔
        ∀ part ∈ shown :: parts, holdsEnd part = false) ∧
      ∀ cut, isTerminated (stream.take cut) = .ok false → Undecodable (stream.take cut) := by
  intro stream
  have cuts (cut : Nat) (behind : head.length ≤ cut) : isTerminated (stream.take cut) =
      .ok (holdsEnd ((scan ++ rest).take (cut - head.length))) := by
    rw [take_behind behind, Header.isTerminated_append written start declared]
    rfl
  refine ⟨?_, cuts, ?_, fun cut => undecodable_of_unterminated⟩
  · obtain ⟨ends, _⟩ := later.endsLast
    have whole := holdsEnd_of_suffix ends scan
    rw [Header.isTerminated_append written start declared]
    exact congrArg Except.ok whole
  · rw [← ScansForm.noticed_iff first later]
    constructor
    · intro noticed count short
      have answer := cuts (head.length + count) (Nat.le_add_right _ _)
      rw [noticed _ (Nat.le_add_right _ _) (by
        rw [List.length_append]
        exact Nat.add_lt_add_left short _), Nat.add_sub_cancel_left] at answer
      exact (Except.ok.inj answer).symm
    · intro noticed cut behind short
      rw [List.length_append] at short
      rw [cuts cut behind, noticed _ (by omega)]

/-! ### A comment between two scans -/

section Commented

/-- A scan of one coded byte. -/
def grayScan (coded : UInt8) : Bytes := [0x00, 0x08, 0x01, 0x01, 0x00, 0x00, 0x3F, 0x00, coded]

/-- A comment of two bytes, another scan and the end of image. -/
def commented (first second : UInt8) : Bytes :=
  0xFF :: 0xFE :: ([0x00, 0x04, first, second] ++
    0xFF :: 0xDA :: (grayScan 0x34 ++ [0xFF, 0xD9]))

theorem grayScan_form {coded : UInt8} (plain : coded ≠ 0xFF) :
    ScanForm (grayScan coded) (grayScan coded) := by
  have segment : SegmentBody [0x00, 0x08, 0x01, 0x01, 0x00, 0x00, 0x3F, 0x00] :=
    .mk 0x00 0x08 (by decide)
  have entropy : EntropyCoded [coded] := .plain plain .nil
  exact ScanForm.mk segment entropy

theorem commented_form (first second : UInt8) :
    ScansForm [[0x00, 0x04, first, second], grayScan 0x34] (commented first second) := by
  have has : Marker.HasSegment 0xFE := by decide
  have comment : SegmentBody [0x00, 0x04, first, second] := .mk 0x00 0x04 (by simp)
  have scan : ScanForm (grayScan 0x34) (grayScan 0x34) := grayScan_form (by decide)
  exact .segment 0 has comment (.scan 0 scan (.finish 0))

/-- With a comment that does not hold the pair, every cut is noticed. -/
theorem isTerminated_take_plain_comment :
    HeaderForm [grayFrame] ⟨0xDA, 0⟩ grayHead ∧
      Header.DeclaredBy ⟨16, 16, 1, false, Vector.replicate 4 none⟩ [grayFrame] ∧
      ScanForm (grayScan 0x12) (grayScan 0x12) ∧
      ScansForm [[0x00, 0x04, 0x41, 0x42], grayScan 0x34] (commented 0x41 0x42) ∧
      isTerminated (grayHead ++ (grayScan 0x12 ++ commented 0x41 0x42)) = .ok true ∧
      ∀ cut, 17 ≤ cut → cut < 45 →
        isTerminated ((grayHead ++ (grayScan 0x12 ++ commented 0x41 0x42)).take cut) =
          .ok false := by
  have first : ScanForm (grayScan 0x12) (grayScan 0x12) := grayScan_form (by decide)
  have later := commented_form 0x41 0x42
  obtain ⟨whole, _, noticed, _⟩ := isTerminated_take grayHead_form rfl grayHead_declared first later
  exact ⟨grayHead_form, grayHead_declared, first, later, whole, noticed.mpr (by decide)⟩

/-- **A cut is not noticed behind a comment that holds the pair**: one between two scans of a
complete stream, here. -/
theorem isTerminated_take_comment_of_pair :
    HeaderForm [grayFrame] ⟨0xDA, 0⟩ grayHead ∧
      Header.DeclaredBy ⟨16, 16, 1, false, Vector.replicate 4 none⟩ [grayFrame] ∧
      ScanForm (grayScan 0x12) (grayScan 0x12) ∧
      ScansForm [[0x00, 0x04, 0xFF, 0xD9], grayScan 0x34] (commented 0xFF 0xD9) ∧
      grayHead.length ≤ 32 ∧ 32 < (grayHead ++ (grayScan 0x12 ++ commented 0xFF 0xD9)).length ∧
      isTerminated ((grayHead ++ (grayScan 0x12 ++ commented 0xFF 0xD9)).take 32) ≠ .ok false ∧
      isTerminated ((grayHead ++ (grayScan 0x12 ++ commented 0xFF 0xD9)).take 32) = .ok true := by
  have cut : isTerminated ((grayHead ++ (grayScan 0x12 ++ commented 0xFF 0xD9)).take 32) =
      .ok true := by
    rw [take_behind (by decide), Header.isTerminated_append grayHead_form rfl grayHead_declared]
    rfl
  refine ⟨grayHead_form, grayHead_declared, grayScan_form (by decide), commented_form 0xFF 0xD9,
    by decide, by decide, ?_, cut⟩
  rw [cut]
  nofun

end Commented

end JpegTranscoder
