/-
**What becomes of every source.**

A source is looked at by the session, by the walk over its header, by the engine and by the memory,
in this order, and the first objection is the one that is told. So every source falls into exactly
one class, which fixes what is told of it:

* `Scanline.Opening`: the three ways in which a source that is not empty opens or does not;
* `Scanline.transcode_unshaped`, `Scanline.transcode_good`: what a transcode makes of a source whose
  header is good, by the frame that the engine offers;
* `Scanline.transcode_classified`: the class of a source, and what is told of it by its metadata and
  by a transcode.
-/
import JpegTranscoder.Proofs.Recompression.Flat
import JpegTranscoder.Proofs.Scanline.Transcode

namespace JpegTranscoder

/-- Whether an error is told of sources that were opened. -/
def TranscodeError.isLate : TranscodeError → Bool
  | .outOfMemory _ | .codecFailure _ => true
  | _ => false

/-! ### First bytes -/

namespace Header

theorem begins_of_read {bytes : Bytes} (read : read bytes ≠ .error .notAJpeg) :
    [0xFF, 0xD8] <+: bytes :=
  Decidable.byContradiction fun other => read (read_eq_notAJpeg_iff.mpr other)

/-- Behind a header that is read, it is told whether an end of image follows. -/
theorem isTerminated_of_read {bytes : Bytes} {header : Header} (known : read bytes = .ok header) :
    ∃ terminated, isTerminated bytes = .ok terminated := by
  obtain ⟨walked, same, _⟩ := ok_of_map known
  rw [isTerminated, same]
  exact ⟨_, rfl⟩

end Header

/-! ### Opening -/

namespace Scanline

variable {engine : Engine} {memory : Memory} {options : Options} {source : Bytes} {header : Header}
  {offer : Offer} {shape : Geometry} {terminated : Bool}

/-- A header is good if it is read and accepted, and declares more than one row and column. -/
structure GoodHeader (engine : Engine) (source : Bytes) (header : Header) (offer : Offer) :
    Prop where
  read : Header.read source = .ok header
  accepts : engine.inspect source = .ok offer
  wide : 1 < header.width
  high : 1 < header.height

/-- How the reading of a source ends. -/
inductive Opening (engine : Engine) (memory : Memory) (source : Bytes) :
    Except TranscodeError (Opened (codec engine memory)) → Prop where
  | foreign (other : ¬[0xFF, 0xD8] <+: source) : Opening engine memory source (.error .notAJpeg)
  | malformed (begins : [0xFF, 0xD8] <+: source)
      (bad : ¬∃ header offer, GoodHeader engine source header offer) (detail : String) :
      Opening engine memory source (.error (.malformedHeader detail))
  | good {header : Header} {offer : Offer} {terminated : Bool}
      (good : GoodHeader engine source header offer)
      (told : isTerminated source = .ok terminated) :
      Opening engine memory source
        (.ok ⟨accepted engine memory source offer terminated,
          ⟨header.width, header.height, header.quality⟩, header.progressive⟩)

/-- **The reading of a source ends by its first bytes, by its header, or well.** -/
theorem opening (engine : Engine) (memory : Memory) (source : Bytes) :
    Opening engine memory source (Opened.read (codec engine memory) source).result := by
  cases known : Header.read source with
  | error error =>
    have answered : ((codec engine memory).readHeader source).2 = .error (.ofHeader error) := by
      simp only [codec, openSource, known]
    have unread : ¬∃ header offer, GoodHeader engine source header offer := by
      rintro ⟨header, offer, good⟩
      rw [good.read] at known
      cases known
    rw [Opened.read_error answered]
    cases error with
    | notAJpeg => exact .foreign (Header.read_eq_notAJpeg_iff.mp known)
    | malformed fault =>
      refine .malformed (Header.begins_of_read ?_) unread _
      rw [known]
      intro same
      cases same
  | ok header =>
    have begins : [0xFF, 0xD8] <+: source := by
      refine Header.begins_of_read ?_
      rw [known]
      intro same
      cases same
    obtain ⟨terminated, told⟩ := Header.isTerminated_of_read known
    cases inspected : engine.inspect source with
    | error reason =>
      have answered : ((codec engine memory).readHeader source).2 =
          .error (.malformedHeader reason) := by
        simp only [codec, openSource, known, told, inspected]
      rw [Opened.read_error answered]
      refine .malformed begins ?_ _
      rintro ⟨_, offer, good⟩
      rw [good.accepts] at inspected
      cases inspected
    | ok offer =>
      have answered : ((codec engine memory).readHeader source).2 =
          .ok (accepted engine memory source offer terminated, header) :=
        openSource_eq_ok_iff.mpr ⟨offer, terminated, known, told, inspected, rfl⟩
      by_cases degenerate : header.width ≤ 1 ∨ header.height ≤ 1
      · rw [Opened.read_degenerate answered degenerate]
        refine .malformed begins ?_ _
        rintro ⟨same, _, good⟩
        rw [good.read] at known
        cases known
        rcases degenerate with narrow | low
        · exact absurd good.wide (UInt16.not_lt.mpr narrow)
        · exact absurd good.high (UInt16.not_lt.mpr low)
      · rw [not_or, UInt16.not_le, UInt16.not_le] at degenerate
        have good : GoodHeader engine source header offer :=
          ⟨known, inspected, degenerate.1, degenerate.2⟩
        rw [Opened.read_eq_ok_iff.mpr ⟨_, header, answered, good.wide, good.high, rfl⟩]
        exact .good good told

theorem GoodHeader.opened (good : GoodHeader engine source header offer)
    (told : isTerminated source = .ok terminated) :
    (Opened.read (codec engine memory) source).result =
      .ok ⟨accepted engine memory source offer terminated,
        ⟨header.width, header.height, header.quality⟩, header.progressive⟩ :=
  Opened.read_eq_ok_iff.mpr ⟨_, header,
    openSource_eq_ok_iff.mpr ⟨offer, terminated, good.read, told, good.accepts, rfl⟩, good.wide,
    good.high, rfl⟩

/-! ### Good headers -/

theorem GoodHeader.unique (good : GoodHeader engine source header offer) {otherHeader : Header}
    {otherOffer : Offer} (again : GoodHeader engine source otherHeader otherOffer) :
    otherHeader = header ∧ otherOffer = offer := by
  have read := again.read
  have accepts := again.accepts
  rw [good.read] at read
  rw [good.accepts] at accepts
  cases read
  cases accepts
  exact ⟨rfl, rfl⟩

theorem byteCount_eq (shape : Geometry) :
    shape.byteCount = shape.width.toNat * shape.height.toNat * shape.components := by
  rw [Geometry.byteCount, Geometry.stride, Geometry.rows, Nat.mul_left_comm, Nat.mul_assoc]

theorem GoodHeader.transcode_eq (good : GoodHeader engine source header offer)
    (told : isTerminated source = .ok terminated) :
    (transcode (codec engine memory) memory source options).result =
      ((decodeFrame (codec engine memory) memory
          (accepted engine memory source offer terminated)).result.bind fun frame =>
        (encodeRaster (codec engine memory) (options.settingsFor header frame.1)
          frame.2).leaves .empty).map Sink.accepted := by
  rw [transcode_result, recoded, if_neg (source_ne_nil good.read), good.opened told]
  rfl

/-- A source of which the engine offers a frame without the shape of rows is refused. -/
theorem transcode_unshaped (good : GoodHeader engine source header offer)
    {fault : Decoder.Fault} (unshaped : Decoder.shapeOf offer = .error fault)
    (told : isTerminated source = .ok terminated) :
    (transcode (codec engine memory) memory source options).result =
      if terminated = false then .error (.codecFailure (Decoder.Fault.message .truncated))
      else .error (.codecFailure fault.message) := by
  rw [good.transcode_eq told]
  cases terminated with
  | false =>
    rw [decodeFrame_unterminated]
    rfl
  | true =>
    rw [decodeFrame_unshaped unshaped]
    rfl

/-- **What a transcode makes of a source whose header is good**, and of which the engine offers a
frame in the shape of rows: it is refused if it was cut short, then if no raster is granted, then if
the engine cannot decode it; else the engine encodes what it decoded. -/
theorem transcode_good (good : GoodHeader engine source header (.ofGeometry shape))
    (wide : shape.width ≠ 0) (high : shape.height ≠ 0)
    (told : isTerminated source = .ok terminated) :
    (transcode (codec engine memory) memory source options).result =
      if terminated = false then .error (.codecFailure (Decoder.Fault.message .truncated))
      else if memory.grants shape.byteCount = false then .error (.outOfMemory shape.byteCount)
      else
        match engine.decode source shape with
        | .error reason => .error (.codecFailure reason)
        | .ok frame => .ok (engine.encode (options.settingsFor header shape) frame) := by
  rw [good.transcode_eq told]
  cases terminated with
  | false =>
    rw [decodeFrame_unterminated]
    rfl
  | true =>
    rw [decodeFrame_terminated]
    cases granted : memory.grants shape.byteCount with
    | false =>
      rw [Geometry.allocate_eq memory wide high, granted]
      rfl
    | true =>
      obtain ⟨fresh, allocated⟩ := Geometry.allocate_granted wide high granted
      rw [allocated]
      cases engine.decode source shape with
      | error reason => rfl
      | ok frame =>
        obtain ⟨after, ended, written⟩ := encodeRaster_empty engine memory
          (options.settingsFor header shape) (shapes_frame frame allocated)
          (options.qualityFor_valid header.quality_le) frame rfl
        show ((encodeRaster (codec engine memory) (options.settingsFor header shape)
          _).leaves _).map _ = _
        rw [Sending.leaves_eq_ok_iff.mpr ended]
        exact congrArg Except.ok written

/-- A source whose header is good is refused late, if at all. -/
theorem GoodHeader.refused_late (good : GoodHeader engine source header offer)
    (offers : engine.OffersRows source) {error : TranscodeError}
    (failed : (transcode (codec engine memory) memory source options).result = .error error) :
    error.isLate = true := by
  obtain ⟨terminated, told⟩ := Header.isTerminated_of_read good.read
  cases shaped : Decoder.shapeOf offer with
  | error fault =>
    rw [transcode_unshaped good shaped told] at failed
    split at failed
    · cases failed
      rfl
    · cases failed
      rfl
  | ok shape =>
    obtain rfl := Decoder.shapeOf_eq_ok_iff.mp shaped
    obtain ⟨wide, high⟩ := offers.sized good.accepts
    rw [transcode_good good wide high told] at failed
    split at failed
    · cases failed
      rfl
    · split at failed
      · cases failed
        rfl
      · split at failed
        · cases failed
          rfl
        · cases failed

/-! ### Frames of one shade -/

/-- What an engine for one shade of gray wrote has a good header. -/
theorem flat_good {settings : EncoderSettings} (valid : isValidQuality settings.quality = true)
    (wide : 1 < settings.geometry.width) (high : 1 < settings.geometry.height) :
    ∃ header, GoodHeader Flat.engine (Flat.stream settings) header (.ofGeometry settings.geometry) ∧
      isTerminated (Flat.stream settings) = .ok true ∧ header.width = settings.geometry.width ∧
      header.height = settings.geometry.height ∧ header.quality = settings.quality ∧
      header.progressive = settings.progressive := by
  obtain ⟨header, read, whole, width, height, _, mode, quality⟩ :=
    (Flat.stream_form settings).read valid
  obtain ⟨accepts, _⟩ := Flat.conforms.reads settings (Flat.frame settings.geometry) valid
    (UInt16.lt_trans (by decide) wide) (UInt16.lt_trans (by decide) high)
  exact ⟨header, ⟨read, accepts, width ▸ wide, height ▸ high⟩, whole, width, height, quality, mode⟩

/-- An engine for one shade of gray writes again what it wrote, at the quality that is asked for. -/
theorem flat_transcode {settings : EncoderSettings} (valid : isValidQuality settings.quality = true)
    (wide : 1 < settings.geometry.width) (high : 1 < settings.geometry.height)
    (granted : memory.grants settings.geometry.byteCount = true) (options : Options) :
    (transcode (codec Flat.engine memory) memory (Flat.stream settings) options).result =
      .ok (Flat.stream
        { settings with
          quality := options.qualityFor
            ⟨settings.geometry.width, settings.geometry.height, settings.quality⟩
          optimized := true }) := by
  obtain ⟨header, good, whole, width, height, quality, mode⟩ := flat_good valid wide high
  have columns : settings.geometry.width ≠ 0 :=
    (UInt16.ne_of_lt (UInt16.lt_trans (by decide) wide)).symm
  have rows : settings.geometry.height ≠ 0 :=
    (UInt16.ne_of_lt (UInt16.lt_trans (by decide) high)).symm
  rw [transcode_good good columns rows whole, granted]
  show Except.ok (Flat.stream (options.settingsFor header settings.geometry)) = _
  rw [Options.settingsFor, width, height, quality, mode]

/-! ### Every source -/

section Classes

variable {α : Type} {result : Except TranscodeError α}

/-- The errors that tell the class of a source. Every other error is told of good headers only, and
some are never told. -/
structure Classifies (engine : Engine) (source : Bytes) (result : Except TranscodeError α) :
    Prop where
  invalidInput_iff : (∃ detail, result = .error (.invalidInput detail)) ↔ source = []
  notAJpeg_iff : result = .error .notAJpeg ↔ source ≠ [] ∧ ¬[0xFF, 0xD8] <+: source
  malformedHeader_iff : (∃ detail, result = .error (.malformedHeader detail)) ↔
    [0xFF, 0xD8] <+: source ∧ ¬∃ header offer, GoodHeader engine source header offer
  not_invalidState : ∀ stage state, result ≠ .error (.invalidState stage state)
  not_stream : ∀ detail, result ≠ .error (.stream detail)

theorem classifies_empty (engine : Engine) (detail : String) :
    Classifies engine [] (.error (.invalidInput detail) : Except TranscodeError α) :=
  ⟨by simp, by simp, by simp, by simp, by simp⟩

/-- A source that does not open is told its class. -/
theorem Opening.classifies {error : TranscodeError}
    (opening : Opening engine memory source (.error error)) (given : source ≠ []) :
    Classifies engine source (.error error : Except TranscodeError α) := by
  cases opening with
  | foreign other =>
    exact ⟨by simp [given], by simp [given, other], by simp [other], by simp, by simp⟩
  | malformed begins bad detail =>
    exact ⟨by simp [given], by simp [begins], by simp [begins, bad], by simp, by simp⟩

/-- Of a source whose header is good, nothing is told but that it could not be decoded. -/
theorem GoodHeader.classifies (good : GoodHeader engine source header offer)
    (late : ∀ error, result = .error error → error.isLate = true) :
    Classifies engine source result := by
  have begins : [0xFF, 0xD8] <+: source := by
    refine Header.begins_of_read ?_
    rw [good.read]
    nofun
  have never {error : TranscodeError} (early : error.isLate = false) : result ≠ .error error := by
    intro told
    rw [late error told] at early
    cases early
  constructor
  · exact iff_of_false (fun ⟨_, told⟩ => never rfl told) (source_ne_nil good.read)
  · exact iff_of_false (never rfl) fun foreign => foreign.2 begins
  · exact iff_of_false (fun ⟨_, told⟩ => never rfl told) fun bad => bad.2 ⟨header, offer, good⟩
  · exact fun _ _ => never rfl
  · exact fun _ => never rfl

end Classes

theorem readMetadataFromBytes_result :
    (readMetadataFromBytes (codec engine memory) memory source).result =
      if source = [] then .error (.invalidInput "empty source")
      else (Opened.read (codec engine memory) source).result.map Opened.metadata :=
  Session.openBytes_result rfl

/-- **What is told of every source.** An empty one, one that does not begin like an image and one
whose header is not good are told so, by its metadata and by a transcode alike. Of a source whose
header is good the metadata is always told. A transcode of it fails if it was cut short, else if the
engine offers a frame that has not the shape of rows. If it has, the transcode fails if no raster is
granted for its samples, else if the engine cannot decode it, and succeeds otherwise. -/
theorem transcode_classified (engine : Engine) (memory : Memory) (source : Bytes)
    (options : Options) (offers : engine.OffersRows source) :
    let told := (readMetadataFromBytes (codec engine memory) memory source).result
    let transcoded := (transcode (codec engine memory) memory source options).result
    Classifies engine source told ∧ Classifies engine source transcoded ∧
      ∀ header offer, GoodHeader engine source header offer →
        told = .ok ⟨header.width, header.height,
          Quant.estimate (header.slots.get 0) (header.slots.get 1)⟩ ∧
        ∃ terminated, isTerminated source = .ok terminated ∧
          (∀ fault, Decoder.shapeOf offer = .error fault →
            transcoded =
              if terminated = false then .error (.codecFailure (Decoder.Fault.message .truncated))
              else .error (.codecFailure fault.message)) ∧
          ∀ shape, offer = .ofGeometry shape →
            let bytes := shape.width.toNat * shape.height.toNat * shape.components
            bytes < wordLimit ∧
            transcoded =
              if terminated = false then .error (.codecFailure (Decoder.Fault.message .truncated))
              else if memory.grants bytes = false then .error (.outOfMemory bytes)
              else
                match engine.decode source shape with
                | .error reason => .error (.codecFailure reason)
                | .ok frame => .ok (engine.encode (options.settingsFor header shape) frame) := by
  intro told transcoded
  have metadata : told = _ := readMetadataFromBytes_result
  by_cases empty : source = []
  · subst empty
    have result : transcoded = _ := transcode_result
    rw [metadata, result, recoded, if_pos rfl, if_pos rfl]
    exact ⟨classifies_empty engine _, classifies_empty engine _,
      fun _ _ good => absurd rfl (source_ne_nil good.read)⟩
  · rw [if_neg empty] at metadata
    have ended := opening engine memory source
    cases known : (Opened.read (codec engine memory) source).result with
    | error error =>
      have result : transcoded = _ := transcode_result
      rw [known] at ended metadata
      rw [recoded, if_neg empty, known] at result
      rw [metadata, result]
      refine ⟨ended.classifies empty, ended.classifies empty, fun header offer good => ?_⟩
      obtain ⟨terminated, told⟩ := Header.isTerminated_of_read good.read
      rw [good.opened told] at known
      cases known
    | ok opened =>
      rw [known] at ended metadata
      cases ended with
      | @good header offer terminated good whole =>
        rw [metadata]
        refine ⟨good.classifies fun error failed => ?_,
          good.classifies fun error => good.refused_late offers, ?_⟩
        · cases failed
        · intro otherHeader otherOffer again
          obtain ⟨rfl, rfl⟩ := good.unique again
          refine ⟨rfl, terminated, whole, fun fault unshaped => ?_, ?_⟩
          · exact transcode_unshaped good unshaped whole
          · rintro shape rfl
            obtain ⟨wide, high⟩ := offers.sized good.accepts
            have result : transcoded = _ := transcode_good good wide high whole
            rw [byteCount_eq] at result
            exact ⟨byteCount_eq shape ▸ shape.byteCount_lt, result⟩

/-- A gray block of quality 50, with memory for its 64 samples and without. -/
theorem transcode_classified_flat :
    let source := Flat.stream ⟨⟨8, 8, .gray⟩, 50, false, true⟩
    Flat.engine.OffersRows source ∧
      (readMetadataFromBytes (codec Flat.engine (.below 64)) (.below 64) source).result =
        .ok ⟨8, 8, 50⟩ ∧
      (transcode (codec Flat.engine (.below 64)) (.below 64) source .default).result =
        .error (.outOfMemory 64) ∧
      (transcode (codec Flat.engine (.below 65)) (.below 65) source .default).result =
        .ok source := by
  intro source
  let settings : EncoderSettings := ⟨⟨8, 8, .gray⟩, 50, false, true⟩
  obtain ⟨header, good, whole, width, height, quality, mode⟩ :=
    @flat_good settings rfl (by decide) (by decide)
  have offers : Flat.engine.OffersRows source := by
    intro offer accepted
    obtain rfl : .ofGeometry settings.geometry = offer :=
      Except.ok.inj (good.accepts.symm.trans accepted)
    decide
  obtain ⟨_, _, small⟩ := transcode_classified Flat.engine (.below 64) source .default offers
  obtain ⟨_, _, large⟩ := transcode_classified Flat.engine (.below 65) source .default offers
  obtain ⟨told, terminated, known, _, shaped⟩ := small header _ good
  obtain ⟨_, _, same, _, again⟩ := large header _ good
  cases whole.symm.trans known
  cases whole.symm.trans same
  obtain ⟨_, refused⟩ := shaped settings.geometry rfl
  obtain ⟨_, done⟩ := again settings.geometry rfl
  refine ⟨offers, ?_, refused, ?_⟩
  · rw [told]
    show Except.ok (Metadata.mk header.width header.height header.quality) = _
    rw [width, height, quality]
  · rw [done]
    show Except.ok (Flat.stream (Options.default.settingsFor header settings.geometry)) = _
    rw [Options.settingsFor, width, height, quality, mode]
    rfl

end Scanline

end JpegTranscoder
