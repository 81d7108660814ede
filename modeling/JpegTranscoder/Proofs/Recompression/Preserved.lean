/-
**What a transcode preserves.**

A transcode keeps the size and the mode of its source and leaves the quality that it encoded at, so
that a transcode of its result finds the same again:

* `Scanline.Transcodes.result`: what is read from the result of a transcode;
* `transcode_preserves`: what a transcode preserves, and what one of its result does.
-/
import JpegTranscoder.Proofs.Recompression.Flat
import JpegTranscoder.Proofs.Scanline.Transcode

namespace JpegTranscoder

variable {engine : Engine} {memory : Memory} {options : Options} {source written : Bytes}

/-! ### The result of one transcode -/

namespace Scanline

/-- What is read from the result of a transcode: the size and the mode of the source, and the
quality that it was encoded at. The engine accepts and decodes the result in the same shape. -/
theorem Transcodes.result {header : Header} {shape : Geometry} (conforms : engine.Conforms)
    (done : Transcodes engine memory options source written header shape) :
    ∃ last, Header.read written = .ok last ∧ isTerminated written = .ok true ∧
      last.width = header.width ∧ last.height = header.height ∧
      last.progressive = header.progressive ∧
      last.quality = options.qualityFor ⟨header.width, header.height, header.quality⟩ ∧
      engine.inspect written = .ok (.ofGeometry shape) ∧
      ∃ decoded, engine.decode written shape = .ok decoded := by
  obtain ⟨read, _, accepted, wide, high, _, frame, _, rfl⟩ := done
  obtain ⟨width, height⟩ := conforms.reports read accepted
  have sameWidth : shape.width = header.width := UInt16.toUInt32_inj.mp width
  have sameHeight : shape.height = header.height := UInt16.toUInt32_inj.mp height
  let settings : EncoderSettings :=
    ⟨shape, options.qualityFor ⟨header.width, header.height, header.quality⟩,
      header.progressive, true⟩
  have valid : isValidQuality settings.quality = true :=
    options.qualityFor_valid header.quality_le
  have columns : 0 < settings.geometry.width := by
    show 0 < shape.width
    rw [sameWidth]
    exact UInt16.lt_trans (by decide) wide
  have rows : 0 < settings.geometry.height := by
    show 0 < shape.height
    rw [sameHeight]
    exact UInt16.lt_trans (by decide) high
  obtain ⟨last, known, whole, width, height, _, mode, quality⟩ :=
    (conforms.writes settings frame valid columns rows).read valid
  obtain ⟨inspected, decoded⟩ := conforms.reads settings frame valid columns rows
  exact ⟨last, known, whole, width.trans sameWidth, height.trans sameHeight, mode, quality,
    inspected, decoded⟩

end Scanline

/-! ### Qualities -/

theorem Options.qualityFor_default {metadata : Metadata}
    (known : isValidQuality metadata.quality = true) :
    Options.default.qualityFor metadata = metadata.quality := by
  rw [qualityFor_eq, if_neg (by decide), if_pos]
  rintro zero
  rw [zero] at known
  exact absurd known (by decide)

/-! ### The result of a transcode of the result -/

/-- **What a transcode preserves.** Its result has the size and the mode of its source, and the
quality that was asked for, or else the one that was estimated, or else 75. A transcode of the
result without a target succeeds, and its result tells the same. -/
theorem transcode_preserves (conforms : engine.Conforms)
    (succeeded :
      (transcode (Scanline.codec engine memory) memory source options).result = .ok written) :
    ∃ before after : Metadata, ∃ given kept : Header,
      (readMetadataFromBytes (Scanline.codec engine memory) memory source).result = .ok before ∧
      (readMetadataFromBytes (Scanline.codec engine memory) memory written).result = .ok after ∧
      Header.read source = .ok given ∧ Header.read written = .ok kept ∧
      after.width = before.width ∧ after.height = before.height ∧
      after.quality =
        (if 1 ≤ options.targetQuality ∧ options.targetQuality ≤ 99 then options.targetQuality
        else if before.quality ≠ 0 then before.quality
        else 75) ∧
      kept.progressive = given.progressive ∧
      ∃ (again : Bytes) (last : Header),
        (transcode (Scanline.codec engine memory) memory written .default).result = .ok again ∧
        (readMetadataFromBytes (Scanline.codec engine memory) memory again).result = .ok after ∧
        Header.read again = .ok last ∧ last.progressive = given.progressive := by
  obtain ⟨given, shape, done⟩ := Scanline.transcode_eq_ok_iff.mp succeeded
  obtain ⟨kept, read, whole, width, height, mode, quality, accepted, decoded, known⟩ :=
    done.result conforms
  have wide : 1 < kept.width := width ▸ done.wide
  have high : 1 < kept.height := height ▸ done.high
  -- The result is a source of the same shape, so the same raster is granted for it.
  have next : Scanline.Transcodes engine memory .default written
      (engine.encode ⟨shape, Options.default.qualityFor ⟨kept.width, kept.height, kept.quality⟩,
        kept.progressive, true⟩ decoded) kept shape :=
    ⟨read, whole, accepted, wide, high, done.granted, decoded, known, rfl⟩
  obtain ⟨last, readAgain, wholeAgain, sameWidth, sameHeight, sameMode, sameQuality, acceptedAgain,
    _⟩ := next.result conforms
  have valid : isValidQuality kept.quality = true := by
    rw [quality]
    exact options.qualityFor_valid given.quality_le
  rw [Options.qualityFor_default valid] at sameQuality
  refine ⟨⟨given.width, given.height, given.quality⟩, ⟨kept.width, kept.height, kept.quality⟩,
    given, kept, ?_, ?_, done.read, read, width, height, ?_, mode, _, last, ?_, ?_, readAgain,
    sameMode.trans mode⟩
  · exact Scanline.readMetadataFromBytes_eq_ok_iff.mpr
      ⟨given, _, true, done.read, done.terminated, done.accepted, done.wide, done.high, rfl⟩
  · exact Scanline.readMetadataFromBytes_eq_ok_iff.mpr
      ⟨kept, _, true, read, whole, accepted, wide, high, rfl⟩
  · exact quality.trans (options.qualityFor_eq _)
  · exact Scanline.transcode_eq_ok_iff.mpr ⟨kept, shape, next⟩
  · refine Scanline.readMetadataFromBytes_eq_ok_iff.mpr
      ⟨last, _, true, readAgain, wholeAgain, acceptedAgain, ?_, ?_, ?_⟩
    · rw [sameWidth]
      exact wide
    · rw [sameHeight]
      exact high
    · rw [sameWidth, sameHeight, sameQuality]

/-- A gray block of quality 50 that is transcoded to quality 30, by an engine for one shade. -/
theorem transcode_preserves_flat :
    let source := Flat.stream ⟨⟨8, 8, .gray⟩, 50, false, true⟩
    let written := Flat.stream ⟨⟨8, 8, .gray⟩, 30, false, true⟩
    Flat.engine.Conforms ∧
      (transcode (Scanline.codec Flat.engine (.below 1000)) (.below 1000) source
        ⟨30, false⟩).result = .ok written ∧
      ∃ before after : Metadata,
        (readMetadataFromBytes (Scanline.codec Flat.engine (.below 1000)) (.below 1000)
          source).result = .ok before ∧
        (readMetadataFromBytes (Scanline.codec Flat.engine (.below 1000)) (.below 1000)
          written).result = .ok after ∧
        after.width = before.width ∧ after.height = before.height ∧ after.quality = 30 := by
  intro source written
  let settings : EncoderSettings := ⟨⟨8, 8, .gray⟩, 50, false, true⟩
  obtain ⟨header, read, whole, width, height, _, mode, _⟩ := (Flat.stream_form settings).read rfl
  obtain ⟨accepted, _⟩ :=
    Flat.conforms.reads settings (Flat.frame settings.geometry) rfl (by decide) (by decide)
  have succeeded :
      (transcode (Scanline.codec Flat.engine (.below 1000)) (.below 1000) source
        ⟨30, false⟩).result = .ok written := by
    refine Scanline.transcode_eq_ok_iff.mpr ⟨header, settings.geometry, read, whole, accepted,
      ?_, ?_, ⟨_, rfl⟩, Flat.frame _, rfl, ?_⟩
    · rw [width]
      decide
    · rw [height]
      decide
    · rw [mode]
      rfl
  obtain ⟨before, after, _, _, told, toldAfter, _, _, sameWidth, sameHeight, quality, _⟩ :=
    transcode_preserves Flat.conforms succeeded
  exact ⟨Flat.conforms, succeeded, before, after, told, toldAfter, sameWidth, sameHeight, quality⟩

end JpegTranscoder
