/-
**Transcodes over a whole-frame engine.**

What a transcode makes of a source in memory is one decoding and one encoding of the engine:

* `readMetadataFromBytes_eq_ok_iff`: which sources are opened, and what is told of them;
* `transcode_eq_ok_iff`: which sources are transcoded, and what is written;
* `recoded_delivers`: what is written is delivered to any sink.
-/
import JpegTranscoder.Proofs.Scanline.Frame
import JpegTranscoder.Proofs.Session.Holdings
import JpegTranscoder.Proofs.Session.Stages

namespace JpegTranscoder

namespace Scanline

variable {engine : Engine} {memory : Memory} {source : Bytes}

/-! ### Opening -/

theorem source_ne_nil {header : Header} (read : Header.read source = .ok header) : source ≠ [] := by
  rintro rfl
  cases read

/-- **A source opens if its header is read, declares more than one row and column, and the engine
accepts it.** -/
theorem readMetadataFromBytes_eq_ok_iff {metadata : Metadata} :
    (readMetadataFromBytes (codec engine memory) memory source).result = .ok metadata ↔
      ∃ header offer terminated, Header.read source = .ok header ∧
        isTerminated source = .ok terminated ∧ engine.inspect source = .ok offer ∧
        1 < header.width ∧ 1 < header.height ∧
        metadata = ⟨header.width, header.height, header.quality⟩ := by
  have created : (Session.create (codec engine memory) memory .default).state = .created := rfl
  rw [readMetadataFromBytes]
  simp only
  rw [Session.openBytes_eq_ok_iff created]
  constructor
  · rintro ⟨_, opened, read, rfl⟩
    obtain ⟨decoder, header, answered, wide, high, rfl⟩ := Opened.read_eq_ok_iff.mp read
    obtain ⟨offer, terminated, known, told, accepted, _⟩ := openSource_eq_ok_iff.mp answered
    exact ⟨header, offer, terminated, known, told, accepted, wide, high, rfl⟩
  · rintro ⟨header, offer, terminated, known, told, accepted, wide, high, rfl⟩
    have answered := openSource_eq_ok_iff.mpr ⟨offer, terminated, known, told, accepted, rfl⟩
    exact ⟨source_ne_nil known, _,
      Opened.read_eq_ok_iff.mpr ⟨_, header, answered, wide, high, rfl⟩, rfl⟩

/-! ### Transcoding -/

/-- An encoding into memory is what the engine makes of the raster. -/
theorem encodeRaster_empty (engine : Engine) (memory : Memory) (settings : EncoderSettings)
    {raster : Raster} (shapes : settings.geometry.Shapes raster)
    (valid : isValidQuality settings.quality = true)
    (frame : Frame.Samples settings.geometry) (same : raster.samples = frame.val) :
    ∃ after, (encodeRaster (codec engine memory) settings raster).ending .empty = (.ok (), after) ∧
      after.accepted = engine.encode settings frame := by
  obtain ⟨after, delivered, accepted⟩ :=
    deliver_reliable Sink.reliable_empty (engine.encode settings frame)
  rw [← encodeRaster_leaves engine memory .empty shapes valid frame same] at delivered
  exact ⟨after, Sending.leaves_eq_ok_iff.mp delivered, accepted⟩

/-- **A transcode into a sink is a transcode in memory, and then a delivery.** -/
theorem recoded_delivers (engine : Engine) (memory : Memory) (options : Options) (source : Bytes)
    (sink : Sink) :
    recoded (codec engine memory) memory options source sink =
      (transcode (codec engine memory) memory source options).result.bind (deliver · sink) := by
  rw [transcode_result]
  unfold recoded
  by_cases empty : source = []
  · rw [if_pos empty, if_pos empty]
    rfl
  · rw [if_neg empty, if_neg empty]
    cases read : (Opened.read (codec engine memory) source).result with
    | error error => rfl
    | ok opened =>
      obtain ⟨_, header, _, _, _, rfl⟩ := Opened.read_eq_ok_iff.mp read
      show (decodeFrame (codec engine memory) memory _).result.bind _ =
        (Except.map _ ((decodeFrame (codec engine memory) memory _).result.bind _)).bind _
      cases found : (decodeFrame (codec engine memory) memory _).result with
      | error error => rfl
      | ok frame =>
        obtain ⟨geometry, raster⟩ := frame
        have shapes := decodeFrame_shapes found
        let settings := options.settingsFor header geometry
        have valid : isValidQuality settings.quality = true :=
          options.qualityFor_valid header.quality_le
        let samples : Frame.Samples geometry := ⟨raster.samples, shapes.length_eq_byteCount⟩
        obtain ⟨after, stored, accepted⟩ :=
          encodeRaster_empty engine memory settings shapes valid samples rfl
        show (encodeRaster (codec engine memory) settings raster).leaves sink =
          (Except.map _ ((encodeRaster (codec engine memory) settings raster).leaves .empty)).bind _
        rw [encodeRaster_leaves engine memory sink shapes valid samples rfl,
          Sending.leaves_eq_ok_iff.mpr stored, ← accepted]
        rfl

theorem shapes_frame {shape : Geometry} {fresh : Raster} (frame : Frame.Samples shape)
    (allocated : Raster.allocate memory shape.rows shape.width.toNat shape.components = .ok fresh) :
    shape.Shapes { fresh with samples := frame.val } := by
  have shapes := Geometry.shapes_allocate allocated
  apply shapes.with_samples
  rw [frame.property, shapes.length_eq_byteCount]

/-- What a transcode reads, decodes and writes over an engine. -/
structure Transcodes (engine : Engine) (memory : Memory) (options : Options)
    (source written : Bytes) (header : Header) (shape : Geometry) : Prop where
  read : Header.read source = .ok header
  terminated : isTerminated source = .ok true
  accepted : engine.inspect source = .ok (.ofGeometry shape)
  wide : 1 < header.width
  high : 1 < header.height
  granted : ∃ raster,
    Raster.allocate memory shape.rows shape.width.toNat shape.components = .ok raster
  encoded : ∃ frame, engine.decode source shape = .ok frame ∧
    written = engine.encode
      ⟨shape, options.qualityFor ⟨header.width, header.height, header.quality⟩,
        header.progressive, true⟩ frame

/-- **A transcode is one decoding and one encoding of the engine**, of a complete source whose
raster is granted. -/
theorem transcode_eq_ok_iff {options : Options} {written : Bytes} :
    (transcode (codec engine memory) memory source options).result = .ok written ↔
      ∃ header shape, Transcodes engine memory options source written header shape := by
  rw [JpegTranscoder.transcode_eq_ok_iff]
  have valid (header : Header) :
      isValidQuality (options.qualityFor ⟨header.width, header.height, header.quality⟩) = true :=
    options.qualityFor_valid header.quality_le
  constructor
  · rintro ⟨_, opened, geometry, raster, after, read, found, sent, rfl⟩
    obtain ⟨decoder, header, answered, wide, high, rfl⟩ := Opened.read_eq_ok_iff.mp read
    obtain ⟨offer, terminated, known, told, accepts, rfl⟩ := openSource_eq_ok_iff.mp answered
    obtain ⟨rfl, rfl, fresh, frame, allocated, decoded, rfl⟩ := decodeFrame_eq_ok_iff.mp found
    obtain ⟨last, ended, accepted⟩ := encodeRaster_empty engine memory
      (options.settingsFor header geometry) (shapes_frame frame allocated) (valid header) frame rfl
    cases ended.symm.trans sent
    exact ⟨header, geometry, known, told, accepts, wide, high, ⟨fresh, allocated⟩, frame, decoded,
      accepted⟩
  · rintro ⟨header, shape, known, told, accepts, wide, high, ⟨fresh, allocated⟩, frame, decoded,
      rfl⟩
    have answered := openSource_eq_ok_iff.mpr ⟨_, true, known, told, accepts, rfl⟩
    have read : (Opened.read (codec engine memory) source).result = .ok
        ⟨Scanline.accepted engine memory source (.ofGeometry shape) true,
          ⟨header.width, header.height, header.quality⟩, header.progressive⟩ :=
      Opened.read_eq_ok_iff.mpr ⟨_, header, answered, wide, high, rfl⟩
    have found := decodeFrame_eq_ok_iff.mpr ⟨rfl, rfl, fresh, frame, allocated, decoded, rfl⟩
    obtain ⟨last, ended, accepted⟩ := encodeRaster_empty engine memory
      (options.settingsFor header shape) (shapes_frame frame allocated) (valid header) frame rfl
    exact ⟨source_ne_nil known, _, shape, _, last, read, found, ended, accepted.symm⟩

end Scanline

end JpegTranscoder
