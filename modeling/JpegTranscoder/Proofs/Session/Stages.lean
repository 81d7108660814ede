/-
**The stages of a transcode.**

A transcode opens, decodes and encodes. Each stage is told apart from the session that it is part
of, and then the three together:

* `Options.qualityFor`: the quality that a source is encoded at, which is one;
* `Session.openBytes_result`, `Session.openBytes_session`: opening a source in memory, and
  `Session.openReader_eq`: opening one that was read;
* `Session.decode_ok`, `Session.decode_error`: decoding what was opened;
* `Session.encode_leaves`: encoding what was decoded;
* `recoded`: the three together, which is what `transcode_result` and `transcodeStream_result` find
  in a transcode;
* `transcode_eq_ok_iff`: a transcode succeeds when its three stages do.
-/
import JpegTranscoder.Proofs.Quant.Recovery
import JpegTranscoder.Proofs.Session.Run
import JpegTranscoder.Proofs.Session.Steps
import JpegTranscoder.Transcode

namespace JpegTranscoder

variable {codec : Codec} {source : Bytes}

/-! ### Quality -/

/-- The quality that a source of the given metadata is encoded at. -/
def Options.qualityFor (options : Options) (metadata : Metadata) : UInt8 :=
  if 0 < options.targetQuality ∧ options.targetQuality < 100 then options.targetQuality
  else if metadata.hasQuality then metadata.quality
  else defaultQuality

/-- The settings that a source of the given header is encoded with. -/
def Options.settingsFor (options : Options) (header : Header) (geometry : Geometry) :
    EncoderSettings :=
  ⟨geometry, options.qualityFor ⟨header.width, header.height, header.quality⟩, header.progressive,
    true⟩

theorem Options.qualityFor_eq (options : Options) (metadata : Metadata) :
    options.qualityFor metadata =
      if 1 ≤ options.targetQuality ∧ options.targetQuality ≤ 99 then options.targetQuality
      else if metadata.quality ≠ 0 then metadata.quality
      else 75 := by
  have target : (0 < options.targetQuality ∧ options.targetQuality < 100) ↔
      (1 ≤ options.targetQuality ∧ options.targetQuality ≤ 99) := by
    simp only [UInt8.lt_iff_toNat_lt, UInt8.le_iff_toNat_le, UInt8.reduceToNat]
    omega
  have known : metadata.hasQuality = true ↔ metadata.quality ≠ 0 := by
    rw [Metadata.hasQuality, decide_eq_true_eq, ne_eq, ← UInt8.toNat_inj, UInt8.lt_iff_toNat_lt]
    exact Nat.pos_iff_ne_zero
  unfold qualityFor
  simp only [target, known]
  rfl

theorem Options.qualityFor_valid (options : Options) {metadata : Metadata}
    (estimated : metadata.quality.toNat ≤ 100) :
    isValidQuality (options.qualityFor metadata) = true := by
  have valid (quality : UInt8) (least : 0 < quality) (most : quality ≤ 100) :
      isValidQuality quality = true :=
    isValidQuality_iff.mpr ⟨UInt8.le_iff_toNat_le.mpr (UInt8.lt_iff_toNat_lt.mp least), most⟩
  unfold qualityFor
  split
  · rename_i asked
    exact valid _ asked.1 (UInt8.le_of_lt asked.2)
  · split
    · rename_i known
      exact valid _ (of_decide_eq_true known) (UInt8.le_iff_toNat_le.mpr estimated)
    · decide

theorem Header.quality_le (header : Header) : header.quality.toNat ≤ 100 :=
  Quant.estimate_le _ _

namespace Session

variable {session : Session codec} {metadata : Metadata} {opened : Opened codec}
  {decoder : codec.Decoder} {geometry : Geometry} {raster : Raster}

theorem effectiveQuality_eq (known : session.metadata = some metadata) :
    session.effectiveQuality = session.options.qualityFor metadata := by
  rw [effectiveQuality, known, Options.qualityFor]

/-! ### Opening -/

theorem openBytes_session (fresh : session.state = .created) (given : source ≠ [])
    (read : (Opened.read codec source).result = .ok opened) :
    (session.openBytes source).result = .ok opened.metadata ∧
      (session.openBytes source).session = session.opening source opened := by
  have filled : ¬source.isEmpty = true := by
    rw [List.isEmpty_iff]
    exact given
  rw [openBytes, if_pos fresh, openSource, if_neg filled]
  simp only [read, true_and]
  rfl

/-- How the opening of a source ends in a new session. -/
theorem openBytes_result (fresh : session.state = .created) :
    (session.openBytes source).result =
      if source = [] then .error (.invalidInput "empty source")
      else (Opened.read codec source).result.map Opened.metadata := by
  by_cases empty : source = []
  · subst empty
    rw [openBytes, if_pos fresh, openSource, if_pos List.isEmpty_nil, if_pos rfl]
    rfl
  · have filled : ¬source.isEmpty = true := by
      rw [List.isEmpty_iff]
      exact empty
    rw [openBytes, if_pos fresh, openSource, if_neg filled, if_neg empty]
    cases read : (Opened.read codec source).result with
    | error error =>
      simp only [read]
      rfl
    | ok opened =>
      simp only [read]
      rfl

/-- A new session opens a source that is not empty and whose header is read. -/
theorem openBytes_eq_ok_iff (fresh : session.state = .created) :
    (session.openBytes source).result = .ok metadata ↔
      source ≠ [] ∧ ∃ opened, (Opened.read codec source).result = .ok opened ∧
        metadata = opened.metadata := by
  rw [openBytes_result fresh]
  by_cases empty : source = []
  · simp [empty]
  · cases (Opened.read codec source).result with
    | error error => simp [empty, Except.map]
    | ok opened => simp [empty, Except.map, eq_comm]

/-- A source that was read to its end is opened like its bytes. -/
theorem openReader_eq {reader : Source} (read : reader.readToEnd.1 = .ok source)
    (session : Session codec) : (session.openReader reader).1 = session.openBytes source := by
  unfold openReader openBytes
  by_cases fresh : session.state = .created
  · rw [if_pos fresh, if_pos fresh]
    match answered : reader.readToEnd with
    | (result, after) =>
      rw [answered] at read
      cases read
      rfl
  · rw [if_neg fresh, if_neg fresh]

/-! ### Decoding -/

theorem decode_ok (session : Session codec) (ready : session.state = .headerRead)
    (held : session.decoder = some decoder)
    (read : (decodeFrame codec session.memory decoder).result = .ok (geometry, raster)) :
    session.decode.result = .ok () ∧ session.decode.session = session.decoding geometry raster := by
  have found : (decodeHeld codec session.memory session.decoder).result =
      .ok (geometry, raster) := by
    rw [held]
    exact read
  rw [decode, if_pos ready]
  simp only [found, true_and]
  rfl

theorem decode_error (session : Session codec) (ready : session.state = .headerRead)
    (held : session.decoder = some decoder) {error : TranscodeError}
    (failed : (decodeFrame codec session.memory decoder).result = .error error) :
    session.decode.result = .error error ∧ session.decode.session = session.ended := by
  have found : (decodeHeld codec session.memory session.decoder).result = .error error := by
    rw [held]
    exact failed
  rw [decode, if_pos ready]
  simp only [found]
  exact ⟨rfl, rfl⟩

/-! ### Encoding -/

theorem encode_ok (ready : session.state = .decoded) {sink after : Sink} {trace : Trace}
    (sent : session.encodeHeld sink = (⟨trace, .ok ()⟩, after)) :
    (session.encode sink).1.result = .ok () ∧ (session.encode sink).1.trace = trace := by
  rw [encode, if_pos ready]
  simp only [sent, and_self]

/-- A session encodes its raster as the codec does, and leaves the same sink. -/
theorem encode_leaves (ready : session.state = .decoded) (told : session.geometry = some geometry)
    (held : session.raster = some raster) (sink : Sink) :
    (session.encode sink).1.result.map (fun _ => (session.encode sink).2) =
      (encodeRaster codec ⟨geometry, session.effectiveQuality, session.progressive, true⟩
        raster).leaves sink := by
  rw [encode, if_pos ready, ← encodeHeld_eq told held, Sending.leaves, Sending.ending]
  rcases session.encodeHeld sink with ⟨⟨trace, error | nothing⟩, after⟩
  · rfl
  · rfl

end Session

/-! ### All three -/

/-- A transcode ends as the first of its stages that fails, or as the last. -/
theorem recode_result {α : Type} (opened : Outcome codec Metadata)
    (encode : Session codec → Outcome codec α) :
    (recode codec opened encode).result =
      opened.result.bind fun _ => opened.session.decode.result.bind fun _ =>
        (encode opened.session.decode.session).result := by
  unfold recode
  cases opened.result with
  | error error => rfl
  | ok metadata =>
    cases decoded : opened.session.decode.result with
    | error error =>
      simp only [decoded]
      rfl
    | ok nothing =>
      simp only [decoded]
      cases told : (encode opened.session.decode.session).result with
      | error error => rfl
      | ok value => rfl

/-- What becomes of a source: it is opened, decoded and encoded into a sink, unless an earlier stage
fails. -/
def recoded (codec : Codec) (memory : Memory) (options : Options) (source : Bytes) (sink : Sink) :
    Except TranscodeError Sink :=
  if source = [] then .error (.invalidInput "empty source")
  else
    (Opened.read codec source).result.bind fun opened =>
      (decodeFrame codec memory opened.decoder).result.bind fun (geometry, raster) =>
        (encodeRaster codec
          ⟨geometry, options.qualityFor opened.metadata, opened.progressive, true⟩ raster).leaves
            sink

theorem Session.recode_eq {α : Type} {session : Session codec} (fresh : session.state = .created)
    {sink : Sink} (encode : Session codec → Outcome codec α) (value : Sink → α)
    (encodes : ∀ {ready : Session codec} {geometry : Geometry} {raster : Raster},
      ready.state = .decoded → ready.geometry = some geometry → ready.raster = some raster →
      (encode ready).result =
        ((encodeRaster codec ⟨geometry, ready.effectiveQuality, ready.progressive, true⟩
          raster).leaves sink).map value) :
    (recode codec (session.openBytes source) encode).result =
      (recoded codec session.memory session.options source sink).map value := by
  rw [recode_result, openBytes_result fresh, recoded]
  by_cases empty : source = []
  · rw [if_pos empty, if_pos empty]
    rfl
  · rw [if_neg empty, if_neg empty]
    cases read : (Opened.read codec source).result with
    | error error => rfl
    | ok opened =>
      have left := (openBytes_session fresh empty read).2
      show (session.openBytes source).session.decode.result.bind _ = Except.map value
        ((decodeFrame codec session.memory opened.decoder).result.bind _)
      rw [left]
      cases found : (decodeFrame codec session.memory opened.decoder).result with
      | error error =>
        rw [(decode_error (session.opening source opened) rfl rfl found).1]
        rfl
      | ok frame =>
        obtain ⟨geometry, raster⟩ := frame
        obtain ⟨decoded, held⟩ := decode_ok (session.opening source opened) rfl rfl found
        rw [decoded, held]
        show (encode ((session.opening source opened).decoding geometry raster)).result = _
        rw [encodes rfl rfl rfl, effectiveQuality_eq rfl]
        rfl

theorem recoded_eq_ok_iff {memory : Memory} {options : Options} {sink after : Sink} :
    recoded codec memory options source sink = .ok after ↔
      source ≠ [] ∧ ∃ opened geometry raster,
        (Opened.read codec source).result = .ok opened ∧
        (decodeFrame codec memory opened.decoder).result = .ok (geometry, raster) ∧
        (encodeRaster codec
          ⟨geometry, options.qualityFor opened.metadata, opened.progressive, true⟩ raster).ending
            sink = (.ok (), after) := by
  constructor
  · intro left
    unfold recoded at left
    split at left
    · cases left
    · rename_i given
      obtain ⟨opened, read, left⟩ := ok_of_bind left
      obtain ⟨⟨geometry, raster⟩, found, left⟩ := ok_of_bind left
      exact ⟨given, opened, geometry, raster, read, found, Sending.leaves_eq_ok_iff.mp left⟩
  · rintro ⟨given, opened, geometry, raster, read, found, sent⟩
    rw [recoded, if_neg given, read]
    show (decodeFrame codec memory opened.decoder).result.bind _ = _
    rw [found]
    exact Sending.leaves_eq_ok_iff.mpr sent

section Whole

variable {memory : Memory} {options : Options}

/-- **A transcode makes of its source what its three stages do.** -/
theorem transcode_result :
    (transcode codec memory source options).result =
      (recoded codec memory options source .empty).map Sink.accepted := by
  have created : (Session.create codec memory options).state = .created := rfl
  refine Session.recode_eq created Session.encodeToBytes Sink.accepted ?_
  intro ready geometry raster decoded told held
  rw [← Session.encode_leaves decoded told held]
  show (ready.encode .empty).1.result.map _ = _
  cases (ready.encode .empty).1.result with
  | error error => rfl
  | ok nothing => rfl

/-- The same of a source that is read to its end, and of any sink. -/
theorem transcodeStream_result {reader : Source} (read : reader.readToEnd.1 = .ok source)
    (sink : Sink) :
    (transcodeStream codec memory reader sink options).result =
      recoded codec memory options source sink := by
  have created : (Session.create codec memory options).state = .created := rfl
  have same : recoded codec memory options source sink =
      (recoded codec memory options source sink).map id := by
    cases recoded codec memory options source sink <;> rfl
  show (recode codec ((Session.create codec memory options).openReader reader).1 _).result = _
  rw [Session.openReader_eq read, same]
  refine Session.recode_eq created _ id ?_
  intro ready geometry raster decoded told held
  rw [← Session.encode_leaves decoded told held]
  show (ready.encode sink).1.result.map _ = _
  cases (ready.encode sink).1.result with
  | error error => rfl
  | ok nothing => rfl

/-- **A transcode succeeds when its source opens, decodes and is encoded again**, at the quality
that was asked for or the one that was estimated. -/
theorem transcode_eq_ok_iff {written : Bytes} :
    (transcode codec memory source options).result = .ok written ↔
      source ≠ [] ∧ ∃ opened geometry raster after,
        (Opened.read codec source).result = .ok opened ∧
        (decodeFrame codec memory opened.decoder).result = .ok (geometry, raster) ∧
        (encodeRaster codec
          ⟨geometry, options.qualityFor opened.metadata, opened.progressive, true⟩ raster).ending
            .empty = (.ok (), after) ∧
        written = after.accepted := by
  rw [transcode_result]
  constructor
  · intro succeeded
    obtain ⟨after, left, rfl⟩ := ok_of_map succeeded
    obtain ⟨given, opened, geometry, raster, read, found, sent⟩ := recoded_eq_ok_iff.mp left
    exact ⟨given, opened, geometry, raster, after, read, found, sent, rfl⟩
  · rintro ⟨given, opened, geometry, raster, after, read, found, sent, rfl⟩
    rw [recoded_eq_ok_iff.mpr ⟨given, opened, geometry, raster, read, found, sent⟩]
    rfl

end Whole

end JpegTranscoder
