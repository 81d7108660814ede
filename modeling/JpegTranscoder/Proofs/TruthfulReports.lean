/-
**What a successful run leaves, and what it reports.**

A run that succeeds has written all that a transcode gives into one file, and tells of it what is
so. The quality that it tells is read off the session before the encoding, and the encoding takes it
from there too:

* `FileSystem.Overwritten.resolve`: a name that was found is found at the same path after a write;
* `recodeWithQuality_ok`: the quality that is told, and the settings that the encoding began with;
* `optimizeFile_ok`: what a run that succeeds read and wrote;
* `optimizeFile_truthful`: what its report tells.
-/
import JpegTranscoder.Proofs.FailedRuns
import JpegTranscoder.Proofs.Recompression.Preserved
import JpegTranscoder.Proofs.Session.Begun

namespace JpegTranscoder

/-! ### Names after a write -/

namespace FileSystem

variable {files after : FileSystem} {path found : Path} {bytes : Bytes}

/-- Only directories lead on. -/
theorem entry_of_step {start : Path} {component : String}
    (named : files.step start component = .ok found) : files.entry start = some .directory := by
  unfold step at named
  split at named
  · cases named
  · cases named
  · assumption

/-- A write leaves the directories that lead to a name. -/
theorem Overwritten.step (overwritten : files.Overwritten after path bytes)
    (free : files.entry path ≠ some .directory) {start : Path} {component : String}
    (named : files.step start component = .ok found) : after.step start component = .ok found := by
  have directory := entry_of_step named
  have apart : start ≠ path := by
    rintro rfl
    exact free directory
  rw [← named, FileSystem.step, FileSystem.step, overwritten.others start apart]

theorem Overwritten.foldlM_step (overwritten : files.Overwritten after path bytes)
    (free : files.entry path ≠ some .directory) {components : List String} {start : Path}
    (named : components.foldlM files.step start = .ok found) :
    components.foldlM after.step start = .ok found := by
  induction components generalizing start with
  | nil => exact named
  | cons component rest ih =>
    rw [List.foldlM_cons] at named ⊢
    obtain ⟨next, first, later⟩ := ok_of_bind named
    rw [overwritten.step free first]
    exact ih later

/-- **A name is found where it was** before a file was written. -/
theorem Overwritten.resolve (overwritten : files.Overwritten after path bytes)
    (free : files.entry path ≠ some .directory) {name : String}
    (named : files.resolve name = .ok found) : after.resolve name = .ok found := by
  unfold FileSystem.resolve walk at named ⊢
  split at named
  · cases named
  · split at named
    · cases named
    · split at named
      · cases named
      · rename_i printable given fits
        rw [if_neg printable, if_neg given, if_neg fits]
        exact overwritten.foldlM_step free named

theorem resolve_of_resolveNew {name : String} (named : files.resolveNew name = .ok found) :
    files.resolve name = .ok found := by
  unfold resolveNew at named
  split at named
  · simp only at named
    split at named <;> cases named
  · exact named

/-- A write that succeeds puts the bytes where no directory is. -/
theorem write_ok (written : files.write path bytes = (.ok (), after)) :
    files.entry path ≠ some .directory ∧ after = files.put path bytes := by
  by_cases directory : files.entry path = some .directory
  · rw [write_directory directory] at written
    cases written
  · rcases write_free directory bytes with wrote | ⟨error, left, broke, _⟩
    · rw [wrote] at written
      cases written
      exact ⟨directory, rfl⟩
    · rw [broke] at written
      cases written

theorem writeNamed_ok {name : String} (written : files.writeNamed name bytes = (.ok (), after)) :
    ∃ path, files.resolveNew name = .ok path ∧ files.entry path ≠ some .directory ∧
      after = files.put path bytes := by
  unfold writeNamed at written
  cases named : files.resolveNew name with
  | error error =>
    rw [named] at written
    cases written
  | ok path =>
    rw [named] at written
    exact ⟨path, rfl, write_ok written⟩

end FileSystem

/-! ### The quality of a run -/

section Quality

variable {codec : Codec} {memory : Memory} {options : Options} {source written : Bytes}
  {quality : UInt8}

/-- A recoding that succeeds has done all three stages, one behind the other. -/
theorem recode_ok {α : Type} {opened : Outcome codec Metadata}
    {encode : Session codec → Outcome codec α} {value : α}
    (succeeded : (recode codec opened encode).result = .ok value) :
    let decoded := opened.session.decode
    let encoded := encode decoded.session
    (∃ metadata, opened.result = .ok metadata) ∧ decoded.result = .ok () ∧
      encoded.result = .ok value ∧
      (recode codec opened encode).trace = opened.trace ++ decoded.trace ++ encoded.trace := by
  intro decoded encoded
  have ended := succeeded
  rw [recode_result] at ended
  obtain ⟨metadata, told, ended⟩ := ok_of_bind ended
  obtain ⟨done, read, sent⟩ := ok_of_bind ended
  refine ⟨⟨metadata, told⟩, read, sent, ?_⟩
  unfold recode
  simp only [told, read, sent]
  rfl

/-- A decoding that succeeds leaves the session with what its decoder made. -/
theorem Session.Decodes.of_ok {session : Session codec} {outcome : Outcome codec Unit}
    (decodes : session.Decodes outcome) (succeeded : outcome.result = .ok ()) :
    ∃ geometry raster,
      (decodeHeld codec session.memory session.decoder).result = .ok (geometry, raster) ∧
      outcome.session = session.decoding geometry raster := by
  cases decodes with
  | refused misplaced => cases succeeded
  | undecoded ready failed => cases succeeded
  | decoded ready read => exact ⟨_, _, read, rfl⟩

/-- An encoding that succeeds began once, with what the session holds. -/
theorem Session.encodeToBytes_settings {session : Session codec} {geometry : Geometry}
    {raster : Raster} (ready : session.state = .decoded) (told : session.geometry = some geometry)
    (held : session.raster = some raster) (sent : session.encodeToBytes.result = .ok written) :
    settingsGiven session.encodeToBytes.trace.calls =
      [⟨geometry, session.effectiveQuality, session.progressive, true⟩] := by
  have encoded : (session.encode .empty).1.result = .ok () := by
    obtain ⟨_, done, _⟩ := ok_of_map sent
    exact done
  obtain ⟨calls, _, whole⟩ := Session.encode_calls ready .empty
  have begins := @encodeRaster_begins codec
    ⟨geometry, session.effectiveQuality, session.progressive, true⟩ raster .empty
  rw [← Session.encodeHeld_eq told held] at begins
  show settingsGiven (session.encode .empty).1.trace.calls = _
  rw [calls]
  exact begins.whole (whole encoded)

/-- What a run that tells its quality asks of the codec, and what it comes to. -/
def recodeWithQuality (codec : Codec) (memory : Memory) (source : Bytes) (options : Options) :
    Outcome codec (UInt8 × Bytes) :=
  recode codec ((Session.create codec memory options).openBytes source) fun session =>
    session.encodeToBytes.map fun bytes => (session.effectiveQuality, bytes)

theorem transcodeWithQuality_eq (codec : Codec) (memory : Memory) (source : Bytes)
    (options : Options) :
    transcodeWithQuality codec memory source options =
      ⟨(recodeWithQuality codec memory source options).result,
        (recodeWithQuality codec memory source options).trace.log⟩ := rfl

/-- **The quality that is told** is the one for the source's metadata, and the encoding began once,
at this quality. -/
theorem recodeWithQuality_ok
    (succeeded : (recodeWithQuality codec memory source options).result = .ok (quality, written)) :
    ∃ opened geometry raster, (Opened.read codec source).result = .ok opened ∧
      (decodeFrame codec memory opened.decoder).result = .ok (geometry, raster) ∧
      quality = options.qualityFor opened.metadata ∧
      settingsGiven (recodeWithQuality codec memory source options).trace.calls =
        [⟨geometry, quality, opened.progressive, true⟩] := by
  have fresh : (Session.create codec memory options).state = .created := rfl
  obtain ⟨⟨metadata, told⟩, done, sent, trace⟩ := recode_ok succeeded
  change (recodeWithQuality codec memory source options).trace = _ at trace
  obtain ⟨given, opened, read, rfl⟩ := (Session.openBytes_eq_ok_iff fresh).mp told
  have opens := (Session.create codec memory options).openBytes_opens source
  have opening := (Session.openBytes_session fresh given read).2
  generalize (Session.create codec memory options).openBytes source = first
    at opens opening done sent trace
  have decodes := first.session.decode_decodes
  obtain ⟨geometry, raster, found, decoding⟩ := decodes.of_ok done
  generalize first.session.decode = second at decodes decoding sent trace
  rw [opening] at found decoding
  obtain ⟨bytes, encoded, pair⟩ := ok_of_map sent
  obtain rfl : second.session.effectiveQuality = quality := congrArg Prod.fst pair
  have settings := Session.encodeToBytes_settings (by rw [decoding]; rfl) (by rw [decoding]; rfl)
    (by rw [decoding]; rfl) encoded
  have effective : second.session.effectiveQuality = options.qualityFor opened.metadata := by
    rw [decoding]
    exact Session.effectiveQuality_eq rfl
  have progressive : second.session.progressive = opened.progressive := by
    rw [decoding]
    rfl
  refine ⟨opened, geometry, raster, read, found, effective, ?_⟩
  calc settingsGiven (recodeWithQuality codec memory source options).trace.calls
      = settingsGiven first.trace.calls ++ settingsGiven second.trace.calls ++
          settingsGiven second.session.encodeToBytes.trace.calls := by
        rw [trace, Trace.calls_append, Trace.calls_append, settingsGiven_append,
          settingsGiven_append]
        rfl
    _ = [⟨geometry, second.session.effectiveQuality, opened.progressive, true⟩] := by
        rw [opens.begins, decodes.begins, settings, progressive]
        rfl

/-- Over an engine, the encoding began with the settings for the source. -/
theorem Scanline.Transcodes.settings {engine : Engine} {header : Header} {shape : Geometry}
    (done : Transcodes engine memory options source written header shape)
    (succeeded : (recodeWithQuality (Scanline.codec engine memory) memory source options).result =
      .ok (quality, written)) :
    quality = options.qualityFor ⟨header.width, header.height, header.quality⟩ ∧
      settingsGiven
          (recodeWithQuality (Scanline.codec engine memory) memory source options).trace.calls =
        [options.settingsFor header shape] := by
  obtain ⟨opened, geometry, raster, read, found, rfl, settings⟩ := recodeWithQuality_ok succeeded
  obtain ⟨decoder, known, answered, _, _, rfl⟩ := Opened.read_eq_ok_iff.mp read
  obtain ⟨inspected, terminated, same, _, accepted, rfl⟩ := openSource_eq_ok_iff.mp answered
  obtain rfl : known = header := Except.ok.inj (same.symm.trans done.read)
  obtain rfl : inspected = .ofGeometry shape :=
    Except.ok.inj (accepted.symm.trans done.accepted)
  obtain ⟨_, offered, _⟩ := decodeFrame_eq_ok_iff.mp found
  obtain rfl := Decoder.ofGeometry_inj offered
  exact ⟨rfl, settings⟩

end Quality

/-! ### Reports -/

section Reports

variable {codec : Codec} {memory : Memory} {files : FileSystem} {source target : String}
  {options : Options} {report : SizeReport}

/-- **A run that succeeds** has transcoded what it read, and has put it where no directory stood. -/
theorem optimizeFile_ok
    (succeeded : (optimizeFile codec memory files source target options).result = .ok report) :
    let run := optimizeFile codec memory files source target options
    ∃ input output path, files.readNamed source = .ok input ∧
      (transcodeWithQuality codec memory input options).result = .ok (report.quality, output) ∧
      files.resolveNew target = .ok path ∧ files.entry path ≠ some .directory ∧
      run.files = files.put path output ∧
      run.log = (transcodeWithQuality codec memory input options).log ++ [report.record source] ∧
      report.inputSize = input.length ∧ report.outputSize = output.length := by
  unfold optimizeFile at succeeded ⊢
  cases found : files.readNamed source with
  | error error =>
    rw [found] at succeeded
    cases succeeded
  | ok input =>
    rw [found] at succeeded
    dsimp only at succeeded ⊢
    cases made : (transcodeWithQuality codec memory input options).result with
    | error error =>
      rw [made] at succeeded
      cases succeeded
    | ok pair =>
      obtain ⟨quality, output⟩ := pair
      rw [made] at succeeded
      dsimp only at succeeded ⊢
      match wrote : files.writeNamed target output with
      | (.error error, after) =>
        rw [wrote] at succeeded
        cases succeeded
      | (.ok (), after) =>
        rw [wrote] at succeeded
        cases succeeded
        obtain ⟨path, named, free, rfl⟩ := FileSystem.writeNamed_ok wrote
        exact ⟨input, output, path, rfl, made, named, free, rfl, rfl, rfl, rfl⟩

/-- **A run that succeeds writes one file, and tells of it what is so.** The file that the target
names, before and after, holds what a transcode gives of the bytes that were read, and all other
files are as they were. The sizes that are told are those of the bytes read and of the bytes
written. The quality that is told is one from 1 to 100, and the only encoding began with it and made
the bytes written; over an engine that writes its tables in the reference form, it is also the
quality that the file's metadata tells. -/
theorem optimizeFile_truthful {engine : Engine}
    (succeeded :
      (optimizeFile (Scanline.codec engine memory) memory files source target options).result =
        .ok report) :
    let run := optimizeFile (Scanline.codec engine memory) memory files source target options
    ∃ input output path, files.readNamed source = .ok input ∧
      (transcode (Scanline.codec engine memory) memory input options).result = .ok output ∧
      files.resolveNew target = .ok path ∧ run.files.resolve target = .ok path ∧
      files.Overwritten run.files path output ∧
      report.inputSize = input.length ∧ report.outputSize = output.length ∧
      (1 ≤ report.quality ∧ report.quality ≤ 100) ∧
      run.log = (recodeWithQuality (Scanline.codec engine memory) memory input options).trace.log ++
        [report.record source] ∧
      (∃ settings frame,
        settingsGiven
            (recodeWithQuality (Scanline.codec engine memory) memory input options).trace.calls =
          [settings] ∧
        settings.quality = report.quality ∧ output = engine.encode settings frame) ∧
      (engine.Conforms → ∃ metadata,
        (readMetadataFromBytes (Scanline.codec engine memory) memory output).result = .ok metadata ∧
        metadata.quality = report.quality) := by
  intro run
  obtain ⟨input, output, path, found, made, named, free, left, log, inputSize, outputSize⟩ :=
    optimizeFile_ok succeeded
  have transcoded : (transcode (Scanline.codec engine memory) memory input options).result =
      .ok output := by
    rw [← transcodeWithQuality_snd, made]
    rfl
  rw [transcodeWithQuality_eq] at made log
  have overwritten : files.Overwritten run.files path output := by
    rw [left]
    exact FileSystem.overwritten_put free output
  obtain ⟨header, shape, done⟩ := Scanline.transcode_eq_ok_iff.mp transcoded
  obtain ⟨quality, settings⟩ := done.settings made
  refine ⟨input, output, path, found, transcoded, named,
    overwritten.resolve free (FileSystem.resolve_of_resolveNew named), overwritten, inputSize,
    outputSize, ?_, log, ?_, ?_⟩
  · rw [quality]
    exact isValidQuality_iff.mp (options.qualityFor_valid header.quality_le)
  · obtain ⟨frame, _, encoded⟩ := done.encoded
    exact ⟨options.settingsFor header shape, frame, settings, quality.symm, encoded⟩
  · intro conforms
    obtain ⟨last, read, whole, width, height, _, told, accepted, _⟩ := done.result conforms
    refine ⟨_, Scanline.readMetadataFromBytes_eq_ok_iff.mpr
      ⟨last, _, true, read, whole, accepted, ?_, ?_, rfl⟩, told.trans quality.symm⟩
    · rw [width]
      exact done.wide
    · rw [height]
      exact done.high

end Reports

/-- A gray block of quality 50 that is optimized in place to quality 30. -/
theorem optimizeFile_truthful_in_place :
    let files := FileSystem.ofEntries [(["in.jpg"], .file grayBlock)]
    let written := Flat.stream ⟨⟨8, 8, .gray⟩, 30, false, true⟩
    let run := optimizeFile (Scanline.codec Flat.engine (.below 65)) (.below 65) files "in.jpg"
      "in.jpg" ⟨30, false⟩
    Flat.engine.Conforms ∧
      run.result = .ok ⟨grayBlock.length, written.length, 30⟩ ∧
      files.Overwritten run.files ["in.jpg"] written ∧
      ∃ metadata,
        (readMetadataFromBytes (Scanline.codec Flat.engine (.below 65)) (.below 65)
          written).result = .ok metadata ∧
        metadata.quality = 30 := by
  intro files written run
  have before : files.readNamed "in.jpg" = .ok grayBlock := by
    rw [FileSystem.readNamed, plain_in.resolve]
    rfl
  have made : (transcode (Scanline.codec Flat.engine (.below 65)) (.below 65) grayBlock
      ⟨30, false⟩).result = .ok written :=
    @Scanline.flat_transcode _ ⟨⟨8, 8, .gray⟩, 50, false, true⟩ rfl (by decide) (by decide)
      (by decide) ⟨30, false⟩
  have writes : Writes (Scanline.codec Flat.engine (.below 65)) (.below 65) files "in.jpg" "in.jpg"
      ⟨30, false⟩ ["in.jpg"] written := by
    refine ⟨⟨grayBlock, before, made⟩, plain_in.resolveNew files, ?_⟩
    rw [FileSystem.entry, plain_in.isAround_eq]
    intro directory
    cases directory
  obtain ⟨report, succeeded, _⟩ := ok_of_map writes.ending.1
  obtain ⟨input, output, path, found, transcoded, named, _, overwritten, inputSize, outputSize, _,
    _, _, told⟩ := optimizeFile_truthful succeeded
  cases before.symm.trans found
  cases made.symm.trans transcoded
  cases (plain_in.resolveNew files).symm.trans named
  obtain ⟨metadata, read, quality⟩ := told Flat.conforms
  have thirty : metadata.quality = 30 := by
    obtain ⟨header, good, _, _, _, same, _⟩ :=
      @Scanline.flat_good ⟨⟨8, 8, .gray⟩, 30, false, true⟩ rfl (by decide) (by decide)
    obtain ⟨known, _, _, told, _, _, _, _, rfl⟩ :=
      Scanline.readMetadataFromBytes_eq_ok_iff.mp read
    cases good.read.symm.trans told
    exact same
  have tells : report = ⟨grayBlock.length, written.length, 30⟩ := by
    rw [← inputSize, ← outputSize, ← thirty, quality]
  exact ⟨Flat.conforms, tells ▸ succeeded, overwritten, metadata, read, thirty⟩

end JpegTranscoder
