/-
**What an operation comes to.**

Each operation of a session ends in one of a few ways, and each way fixes its result, the session
that it leaves and its trace. What is shown of an operation is shown of these:

* `Opens`: opening, of bytes and of a source that is read alike;
* `Decodes`, `Encodes`: the two stages behind it, each with the work that it is made of;
* `Targets`: asking for a target quality.
-/
import JpegTranscoder.Session.Operation

namespace JpegTranscoder.Session

variable {codec : Codec} {session : Session codec}

/-! ### Opening -/

/-- The session after it opened a source. -/
def opening (session : Session codec) (source : Bytes) (opened : Opened codec) : Session codec :=
  { session with
    state := .headerRead
    metadata := some opened.metadata
    progressive := opened.progressive
    sourceLength := source.length
    decoder := some opened.decoder }

/-- What opening comes to. -/
inductive Opens (session : Session codec) : Outcome codec Metadata → Prop where
  | refused (misplaced : session.state ≠ .created) : Opens session (session.refuse .opening)
  /-- The source could not be read. -/
  | broken (fresh : session.state = .created) (error : StreamError) :
      Opens session (session.fail [] (.ofStream error))
  | empty (fresh : session.state = .created) :
      Opens session (session.fail [] (.invalidInput "empty source"))
  /-- The source was read, but its header could not be. -/
  | unopened (fresh : session.state = .created) (source : Bytes) {error : TranscodeError}
      (failed : (Opened.read codec source).result = .error error) :
      Opens session
        ({ session with sourceLength := source.length }.fail (Opened.read codec source).trace error)
  | opened (fresh : session.state = .created) (source : Bytes) {opened : Opened codec}
      (read : (Opened.read codec source).result = .ok opened) :
      Opens session
        ⟨.ok opened.metadata, session.opening source opened, (Opened.read codec source).trace⟩

theorem openSource_opens (fresh : session.state = .created) (source : Bytes) :
    session.Opens (session.openSource source) := by
  unfold openSource
  split
  · exact .empty fresh
  · simp only
    split
    · rename_i error failed
      exact .unopened fresh source failed
    · rename_i opened read
      exact .opened fresh source read

theorem openBytes_opens (session : Session codec) (source : Bytes) :
    session.Opens (session.openBytes source) := by
  unfold openBytes
  split
  · rename_i fresh
    exact openSource_opens fresh source
  · rename_i misplaced
    exact .refused misplaced

theorem openReader_opens (session : Session codec) (source : Source) :
    session.Opens (session.openReader source).1 := by
  unfold openReader
  split
  · rename_i fresh
    split
    · exact .broken fresh _
    · exact openSource_opens fresh _
  · rename_i misplaced
    exact .refused misplaced

/-! ### Decoding -/

/-- The session after it decoded its source. -/
def decoding (session : Session codec) (geometry : Geometry) (raster : Raster) : Session codec :=
  { session with
    state := .decoded
    decoder := none
    geometry := some geometry
    raster := some raster }

/-- What decoding comes to. -/
inductive Decodes (session : Session codec) : Outcome codec Unit → Prop where
  | refused (misplaced : session.state ≠ .headerRead) : Decodes session (session.refuse .decoding)
  | undecoded (ready : session.state = .headerRead) {error : TranscodeError}
      (failed : (decodeHeld codec session.memory session.decoder).result = .error error) :
      Decodes session
        (session.fail (decodeHeld codec session.memory session.decoder).trace error)
  | decoded (ready : session.state = .headerRead) {geometry : Geometry} {raster : Raster}
      (read : (decodeHeld codec session.memory session.decoder).result = .ok (geometry, raster)) :
      Decodes session
        ⟨.ok (), session.decoding geometry raster,
          (decodeHeld codec session.memory session.decoder).trace⟩

theorem decode_decodes (session : Session codec) : session.Decodes session.decode := by
  unfold decode
  split
  · rename_i ready
    simp only
    split
    · rename_i error failed
      exact .undecoded ready failed
    · rename_i geometry raster read
      exact .decoded ready read
  · rename_i misplaced
    exact .refused misplaced

/-! ### Encoding -/

/-- The session after it encoded its raster. -/
def encoding (session : Session codec) : Session codec :=
  { session with state := .encoded, raster := none }

/-- What encoding comes to, and the sink that it leaves. -/
inductive Encodes (session : Session codec) (sink : Sink) :
    Outcome codec Unit × Sink → Prop where
  | refused (misplaced : session.state ≠ .decoded) :
      Encodes session sink (session.refuse .encoding, sink)
  | unencoded (ready : session.state = .decoded) {trace : Trace} {error : TranscodeError}
      {after : Sink} (failed : session.encodeHeld sink = (⟨trace, .error error⟩, after)) :
      Encodes session sink (session.fail trace error, after)
  | encoded (ready : session.state = .decoded) {trace : Trace} {after : Sink}
      (sent : session.encodeHeld sink = (⟨trace, .ok ()⟩, after)) :
      Encodes session sink (⟨.ok (), session.encoding, trace⟩, after)

theorem encode_encodes (session : Session codec) (sink : Sink) :
    session.Encodes sink (session.encode sink) := by
  unfold encode
  split
  · rename_i ready
    split
    · rename_i trace error after failed
      exact .unencoded ready failed
    · rename_i trace after sent
      exact .encoded ready sent
  · rename_i misplaced
    exact .refused misplaced

/-! ### Target quality -/

/-- The session with another target. -/
def targeting (session : Session codec) (quality : UInt8) : Session codec :=
  { session with options := { session.options with targetQuality := quality } }

/-- What asking for a target quality comes to. -/
inductive Targets (session : Session codec) (quality : UInt8) : Outcome codec Unit → Prop where
  | ignored (vain : ¬(session.takesTarget = true ∧ isValidQuality quality = true))
      (record : Log.Record) : Targets session quality ⟨.ok (), session, [.logged record]⟩
  | targeted (takes : session.takesTarget = true) (valid : isValidQuality quality = true) :
      Targets session quality ⟨.ok (), session.targeting quality, []⟩

theorem setTargetQuality_targets (session : Session codec) (quality : UInt8) :
    session.Targets quality (session.setTargetQuality quality) := by
  unfold setTargetQuality
  split
  · rename_i late
    refine .ignored (fun heard => ?_) _
    rw [heard.1] at late
    cases late
  · rename_i takes
    split
    · rename_i invalid
      refine .ignored (fun heard => ?_) _
      rw [heard.2] at invalid
      cases invalid
    · rename_i valid
      rw [Bool.not_eq_true, Bool.not_eq_false'] at takes valid
      exact .targeted takes valid

end JpegTranscoder.Session
