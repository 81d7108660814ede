/-
**Every row once and in order.**

A session moves the rows of a frame from a decoder to an encoder, each of which chooses how many it
moves at a time. Whatever they choose, the raster between them holds the frame, and what the encoder
took, block behind block, is the frame again:

* `fillRaster_delivers`: the decoding loop fills the raster with the frame;
* `sendRows_accepts`: the encoding loop has the samples taken, each once and in order;
* `Session.Moves`: a run that opens, decodes and encodes, and moves a whole frame;
* `Session.every_row_once`: a codec that carries a frame has it moved, and no other codec that
  carries it has other samples encoded or has them encoded otherwise.
-/
import JpegTranscoder.Proofs.Session.Protocol
import JpegTranscoder.Proofs.Session.Schedules
import JpegTranscoder.Proofs.Session.Stages

namespace JpegTranscoder

variable {codec : Codec} {geometry : Geometry} {row : Nat}

/-! ### What is encoded -/

/-- The rows that a call took. -/
def CodecCall.samplesTaken : CodecCall → Bytes
  | .writeRows rows stride (.ok count) => rows.take (count * stride)
  | _ => []

/-- The rows that the calls took, block behind block. -/
def samplesTaken (calls : List CodecCall) : Bytes := calls.flatMap CodecCall.samplesTaken

/-- The settings that a call began to encode with. -/
def CodecCall.settings : CodecCall → Option EncoderSettings
  | .beginEncode settings _ => some settings
  | _ => none

/-- The settings that the calls began to encode with. -/
def settingsGiven (calls : List CodecCall) : List EncoderSettings :=
  calls.filterMap CodecCall.settings

theorem samplesTaken_append (first second : List CodecCall) :
    samplesTaken (first ++ second) = samplesTaken first ++ samplesTaken second :=
  List.flatMap_append

theorem settingsGiven_append (first second : List CodecCall) :
    settingsGiven (first ++ second) = settingsGiven first ++ settingsGiven second :=
  List.filterMap_append

theorem mem_settingsGiven_iff {settings : EncoderSettings} {calls : List CodecCall} :
    settings ∈ settingsGiven calls ↔ ∃ answer, .beginEncode settings answer ∈ calls := by
  constructor
  · intro given
    obtain ⟨call, member, told⟩ := List.mem_filterMap.mp given
    cases call with
    | beginEncode other answer =>
      cases told
      exact ⟨answer, member⟩
    | _ => cases told
  · rintro ⟨answer, member⟩
    exact List.mem_filterMap.mpr ⟨_, member, rfl⟩

/-- Nothing is encoded before a decoded session is asked to encode. -/
theorem Progress.Records.nothing_encoded {progressive : Bool} {calls : List CodecCall}
    (records : (Progress.decoded progressive geometry).Records calls) :
    samplesTaken calls = [] ∧ settingsGiven calls = [] := by
  obtain ⟨_, _, reads, kinds⟩ := records
  have kind {call : CodecCall} (member : call ∈ calls) :
      call.kind ≠ .writeRows ∧ call.kind ≠ .beginEncode := by
    have known := List.mem_map_of_mem (f := CodecCall.kind) member
    rw [kinds] at known
    constructor
    · intro same
      simp [same] at known
    · intro same
      simp [same] at known
  constructor
  · refine List.flatMap_eq_nil_iff.mpr fun call member => ?_
    cases call with
    | writeRows => exact absurd rfl (kind member).1
    | _ => rfl
  · refine List.filterMap_eq_nil_iff.mpr fun call member => ?_
    cases call with
    | beginEncode => exact absurd rfl (kind member).2
    | _ => rfl

/-! ### The decoding loop -/

/-- **The raster is filled with the frame**, whatever the decoder gives at a time. -/
theorem fillRaster_delivers {frame : Frame.Samples geometry} {decoder : codec.Decoder}
    {raster : Raster} (delivers : codec.Delivers frame row decoder)
    (shapes : geometry.Shapes raster)
    (filled : raster.samples.take (row * geometry.stride) =
      frame.val.take (row * geometry.stride)) :
    ∃ last,
      (fillRaster codec geometry.stride geometry.rows row decoder raster).result =
        .ok (last, { raster with samples := frame.val }) ∧
      (codec.finishDecode last).1 = .ok () := by
  induction delivers generalizing raster with
  | @finished decoder finish =>
    have whole : raster.samples = frame.val := by
      have held : raster.samples.length ≤ geometry.rows * geometry.stride :=
        Nat.le_of_eq shapes.length_eq_byteCount
      have given : frame.val.length ≤ geometry.rows * geometry.stride :=
        Nat.le_of_eq frame.property
      rwa [List.take_of_length_le held, List.take_of_length_le given] at filled
    refine ⟨decoder, ?_, finish⟩
    rw [fillRaster_done (Nat.le_refl _), ← whole]
    rfl
  | @reads row decoder due gives _ ih =>
    have length := Geometry.length_drop_rows shapes.length_eq_byteCount row
    rw [← shapes.rowsFrom_eq due] at length
    obtain ⟨count, block, next, answered, some, within, given⟩ := gives length
    have written := shapes.setRowsFrom_eq due block.property
    -- The rows before are the frame's by `filled`, the new ones by what the decoder gave.
    have more : (raster.setRowsFrom row block.val).samples.take ((row + count) * geometry.stride) =
        frame.val.take ((row + count) * geometry.stride) := by
      have before := Geometry.length_take_rows shapes.length_eq_byteCount (Nat.le_of_lt due)
      rw [written, Nat.add_mul, List.take_add, List.take_add, List.take_left' before,
        List.drop_left' before, filled, given]
    obtain ⟨last, complete, finish⟩ :=
      ih length answered (Geometry.shapes_setRowsFrom shapes row block.val) more
    refine ⟨last, ?_, finish⟩
    rw [fillRaster_more due answered (by omega)]
    rw [written] at complete ⊢
    exact complete

/-- A frame that is delivered is decoded, if its raster is granted. -/
theorem decodeFrame_delivers {memory : Memory} {frame : Frame.Samples geometry}
    {decoder started : codec.Decoder} (wide : geometry.width ≠ 0) (high : geometry.height ≠ 0)
    (granted : memory.grants geometry.byteCount = true)
    (began : codec.beginDecode decoder = (.ok geometry, started))
    (delivers : codec.Delivers frame 0 started) :
    ∃ raster, (decodeFrame codec memory decoder).result = .ok (geometry, raster) ∧
      geometry.Shapes raster ∧ raster.samples = frame.val := by
  obtain ⟨fresh, allocated⟩ := Geometry.allocate_granted wide high granted
  have shapes := Geometry.shapes_allocate allocated
  obtain ⟨last, complete, finish⟩ := fillRaster_delivers delivers shapes (by simp)
  have decoded := decodeFrame_ok.mpr ⟨started, fresh, last, began, allocated, complete, finish⟩
  exact ⟨_, decoded, decodeFrame_shapes decoded, rfl⟩

/-! ### The encoding loop -/

/-- **The samples are taken**, each once and in order, whatever the encoder takes at a time. -/
theorem sendRows_accepts {samples : Bytes} {encoder : codec.Encoder} {sink : Sink}
    (accepts : codec.Accepts geometry row encoder sink)
    (whole : samples.length = geometry.byteCount) :
    ∃ trace last after,
      sendRows codec samples geometry.stride geometry.rows row encoder sink =
        (⟨trace, .ok last⟩, after) ∧
      (codec.finishEncode last after).1 = .ok () ∧
      samplesTaken trace.calls = samples.drop (row * geometry.stride) ∧
      settingsGiven trace.calls = [] := by
  induction accepts with
  | @finished encoder sink finish =>
    refine ⟨[], encoder, sink, sendRows_done (Nat.le_refl _), finish, ?_, rfl⟩
    exact (List.drop_of_length_le (Nat.le_of_eq whole)).symm
  | @writes row encoder sink due takes _ ih =>
    have length := Geometry.length_drop_rows whole row
    obtain ⟨count, next, after, answered, some, within⟩ := takes length
    obtain ⟨trace, last, left, sent, finish, taken, begun⟩ := ih length answered
    refine ⟨.called (.writeRows (samples.drop (row * geometry.stride)) geometry.stride
      (.ok count)) :: trace, last, left, ?_, finish, ?_, begun⟩
    · rw [sendRows_more due answered (by omega), sent]
    · show (samples.drop (row * geometry.stride)).take (count * geometry.stride) ++
        samplesTaken trace.calls = _
      rw [taken, Nat.add_mul, ← List.drop_drop, List.take_append_drop]

/-- A raster that is accepted is encoded. -/
theorem encodeRaster_accepts {raster : Raster} {settings : EncoderSettings}
    {encoder begun : codec.Encoder} {sink created after : Sink} (shapes : geometry.Shapes raster)
    (creates : codec.createEncoder sink = (.ok encoder, created))
    (begins : codec.beginEncode encoder settings created = (.ok (), begun, after))
    (accepts : codec.Accepts geometry 0 begun after) :
    ∃ trace last, encodeRaster codec settings raster sink = (⟨trace, .ok ()⟩, last) ∧
      samplesTaken trace.calls = raster.samples ∧ settingsGiven trace.calls = [settings] := by
  obtain ⟨rows, last, left, sent, finish, taken, quiet⟩ :=
    sendRows_accepts accepts shapes.length_eq_byteCount
  rw [← shapes.stride_eq, ← shapes.height_eq] at sent
  have creating : Sending.createEncoder codec sink =
      (⟨[.called (.createEncoder (.ok ()))], .ok encoder⟩, created) := by
    rw [Sending.createEncoder, creates]
    rfl
  have beginning : Sending.beginEncode codec encoder settings created =
      (⟨[.called (.beginEncode settings (.ok ()))], .ok begun⟩, after) := by
    rw [Sending.beginEncode, begins]
    rfl
  have finishing : Sending.finishEncode codec last left =
      (⟨[.called (.finishEncode (.ok ()))], .ok ()⟩, (codec.finishEncode last left).2) := by
    rw [Sending.finishEncode]
    show (Attempt.call (.finishEncode (codec.finishEncode last left).1) _, _) = _
    rw [finish]
    rfl
  refine ⟨_, _, Sending.bind_of_ok rfl (Sending.bind_of_ok creating (Sending.bind_of_ok beginning
    (Sending.bind_of_ok sent finishing))), ?_, ?_⟩
  · show samplesTaken (Trace.calls (rows ++ _)) = _
    rw [Trace.calls_append, samplesTaken_append, taken, Nat.zero_mul, List.drop_zero]
    exact List.append_nil _
  · show settings :: settingsGiven (Trace.calls (rows ++ _)) = _
    rw [Trace.calls_append, settingsGiven_append, quiet]
    rfl

/-! ### Sessions -/

/-- An operation that opens a source. -/
def Operation.Opens (source : Bytes) : Operation → Prop
  | .openBytes bytes => bytes = source
  | .openReader reader => reader.readToEnd.1 = .ok source
  | _ => False

/-- An operation that encodes into a sink. -/
def Operation.EncodesInto (sink : Sink) : Operation → Prop
  | .encode into => into = sink
  | .encodeToBytes => sink = .empty
  | _ => False

namespace Session

variable {session : Session codec} {source : Bytes} {sink : Sink} {operation : Operation}

theorem perform_opening (opens : operation.Opens source) (fresh : session.state = .created)
    (given : source ≠ []) {opened : Opened codec}
    (read : (Opened.read codec source).result = .ok opened) :
    (session.perform operation).result = .ok (.metadata opened.metadata) ∧
      (session.perform operation).session = session.opening source opened := by
  obtain ⟨told, left⟩ := openBytes_session fresh given read
  cases operation with
  | openBytes bytes =>
    cases opens
    exact ⟨congrArg (Except.map Answer.metadata) told, left⟩
  | openReader reader =>
    show (session.openReader reader).1.result.map _ = _ ∧ (session.openReader reader).1.session = _
    rw [openReader_eq opens session, told]
    exact ⟨rfl, left⟩
  | _ => cases opens

theorem perform_encoding (encodes : operation.EncodesInto sink) (ready : session.state = .decoded)
    {trace : Trace} {after : Sink} (sent : session.encodeHeld sink = (⟨trace, .ok ()⟩, after)) :
    (∃ answer, (session.perform operation).result = .ok answer) ∧
      (session.perform operation).trace = trace := by
  obtain ⟨told, left⟩ := encode_ok ready sent
  cases operation with
  | encode into =>
    cases encodes
    exact ⟨⟨_, congrArg (Except.map _) told⟩, left⟩
  | encodeToBytes =>
    cases encodes
    refine ⟨⟨.bytes (session.encode .empty).2.accepted, ?_⟩, left⟩
    show ((session.encode .empty).1.result.map _).map Answer.bytes = _
    rw [told]
    rfl
  | _ => cases encodes

/-- A session that is ready to encode has encoded nothing. -/
theorem nothing_encoded (memory : Memory) (options : Options) (operations : List Operation)
    (ready : ((create codec memory options).after operations).state = .decoded) :
    samplesTaken ((create codec memory options).history operations).calls = [] ∧
      settingsGiven ((create codec memory options).history operations).calls = [] := by
  have consistent : (create codec memory options).Consistent := consistent_create memory options
  obtain ⟨follows, stands⟩ := history_continues consistent rfl operations
  simp only [Stands, ready] at stands
  obtain ⟨geometry, _, reached⟩ := stands
  have records : Progress.fresh.Records [] := rfl
  have known := records.after follows
  rw [reached, List.nil_append] at known
  exact known.nothing_encoded

section Moving

variable {memory : Memory} {options : Options} {header : Header} {frame : Frame.Samples geometry}
  {opening encoding : Operation}

/-- A frame that is delivered is decoded by a session that is new. -/
theorem decodes_of_delivers (fresh : session.state = .created) (given : source ≠ [])
    (opens : opening.Opens source) (wide : geometry.width ≠ 0) (high : geometry.height ≠ 0)
    (granted : session.memory.grants geometry.byteCount = true) {opened : Opened codec}
    {started : codec.Decoder} (read : (Opened.read codec source).result = .ok opened)
    (began : codec.beginDecode opened.decoder = (.ok geometry, started))
    (delivers : codec.Delivers frame 0 started) :
    ∃ raster,
      (∀ outcome ∈ session.run [opening, .decode], ∃ answer, outcome.result = .ok answer) ∧
      session.after [opening, .decode] =
        (session.opening source opened).decoding geometry raster ∧
      geometry.Shapes raster ∧ raster.samples = frame.val := by
  obtain ⟨told, left⟩ := perform_opening opens fresh given read
  obtain ⟨raster, filled, shapes, whole⟩ := decodeFrame_delivers wide high granted began delivers
  obtain ⟨decodes, decoded⟩ := decode_ok (session.opening source opened) rfl rfl filled
  rw [← left] at decodes decoded
  refine ⟨raster, ?_, ?_, shapes, whole⟩
  · simp only [run, List.forall_mem_cons]
    refine ⟨⟨_, told⟩, ⟨.nothing, ?_⟩, List.forall_mem_nil _⟩
    show (session.perform opening).session.decode.result.map _ = _
    rw [decodes]
    rfl
  · rw [← left]
    exact decoded

/-- A run that opens, decodes and encodes succeeds, and a whole frame is moved in it. -/
structure Moves (session : Session codec) (opening encoding : Operation)
    (settings : EncoderSettings) (frame : Bytes) : Prop where
  succeeds : ∀ outcome ∈ session.run [opening, .decode, encoding],
    ∃ answer, outcome.result = .ok answer
  decoded : (session.after [opening, .decode]).state = .decoded
  holds : ∃ raster, (session.after [opening, .decode]).raster = some raster ∧
    raster.samples = frame
  begins : settingsGiven (session.history [opening, .decode, encoding]).calls = [settings]
  sends : samplesTaken (session.history [opening, .decode, encoding]).calls = frame

/-- **A frame that is carried is moved.** -/
theorem moves_of_carries (given : source ≠ []) (opens : opening.Opens source)
    (encodes : encoding.EncodesInto sink) (large : 1 < header.width ∧ 1 < header.height)
    (wide : geometry.width ≠ 0) (high : geometry.height ≠ 0)
    (granted : memory.grants geometry.byteCount = true)
    (carries : codec.Carries source header frame (options.settingsFor header geometry) sink) :
    (create codec memory options).Moves opening encoding (options.settingsFor header geometry)
      frame.val := by
  obtain ⟨⟨decoder, started, answered, began, delivers⟩, encoder, created, begun, ready, creates,
    begins, accepts⟩ := carries
  obtain ⟨opened, read, rfl, metadata, mode⟩ : ∃ opened : Opened codec,
      (Opened.read codec source).result = .ok opened ∧ opened.decoder = decoder ∧
        opened.metadata = ⟨header.width, header.height, header.quality⟩ ∧
        opened.progressive = header.progressive :=
    ⟨_, Opened.read_eq_ok_iff.mpr ⟨decoder, header, answered, large.1, large.2, rfl⟩, rfl, rfl, rfl⟩
  have fresh : (create codec memory options).state = .created := rfl
  obtain ⟨raster, succeeds, left, shapes, whole⟩ :=
    decodes_of_delivers fresh given opens wide high granted read began delivers
  obtain ⟨trace, last, sent, taken, settings⟩ := encodeRaster_accepts shapes creates begins accepts
  have decoded : ((create codec memory options).after [opening, .decode]).state = .decoded := by
    rw [left]
    rfl
  have sending : ((create codec memory options).after [opening, .decode]).encodeHeld sink =
      (⟨trace, .ok ()⟩, last) := by
    rw [left, encodeHeld_eq rfl rfl, effectiveQuality_eq rfl]
    show encodeRaster codec ⟨geometry, options.qualityFor opened.metadata, opened.progressive, true⟩
      raster sink = _
    rw [metadata, mode]
    exact sent
  obtain ⟨encoded, traced⟩ := perform_encoding encodes decoded sending
  obtain ⟨before, quiet⟩ := nothing_encoded memory options [opening, .decode] decoded
  have parts : [opening, .decode, encoding] = [opening, .decode] ++ [encoding] := rfl
  have later : ((create codec memory options).history [opening, .decode, encoding]).calls =
      ((create codec memory options).history [opening, .decode]).calls ++ trace.calls := by
    rw [parts, history_concat, traced, Trace.calls_append]
  constructor
  · intro outcome member
    rw [parts, run_append, List.mem_append] at member
    rcases member with early | late
    · exact succeeds outcome early
    · cases List.mem_singleton.mp late
      exact encoded
  · exact decoded
  · exact ⟨raster, by rw [left]; rfl, whole⟩
  · rw [later, settingsGiven_append, quiet, settings]
    rfl
  · rw [later, samplesTaken_append, before, taken, whole]
    rfl

/-- **Every row is moved once and in order**, whatever the chunks. A new session opens a source,
decodes it and encodes it again if its codec carries a frame: all three succeed, the raster between
them holds the frame, and the rows that the encoder took are the frame. Any other codec that carries
the same frame, in whatever other chunks, encodes the same samples with the same settings. -/
theorem every_row_once (given : source ≠ []) (opens : opening.Opens source)
    (encodes : encoding.EncodesInto sink) (large : 1 < header.width ∧ 1 < header.height)
    (wide : geometry.width ≠ 0) (high : geometry.height ≠ 0)
    (granted : memory.grants geometry.byteCount = true)
    (carries : codec.Carries source header frame (options.settingsFor header geometry) sink) :
    (create codec memory options).Moves opening encoding (options.settingsFor header geometry)
        frame.val ∧
      ∀ other : Codec,
        other.Carries source header frame (options.settingsFor header geometry) sink →
        let calls := ((create codec memory options).history [opening, .decode, encoding]).calls
        let others := ((create other memory options).history [opening, .decode, encoding]).calls
        samplesTaken others = samplesTaken calls ∧ settingsGiven others = settingsGiven calls := by
  have moves := moves_of_carries given opens encodes large wide high granted carries
  refine ⟨moves, fun other carried => ?_⟩
  have moved := moves_of_carries given opens encodes large wide high granted carried
  exact ⟨moved.sends.trans moves.sends.symm, moved.begins.trans moves.begins.symm⟩

/-- Three rows of two gray pixels, read as two and one and written as one and two, and the same rows
read one by one and written at once. -/
theorem every_row_once_unlike_chunks :
    let header : Header := ⟨2, 2, 1, false, Vector.replicate 4 none⟩
    let geometry : Geometry := ⟨2, 3, .gray⟩
    let codec := Scripted.codec (Scripted.inChunks header geometry [2, 1] [1, 2])
    let other := Scripted.codec (Scripted.inChunks header geometry [1, 1, 1] [3])
    let settings := Options.default.settingsFor header geometry
    let frame := Scripted.patternFrame geometry
    let operations : List Operation := [.openBytes [0xFF], .decode, .encodeToBytes]
    let calls := ((create codec (.below 100) .default).history operations).calls
    let others := ((create other (.below 100) .default).history operations).calls
    codec.Carries [0xFF] header frame settings .empty ∧
      other.Carries [0xFF] header frame settings .empty ∧
      (create codec (.below 100) .default).Moves (.openBytes [0xFF]) .encodeToBytes settings
        frame.val ∧
      samplesTaken others = samplesTaken calls ∧ settingsGiven others = settingsGiven calls := by
  intro header geometry codec other settings frame operations calls others
  have wide : geometry.width ≠ 0 := by decide
  have high : geometry.height ≠ 0 := by decide
  have carries : codec.Carries [0xFF] header frame settings .empty :=
    Scripted.carries header wide ⟨by decide, rfl⟩ ⟨by decide, rfl⟩ Sink.reliable_empty _ _
  have carried : other.Carries [0xFF] header frame settings .empty :=
    Scripted.carries header wide ⟨by decide, rfl⟩ ⟨by decide, rfl⟩ Sink.reliable_empty _ _
  have granted : (Memory.below 100).grants geometry.byteCount = true := by decide
  have opens : Operation.Opens [0xFF] (.openBytes [0xFF]) := rfl
  have encodes : Operation.EncodesInto .empty .encodeToBytes := rfl
  obtain ⟨moves, alike⟩ := every_row_once (List.cons_ne_nil _ _) opens encodes
    ⟨by decide, by decide⟩ wide high granted carries
  exact ⟨carries, carried, moves, alike other carried⟩

end Moving

end Session

end JpegTranscoder
