/-
**What a session holds in each state.**

A session owns a decoder, the geometry of the decoded frame and a raster, each only while its state
calls for it. `Session.Consistent` says what is held in which state. It survives every change that
an operation can make, so it holds after every run (`consistent_after`), and with it:

* an opened session has its decoder, and a decoded one its geometry and its raster;
* `sendRows_offers`: every block that the encoder is offered starts inside the raster.
-/
import JpegTranscoder.Codec.Scripted
import JpegTranscoder.Proofs.RasterShape
import JpegTranscoder.Proofs.Session.Run
import JpegTranscoder.Proofs.Session.Steps

namespace JpegTranscoder

variable {codec : Codec}

/-! ### What each state calls for -/

/-- The session holds what its state calls for, and nothing else. -/
def Session.Consistent (session : Session codec) : Prop :=
  match session.state with
  | .created =>
    session.metadata = none ∧ session.decoder = none ∧ session.geometry = none ∧
      session.raster = none
  | .headerRead =>
    (∃ metadata, session.metadata = some metadata ∧ 1 < metadata.width ∧ 1 < metadata.height) ∧
      (∃ decoder, session.decoder = some decoder) ∧ session.geometry = none ∧
      session.raster = none
  | .decoded =>
    (∃ metadata, session.metadata = some metadata) ∧ session.decoder = none ∧
      ∃ geometry raster, session.geometry = some geometry ∧ session.raster = some raster ∧
        geometry.Shapes raster
  | .encoded =>
    (∃ metadata, session.metadata = some metadata) ∧
      (∃ geometry, session.geometry = some geometry) ∧ session.decoder = none ∧
      session.raster = none
  | .closed | .failed =>
    session.decoder = none ∧ session.geometry = none ∧ session.raster = none

/-! ### What the steps give -/

theorem Opened.read_size {source : Bytes} {opened : Opened codec}
    (read : (Opened.read codec source).result = .ok opened) :
    1 < opened.metadata.width ∧ 1 < opened.metadata.height := by
  obtain ⟨_, header, _, wide, high, rfl⟩ := Opened.read_eq_ok_iff.mp read
  exact ⟨wide, high⟩

theorem fillRaster_shapes {geometry : Geometry} {stride height row : Nat}
    {decoder last : codec.Decoder} {raster filled : Raster} (shapes : geometry.Shapes raster)
    (complete : (fillRaster codec stride height row decoder raster).result = .ok (last, filled)) :
    geometry.Shapes filled := by
  induction row, decoder, raster using fillRaster_rounds stride height with
  | done rows =>
    rw [fillRaster_done rows] at complete
    cases complete
    exact shapes
  | failed due answered =>
    rw [fillRaster_error due answered] at complete
    cases complete
  | bad due answered stuck =>
    rw [fillRaster_bad due answered stuck] at complete
    cases complete
  | more due answered stuck ih =>
    rw [fillRaster_more due answered stuck] at complete
    exact ih (Geometry.shapes_setRowsFrom shapes _ _) complete

/-- A decoded raster holds a frame of the geometry that the decoder told. -/
theorem decodeFrame_shapes {memory : Memory} {decoder : codec.Decoder} {geometry : Geometry}
    {raster : Raster}
    (decoded : (decodeFrame codec memory decoder).result = .ok (geometry, raster)) :
    geometry.Shapes raster := by
  obtain ⟨_, fresh, last, _, allocated, complete, _⟩ := decodeFrame_ok.mp decoded
  exact fillRaster_shapes (Geometry.shapes_allocate allocated) complete

theorem decodeHeld_ok {memory : Memory} {held : Option codec.Decoder} {geometry : Geometry}
    {raster : Raster} (decoded : (decodeHeld codec memory held).result = .ok (geometry, raster)) :
    geometry.Shapes raster := by
  cases held with
  | none => cases decoded
  | some decoder => exact decodeFrame_shapes decoded

/-! ### Every change keeps it so -/

namespace Session

theorem consistent_create (memory : Memory) (options : Options) :
    (create codec memory options).Consistent :=
  ⟨rfl, rfl, rfl, rfl⟩

theorem consistent_ended (session : Session codec) : session.ended.Consistent := ⟨rfl, rfl, rfl⟩

theorem consistent_change {session next : Session codec} (consistent : session.Consistent)
    (change : session.Change next) : next.Consistent := by
  cases change with
  | none => exact consistent
  | opened source opened fresh read =>
    simp only [Consistent, fresh] at consistent
    obtain ⟨_, _, geometry, raster⟩ := consistent
    exact ⟨⟨opened.metadata, rfl, Opened.read_size read⟩, ⟨opened.decoder, rfl⟩, geometry, raster⟩
  | unopened length fresh => exact consistent_ended _
  | decoded geometry raster ready read =>
    simp only [Consistent, ready] at consistent
    obtain ⟨⟨metadata, known, _⟩, _⟩ := consistent
    exact ⟨⟨metadata, known⟩, rfl, geometry, raster, rfl, rfl, decodeHeld_ok read⟩
  | undecoded ready => exact consistent_ended _
  | encoded ready =>
    simp only [Consistent, ready] at consistent
    obtain ⟨known, spent, geometry, _, held, _⟩ := consistent
    exact ⟨known, ⟨geometry, held⟩, spent, rfl⟩
  | unencoded ready => exact consistent_ended _
  | targeted quality takes valid =>
    simp only [Consistent] at consistent ⊢
    exact consistent
  | closed => exact ⟨rfl, rfl, rfl⟩

theorem consistent_after (memory : Memory) (options : Options) (operations : List Operation) :
    ((create codec memory options).after operations).Consistent :=
  after_induction (fun _ _ => consistent_change) _ operations (consistent_create memory options)

end Session

/-! ### Where the offered blocks start -/

/-- The rows that a call took. -/
def CodecCall.rowsTaken : CodecCall → Nat
  | .writeRows _ _ (.ok count) => count
  | _ => 0

/-- The rows that the calls took together. -/
def rowsTaken (calls : List CodecCall) : Nat := (calls.map CodecCall.rowsTaken).foldr (· + ·) 0

/-- Every block that the calls offer is the rest of the samples from the first row that was not
taken before, which is a row of the frame and starts inside the samples. -/
def OffersRest (samples : Bytes) (stride height : Nat) : Nat → List CodecCall → Prop
  | _, [] => True
  | row, .writeRows rows given answer :: rest =>
    (row < height ∧ row * stride ≤ samples.length ∧ rows = samples.drop (row * stride) ∧
      given = stride) ∧
      OffersRest samples stride height
        (row + CodecCall.rowsTaken (.writeRows rows given answer)) rest
  | row, _ :: rest => OffersRest samples stride height row rest

section Offers

variable {samples : Bytes} {stride height row : Nat} {α β : Type}

theorem Trace.calls_append (first second : Trace) :
    (first ++ second).calls = first.calls ++ second.calls := List.filterMap_append

/-- The end of a session calls nothing. -/
theorem Session.calls_fail (left : Session codec) (trace : Trace) (error : TranscodeError) :
    (left.fail trace error : Outcome codec α).trace.calls = trace.calls := by
  rw [fail, Trace.calls_append]
  exact List.append_nil _

theorem Session.calls_setTargetQuality (session : Session codec) (quality : UInt8) :
    (session.setTargetQuality quality).trace.calls = [] := by
  have targets := session.setTargetQuality_targets quality
  generalize session.setTargetQuality quality = outcome at targets
  cases targets with
  | ignored vain record => rfl
  | targeted takes valid => rfl

theorem offersRest_append {first second : List CodecCall} :
    OffersRest samples stride height row (first ++ second) ↔
      OffersRest samples stride height row first ∧
        OffersRest samples stride height (row + rowsTaken first) second := by
  induction first generalizing row with
  | nil => simp [OffersRest, rowsTaken]
  | cons call rest ih =>
    cases call <;>
      simp [OffersRest, rowsTaken, CodecCall.rowsTaken, ih, Nat.add_assoc, and_assoc]

/-- A chain offers the rest if each of its parts does. -/
theorem offersRest_bind {first : Sending α} {next : α → Sending β} {sink : Sink}
    (before : OffersRest samples stride height row (first sink).1.trace.calls)
    (later : ∀ value, OffersRest samples stride height
      (row + rowsTaken (first sink).1.trace.calls)
      (next value (first sink).2).1.trace.calls) :
    OffersRest samples stride height row ((first >>= next) sink).1.trace.calls := by
  match outcome : first sink with
  | (⟨trace, .error error⟩, after) =>
    rw [Sending.bind_error outcome]
    rw [outcome] at before
    exact before
  | (⟨trace, .ok value⟩, middle) =>
    rw [Sending.bind_ok outcome, Trace.calls_append, offersRest_append]
    rw [outcome] at before later
    exact ⟨before, later value⟩

/-- The encoding loop offers the rest of the samples, round after round. -/
theorem sendRows_offers {encoder : codec.Encoder} {sink : Sink}
    (whole : height * stride ≤ samples.length) :
    OffersRest samples stride height row
      (sendRows codec samples stride height row encoder sink).1.trace.calls := by
  have inside {row : Nat} (due : row < height) : row * stride ≤ samples.length :=
    Nat.le_trans (Nat.mul_le_mul_right stride (Nat.le_of_lt due)) whole
  induction row, encoder, sink using sendRows_rounds samples stride height with
  | done rows =>
    rw [sendRows_done rows]
    exact trivial
  | failed due answered =>
    rw [sendRows_error due answered]
    exact ⟨⟨due, inside due, rfl, rfl⟩, trivial⟩
  | bad due answered stuck =>
    rw [sendRows_bad due answered stuck]
    exact ⟨⟨due, inside due, rfl, rfl⟩, trivial⟩
  | more due answered stuck ih =>
    rw [sendRows_more due answered stuck]
    exact ⟨⟨due, inside due, rfl, rfl⟩, ih⟩

/-- Encoding a raster offers the rest of its samples, round after round. -/
theorem encodeRaster_offers {settings : EncoderSettings} {geometry : Geometry} {raster : Raster}
    (shapes : geometry.Shapes raster) (sink : Sink) :
    OffersRest raster.samples raster.stride raster.height 0
      (encodeRaster codec settings raster sink).1.trace.calls := by
  refine offersRest_bind trivial fun _ => ?_
  refine offersRest_bind trivial fun encoder => ?_
  refine offersRest_bind trivial fun encoder => ?_
  refine offersRest_bind (sendRows_offers (Nat.le_of_eq shapes.length_eq.symm)) fun encoder => ?_
  exact trivial

end Offers

/-! ### All runs -/

namespace Session

/-- **A session holds what its state calls for**, after every run of every codec. So decoding
always finds its decoder and encoding its geometry and its raster, and no block is taken from
beyond the end of the raster. -/
theorem holdings_after (codec : Codec) (memory : Memory) (options : Options)
    (operations : List Operation) :
    let session := (create codec memory options).after operations
    session.Consistent ∧
      (session.state = .headerRead → ∃ decoder,
        session.decoder = some decoder ∧
        decodeHeld codec session.memory session.decoder =
          decodeFrame codec session.memory decoder) ∧
      (session.state = .decoded → ∃ geometry raster,
        session.geometry = some geometry ∧ session.raster = some raster ∧
        session.encodeHeld =
          encodeRaster codec ⟨geometry, session.effectiveQuality, session.progressive, true⟩
            raster ∧
        ∀ sink, OffersRest raster.samples raster.stride raster.height 0
          (session.encode sink).1.trace.calls) := by
  intro session
  have consistent : session.Consistent := consistent_after memory options operations
  refine ⟨consistent, fun ready => ?_, fun ready => ?_⟩
  · simp only [Consistent, ready] at consistent
    obtain ⟨_, ⟨decoder, held⟩, _⟩ := consistent
    exact ⟨decoder, held, by rw [held]; rfl⟩
  · simp only [Consistent, ready] at consistent
    obtain ⟨_, _, geometry, raster, told, held, shapes⟩ := consistent
    have encodes := encodeHeld_eq told held
    refine ⟨geometry, raster, told, held, encodes, fun sink => ?_⟩
    have offers : OffersRest raster.samples raster.stride raster.height 0
        (encodeRaster codec ⟨geometry, session.effectiveQuality, session.progressive, true⟩ raster
          sink).1.trace.calls := encodeRaster_offers shapes sink
    rw [← encodes] at offers
    rw [encode, if_pos ready]
    match outcome : session.encodeHeld sink with
    | (⟨trace, .error error⟩, after) =>
      rw [outcome] at offers
      rw [calls_fail]
      exact offers
    | (⟨trace, .ok ()⟩, after) =>
      rw [outcome] at offers
      exact offers

/-- A script without faults, one row at a time. -/
def faultless (header : Header) (geometry : Geometry) : Scripted.Script where
  header := .ok header
  beginDecode := .ok geometry
  reads := []
  finishDecode := none
  createEncoder := none
  beginEncode := none
  writes := []
  finishEncode := none

/-- Two rows of two gray pixels, opened and then decoded. -/
theorem holdings_after_faultless :
    let codec := Scripted.codec (faultless ⟨2, 2, 1, false, Vector.replicate 4 none⟩ ⟨2, 2, .gray⟩)
    let opened := (create codec (.below 100) .default).after [.openBytes [0xFF]]
    let decoded := (create codec (.below 100) .default).after [.openBytes [0xFF], .decode]
    (opened.state = .headerRead ∧ ∃ decoder, opened.decoder = some decoder) ∧
      decoded.state = .decoded ∧ ∃ geometry raster,
        decoded.geometry = some geometry ∧ decoded.raster = some raster ∧
        OffersRest raster.samples raster.stride raster.height 0
          (decoded.encode .empty).1.trace.calls := by
  intro codec opened decoded
  have read : opened.state = .headerRead := by decide +kernel
  have filled : decoded.state = .decoded := by decide +kernel
  obtain ⟨_, decodes, _⟩ := holdings_after codec (.below 100) .default [.openBytes [0xFF]]
  obtain ⟨_, _, encodes⟩ := holdings_after codec (.below 100) .default [.openBytes [0xFF], .decode]
  obtain ⟨decoder, held, _⟩ := decodes read
  obtain ⟨geometry, raster, told, kept, _, offers⟩ := encodes filled
  exact ⟨⟨read, decoder, held⟩, filled, geometry, raster, told, kept, offers .empty⟩

end Session

end JpegTranscoder
