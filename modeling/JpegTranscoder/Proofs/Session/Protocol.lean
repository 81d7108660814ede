/-
**Every session keeps to the protocol.**

Whatever is asked of a session and whatever its codec answers, the calls that it makes in its whole
life keep to `Protocol`. Each piece of work is followed from where the conversation with the codec
stands to where it leads:

* `Attempt.Leads`, `Sending.Leads`: the calls of some work may be made, and where it leads when it
  succeeds, with a rule for one work after another;
* `Opened.read_leads`, `decodeFrame_leads`, `encodeRaster_leads`: the three stages;
* `Session.Stands`: where the conversation is, by the state of the session;
* `perform_continues`, `history_continues`: one operation, and then every run;
* `Session.history_protocol`: the calls of all runs of all sessions.
-/
import JpegTranscoder.Proofs.Session.Conversation

namespace JpegTranscoder

variable {codec : Codec} {α β : Type} {start : Progress} {goal : α → Progress}

/-! ### Where work leads -/

/-- Work whose calls may all be made from a point of a conversation on, and which leads to another
when it succeeds. -/
structure Attempt.Leads (attempt : Attempt α) (start : Progress) (goal : α → Progress) : Prop where
  follows : start.Follows attempt.trace.calls
  arrives : ∀ {value}, attempt.result = .ok value → start.after attempt.trace.calls = goal value

namespace Attempt

/-- Work without a call leads nowhere. -/
theorem leads_quiet {attempt : Attempt α} (quiet : attempt.trace.calls = []) :
    attempt.Leads start fun _ => start := by
  constructor
  · rw [quiet]
    trivial
  · intro value _
    rw [quiet]
    rfl

/-- Work of a single call leads where the answer does. -/
theorem leads_single {attempt : Attempt α} {call : CodecCall}
    (single : attempt.trace.calls = [call]) (admitted : start.Admits call)
    (arrives : ∀ {value}, attempt.result = .ok value → start.next call = goal value) :
    attempt.Leads start goal := by
  constructor
  · rw [single]
    exact ⟨admitted, trivial⟩
  · intro value told
    rw [single]
    exact arrives told

/-- Work that goes on where other work led. -/
theorem Leads.continued {first : Attempt β} {rest : Attempt α} {middle : β → Progress} {value : β}
    (before : first.Leads start middle) (told : first.result = .ok value)
    (later : rest.Leads (middle value) goal) :
    Leads ⟨first.trace ++ rest.trace, rest.result⟩ start goal := by
  obtain ⟨follows, arrives⟩ := later
  rw [← before.arrives told] at follows arrives
  constructor
  · rw [Trace.calls_append, Progress.follows_append]
    exact ⟨before.follows, follows⟩
  · intro last succeeded
    rw [Trace.calls_append, Progress.after_append]
    exact arrives succeeded

theorem Leads.bind {first : Attempt β} {next : β → Attempt α} {middle : β → Progress}
    (before : first.Leads start middle)
    (later : ∀ value, first.result = .ok value → (next value).Leads (middle value) goal) :
    (first >>= next).Leads start goal := by
  cases told : first.result with
  | error error =>
    rw [bind_error told]
    exact ⟨before.follows, nofun⟩
  | ok value =>
    rw [bind_ok told]
    exact before.continued told (later value told)

end Attempt

/-- Work on a sink that leads from one point of a conversation to another, whatever the sink. -/
def Sending.Leads (work : Sending α) (start : Progress) (goal : α → Progress) : Prop :=
  ∀ sink, (work sink).1.Leads start goal

theorem Sending.Leads.bind {first : Sending β} {next : β → Sending α} {middle : β → Progress}
    (before : first.Leads start middle) (later : ∀ value, (next value).Leads (middle value) goal) :
    (first >>= next).Leads start goal := by
  intro sink
  have led := before sink
  match outcome : first sink with
  | (⟨trace, .error error⟩, after) =>
    rw [outcome] at led
    rw [bind_error outcome]
    exact ⟨led.follows, nofun⟩
  | (⟨trace, .ok value⟩, middle) =>
    rw [outcome] at led
    rw [bind_ok outcome]
    exact led.continued rfl (later value middle)

/-! ### Opening -/

theorem Trace.calls_logged (log : List Log.Record) : Trace.calls (log.map .logged) = [] := by
  induction log with
  | nil => rfl
  | cons record rest ih => exact ih

theorem Attempt.readHeader_leads (source : Bytes) :
    (Attempt.readHeader codec source).Leads .fresh fun (_, header) =>
      .opened header.progressive := by
  match answered : codec.readHeader source with
  | (log, answer) =>
    have read : Attempt.readHeader codec source =
        ⟨.called (.readHeader source (answer.map Prod.snd)) :: log.map .logged,
          answer.mapError .ofCodec⟩ := by
      rw [Attempt.readHeader, answered]
    rw [read]
    refine leads_single (congrArg _ (Trace.calls_logged log)) .readHeader ?_
    rintro ⟨decoder, header⟩ told
    rw [ok_of_mapError told]
    rfl

theorem Opened.read_leads (codec : Codec) (source : Bytes) :
    (Opened.read codec source).Leads .fresh fun opened => .opened opened.progressive := by
  refine (Attempt.readHeader_leads source).bind fun (decoder, header) _ => ?_
  simp only
  split
  · exact ⟨trivial, nofun⟩
  · refine (Attempt.leads_quiet rfl).bind fun _ _ => ?_
    refine (Attempt.leads_quiet (Trace.calls_logged _)).bind fun quality _ => ?_
    refine (Attempt.leads_quiet rfl).bind fun _ _ => ?_
    exact ⟨trivial, fun told => by cases told; rfl⟩

/-! ### Decoding -/

section Rows

variable {progressive : Bool} {geometry : Geometry} {raster : Raster} {row : Nat}

/-- A row that is due may be read, whatever the answer. -/
theorem Progress.admits_readRows (shapes : geometry.Shapes raster) (due : row < geometry.rows)
    (answer : Except CodecError Nat) :
    (Progress.reading progressive geometry row).Admits
      (.readRows (raster.rowsFrom row).length geometry.stride answer) := by
  rw [shapes.rowsFrom_eq due, Geometry.length_drop_rows shapes.length_eq_byteCount]
  exact .readRows due

/-- The decoding loop asks for the rows that are left, and leads behind the last. -/
theorem fillRaster_leads {decoder : codec.Decoder} (shapes : geometry.Shapes raster)
    (bound : row ≤ geometry.rows) :
    (fillRaster codec geometry.stride geometry.rows row decoder raster).Leads
      (.reading progressive geometry row) fun _ => .reading progressive geometry geometry.rows := by
  induction row, decoder, raster using fillRaster_rounds geometry.stride geometry.rows with
  | done rows =>
    cases Nat.le_antisymm bound rows
    rw [fillRaster_done rows]
    exact Attempt.leads_quiet rfl
  | failed due answered =>
    rw [fillRaster_error due answered]
    exact Attempt.leads_single rfl (Progress.admits_readRows shapes due _) nofun
  | bad due answered stuck =>
    rw [fillRaster_bad due answered stuck]
    exact Attempt.leads_single rfl (Progress.admits_readRows shapes due _) nofun
  | @more row decoder raster count block next due answered good ih =>
    obtain ⟨follows, arrives⟩ := ih (Geometry.shapes_setRowsFrom shapes row block.val) (by omega)
    have advanced : (Progress.reading progressive geometry row).next
        (.readRows (raster.rowsFrom row).length geometry.stride (.ok count)) =
        .reading progressive geometry (row + count) := if_neg good
    rw [← advanced] at follows arrives
    rw [fillRaster_more due answered good]
    exact ⟨⟨Progress.admits_readRows shapes due _, follows⟩, arrives⟩

theorem decodeFrame_leads (progressive : Bool) (memory : Memory) (decoder : codec.Decoder) :
    (decodeFrame codec memory decoder).Leads (.opened progressive) fun (geometry, _) =>
      .decoded progressive geometry := by
  have began (answer : Except CodecError Geometry) :
      (Attempt.call (.beginDecode answer) answer).Leads (.opened progressive) fun geometry =>
        .reading progressive geometry 0 := by
    refine Attempt.leads_single rfl .beginDecode fun told => ?_
    rw [Attempt.result_of_call told]
    rfl
  refine (began _).bind fun geometry _ => ?_
  refine (Attempt.leads_quiet rfl).bind fun raster allocated => ?_
  have shapes := Geometry.shapes_allocate (ok_of_mapError allocated)
  refine (fillRaster_leads shapes (Nat.zero_le _)).bind fun (last, filled) _ => ?_
  have finished (answer : Except CodecError Unit) :
      (Attempt.call (.finishDecode answer) answer).Leads
        (.reading progressive geometry geometry.rows) fun _ => .decoded progressive geometry := by
    refine Attempt.leads_single rfl (.finishDecode shapes.rows_pos) fun told => ?_
    rw [Attempt.result_of_call told]
    rfl
  refine (finished _).bind fun _ _ => ?_
  exact ⟨trivial, fun told => by cases told; rfl⟩

/-! ### Encoding -/

/-- The encoding loop offers the rows that are left, and leads behind the last. -/
theorem sendRows_leads {encoder : codec.Encoder} (shapes : geometry.Shapes raster)
    (bound : row ≤ geometry.rows) :
    (sendRows codec raster.samples geometry.stride geometry.rows row encoder).Leads
      (.writing progressive geometry row) fun _ => .writing progressive geometry geometry.rows := by
  intro sink
  have admitted {row : Nat} (due : row < geometry.rows) (answer : Except CodecError Nat) :
      (Progress.writing progressive geometry row).Admits
        (.writeRows (raster.samples.drop (row * geometry.stride)) geometry.stride answer) :=
    .writeRows due (Geometry.length_drop_rows shapes.length_eq_byteCount row)
  induction row, encoder, sink using
      sendRows_rounds raster.samples geometry.stride geometry.rows with
  | done rows =>
    cases Nat.le_antisymm bound rows
    rw [sendRows_done rows]
    exact Attempt.leads_quiet rfl
  | failed due answered =>
    rw [sendRows_error due answered]
    exact Attempt.leads_single rfl (admitted due _) nofun
  | bad due answered stuck =>
    rw [sendRows_bad due answered stuck]
    exact Attempt.leads_single rfl (admitted due _) nofun
  | @more row encoder sink count next after due answered good ih =>
    obtain ⟨follows, arrives⟩ := ih (by omega)
    have advanced : (Progress.writing progressive geometry row).next
        (.writeRows (raster.samples.drop (row * geometry.stride)) geometry.stride (.ok count)) =
        .writing progressive geometry (row + count) := if_neg good
    rw [← advanced] at follows arrives
    rw [sendRows_more due answered good]
    exact ⟨⟨admitted due _, follows⟩, arrives⟩

theorem encodeRaster_leads (shapes : geometry.Shapes raster) (quality : UInt8) :
    (encodeRaster codec ⟨geometry, quality, progressive, true⟩ raster).Leads
      (.decoded progressive geometry) fun _ => .over := by
  have created : (Sending.createEncoder codec).Leads (.decoded progressive geometry) fun _ =>
      .created progressive geometry := by
    refine fun sink => Attempt.leads_single rfl .createEncoder fun told => ?_
    rw [Attempt.result_of_call told]
    rfl
  have began (encoder : codec.Encoder) :
      (Sending.beginEncode codec encoder ⟨geometry, quality, progressive, true⟩).Leads
        (.created progressive geometry) fun _ => .writing progressive geometry 0 := by
    refine fun sink => Attempt.leads_single rfl .beginEncode fun told => ?_
    have begun := Attempt.result_of_call told
    cases answer : (codec.beginEncode encoder ⟨geometry, quality, progressive, true⟩ sink).1 with
    | error error =>
      rw [answer] at begun
      cases begun
    | ok => rfl
  have finished (encoder : codec.Encoder) :
      (Sending.finishEncode codec encoder).Leads (.writing progressive geometry geometry.rows)
        fun _ => .over :=
    fun sink => Attempt.leads_single rfl (.finishEncode shapes.rows_pos) fun _ => rfl
  refine Sending.Leads.bind (fun _ => Attempt.leads_quiet rfl) fun _ => ?_
  refine created.bind fun encoder => ?_
  refine (began encoder).bind fun encoder => ?_
  rw [shapes.stride_eq, shapes.height_eq]
  refine (sendRows_leads shapes (Nat.zero_le _)).bind fun encoder => ?_
  exact finished encoder

end Rows

/-! ### One operation -/

namespace Session

variable {session : Session codec} {progress : Progress}

/-- Where the conversation of a session is, as far as its state tells. -/
def Stands (session : Session codec) (progress : Progress) : Prop :=
  match session.state with
  | .created => progress = .fresh
  | .headerRead => progress = .opened session.progressive
  | .decoded =>
    ∃ geometry, session.geometry = some geometry ∧ progress = .decoded session.progressive geometry
  | .encoded | .closed | .failed => True

/-- What an operation asks of the codec may be asked, and the session stands where it leads. -/
structure Continues (progress : Progress) (outcome : Outcome codec α) : Prop where
  follows : progress.Follows outcome.trace.calls
  stands : outcome.session.Stands (progress.after outcome.trace.calls)

theorem Continues.map {outcome : Outcome codec α} (f : α → β)
    (continues : Continues progress outcome) : Continues progress (outcome.map f) :=
  ⟨continues.follows, continues.stands⟩

/-- What makes no call and changes nothing that counts for the codec. -/
theorem continues_quiet {outcome : Outcome codec α} (quiet : outcome.trace.calls = [])
    (stands : outcome.session.Stands progress) : Continues progress outcome := by
  constructor
  · rw [quiet]
    trivial
  · rw [quiet]
    exact stands

theorem continues_fail (left : Session codec) {trace : Trace} (error : TranscodeError)
    (follows : progress.Follows trace.calls) :
    Continues progress (left.fail trace error : Outcome codec α) := by
  constructor
  · rw [calls_fail]
    exact follows
  · trivial

theorem Opens.continues {outcome : Outcome codec Metadata} (opens : session.Opens outcome)
    (stands : session.Stands progress) : Continues progress outcome := by
  have begins (fresh : session.state = .created) : progress = .fresh := by
    simpa only [Stands, fresh] using stands
  cases opens with
  | refused misplaced => exact continues_quiet rfl stands
  | broken fresh error => exact continues_fail session _ trivial
  | empty fresh => exact continues_fail session _ trivial
  | unopened fresh source failed =>
    rw [begins fresh]
    exact continues_fail _ _ (Opened.read_leads codec source).follows
  | opened fresh source read =>
    rw [begins fresh]
    obtain ⟨follows, arrives⟩ := Opened.read_leads codec source
    exact ⟨follows, arrives read⟩

theorem Decodes.continues {outcome : Outcome codec Unit} (decodes : session.Decodes outcome)
    (consistent : session.Consistent) (stands : session.Stands progress) :
    Continues progress outcome := by
  have leads (ready : session.state = .headerRead) :
      (decodeHeld codec session.memory session.decoder).Leads progress
        fun (geometry, _) => .decoded session.progressive geometry := by
    simp only [Consistent, Stands, ready] at consistent stands
    obtain ⟨_, ⟨decoder, held⟩, _⟩ := consistent
    rw [stands, held]
    exact decodeFrame_leads session.progressive session.memory decoder
  cases decodes with
  | refused misplaced => exact continues_quiet rfl stands
  | undecoded ready failed => exact continues_fail session _ (leads ready).follows
  | decoded ready read => exact ⟨(leads ready).follows, _, rfl, (leads ready).arrives read⟩

theorem Encodes.continues {sink : Sink} {outcome : Outcome codec Unit × Sink}
    (encodes : session.Encodes sink outcome) (consistent : session.Consistent)
    (stands : session.Stands progress) : Continues progress outcome.1 := by
  have leads (ready : session.state = .decoded) :
      session.encodeHeld.Leads progress fun _ => .over := by
    simp only [Consistent, Stands, ready] at consistent stands
    obtain ⟨_, _, geometry, raster, told, held, shapes⟩ := consistent
    obtain ⟨known, same, rfl⟩ := stands
    cases told.symm.trans same
    rw [encodeHeld_eq told held]
    exact encodeRaster_leads shapes session.effectiveQuality
  cases encodes with
  | refused misplaced => exact continues_quiet rfl stands
  | unencoded ready failed =>
    have led := leads ready sink
    rw [failed] at led
    exact continues_fail session _ led.follows
  | encoded ready sent =>
    have led := leads ready sink
    rw [sent] at led
    exact ⟨led.follows, trivial⟩

theorem Targets.continues {quality : UInt8} {outcome : Outcome codec Unit}
    (targets : session.Targets quality outcome) (stands : session.Stands progress) :
    Continues progress outcome := by
  cases targets with
  | ignored vain record => exact continues_quiet rfl stands
  | targeted takes valid => exact continues_quiet rfl stands

/-- **An operation goes on with the conversation** where the operations before it left it. -/
theorem perform_continues (consistent : session.Consistent) (stands : session.Stands progress)
    (operation : Operation) : Continues progress (session.perform operation) := by
  cases operation with
  | openBytes source => exact ((session.openBytes_opens source).continues stands).map _
  | openReader source => exact ((session.openReader_opens source).continues stands).map _
  | decode => exact (session.decode_decodes.continues consistent stands).map _
  | encode sink => exact ((session.encode_encodes sink).continues consistent stands).map _
  | encodeToBytes =>
    have continues := (session.encode_encodes .empty).continues consistent stands
    exact ⟨continues.follows, continues.stands⟩
  | setTargetQuality quality =>
    exact ((session.setTargetQuality_targets quality).continues stands).map _
  | close => exact continues_quiet rfl trivial

/-! ### All runs -/

/-- All that happens in a run. -/
def history (session : Session codec) (operations : List Operation) : Trace :=
  (session.run operations).flatMap Outcome.trace

theorem history_cons (session : Session codec) (operation : Operation) (rest : List Operation) :
    session.history (operation :: rest) =
      (session.perform operation).trace ++ (session.perform operation).session.history rest :=
  List.flatMap_cons

theorem history_append (session : Session codec) (first second : List Operation) :
    session.history (first ++ second) =
      session.history first ++ (session.after first).history second := by
  rw [history, run_append, List.flatMap_append]
  rfl

theorem history_concat (session : Session codec) (operations : List Operation)
    (operation : Operation) :
    session.history (operations ++ [operation]) =
      session.history operations ++ ((session.after operations).perform operation).trace := by
  rw [history_append]
  exact congrArg _ (List.append_nil _)

/-- **What holds of a session and its past, and survives every operation, holds after every
run.** -/
theorem history_induction {holds : Trace → Session codec → Prop}
    (step : ∀ {past session}, holds past session → ∀ operation,
      holds (past ++ (session.perform operation).trace) (session.perform operation).session)
    {past : Trace} {session : Session codec} (start : holds past session)
    (operations : List Operation) :
    holds (past ++ session.history operations) (session.after operations) := by
  induction operations generalizing past session with
  | nil =>
    rw [history, run, List.flatMap_nil, List.append_nil]
    exact start
  | cons operation rest ih =>
    rw [history_cons, ← List.append_assoc]
    exact ih (step start operation)

/-- A run goes on with the conversation, and the session it leaves stands where the run led. -/
theorem history_continues (consistent : session.Consistent) (stands : session.Stands progress)
    (operations : List Operation) :
    progress.Follows (session.history operations).calls ∧
      (session.after operations).Stands
        (progress.after (session.history operations).calls) := by
  induction operations generalizing session progress with
  | nil => exact ⟨trivial, stands⟩
  | cons operation rest ih =>
    have continues := perform_continues consistent stands operation
    obtain ⟨follows, reached⟩ :=
      ih (consistent_change consistent (session.perform_change operation)) continues.stands
    rw [history_cons, Trace.calls_append, Progress.follows_append, Progress.after_append]
    exact ⟨⟨continues.follows, follows⟩, reached⟩

/-- **Every session keeps to the protocol.** Whatever the codec answers and whatever is asked of the
session, in any order, the calls that it makes in its whole life come in the order of one transcode,
none behind an error, each with the rows, the stride and the settings that the answers before it
determine. -/
theorem history_protocol (codec : Codec) (memory : Memory) (options : Options)
    (operations : List Operation) :
    Protocol ((create codec memory options).history operations).calls :=
  (history_continues (consistent_create memory options) rfl operations).1.protocol

/-- Two rows of two gray pixels, decoded twice and closed after encoding. -/
example :
    let codec := Scripted.codec (faultless ⟨2, 2, 1, false, Vector.replicate 4 none⟩ ⟨2, 2, .gray⟩)
    let session := create codec (.below 100) .default
    let operations := [.openBytes [0xFF], .decode, .decode, .encodeToBytes, .close]
    (session.history operations).calls.map CodecCall.kind = wholeLife 1 1 := by
  decide +kernel

end Session

end JpegTranscoder
