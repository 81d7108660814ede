/-
**What an operation can do to a session.**

Every operation either leaves the session as it was or makes one of eight changes, whatever the
codec, the source and the sink answer. A property of all sessions that are ever reached is proved
by looking at those changes:

* `perform_change`: the changes, with what is known when each is made;
* `after_induction`: what holds of a session at first and survives every operation holds after
  every run.
-/
import JpegTranscoder.Proofs.Session.Outcomes

namespace JpegTranscoder.Session

variable {codec : Codec} {session : Session codec}

/-! ### The changes -/

/-- The session ended by an error. -/
def ended (session : Session codec) : Session codec := { session.release with state := .failed }

/-- What an operation can make of a session. -/
inductive Change (session : Session codec) : Session codec → Prop where
  /-- The operation was refused or ignored. -/
  | none : Change session session
  /-- A source was opened. -/
  | opened (source : Bytes) (opened : Opened codec) (fresh : session.state = .created)
      (read : (Opened.read codec source).result = .ok opened) :
      Change session
        { session with
          state := .headerRead
          metadata := some opened.metadata
          progressive := opened.progressive
          sourceLength := source.length
          decoder := some opened.decoder }
  /-- A source could not be opened; its length is known if it was read to its end. -/
  | unopened (length : Nat) (fresh : session.state = .created) :
      Change session { session with sourceLength := length }.ended
  /-- The raster was decoded. -/
  | decoded (geometry : Geometry) (raster : Raster) (ready : session.state = .headerRead)
      (read : (decodeHeld codec session.memory session.decoder).result = .ok (geometry, raster)) :
      Change session
        { session with
          state := .decoded
          decoder := Option.none
          geometry := some geometry
          raster := some raster }
  /-- Decoding failed. -/
  | undecoded (ready : session.state = .headerRead) : Change session session.ended
  /-- The raster was encoded. -/
  | encoded (ready : session.state = .decoded) :
      Change session { session with state := .encoded, raster := Option.none }
  /-- Encoding failed. -/
  | unencoded (ready : session.state = .decoded) : Change session session.ended
  /-- A target quality was set. -/
  | targeted (quality : UInt8) (takes : session.takesTarget = true)
      (valid : isValidQuality quality = true) :
      Change session
        { session with options := { session.options with targetQuality := quality } }
  /-- The owner closed the session. -/
  | closed : Change session session.close

theorem Opens.change {outcome : Outcome codec Metadata} (opens : session.Opens outcome) :
    session.Change outcome.session := by
  cases opens with
  | refused misplaced => exact .none
  | broken fresh error => exact .unopened session.sourceLength fresh
  | empty fresh => exact .unopened session.sourceLength fresh
  | unopened fresh source failed => exact .unopened source.length fresh
  | opened fresh source read => exact .opened source _ fresh read

theorem Decodes.change {outcome : Outcome codec Unit} (decodes : session.Decodes outcome) :
    session.Change outcome.session := by
  cases decodes with
  | refused misplaced => exact .none
  | undecoded ready failed => exact .undecoded ready
  | decoded ready read => exact .decoded _ _ ready read

theorem Encodes.change {sink : Sink} {outcome : Outcome codec Unit × Sink}
    (encodes : session.Encodes sink outcome) : session.Change outcome.1.session := by
  cases encodes with
  | refused misplaced => exact .none
  | unencoded ready failed => exact .unencoded ready
  | encoded ready sent => exact .encoded ready

theorem Targets.change {quality : UInt8} {outcome : Outcome codec Unit}
    (targets : session.Targets quality outcome) : session.Change outcome.session := by
  cases targets with
  | ignored vain record => exact .none
  | targeted takes valid => exact .targeted quality takes valid

/-- **Every operation makes one of the changes.** -/
theorem perform_change (session : Session codec) (operation : Operation) :
    session.Change (session.perform operation).session := by
  cases operation with
  | openBytes source => exact (session.openBytes_opens source).change
  | openReader source => exact (session.openReader_opens source).change
  | decode => exact session.decode_decodes.change
  | encode sink => exact (session.encode_encodes sink).change
  | encodeToBytes => exact (session.encode_encodes .empty).change
  | setTargetQuality quality => exact (session.setTargetQuality_targets quality).change
  | close => exact .closed

/-! ### Runs -/

/-- The session that a run leaves behind. -/
def after (session : Session codec) : List Operation → Session codec
  | [] => session
  | operation :: rest => (session.perform operation).session.after rest

theorem after_append (session : Session codec) (first second : List Operation) :
    session.after (first ++ second) = (session.after first).after second := by
  induction first generalizing session with
  | nil => rfl
  | cons operation rest ih => exact ih _

theorem run_append (session : Session codec) (first second : List Operation) :
    session.run (first ++ second) = session.run first ++ (session.after first).run second := by
  induction first generalizing session with
  | nil => rfl
  | cons operation rest ih =>
    show _ :: (session.perform operation).session.run (rest ++ second) = _
    rw [ih]
    rfl

/-- **What holds at first and survives every operation holds after every run.** -/
theorem after_induction {holds : Session codec → Prop}
    (step : ∀ session next, holds session → session.Change next → holds next)
    (session : Session codec) (operations : List Operation) (start : holds session) :
    holds (session.after operations) := by
  induction operations generalizing session with
  | nil => exact start
  | cons operation rest ih =>
    exact ih _ (step _ _ start (session.perform_change operation))

end JpegTranscoder.Session
