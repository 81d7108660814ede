/-
**Misplaced operations.**

An operation in a wrong state is refused and leaves everything alone: the session, the codec, and
the reader or the sink that it was given. So a run goes on as if it had not been asked for:

* `isRefused_perform_iff`: exactly the misplaced operations are refused;
* `Interspersed.run`: what a run answers when misplaced operations are put in;
* `misplaced_harmless`: both, of every session.
-/
import JpegTranscoder.Proofs.Session.Endings
import JpegTranscoder.Proofs.Session.Holdings

namespace JpegTranscoder

variable {codec : Codec}

/-- An operation in a state that is not the one it needs. -/
def Operation.Misplaced (operation : Operation) (state : State) : Prop :=
  ∃ stage, operation.stage = some stage ∧ state ≠ stage.needs

/-- Whether an operation was refused for the state of the session. -/
def Outcome.isRefused {α : Type} (outcome : Outcome codec α) : Bool :=
  match outcome.result with
  | .ok _ => false
  | .error error => error.isMisuse

namespace Session

variable {session : Session codec} {operation : Operation}

/-! ### One operation -/

/-- **Exactly the misplaced operations are refused.** -/
theorem isRefused_perform_iff (session : Session codec) (operation : Operation) :
    (session.perform operation).isRefused = true ↔ operation.Misplaced session.state := by
  constructor
  · intro refused
    cases answered : (session.perform operation).result with
    | ok answer =>
      rw [Outcome.isRefused, answered] at refused
      cases refused
    | error error =>
      rw [Outcome.isRefused, answered] at refused
      cases staged : operation.stage with
      | none =>
        obtain ⟨⟨answer, succeeded⟩, _⟩ := session.perform_unstaged staged
        rw [answered] at succeeded
        cases succeeded
      | some stage =>
        refine ⟨stage, staged, fun ready => ?_⟩
        have genuine := perform_ready staged ready answered
        have reported : error.isMisuse = true := refused
        rw [reported] at genuine
        cases genuine
  · rintro ⟨stage, staged, misplaced⟩
    rw [perform_misplaced staged misplaced]
    rfl

/-- A refused operation reads nothing. -/
theorem openReader_misplaced (misplaced : session.state ≠ .created) (reader : Source) :
    (session.openReader reader).2 = reader := by
  rw [openReader, if_neg misplaced]

/-- A refused operation writes nothing. -/
theorem encode_misplaced (misplaced : session.state ≠ .decoded) (sink : Sink) :
    (session.encode sink).2 = sink := by
  rw [encode, if_neg misplaced]

/-! ### Runs -/

/-- A run with misplaced operations put in, each where it is misplaced. -/
inductive Interspersed : Session codec → List Operation → List Operation → Prop where
  | nil {session : Session codec} : Interspersed session [] []
  /-- An operation of the run. -/
  | kept {session : Session codec} {shorter longer : List Operation} (operation : Operation)
      (rest : Interspersed (session.perform operation).session shorter longer) :
      Interspersed session (operation :: shorter) (operation :: longer)
  /-- An operation that was put in. -/
  | added {session : Session codec} {shorter longer : List Operation} {operation : Operation}
      (misplaced : operation.Misplaced session.state)
      (rest : Interspersed (session.perform operation).session shorter longer) :
      Interspersed session shorter (operation :: longer)

/-- **Misplaced operations leave a run as it is**, but for their refusals. -/
theorem Interspersed.run {shorter longer : List Operation}
    (interspersed : session.Interspersed shorter longer) :
    (session.run longer).filter (fun outcome => !outcome.isRefused) =
        (session.run shorter).filter (fun outcome => !outcome.isRefused) ∧
      session.after longer = session.after shorter := by
  induction interspersed with
  | nil => exact ⟨rfl, rfl⟩
  | kept operation rest ih =>
    refine ⟨?_, ih.2⟩
    rw [Session.run, Session.run, List.filter_cons, List.filter_cons, ih.1]
  | @added session shorter longer operation misplaced rest ih =>
    have refused := (session.isRefused_perform_iff operation).mpr misplaced
    obtain ⟨stage, staged, wrong⟩ := misplaced
    have same : (session.perform operation).session = session := by
      rw [perform_misplaced staged wrong]
      rfl
    rw [same] at ih
    constructor
    · rw [Session.run, List.filter_cons, refused, same, ih.1]
      rfl
    · show (session.perform operation).session.after longer = _
      rw [same, ih.2]

/-- **Misuse is told apart exactly, and has no effect.** An operation reports a wrong state if and
only if the session is not in the state that it needs; then the report names the operation and the
state, the session is as before, nothing was called, read or written. A run without refusals answers
the same, and leaves the same session behind, whatever misplaced operations are put in. -/
theorem misplaced_harmless (session : Session codec) :
    (∀ operation stage, operation.stage = some stage →
      ((∃ named told, (session.perform operation).result = .error (.invalidState named told)) ↔
        session.state ≠ stage.needs) ∧
      (session.state ≠ stage.needs →
        session.perform operation =
          ⟨.error (.invalidState stage session.state), session, []⟩)) ∧
      (∀ reader, session.state ≠ .created → (session.openReader reader).2 = reader) ∧
      (∀ sink, session.state ≠ .decoded → (session.encode sink).2 = sink) ∧
      ∀ shorter longer, (∀ outcome ∈ session.run shorter, outcome.isRefused = false) →
        session.Interspersed shorter longer →
        (session.run longer).filter (fun outcome => !outcome.isRefused) = session.run shorter ∧
          session.after longer = session.after shorter := by
  refine ⟨fun operation stage staged => ⟨⟨?_, ?_⟩, perform_misplaced staged⟩, ?_, ?_, ?_⟩
  · rintro ⟨named, told, reported⟩ ready
    cases perform_ready staged ready reported
  · intro misplaced
    exact ⟨stage, session.state, by rw [perform_misplaced staged misplaced]; rfl⟩
  · exact fun reader misplaced => openReader_misplaced misplaced reader
  · exact fun sink misplaced => encode_misplaced misplaced sink
  · intro shorter longer correct interspersed
    obtain ⟨answers, same⟩ := interspersed.run
    refine ⟨answers.trans (List.filter_eq_self.mpr fun outcome member => ?_), same⟩
    rw [correct outcome member]
    rfl

/-- A frame that is opened, decoded and encoded, while everything else is asked for as well. -/
theorem misplaced_harmless_faultless :
    let codec := Scripted.codec (faultless ⟨2, 2, 1, false, Vector.replicate 4 none⟩ ⟨2, 2, .gray⟩)
    let session := create codec (.below 100) .default
    let asked : List Operation := [.openBytes [0xFF], .decode, .encodeToBytes]
    let besides : List Operation :=
      [.decode, .openBytes [0xFF], .encode .empty, .openReader (.ofBytes [0xFF]), .decode,
        .openBytes [], .encodeToBytes, .encodeToBytes]
    (∀ outcome ∈ session.run asked, outcome.isRefused = false) ∧
      (session.run besides).filter (fun outcome => !outcome.isRefused) = session.run asked ∧
      (session.after besides).state = .encoded := by
  intro codec session asked besides
  have correct : ∀ outcome ∈ session.run asked, outcome.isRefused = false := by decide +kernel
  have interspersed : session.Interspersed asked besides :=
    .added ⟨.decoding, rfl, by decide +kernel⟩ <| .kept _ <|
      .added ⟨.encoding, rfl, by decide +kernel⟩ <| .added ⟨.opening, rfl, by decide +kernel⟩ <|
      .kept _ <| .added ⟨.opening, rfl, by decide +kernel⟩ <| .kept _ <|
      .added ⟨.encoding, rfl, by decide +kernel⟩ .nil
  obtain ⟨_, _, _, runs⟩ := misplaced_harmless session
  obtain ⟨answers, same⟩ := runs asked besides correct interspersed
  refine ⟨correct, answers, ?_⟩
  rw [same]
  decide +kernel

end Session

end JpegTranscoder
