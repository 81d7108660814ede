/-
**What a session learns of its source.**

The first opening that is not refused is the only one: it tells the session its metadata, whether
the frame is progressive and how long the source is, and from then on nothing changes these, neither
work nor an error nor the end of the session:

* `Session.learned`: what a session has learned, and `Learned.nothing` at first;
* `blank_change`, `settled_change`: what a change can do to it, before the opening and behind it;
* `Taught`: what an opening teaches, all that the header tells or at most a length;
* `Session.learned_once`: all runs.
-/
import JpegTranscoder.Proofs.Session.Chunks
import JpegTranscoder.Proofs.Session.Quality

namespace JpegTranscoder

/-- What is known of a source. -/
structure Learned where
  metadata : Option Metadata
  progressive : Bool
  sourceLength : Nat
  deriving DecidableEq

/-- What is known before a source is open. -/
def Learned.nothing : Learned := ⟨none, false, 0⟩

/-- The size that a header declares, with the estimate of its first two tables. -/
def Header.metadata (header : Header) : Metadata :=
  ⟨header.width, header.height, Quant.estimate (header.slots.get 0) (header.slots.get 1)⟩

/-- What a header and the length of its source tell. -/
def Learned.ofHeader (header : Header) (sourceLength : Nat) : Learned :=
  ⟨some header.metadata, header.progressive, sourceLength⟩

variable {codec : Codec}

namespace Session

variable {session next : Session codec} {facts : Learned} {operation : Operation}

/-- What a session has learned of its source. -/
def learned (session : Session codec) : Learned :=
  ⟨session.metadata, session.progressive, session.sourceLength⟩

/-! ### Before and behind the opening -/

/-- A session that is new has learned nothing. -/
def Blank (session : Session codec) : Prop :=
  session.state = .created → session.learned = .nothing

/-- A session that is no longer new has learned so much. -/
structure Settled (facts : Learned) (session : Session codec) : Prop where
  opened : session.state ≠ .created
  knows : session.learned = facts

theorem blank_create (memory : Memory) (options : Options) :
    (create codec memory options).Blank := fun _ => rfl

/-- Whatever changes a session makes it an old one, or leaves what it has learned alone. -/
theorem blank_change (blank : session.Blank) (change : session.Change next) : next.Blank := by
  cases change with
  | none => exact blank
  | targeted quality takes valid => exact blank
  -- Every other change leaves the first state behind.
  | _ => exact nofun

/-- What an old session has learned survives every change. -/
theorem settled_change (settled : session.Settled facts) (change : session.Change next) :
    next.Settled facts := by
  obtain ⟨opened, knows⟩ := settled
  cases change with
  | none => exact ⟨opened, knows⟩
  -- Only a new session learns, and this one is not.
  | opened source read fresh => exact absurd fresh opened
  | unopened length fresh => exact absurd fresh opened
  | targeted quality takes valid => exact ⟨opened, knows⟩
  | _ => exact ⟨nofun, knows⟩

theorem blank_after (codec : Codec) (memory : Memory) (options : Options)
    (operations : List Operation) : ((create codec memory options).after operations).Blank :=
  after_induction (fun _ _ => blank_change) _ operations (blank_create memory options)

/-- **Behind its opening a session learns nothing more**, and forgets nothing. -/
theorem Settled.after (settled : session.Settled facts) (operations : List Operation) :
    (session.after operations).Settled facts :=
  after_induction (fun _ _ => settled_change) session operations settled

/-! ### The opening -/

/-- What an opening teaches: what the header of its source tells, or at most the length of the
source if it fails. -/
inductive Taught (operation : Operation) (outcome : Outcome codec Answer) : Prop where
  | header (source : Bytes) (decoder : codec.Decoder) (header : Header)
      (opens : operation.Opens source) (given : source ≠ [])
      (answered : (codec.readHeader source).2 = .ok (decoder, header))
      (called : outcome.trace.calls = [.readHeader source (.ok header)])
      (wide : 1 < header.width) (high : 1 < header.height)
      (result : outcome.result = .ok (.metadata header.metadata))
      (settled : outcome.session.Settled (.ofHeader header source.length))
  | failed (error : TranscodeError) (sourceLength : Nat) (result : outcome.result = .error error)
      (settled : outcome.session.Settled ⟨none, false, sourceLength⟩)

/-- A session that fails has learned a length at most. -/
theorem taught_of_fail (blank : session.learned = .nothing) (sourceLength : Nat) (trace : Trace)
    (error : TranscodeError) (f : Metadata → Answer) :
    let reading : Session codec := { session with sourceLength }
    Taught operation ((reading.fail trace error).map f) := by
  intro reading
  have known : session.metadata = none := congrArg Learned.metadata blank
  have plain : session.progressive = false := congrArg Learned.progressive blank
  refine .failed error sourceLength rfl ⟨nofun, ?_⟩
  show Learned.mk session.metadata session.progressive sourceLength = _
  rw [known, plain]

/-- A session that has learned nothing learns what the source that it opens tells. -/
theorem openSource_taught {source : Bytes} (blank : session.learned = .nothing)
    (opens : operation.Opens source) :
    Taught operation ((session.openSource source).map .metadata) := by
  unfold openSource
  split
  · exact taught_of_fail blank session.sourceLength [] _ _
  · rename_i given
    rw [List.isEmpty_iff] at given
    simp only
    split
    · exact taught_of_fail blank source.length _ _ _
    · rename_i opened read
      obtain ⟨decoder, header, answered, wide, high, rfl⟩ := Opened.read_eq_ok_iff.mp read
      refine .header source decoder header opens given answered ?_ wide high rfl ⟨nofun, rfl⟩
      show (Opened.read codec source).trace.calls = _
      rw [Opened.read_calls, answered]
      rfl

/-- **What the opening of a new session teaches it.** -/
theorem perform_taught (fresh : session.state = .created) (blank : session.learned = .nothing)
    (opening : operation.stage = some .opening) : Taught operation (session.perform operation) := by
  cases operation with
  | openBytes source =>
    show Taught _ ((session.openBytes source).map _)
    rw [openBytes, if_pos fresh]
    exact openSource_taught blank rfl
  | openReader reader =>
    show Taught _ ((session.openReader reader).1.map _)
    rw [openReader, if_pos fresh]
    rcases answered : reader.readToEnd with ⟨error | bytes, after⟩
    · exact taught_of_fail blank session.sourceLength [] _ _
    · exact openSource_taught blank (congrArg Prod.fst answered)
  | _ => cases opening

section Taught

variable {outcome : Outcome codec Answer}

theorem Taught.opened (taught : Taught operation outcome) : outcome.session.state ≠ .created := by
  cases taught with
  | header _ _ _ _ _ _ _ _ _ _ settled => exact settled.opened
  | failed _ _ _ settled => exact settled.opened

/-- An opening tells the metadata exactly if it succeeds. -/
theorem Taught.metadata_iff (taught : Taught operation outcome) :
    (∃ metadata, outcome.session.metadata = some metadata) ↔
      ∃ answer, outcome.result = .ok answer := by
  cases taught with
  | header source decoder header opens given answered called wide high result settled =>
    exact ⟨fun _ => ⟨_, result⟩, fun _ => ⟨_, congrArg Learned.metadata settled.knows⟩⟩
  | failed error sourceLength result settled =>
    have unknown : outcome.session.metadata = none := congrArg Learned.metadata settled.knows
    constructor
    · rintro ⟨metadata, known⟩
      cases unknown.symm.trans known
    · rintro ⟨answer, succeeded⟩
      cases result.symm.trans succeeded

end Taught

/-- A new session opens a source exactly if the codec reads from it a header that is wider and
higher than 1. -/
theorem opened_iff (fresh : session.state = .created)
    (taught : Taught operation (session.perform operation)) :
    (∃ answer, (session.perform operation).result = .ok answer) ↔
      ∃ source decoder header, operation.Opens source ∧ source ≠ [] ∧
        (codec.readHeader source).2 = .ok (decoder, header) ∧
        1 < header.width ∧ 1 < header.height := by
  constructor
  · rintro ⟨answer, succeeded⟩
    cases taught with
    | header source decoder header opens given answered called wide high result settled =>
      exact ⟨source, decoder, header, opens, given, answered, wide, high⟩
    | failed error sourceLength result settled => cases result.symm.trans succeeded
  · rintro ⟨source, decoder, header, opens, given, answered, wide, high⟩
    have read := Opened.read_eq_ok_iff.mpr ⟨decoder, header, answered, wide, high, rfl⟩
    exact ⟨_, (perform_opening opens fresh given read).1⟩

/-! ### All runs -/

/-- **What a session learns of its source is written once**, in every run of every codec. A new
session has learned nothing. When it opens a source, it is new no longer, whether the opening fails
or not, and what it has learned then is what it has learned after every later run. It has metadata
exactly if the opening succeeded, which takes a header of the codec that is wider and higher than 1:
the size and the estimate of that header. Otherwise it never has any, nor a progressive frame.
Decoding leaves its options alone, and so does all but a request for a target. -/
theorem learned_once (codec : Codec) (memory : Memory) (options : Options) :
    let start := create codec memory options
    (∀ before opening, opening.stage = some .opening → (start.after before).state = .created →
      let outcome := (start.after before).perform opening
      let afterwards (later : List Operation) := start.after (before ++ opening :: later)
      (start.after before).learned = .nothing ∧
      (∀ later, (afterwards later).Settled outcome.session.learned) ∧
      ((∃ metadata, outcome.session.metadata = some metadata) ↔
        ∃ answer, outcome.result = .ok answer) ∧
      ((∃ answer, outcome.result = .ok answer) ↔
        ∃ source decoder header, opening.Opens source ∧ source ≠ [] ∧
          (codec.readHeader source).2 = .ok (decoder, header) ∧
          1 < header.width ∧ 1 < header.height) ∧
      (∀ answer, outcome.result = .ok answer → ∃ source header, opening.Opens source ∧
        outcome.trace.calls = [.readHeader source (.ok header)] ∧
        1 < header.width ∧ 1 < header.height ∧ answer = .metadata header.metadata ∧
        ∀ later, (afterwards later).learned = .ofHeader header source.length) ∧
      ∀ error, outcome.result = .error error →
        ∀ later, (afterwards later).metadata = none ∧ (afterwards later).progressive = false) ∧
    ∀ operations,
      let session := start.after operations
      session.decode.session.options = session.options ∧
      ∀ operation, (∀ quality, operation ≠ .setTargetQuality quality) →
        (session.perform operation).session.options = session.options := by
  intro start
  refine ⟨?_, fun operations => ⟨?_, fun operation => perform_options _⟩⟩
  · intro before opening staged fresh outcome afterwards
    have blank : (start.after before).learned = .nothing :=
      blank_after codec memory options before fresh
    have behind (later : List Operation) : afterwards later = outcome.session.after later :=
      after_append start before (opening :: later)
    have stays {facts : Learned} (settled : outcome.session.Settled facts)
        (later : List Operation) : (afterwards later).learned = facts := by
      rw [behind]
      exact (settled.after later).knows
    have taught : Taught opening outcome := perform_taught fresh blank staged
    refine ⟨blank, fun later => ?_, taught.metadata_iff, opened_iff fresh taught, ?_, ?_⟩
    · rw [behind]
      exact Settled.after ⟨taught.opened, rfl⟩ later
    · intro answer succeeded
      cases taught with
      | header source decoder header opens given answered called wide high result settled =>
        cases result.symm.trans succeeded
        exact ⟨source, header, opens, called, wide, high, rfl, stays settled⟩
      | failed error sourceLength result settled => cases result.symm.trans succeeded
    · intro error failed later
      cases taught with
      | header source decoder header opens given answered called wide high result settled =>
        cases result.symm.trans failed
      | failed error sourceLength result settled =>
        have kept := stays settled later
        exact ⟨congrArg Learned.metadata kept, congrArg Learned.progressive kept⟩
  · exact (start.after operations).decode_decodes.keeps.1

/-- A target is set, and then a source is opened: one whose header declares a progressive frame of
two columns and three rows, and one whose header declares a single column. -/
theorem learned_once_if_wide :
    let header (width : UInt16) : Header := ⟨width, 3, 1, true, Vector.replicate 4 none⟩
    let start (width : UInt16) :=
      create (Scripted.codec (faultless (header width) ⟨width, 3, .gray⟩)) (.below 100) .default
    let operations (later : List Operation) : List Operation :=
      .setTargetQuality 30 :: .openBytes [0xFF] :: later
    (∀ later, ((start 2).after (operations later)).learned = ⟨some ⟨2, 3, 0⟩, true, 1⟩) ∧
      (∀ later, ((start 1).after (operations later)).metadata = none ∧
        ((start 1).after (operations later)).progressive = false) ∧
      ∀ later, (((start 2).after (operations later)).perform .encodeToBytes).session.options =
        ((start 2).after (operations later)).options := by
  intro header start operations
  have fresh (width : UInt16) : ((start width).after [.setTargetQuality 30]).state = .created := rfl
  obtain ⟨wide, options⟩ := learned_once
    (Scripted.codec (faultless (header 2) ⟨2, 3, .gray⟩)) (.below 100) .default
  obtain ⟨thin, _⟩ := learned_once
    (Scripted.codec (faultless (header 1) ⟨1, 3, .gray⟩)) (.below 100) .default
  obtain ⟨_, _, _, _, taught, _⟩ := wide [.setTargetQuality 30] (.openBytes [0xFF]) rfl (fresh 2)
  obtain ⟨_, _, _, _, _, failed⟩ := thin [.setTargetQuality 30] (.openBytes [0xFF]) rfl (fresh 1)
  refine ⟨?_, fun later => failed _ rfl later, fun later => ?_⟩
  · obtain ⟨source, told, opens, called, _, _, _, learned⟩ := taught _ rfl
    intro later
    cases called
    exact (learned later).trans (by decide +kernel)
  · exact (options (operations later)).2 .encodeToBytes nofun

end Session

end JpegTranscoder
