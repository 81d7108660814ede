/-
**Rows of a whole source.**

A decoder gives its source away when rows are first due, and keeps nothing of it if the engine
fails, or if there is no memory to stage what it would decode. Whatever calls are made of it, in
whatever order:

* `asked_eq_none_iff`: which reads run the engine;
* `Course.serve`: what one call can come to;
* `Course.serveAll`: what calls one after another come to;
* `serveAll_whole`: rows come only from a source that has its end and was decoded.
-/
import JpegTranscoder.Proofs.Scanline.Reading

namespace JpegTranscoder.Scanline.Decoder

variable {engine : Engine} {memory : Memory} {source : Bytes} {offer : Offer} {shape : Geometry}
  {frame : Frame.Samples shape} {decoder : Decoder} {buffer : Bytes} {stride row : Nat}

/-! ### Runs of the engine -/

/-- There is room for the rows of a read: it takes the whole frame, or there is memory to stage
it. -/
def HasRoom (memory : Memory) (shape : Geometry) (decoder : Decoder) (count : Nat) : Prop :=
  (decoder.nextRow = 0 ∧ count = shape.rows) ∨ memory.grants shape.byteCount = true

instance (memory : Memory) (shape : Geometry) (decoder : Decoder) (count : Nat) :
    Decidable (HasRoom memory shape decoder count) :=
  inferInstanceAs (Decidable (_ ∨ _))

/-- The source that a read has the engine decode, if it runs it. -/
def asked (memory : Memory) (decoder : Decoder) (buffer : Bytes) (stride : Nat) : Option Bytes :=
  decoder.geometry.bind fun shape =>
    let count := shape.rowsIn buffer decoder.nextRow
    if stride = shape.stride ∧ count ≠ 0 ∧ HasRoom memory shape decoder count then
      decoder.source.map Prod.fst
    else none

/-- A read gives rows of a shape. -/
structure Moves (shape : Geometry) (decoder : Decoder) (buffer : Bytes) (stride : Nat) : Prop where
  geometry_eq : decoder.geometry = some shape
  stride_eq : stride = shape.stride
  rows_ne : shape.rowsIn buffer decoder.nextRow ≠ 0

/-- Rows of no bytes are not counted. -/
theorem Moves.wide (moves : Moves shape decoder buffer stride) : 0 < shape.stride := by
  refine Nat.pos_of_ne_zero fun empty => moves.rows_ne ?_
  rw [Geometry.rowsIn, empty, Nat.div_zero, Nat.zero_min]

theorem Moves.high (moves : Moves shape decoder buffer stride) : 0 < shape.rows := by
  refine Nat.pos_of_ne_zero fun empty => moves.rows_ne ?_
  rw [Geometry.rowsIn, empty, Nat.zero_sub, Nat.min_zero]

theorem Moves.asked_eq (moves : Moves shape decoder buffer stride)
    (room : HasRoom memory shape decoder (shape.rowsIn buffer decoder.nextRow)) :
    decoder.asked memory buffer stride = decoder.source.map Prod.fst := by
  rw [asked, moves.geometry_eq]
  exact if_pos ⟨moves.stride_eq, moves.rows_ne, room⟩

theorem Moves.asked_of_full (moves : Moves shape decoder buffer stride)
    (full : ¬HasRoom memory shape decoder (shape.rowsIn buffer decoder.nextRow)) :
    decoder.asked memory buffer stride = none := by
  rw [asked, moves.geometry_eq]
  exact if_neg fun asks => full asks.2.2

theorem asked_of_source (memory : Memory) (buffer : Bytes) (stride : Nat)
    (gone : decoder.source = none) : decoder.asked memory buffer stride = none := by
  rw [asked, gone]
  cases decoder.geometry with
  | none => rfl
  | some known => exact ite_self none

theorem Moves.read_eq (moves : Moves shape decoder buffer stride) (engine : Engine)
    (memory : Memory) :
    decoder.read engine memory buffer stride =
      decoder.handOut engine memory shape (shape.rowsIn buffer decoder.nextRow) buffer := by
  obtain ⟨known, rfl, counted⟩ := moves
  exact read_some engine memory known (Moves.wide ⟨known, rfl, counted⟩) counted

/-- What is handed out without a run of the engine is the same with any. -/
theorem handOut_silent {count : Nat}
    (silent : decoder.source = none ∨ ¬HasRoom memory shape decoder count)
    (engine other : Engine) (buffer : Bytes) :
    decoder.handOut engine memory shape count buffer =
      decoder.handOut other memory shape count buffer := by
  rw [handOut, handOut]
  rcases silent with gone | full
  · rw [gone]
  · obtain ⟨parts, refused⟩ := not_or.mp full
    simp only [if_neg parts, if_neg refused]

/-- An engine that fails has its reason told. -/
theorem handOut_failing {count : Nat} {reason : String}
    (known : decoder.source = some (source, offer))
    (fails : engine.decode source shape = .error reason)
    (room : HasRoom memory shape decoder count) (buffer : Bytes) :
    decoder.handOut engine memory shape count buffer =
      (.error (.engine reason), { decoder with source := none }) := by
  rw [handOut, known]
  dsimp only
  split
  · rw [fails]
  · rename_i parts
    rw [if_pos (room.resolve_left parts), fails]

theorem asked_of_not_moves (memory : Memory) (idle : ∀ shape, ¬Moves shape decoder buffer stride) :
    decoder.asked memory buffer stride = none := by
  rw [asked]
  cases known : decoder.geometry with
  | none => rfl
  | some shape => exact if_neg fun asks => idle shape ⟨known, asks.1, asks.2.1⟩

/-- A read that gives no rows leaves the decoder, and is answered alike by any engine. -/
theorem read_of_not_moves (memory : Memory) (idle : ∀ shape, ¬Moves shape decoder buffer stride) :
    (∃ fault, fault ≠ .outOfMemory ∧
        ∀ engine, decoder.read engine memory buffer stride = (.error fault, decoder)) ∨
      ∀ engine, decoder.read engine memory buffer stride =
        (.ok (0, ⟨buffer, rfl⟩), decoder) := by
  cases known : decoder.geometry with
  | none => exact .inl ⟨.notStarted, by decide, fun engine => by rw [read, known]⟩
  | some shape =>
    by_cases same : stride = shape.stride
    · by_cases empty : stride = 0
      · refine .inl ⟨.crash, by decide, fun engine => ?_⟩
        rw [read, known]
        simp only [same, ← same ▸ empty, ne_eq, not_true_eq_false, if_false, if_true]
      · refine .inr fun engine => ?_
        have none : shape.rowsIn buffer decoder.nextRow = 0 :=
          Decidable.not_not.mp fun counted => idle shape ⟨known, same, counted⟩
        subst same
        exact read_idle engine memory known (Nat.pos_of_ne_zero empty) none
    · refine .inl ⟨.strideMismatch stride shape.stride, Fault.noConfusion, fun engine => ?_⟩
      rw [read, known]
      exact if_pos same

/-- A read that does not run the engine comes to the same with any other. -/
theorem read_silent (silent : decoder.asked memory buffer stride = none) (engine other : Engine) :
    decoder.read engine memory buffer stride = decoder.read other memory buffer stride := by
  by_cases moving : ∃ shape, Moves shape decoder buffer stride
  · obtain ⟨shape, moves⟩ := moving
    rw [moves.read_eq, moves.read_eq]
    by_cases room : HasRoom memory shape decoder (shape.rowsIn buffer decoder.nextRow)
    · rw [moves.asked_eq room, Option.map_eq_none_iff] at silent
      exact handOut_silent (.inl silent) engine other buffer
    · exact handOut_silent (.inr room) engine other buffer
  · rcases read_of_not_moves memory (not_exists.mp moving) with ⟨fault, _, refused⟩ | idle
    · rw [refused, refused]
    · rw [idle, idle]

/-- An engine that decodes nothing. -/
def refusing (reason : String) : Engine where
  inspect _ := .error reason
  decode _ _ := .error reason
  encode _ _ := []
  refuse _ _ := reason

/-- **A read runs the engine** exactly if what it comes to depends on the engine. -/
theorem asked_eq_none_iff : decoder.asked memory buffer stride = none ↔
    ∀ engine other : Engine,
      decoder.read engine memory buffer stride = decoder.read other memory buffer stride := by
  refine ⟨read_silent, fun alike => ?_⟩
  by_cases moving : ∃ shape, Moves shape decoder buffer stride
  · obtain ⟨shape, moves⟩ := moving
    by_cases room : HasRoom memory shape decoder (shape.rowsIn buffer decoder.nextRow)
    · rw [moves.asked_eq room, Option.map_eq_none_iff]
      cases known : decoder.source with
      | none => rfl
      | some held =>
        -- two engines that refuse the source are told apart by their reasons
        have told : ∀ reason, (decoder.read (refusing reason) memory buffer stride).1 =
            .error (.engine reason) := by
          intro reason
          rw [moves.read_eq, handOut_failing known rfl room]
        have same := told "one"
        rw [alike (refusing "one") (refusing "other"), told] at same
        exact absurd (Fault.engine.inj (Except.error.inj same)) (by decide)
    · exact moves.asked_of_full room
  · exact asked_of_not_moves memory (not_exists.mp moving)

/-! ### Calls in any order -/

/-- A call. -/
inductive Request where
  | begin
  /-- Rows are read, with the memory that there is then. -/
  | read (buffer : Bytes) (stride : Nat) (memory : Memory)
  | finish

/-- What calls have come to. -/
structure Ledger where
  /-- Decoding was begun. -/
  begun : Bool
  /-- How often the engine was run. -/
  runs : Nat
  /-- The engine was run and failed. -/
  failed : Bool
  /-- There was no memory to stage the frame. -/
  starved : Bool
  /-- The number of rows given. -/
  rows : Nat
  /-- The rows given. -/
  bytes : Bytes
  deriving DecidableEq

namespace Ledger

/-- No calls were made. -/
def blank : Ledger := ⟨false, 0, false, false, 0, []⟩

/-- Enters a read, whether it ran the engine and how it was answered. -/
def enter (ledger : Ledger) (ran : Bool) (stride : Nat) : Except Fault (Nat × Bytes) → Ledger
  | .ok (count, buffer) =>
    { ledger with
      runs := ledger.runs + ran.toNat
      rows := ledger.rows + count
      bytes := ledger.bytes ++ buffer.take (count * stride) }
  | .error fault =>
    { ledger with
      runs := ledger.runs + ran.toNat
      failed := ledger.failed || ran
      starved := ledger.starved || decide (fault = .outOfMemory) }

theorem enter_refused (ledger : Ledger) (stride : Nat) {fault : Fault}
    (other : fault ≠ .outOfMemory) : ledger.enter false stride (.error fault) = ledger := by
  rw [enter, Bool.or_false, decide_eq_false other, Bool.or_false]
  rfl

theorem enter_idle (ledger : Ledger) (stride : Nat) (buffer : Bytes) :
    ledger.enter false stride (.ok (0, buffer)) = ledger := by
  rw [enter, Nat.zero_mul, List.take_zero, List.append_nil]
  rfl

/-- Nothing will come of the source any more. -/
def lost (ledger : Ledger) : Bool := ledger.failed || ledger.starved

end Ledger

/-- Makes a call. -/
def serve (engine : Engine) : Ledger × Decoder → Request → Ledger × Decoder
  | (ledger, decoder), .begin =>
    let (answer, next) := decoder.begin
    ({ ledger with begun := ledger.begun || answer.isOk }, next)
  | (ledger, decoder), .read buffer stride memory =>
    let (answer, next) := decoder.read engine memory buffer stride
    (ledger.enter (decoder.asked memory buffer stride).isSome stride
      (answer.map fun (count, refill) => (count, refill.val)), next)
  | (ledger, decoder), .finish => (ledger, decoder.finish.2)

/-- Makes calls, one after another. A read that does not return leaves everything as it was, so that
calls behind it are no others than calls in its place. -/
def serveAll (engine : Engine) (state : Ledger × Decoder) (requests : List Request) :
    Ledger × Decoder :=
  requests.foldl (serve engine) state

variable {ledger : Ledger} {terminated : Bool} {state : Ledger × Decoder}

theorem serve_read {answer : Except Fault (Nat × Refill buffer)} {next : Decoder}
    (outcome : decoder.read engine memory buffer stride = (answer, next)) :
    serve engine (ledger, decoder) (.read buffer stride memory) =
      (ledger.enter (decoder.asked memory buffer stride).isSome stride
        (answer.map fun (count, refill) => (count, refill.val)), next) := by
  rw [serve, outcome]

theorem serve_not_moves (idle : ∀ shape, ¬Moves shape decoder buffer stride) :
    serve engine (ledger, decoder) (.read buffer stride memory) = (ledger, decoder) := by
  have unasked := asked_of_not_moves memory idle
  rcases read_of_not_moves memory idle with ⟨fault, other, refused⟩ | answered
  · rw [serve_read (refused engine), unasked]
    exact congrArg (·, decoder) (ledger.enter_refused stride other)
  · rw [serve_read (answered engine), unasked]
    exact congrArg (·, decoder) (ledger.enter_idle stride buffer)

/-- Runs of the engine stay on the ledger, and so does the loss of the source. -/
theorem serve_keeps (engine : Engine) (state : Ledger × Decoder) (request : Request) :
    state.1.runs ≤ (serve engine state request).1.runs ∧
      (state.1.lost = true → (serve engine state request).1.lost = true) := by
  obtain ⟨ledger, decoder⟩ := state
  cases request with
  | begin => exact ⟨Nat.le_refl _, id⟩
  | read buffer stride memory =>
    rw [serve]
    rcases decoder.read engine memory buffer stride with ⟨fault | ⟨count, refill⟩, next⟩
    · refine ⟨Nat.le_add_right _ _, fun lost => ?_⟩
      rw [Ledger.lost, Bool.or_eq_true_iff] at lost ⊢
      exact lost.imp (fun failed => Bool.or_eq_true_iff.mpr (.inl failed))
        fun starved => Bool.or_eq_true_iff.mpr (.inl starved)
    · exact ⟨Nat.le_add_right _ _, id⟩
  | finish => exact ⟨Nat.le_refl _, id⟩

theorem serveAll_keeps_lost (engine : Engine) (requests : List Request)
    (lost : state.1.lost = true) : (serveAll engine state requests).1.lost = true := by
  induction requests generalizing state with
  | nil => exact lost
  | cons request later ih => exact ih ((serve_keeps engine state request).2 lost)

/-! ### What calls can come to -/

/-- Decoding can begin: the source has its end, and the frame that the engine offers of it has a
shape. -/
structure Begins (offer : Offer) (terminated : Bool) (shape : Geometry) : Prop where
  whole : terminated = true
  offered : offer = .ofGeometry shape

theorem Begins.rows_eq (begins : Begins offer terminated shape) :
    offer.height.toNat = shape.rows := by
  rw [begins.offered]
  exact UInt16.toNat_toUInt32 shape.height

/-- What calls on a source can have come to. -/
inductive Course (engine : Engine) (source : Bytes) (offer : Offer) (terminated : Bool) :
    Ledger → Decoder → Prop where
  /-- Decoding has not begun. -/
  | waiting : Course engine source offer terminated .blank (create source offer terminated)
  /-- No rows were due yet. -/
  | ready {shape : Geometry} (begins : Begins offer terminated shape) :
    Course engine source offer terminated ⟨true, 0, false, false, 0, []⟩
      (pending source offer shape)
  /-- The engine failed. -/
  | spoiled {shape : Geometry} (begins : Begins offer terminated shape) (high : 0 < shape.rows) :
    Course engine source offer terminated ⟨true, 1, true, false, 0, []⟩ (spent shape)
  /-- There was no memory to stage the frame, and the engine was not run. -/
  | starved {shape : Geometry} (begins : Begins offer terminated shape) (high : 0 < shape.rows) :
    Course engine source offer terminated ⟨true, 0, false, true, 0, []⟩ (spent shape)
  /-- The engine has decoded the source. -/
  | decoded {shape : Geometry} {frame : Frame.Samples shape} {row : Nat} {decoder : Decoder}
      (begins : Begins offer terminated shape) (decodes : engine.decode source shape = .ok frame)
      (stands : Stands frame row decoder) (given : 0 < row) :
    Course engine source offer terminated
      ⟨true, 1, false, false, row, frame.val.take (row * shape.stride)⟩ decoder

theorem Stands.source_eq (stands : Stands frame row decoder) : decoder.source = none := by
  cases stands <;> rfl

theorem Stands.geometry_eq (stands : Stands frame row decoder) :
    decoder.geometry = some shape := by
  cases stands <;> rfl

theorem Stands.nextRow_eq (stands : Stands frame row decoder) : decoder.nextRow = row := by
  cases stands <;> rfl

theorem Stands.terminated_eq (stands : Stands frame row decoder) : decoder.terminated = true := by
  cases stands <;> rfl

/-- A decoder that does not begin stays as it was. -/
theorem begin_refused {next : Decoder} {fault : Fault}
    (refused : decoder.begin = (.error fault, next)) : next = decoder := by
  rw [begin] at refused
  split at refused
  · cases refused
    rfl
  · split at refused
    · cases refused
      rfl
    · split at refused
      · cases refused
        rfl
      · cases refused

/-- Decoding may begin again while the source is there. -/
theorem begin_pending (begins : Begins offer terminated shape) :
    (pending source offer shape).begin = (.ok shape, pending source offer shape) := by
  have shaped := shapeOf_eq_ok_iff.mpr begins.offered
  unfold begin
  simp only [pending, shaped]
  rfl

theorem finish_spent (high : 0 < shape.rows) : (spent shape).finish.2 = spent shape := by
  rw [finish, spent]
  simp only [if_pos high]

/-- Ending changes nothing: either rows are due, or none are staged any more. -/
theorem Stands.finish_eq (stands : Stands frame row decoder) : decoder.finish.2 = decoder := by
  cases stands with
  | staged short =>
    rw [finish]
    simp only [if_pos short]
  | drained =>
    rw [finish]
    simp only [Nat.lt_irrefl, if_false]

namespace Course

/-- Either decoding has not begun, or the rows have a shape. -/
theorem idle_or_begun (course : Course engine source offer terminated ledger decoder) :
    (ledger.begun = false ∧ decoder.geometry = none ∧ ledger.rows = 0) ∨
      ∃ shape, ledger.begun = true ∧ decoder.geometry = some shape ∧
        Begins offer terminated shape ∧ ledger.rows ≤ shape.rows := by
  cases course with
  | waiting => exact .inl ⟨rfl, rfl, rfl⟩
  | ready begins => exact .inr ⟨_, rfl, rfl, begins, Nat.zero_le _⟩
  | spoiled begins high => exact .inr ⟨_, rfl, rfl, begins, Nat.zero_le _⟩
  | starved begins high => exact .inr ⟨_, rfl, rfl, begins, Nat.zero_le _⟩
  | decoded begins decodes stands given =>
    exact .inr ⟨_, rfl, stands.geometry_eq, begins, stands.le_rows⟩

theorem nextRow_eq (course : Course engine source offer terminated ledger decoder) :
    decoder.nextRow = ledger.rows := by
  cases course with
  | waiting => rfl
  | ready begins => rfl
  | spoiled begins high => rfl
  | starved begins high => rfl
  | decoded begins decodes stands given => exact stands.nextRow_eq

theorem rows_le (course : Course engine source offer terminated ledger decoder) :
    ledger.rows ≤ offer.height.toNat := by
  rcases course.idle_or_begun with ⟨_, _, none⟩ | ⟨shape, _, _, begins, bound⟩
  · rw [none]
    exact Nat.zero_le _
  · exact begins.rows_eq ▸ bound

theorem runs_le (course : Course engine source offer terminated ledger decoder) :
    ledger.runs ≤ 1 := by
  cases course with
  | waiting => exact Nat.zero_le _
  | ready begins => exact Nat.zero_le _
  | spoiled begins high => exact Nat.le_refl _
  | starved begins high => exact Nat.zero_le _
  | decoded begins decodes stands given => exact Nat.le_refl _

/-- The source is given away when the engine is run, or would have been with memory. -/
theorem source_eq (course : Course engine source offer terminated ledger decoder)
    (gone : 0 < ledger.runs ∨ ledger.lost = true) : decoder.source = none := by
  cases course with
  | waiting => rcases gone with ran | lost <;> contradiction
  | ready begins => rcases gone with ran | lost <;> contradiction
  | spoiled begins high => rfl
  | starved begins high => rfl
  | decoded begins decodes stands given => exact stands.source_eq

/-- After a loss no rows were given, though the frame has some. -/
theorem rows_of_lost (course : Course engine source offer terminated ledger decoder)
    (lost : ledger.lost = true) : ledger.rows = 0 ∧ 0 < offer.height.toNat := by
  cases course with
  | waiting => cases lost
  | ready begins => cases lost
  | spoiled begins high
  | starved begins high => exact ⟨rfl, begins.rows_eq ▸ high⟩
  | decoded begins decodes stands given => cases lost

theorem bytes_eq (course : Course engine source offer terminated ledger decoder)
    (given : 0 < ledger.rows) :
    ∃ shape frame, Begins offer terminated shape ∧ engine.decode source shape = .ok frame ∧
      ledger.bytes = frame.val.take (ledger.rows * shape.stride) := by
  cases course with
  | waiting => exact absurd given (Nat.lt_irrefl 0)
  | ready begins => exact absurd given (Nat.lt_irrefl 0)
  | spoiled begins high => exact absurd given (Nat.lt_irrefl 0)
  | starved begins high => exact absurd given (Nat.lt_irrefl 0)
  | decoded begins decodes stands _ => exact ⟨_, _, begins, decodes, rfl⟩

/-- Decoding ends once it was begun and all rows were given. -/
theorem finish_iff (course : Course engine source offer terminated ledger decoder) :
    decoder.finish.1 = .ok () ↔ ledger.begun = true ∧ ledger.rows = offer.height.toNat := by
  rw [finish, ← course.nextRow_eq]
  rcases course.idle_or_begun with ⟨idle, unknown, _⟩ | ⟨shape, begun, known, begins, bound⟩
  · rw [unknown, idle]
    refine iff_of_false (fun ended => ?_) fun ended => Bool.noConfusion ended.1
    cases ended
  · rw [← course.nextRow_eq] at bound
    rw [known, begun, begins.rows_eq]
    dsimp only
    split
    · rename_i due
      refine iff_of_false (fun ended => ?_) fun ended => Nat.ne_of_lt due ended.2
      cases ended
    · rename_i done
      exact iff_of_true rfl ⟨rfl, Nat.le_antisymm bound (Nat.not_lt.mp done)⟩

/-! ### One call -/

theorem serve_begin (course : Course engine source offer terminated ledger decoder) :
    Course engine source offer terminated (serve engine (ledger, decoder) .begin).1
      (serve engine (ledger, decoder) .begin).2 := by
  rw [serve]
  cases course with
  | waiting =>
    rcases begun : (create source offer terminated).begin with ⟨fault | shape, next⟩
    · obtain rfl := begin_refused begun
      exact .waiting
    · obtain ⟨whole, offered, rfl⟩ := begin_eq_ok_iff.mp begun
      exact .ready ⟨whole, offered⟩
  | ready begins =>
    rw [begin_pending begins]
    exact .ready begins
  | spoiled begins high => exact .spoiled begins high
  | starved begins high => exact .starved begins high
  | decoded begins decodes stands given =>
    have consumed : decoder.begin = (.error .consumed, decoder) := by
      rw [begin, stands.terminated_eq, stands.source_eq]
      rfl
    rw [consumed]
    exact .decoded begins decodes stands given

theorem serve_finish (course : Course engine source offer terminated ledger decoder) :
    Course engine source offer terminated (serve engine (ledger, decoder) .finish).1
      (serve engine (ledger, decoder) .finish).2 := by
  rw [serve]
  cases course with
  | waiting => exact .waiting
  | ready begins =>
    rw [finish, pending]
    dsimp only
    split
    · exact .ready begins
    · exact .ready begins
  | spoiled begins high =>
    rw [finish_spent high]
    exact .spoiled begins high
  | starved begins high =>
    rw [finish_spent high]
    exact .starved begins high
  | decoded begins decodes stands given =>
    rw [stands.finish_eq]
    exact .decoded begins decodes stands given

/-- The rows that a read gives follow those given before. -/
theorem take_append_filled (frame : Frame.Samples shape) (below : row ≤ shape.rows)
    (buffer : Bytes) :
    frame.val.take (row * shape.stride) ++
        (filled shape frame.val row buffer).take (shape.rowsIn buffer row * shape.stride) =
      frame.val.take ((row + shape.rowsIn buffer row) * shape.stride) := by
  have within := Geometry.add_rowsIn_le below buffer
  rw [filled, List.take_left' (length_take_drop_rows within frame), Nat.add_mul, List.take_add]

/-- A read that gives rows of the decoded frame. -/
theorem of_rows {next : Decoder} {answer : Refill buffer} {runs : Nat}
    (begins : Begins offer terminated shape) (decodes : engine.decode source shape = .ok frame)
    (below : row ≤ shape.rows) (counted : shape.rowsIn buffer row ≠ 0)
    (outcome : decoder.read engine memory buffer shape.stride =
      (.ok (shape.rowsIn buffer row, answer), next))
    (content : answer.val = filled shape frame.val row buffer)
    (after : Stands frame (row + shape.rowsIn buffer row) next)
    (once : runs + (decoder.asked memory buffer shape.stride).isSome.toNat = 1) :
    let ledger : Ledger := ⟨true, runs, false, false, row, frame.val.take (row * shape.stride)⟩
    let reached := serve engine (ledger, decoder) (.read buffer shape.stride memory)
    Course engine source offer terminated reached.1 reached.2 := by
  intro ledger reached
  have result : reached =
      (⟨true, 1, false, false, row + shape.rowsIn buffer row,
        frame.val.take ((row + shape.rowsIn buffer row) * shape.stride)⟩, next) := by
    rw [show reached = _ from serve_read outcome]
    simp only [ledger, Except.map, Ledger.enter, content, take_append_filled frame below, once]
  rw [result]
  exact .decoded begins decodes after (Nat.add_pos_right row (Nat.pos_of_ne_zero counted))

/-- The first read that gives rows, or would have given them. -/
theorem of_pending (begins : Begins offer terminated shape)
    (moves : Moves shape (pending source offer shape) buffer stride) :
    let reached := serve engine
      (⟨true, 0, false, false, 0, []⟩, pending source offer shape) (.read buffer stride memory)
    Course engine source offer terminated reached.1 reached.2 := by
  have wide := moves.wide
  have high := moves.high
  obtain rfl := moves.stride_eq
  intro reached
  by_cases room : HasRoom memory shape (pending source offer shape) (shape.rowsIn buffer 0)
  · have asks : asked memory (pending source offer shape) buffer shape.stride = some source :=
      moves.asked_eq room
    cases decodes : engine.decode source shape with
    | error reason =>
      have failed := (moves.read_eq engine memory).trans (handOut_failing rfl decodes room buffer)
      rw [show reached = _ from serve_read failed, asks]
      exact .spoiled begins high
    | ok frame =>
      obtain ⟨answer, next, outcome, content, after⟩ :=
        read_pending offer decodes wide moves.rows_ne (room.imp_left And.right)
      -- nothing was given before the first row
      have start : frame.val.take (0 * shape.stride) = [] := by
        rw [Nat.zero_mul, List.take_zero]
      rw [← Nat.zero_add (shape.rowsIn buffer 0)] at after
      have once : 0 + (asked memory (pending source offer shape) buffer
          shape.stride).isSome.toNat = 1 := by
        rw [asks]
        rfl
      have reaches :=
        of_rows begins decodes (Nat.zero_le _) moves.rows_ne outcome content after once
      rw [start] at reaches
      exact reaches
  · obtain ⟨parts, refused⟩ := not_or.mp room
    have splits : shape.Splits buffer := ⟨moves.rows_ne, fun whole => parts ⟨rfl, whole⟩⟩
    rw [show reached = _ from
      serve_read (read_starved engine wide splits (Bool.eq_false_iff.mpr refused)),
      moves.asked_of_full room]
    exact .starved begins high

/-- A read behind the loss of the source. -/
theorem serve_spent (moves : Moves shape (spent shape) buffer stride) :
    Decoder.serve engine (ledger, spent shape) (.read buffer stride memory) =
      (ledger, spent shape) := by
  have wide := moves.wide
  obtain rfl := moves.stride_eq
  rw [Decoder.serve_read (read_spent engine memory wide moves.rows_ne),
    asked_of_source memory buffer shape.stride rfl]
  exact congrArg (·, spent shape) (ledger.enter_refused shape.stride (by decide))

theorem serve_read (course : Course engine source offer terminated ledger decoder) :
    let reached := Decoder.serve engine (ledger, decoder) (.read buffer stride memory)
    Course engine source offer terminated reached.1 reached.2 := by
  intro reached
  by_cases moving : ∃ shape, Moves shape decoder buffer stride
  · obtain ⟨shape, moves⟩ := moving
    cases course with
    | waiting => cases moves.geometry_eq
    | ready begins =>
      obtain rfl := Option.some.inj moves.geometry_eq
      exact of_pending begins moves
    | spoiled begins high =>
      obtain rfl := Option.some.inj moves.geometry_eq
      rw [show reached = _ from serve_spent moves]
      exact .spoiled begins high
    | starved begins high =>
      obtain rfl := Option.some.inj moves.geometry_eq
      rw [show reached = _ from serve_spent moves]
      exact .starved begins high
    | decoded begins decodes stands given =>
      obtain rfl := Option.some.inj (stands.geometry_eq.symm.trans moves.geometry_eq)
      have wide := moves.wide
      have counted := stands.nextRow_eq ▸ moves.rows_ne
      obtain rfl := moves.stride_eq
      obtain ⟨answer, next, outcome, content, after⟩ := stands.read wide engine memory buffer
      refine of_rows begins decodes stands.le_rows counted outcome content after ?_
      rw [asked_of_source memory buffer _ stands.source_eq]
      rfl
  · rw [show reached = _ from serve_not_moves (not_exists.mp moving)]
    exact course

/-- **One call.** -/
theorem serve (course : Course engine source offer terminated ledger decoder)
    (request : Request) :
    Course engine source offer terminated (serve engine (ledger, decoder) request).1
      (serve engine (ledger, decoder) request).2 := by
  cases request with
  | begin => exact course.serve_begin
  | read buffer stride memory => exact course.serve_read
  | finish => exact course.serve_finish

/-- **Calls one after another.** -/
theorem serveAll (course : Course engine source offer terminated ledger decoder)
    (requests : List Request) :
    Course engine source offer terminated (serveAll engine (ledger, decoder) requests).1
      (serveAll engine (ledger, decoder) requests).2 := by
  induction requests generalizing ledger decoder with
  | nil => exact course
  | cons request later ih => exact ih (course.serve request)

/-- Once the source was given away, calls come to the same with any other engine. -/
theorem serveAll_gone (course : Course engine source offer terminated ledger decoder)
    (gone : 0 < ledger.runs ∨ ledger.lost = true) (other : Engine) (requests : List Request) :
    Decoder.serveAll other (ledger, decoder) requests =
      Decoder.serveAll engine (ledger, decoder) requests := by
  induction requests generalizing ledger decoder with
  | nil => rfl
  | cons request later ih =>
    have same : Decoder.serve other (ledger, decoder) request =
        Decoder.serve engine (ledger, decoder) request := by
      cases request with
      | begin => rfl
      | read buffer stride memory =>
        have silent := asked_of_source memory buffer stride (course.source_eq gone)
        rw [Decoder.serve, Decoder.serve, asked_eq_none_iff.mp silent other engine]
      | finish => rfl
    show Decoder.serveAll other (Decoder.serve other (ledger, decoder) request) later = _
    rw [same]
    obtain ⟨more, stillLost⟩ := serve_keeps engine (ledger, decoder) request
    exact ih (course.serve request)
      (gone.imp (fun ran => Nat.lt_of_lt_of_le ran more) stillLost)

end Course

/-! ### Calls on a source that was opened -/

/-- What holds of the calls on a source, once they have come to a ledger and left a decoder. -/
structure Accounted (engine : Engine) (source : Bytes) (offer : Offer) (terminated : Bool)
    (ledger : Ledger) (last : Decoder) : Prop where
  /-- The rows given are counted, and they are no more than the frame has. -/
  rows_le : last.nextRow = ledger.rows ∧ ledger.rows ≤ offer.height.toNat
  /-- Decoding begins only if the end is there and the engine offers a frame that has a shape. -/
  begun : ledger.begun = true → ∃ shape, Begins offer terminated shape
  /-- Before decoding has begun, which it never does if the end is missing, all is refused. -/
  refuses : terminated = false ∨ ledger.begun = false →
    (∀ buffer stride memory,
      last.read engine memory buffer stride = (.error .notStarted, last)) ∧
      last.finish = (.error .notStarted, last)
  /-- The engine is run at most once, and not at all without memory to stage what it decodes; so
  that afterwards any other could stand in its place. -/
  runs_le : ledger.runs ≤ 1 ∧ (ledger.starved = true → ledger.runs = 0) ∧
    (ledger.runs = 1 ∨ ledger.starved = true → ∀ other later,
      serveAll other (ledger, last) later = serveAll engine (ledger, last) later)
  /-- Once the engine has failed, or there was no memory, no more rows are given and decoding does
  not end. -/
  lost : ledger.failed = true ∨ ledger.starved = true → ∀ later,
    (serveAll engine (ledger, last) later).1.rows = ledger.rows ∧
      (serveAll engine (ledger, last) later).2.finish.1 ≠ .ok ()
  /-- Decoding ends exactly when it was begun and all rows were given. -/
  finish_iff : last.finish.1 = .ok () ↔
    ledger.begun = true ∧ ledger.rows = offer.height.toNat
  /-- Rows that were given are the first ones of what the engine decodes. -/
  bytes_eq : 0 < ledger.rows →
    ∃ shape frame, Begins offer terminated shape ∧ engine.decode source shape = .ok frame ∧
      ledger.bytes = frame.val.take (ledger.rows * shape.stride)

theorem Course.refuses (course : Course engine source offer terminated ledger decoder)
    (early : terminated = false ∨ ledger.begun = false) :
    (∀ buffer stride memory,
      decoder.read engine memory buffer stride = (.error .notStarted, decoder)) ∧
      decoder.finish = (.error .notStarted, decoder) := by
  have unknown : decoder.geometry = none := by
    rcases course.idle_or_begun with ⟨_, unknown, _⟩ | ⟨shape, begun, _, begins, _⟩
    · exact unknown
    · rcases early with cut | idle
      · cases cut.symm.trans begins.whole
      · cases idle.symm.trans begun
  refine ⟨fun buffer stride memory => ?_, ?_⟩
  · rw [read, unknown]
  · rw [finish, unknown]

theorem Course.lost (course : Course engine source offer terminated ledger decoder)
    (lost : ledger.lost = true) (later : List Request) :
    (Decoder.serveAll engine (ledger, decoder) later).1.rows = ledger.rows ∧
      (Decoder.serveAll engine (ledger, decoder) later).2.finish.1 ≠ .ok () := by
  have reached := course.serveAll later
  have none := reached.rows_of_lost (serveAll_keeps_lost engine later lost)
  refine ⟨none.1.trans (course.rows_of_lost lost).1.symm, fun ended => ?_⟩
  exact Nat.ne_of_lt none.2 (none.1.symm.trans (reached.finish_iff.mp ended).2)

theorem Course.runs_of_starved (course : Course engine source offer terminated ledger decoder)
    (starved : ledger.starved = true) : ledger.runs = 0 := by
  cases course with
  | waiting => rfl
  | ready begins => rfl
  | spoiled begins high => cases starved
  | starved begins high => rfl
  | decoded begins decodes stands given => cases starved

theorem Course.accounted (course : Course engine source offer terminated ledger decoder) :
    Accounted engine source offer terminated ledger decoder where
  rows_le := ⟨course.nextRow_eq, course.rows_le⟩
  begun begun := by
    rcases course.idle_or_begun with ⟨idle, _⟩ | ⟨shape, _, _, begins, _⟩
    · cases idle.symm.trans begun
    · exact ⟨shape, begins⟩
  refuses := course.refuses
  runs_le := by
    refine ⟨course.runs_le, course.runs_of_starved, fun gone => course.serveAll_gone ?_⟩
    rcases gone with once | starved
    · exact .inl (Nat.lt_of_lt_of_eq Nat.one_pos once.symm)
    · exact .inr (Bool.or_eq_true_iff.mpr (.inr starved))
  lost gone := course.lost (Bool.or_eq_true_iff.mpr gone)
  finish_iff := course.finish_iff
  bytes_eq := course.bytes_eq

/-- **Rows come only from a whole source that was decoded**, whatever calls are made of a source
that opens, in whatever order, and with whatever memory. -/
theorem serveAll_whole {header : Header}
    (opened : (openSource engine source).2 = .ok (decoder, header)) (requests : List Request) :
    ∃ offer terminated, engine.inspect source = .ok offer ∧
      isTerminated source = .ok terminated ∧
      let reached := serveAll engine (.blank, decoder) requests
      Accounted engine source offer terminated reached.1 reached.2 := by
  obtain ⟨offer, terminated, _, known, inspected, rfl⟩ := openSource_eq_ok_iff.mp opened
  have start : Course engine source offer terminated .blank (create source offer terminated) :=
    .waiting
  exact ⟨offer, terminated, inspected, known, (start.serveAll requests).accounted⟩

/-- A gray block is read too early, begun twice, and read into buffers that have room for two rows
and a half and for more than the six that are left. -/
theorem serveAll_whole_block :
    let buffer (size : Nat) : Bytes := List.replicate size 0
    let requests : List Request :=
      [.read (buffer 8) 8 (.below 65), .finish, .begin, .read (buffer 20) 8 (.below 65), .begin,
        .finish, .read (buffer 100) 8 (.below 0)]
    ∃ decoder header,
      (openSource Flat.engine blockSource).2 = .ok (decoder, header) ∧
        let reached := serveAll Flat.engine (.blank, decoder) requests
        reached.1 = ⟨true, 1, false, false, 8, List.replicate 64 128⟩ ∧
          reached.2.finish.1 = .ok () := by
  intro buffer requests
  let shape : Geometry := ⟨8, 8, .gray⟩
  obtain ⟨header, opened⟩ := openSource_blockSource
  obtain ⟨offer, _, inspected, _, accounted⟩ := serveAll_whole opened requests
  obtain rfl : Offer.ofGeometry shape = offer :=
    Except.ok.inj (inspect_blockSource.symm.trans inspected)
  have entries :
      (serveAll Flat.engine (.blank, create blockSource (.ofGeometry shape) true) requests).1 =
        ⟨true, 1, false, false, 8, List.replicate 64 128⟩ := by decide
  refine ⟨_, header, opened, entries, accounted.finish_iff.mpr ?_⟩
  rw [entries]
  exact ⟨rfl, rfl⟩

end JpegTranscoder.Scanline.Decoder
