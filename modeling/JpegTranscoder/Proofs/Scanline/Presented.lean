/-
**Frames that are presented in parts.**

A frame may be offered to an encoder in one block or in many, which start where the rows taken
before end and may break off in a row or run past the frame. However it is cut, it is encoded once.
The first rows have to be staged unless they are all of them; a block that finds no memory for that
is refused, and the one after it starts at the first row again:

* `write_presented`: what one block comes to;
* `run_presented`, `run_congr`: what a run of them comes to, and what of the engine it depends on;
* `presentedAll_provided`: the rows that are told when no block is refused;
* `run_presents`: the answers, the one frame that the engine is handed, and whether encoding ends.
-/
import JpegTranscoder.Proofs.Scanline.Retry
import JpegTranscoder.Proofs.Scanline.Runs
import Mathlib.Data.List.Basic

namespace JpegTranscoder.Scanline.Encoder

variable {engine : Engine} {settings : EncoderSettings} {sink last : Sink} {buffer : Bytes}
  {block : Block} {blocks : List Block} {taken : Nat}

/-! ### Blocks and rows -/

/-- A buffer starts at the next row of a frame. What stands behind its whole rows, or behind the
last row of the frame, is left open. -/
def Continues (geometry : Geometry) (frame : Bytes) (before : Nat) (buffer : Bytes) : Prop :=
  buffer.take (geometry.rowsIn buffer before * geometry.stride) <+:
    frame.drop (before * geometry.stride)

instance (geometry : Geometry) (frame : Bytes) (before : Nat) (buffer : Bytes) :
    Decidable (Continues geometry frame before buffer) :=
  inferInstanceAs (Decidable (_ <+: _))

/-- The rows of a block are the first ones of the frame but not all of them, and there is no memory
to stage them. -/
def Starved (geometry : Geometry) (before : Nat) (block : Block) : Prop :=
  before = 0 ∧ geometry.Splits block.rows ∧ block.memory.grants geometry.byteCount = false

instance (geometry : Geometry) (before : Nat) (block : Block) :
    Decidable (Starved geometry before block) :=
  inferInstanceAs (Decidable (_ ∧ _ ∧ _))

/-- The rows that are taken of a block: all those that it has and the frame lacks, unless it is
refused. -/
def accepts (geometry : Geometry) (before : Nat) (block : Block) : Nat :=
  if Starved geometry before block then 0 else geometry.rowsIn block.rows before

/-- The rows that are taken of blocks, one after another. -/
def acceptsAll (geometry : Geometry) : Nat → List Block → Nat
  | _, [] => 0
  | before, block :: later =>
    accepts geometry before block +
      acceptsAll geometry (before + accepts geometry before block) later

/-- Each block has rows of the frame's length, and starts at the next one that was not taken
before. -/
def Presents (geometry : Geometry) (frame : Bytes) : Nat → List Block → Prop
  | _, [] => True
  | before, block :: later =>
    block.stride = geometry.stride ∧ Continues geometry frame before block.rows ∧
      Presents geometry frame (before + accepts geometry before block) later

section Rows

variable {geometry : Geometry}

theorem accepts_of_fed (fed : ¬Starved geometry taken block) :
    accepts geometry taken block = geometry.rowsIn block.rows taken :=
  if_neg fed

theorem add_accepts_le (below : taken ≤ geometry.rows) (block : Block) :
    taken + accepts geometry taken block ≤ geometry.rows := by
  unfold accepts
  split
  · exact below
  · exact Geometry.add_rowsIn_le below block.rows

/-- **No more rows are taken than the frame has.** -/
theorem add_acceptsAll_le (below : taken ≤ geometry.rows) (blocks : List Block) :
    taken + acceptsAll geometry taken blocks ≤ geometry.rows := by
  induction blocks generalizing taken with
  | nil => exact below
  | cons block later ih =>
    rw [acceptsAll, ← Nat.add_assoc]
    exact ih (add_accepts_le below block)

theorem acceptsAll_done (geometry : Geometry) (blocks : List Block) :
    acceptsAll geometry geometry.rows blocks = 0 := by
  have bound := add_acceptsAll_le (Nat.le_refl geometry.rows) blocks
  omega

/-- A block that ends a frame ends it together with those after it. -/
theorem ends_add_acceptsAll {count : Nat} (ends : geometry.Ends taken count)
    (blocks : List Block) :
    geometry.Ends taken (count + acceptsAll geometry (taken + count) blocks) ∧
      ¬geometry.Ends (taken + count) (acceptsAll geometry (taken + count) blocks) := by
  rw [ends.2, acceptsAll_done]
  exact ⟨ends, fun again => Nat.lt_irrefl _ again.1⟩

/-- The rows that a block brings follow those that the frame has before them. -/
theorem Continues.take_append {frame : Bytes}
    (continues : Continues geometry frame taken buffer) :
    frame.take (taken * geometry.stride) ++
        buffer.take (geometry.rowsIn buffer taken * geometry.stride) =
      frame.take ((taken + geometry.rowsIn buffer taken) * geometry.stride) := by
  have rows := List.prefix_iff_eq_take.mp continues
  rw [geometry.length_take_rowsIn] at rows
  rw [rows, Nat.add_mul, List.take_add]

end Rows

/-! ### The encoder and its sink -/

/-- The encoder that has taken the first rows of a frame, and has encoded it once it has them
all. -/
def holding (frame : Frame.Samples settings.geometry) (taken : Nat) : Encoder :=
  if taken = settings.geometry.rows then ⟨some settings, [], settings.geometry.rows, true⟩
  else ⟨some settings, frame.val.take (taken * settings.geometry.stride), taken, false⟩

theorem holding_rows (frame : Frame.Samples settings.geometry) :
    holding frame settings.geometry.rows = ⟨some settings, [], settings.geometry.rows, true⟩ :=
  if_pos rfl

theorem holding_of_lt (frame : Frame.Samples settings.geometry)
    (short : taken < settings.geometry.rows) :
    holding frame taken =
      ⟨some settings, frame.val.take (taken * settings.geometry.stride), taken, false⟩ :=
  if_neg (Nat.ne_of_lt short)

/-- The sink after the first rows of a frame were taken, which has the frame in it once they all
are. -/
def sinkAt (geometry : Geometry) (sink last : Sink) (taken : Nat) : Sink :=
  if taken = geometry.rows then last else sink

theorem sinkAt_rows (geometry : Geometry) (sink last : Sink) :
    sinkAt geometry sink last geometry.rows = last :=
  if_pos rfl

theorem sinkAt_of_lt {geometry : Geometry} (sink last : Sink) (short : taken < geometry.rows) :
    sinkAt geometry sink last taken = sink :=
  if_neg (Nat.ne_of_lt short)

theorem fresh_eq_holding (high : 0 < settings.geometry.rows)
    (frame : Frame.Samples settings.geometry) : fresh settings = holding frame 0 := by
  rw [holding_of_lt frame high, Nat.zero_mul, List.take_zero]
  rfl

/-- Rows have room behind others that are staged already. -/
theorem hasRoom_of_taken (memory : Memory) (wide : 0 < settings.geometry.stride)
    (frame : Frame.Samples settings.geometry) (some : 0 < taken)
    (short : taken < settings.geometry.rows) :
    hasRoom memory ⟨Option.some settings, frame.val.take (taken * settings.geometry.stride), taken,
      false⟩ settings = true := by
  have staged : 0 < (frame.val.take (taken * settings.geometry.stride)).length := by
    rw [List.length_take, frame.property, Geometry.byteCount]
    exact Nat.lt_min.mpr ⟨Nat.mul_pos some wide, Nat.mul_pos (Nat.zero_lt_of_lt short) wide⟩
  rw [hasRoom, Bool.or_eq_true, Bool.not_eq_true', List.isEmpty_eq_false_iff]
  exact .inl (List.ne_nil_of_length_pos staged)

/-- **There is room for the rows of a block** unless it is one that finds no memory. -/
theorem holds_iff (wide : 0 < settings.geometry.stride) (frame : Frame.Samples settings.geometry)
    (short : taken < settings.geometry.rows)
    (more : settings.geometry.rowsIn block.rows taken ≠ 0) :
    Holds block.memory settings
        ⟨some settings, frame.val.take (taken * settings.geometry.stride), taken, false⟩
        (settings.geometry.rowsIn block.rows taken) ↔
      ¬Starved settings.geometry taken block := by
  rcases Nat.eq_zero_or_pos taken with rfl | some
  · rw [Holds, Starved, hasRoom, Geometry.Splits]
    simp only [Nat.zero_mul, List.take_zero, List.isEmpty_nil, Bool.not_true, Bool.false_or]
    constructor
    · rintro (whole | granted) ⟨_, splits, refused⟩
      · exact splits.2 whole.2
      · rw [granted] at refused
        cases refused
    · intro fed
      by_cases whole : settings.geometry.rowsIn block.rows 0 = settings.geometry.rows
      · exact .inl ⟨trivial, whole⟩
      · exact .inr (eq_true_of_ne_false fun refused => fed ⟨trivial, ⟨more, whole⟩, refused⟩)
  · exact iff_of_true (.inr (hasRoom_of_taken block.memory wide frame some short))
      fun starved => Nat.ne_of_gt some starved.1

/-! ### One block -/

/-- The call that a block makes: all of its rows are taken, or it is refused, and the engine is
handed the frame when they are its last. -/
def presented (engine : Engine) (frame : Frame.Samples settings.geometry) (before : Nat)
    (block : Block) : Call where
  rows := block.rows
  stride := settings.geometry.stride
  answer :=
    if Starved settings.geometry before block then .error .outOfMemory
    else .ok (settings.geometry.rowsIn block.rows before)
  handed :=
    if settings.geometry.Ends before (accepts settings.geometry before block) then some frame.val
    else none
  written :=
    if settings.geometry.Ends before (accepts settings.geometry before block) then
      engine.encode settings frame
    else []

/-- The sink is given the frame when its last rows arrive. -/
theorem write_of_ends {frame : Frame.Samples settings.geometry}
    (ends : settings.geometry.Ends taken (settings.geometry.rowsIn block.rows taken))
    (fed : ¬Starved settings.geometry taken block) (wide : 0 < settings.geometry.stride)
    (continues : Continues settings.geometry frame.val taken block.rows) (engine : Engine)
    (sink : Sink) :
    (holding frame taken).write engine block.memory block.rows settings.geometry.stride sink =
        (match sink.writeAll (engine.encode settings frame) with
          | (.error error, after) =>
            (.error (.sink error), { holding frame taken with staged := [] }, after)
          | (.ok (), after) =>
            (.ok (settings.geometry.rowsIn block.rows taken),
              ⟨some settings, [], settings.geometry.rows, true⟩, after)) ∧
      (holding frame taken).handed block.memory block.rows settings.geometry.stride =
        some frame.val := by
  have joined := continues.take_append
  rw [ends.2, Geometry.take_rows frame.property] at joined
  have more : settings.geometry.rowsIn block.rows taken ≠ 0 := by
    have short := ends.1
    have every := ends.2
    omega
  rw [holding_of_lt frame ends.1]
  have sound : Sound settings
      ⟨some settings, frame.val.take (taken * settings.geometry.stride), taken, false⟩ := by
    refine .waiting ends.1 ?_
    rw [List.length_take]
    exact Nat.min_le_left _ _
  have completes : Completes block.memory settings
      ⟨some settings, frame.val.take (taken * settings.geometry.stride), taken, false⟩ block.rows
      settings.geometry.stride (settings.geometry.rowsIn block.rows taken) :=
    ⟨⟨rfl, rfl⟩, ends.1, ends.2, (holds_iff wide frame ends.1 more).mpr fed⟩
  constructor
  · exact completes.write_frame sound wide engine sink frame joined.symm
  · rw [completes.handed_eq rfl, joined]

/-- Until then its rows are staged, and after it none are taken. -/
theorem write_of_not_ends {frame : Frame.Samples settings.geometry}
    (more : ¬settings.geometry.Ends taken (settings.geometry.rowsIn block.rows taken))
    (fed : ¬Starved settings.geometry taken block) (wide : 0 < settings.geometry.stride)
    (below : taken ≤ settings.geometry.rows)
    (continues : Continues settings.geometry frame.val taken block.rows) (engine : Engine)
    (sink : Sink) :
    (holding frame taken).write engine block.memory block.rows settings.geometry.stride sink =
        (.ok (settings.geometry.rowsIn block.rows taken),
          holding frame (taken + settings.geometry.rowsIn block.rows taken), sink) ∧
      (holding frame taken).handed block.memory block.rows settings.geometry.stride = none := by
  rcases Nat.eq_or_lt_of_le below with rfl | short
  · rw [Geometry.rowsIn_done, Nat.add_zero, holding_rows]
    exact write_complete engine block.memory sink wide block.rows
  · have due : taken + settings.geometry.rowsIn block.rows taken < settings.geometry.rows :=
      Nat.lt_of_le_of_ne (Geometry.add_rowsIn_le below block.rows) fun last => more ⟨short, last⟩
    rw [holding_of_lt frame short, holding_of_lt frame due, ← continues.take_append]
    refine write_partial engine sink wide rfl due (Decidable.or_iff_not_imp_left.mpr fun some => ?_)
    refine ((holds_iff wide frame short some).mpr fed).resolve_left fun whole => ?_
    rw [whole.2] at due
    exact Nat.not_lt.mpr (Nat.le_add_left _ _) due

/-- A block that finds no memory changes nothing. -/
theorem write_of_starved (frame : Frame.Samples settings.geometry)
    (starved : Starved settings.geometry taken block) (wide : 0 < settings.geometry.stride)
    (high : 0 < settings.geometry.rows) (engine : Engine) (sink : Sink) :
    (holding frame taken).write engine block.memory block.rows settings.geometry.stride sink =
        (.error .outOfMemory, holding frame taken, sink) ∧
      (holding frame taken).handed block.memory block.rows settings.geometry.stride = none := by
  obtain rfl := starved.1
  have some := starved.2.1.1
  rw [holding_of_lt frame high]
  exact write_starved engine sink rfl wide rfl some fun room =>
    (holds_iff wide frame high some).mp room starved

/-- **One block.** -/
theorem write_presented (wide : 0 < settings.geometry.stride) (high : 0 < settings.geometry.rows)
    {frame : Frame.Samples settings.geometry}
    (takes : sink.Takes (engine.encode settings frame) last)
    (below : taken ≤ settings.geometry.rows)
    (continues : Continues settings.geometry frame.val taken block.rows) :
    let call := presented engine frame taken block
    let before := sinkAt settings.geometry sink last taken
    let after := sinkAt settings.geometry sink last (taken + accepts settings.geometry taken block)
    (holding frame taken).write engine block.memory block.rows settings.geometry.stride before =
        (call.answer, holding frame (taken + accepts settings.geometry taken block), after) ∧
      (holding frame taken).handed block.memory block.rows settings.geometry.stride =
        call.handed ∧
      after.accepted = before.accepted ++ call.written := by
  unfold presented
  by_cases starved : Starved settings.geometry taken block
  · have none : accepts settings.geometry taken block = 0 := if_pos starved
    have due : ¬settings.geometry.Ends taken 0 := fun ends => Nat.ne_of_lt ends.1 ends.2
    obtain ⟨outcome, handed⟩ := write_of_starved frame starved wide high engine
      (sinkAt settings.geometry sink last taken)
    simp only [if_pos starved, none, if_neg due]
    exact ⟨outcome, handed, (List.append_nil _).symm⟩
  · rw [accepts_of_fed starved]
    by_cases ends : settings.geometry.Ends taken (settings.geometry.rowsIn block.rows taken)
    · obtain ⟨outcome, handed⟩ := write_of_ends ends starved wide continues engine sink
      rw [takes.wrote] at outcome
      simp only [if_neg starved, if_pos ends, ends.2, holding_rows, sinkAt_rows,
        sinkAt_of_lt sink last ends.1] at outcome ⊢
      exact ⟨outcome, handed, takes.accepted_eq⟩
    · obtain ⟨outcome, handed⟩ := write_of_not_ends ends starved wide below continues engine
        (sinkAt settings.geometry sink last taken)
      have same :
          sinkAt settings.geometry sink last
              (taken + settings.geometry.rowsIn block.rows taken) =
            sinkAt settings.geometry sink last taken := by
        rcases Nat.eq_or_lt_of_le below with rfl | short
        · rw [Geometry.rowsIn_done, Nat.add_zero]
        · have due := Nat.lt_of_le_of_ne (Geometry.add_rowsIn_le below block.rows) fun every =>
            ends ⟨short, every⟩
          rw [sinkAt_of_lt sink last short, sinkAt_of_lt sink last due]
      simp only [if_neg starved, if_neg ends, same]
      exact ⟨outcome, handed, (List.append_nil _).symm⟩

/-- What a block comes to depends on the engine only by what it encodes the frame to, and only if
the block ends the frame. -/
theorem write_congr {frame : Frame.Samples settings.geometry} {other : Engine}
    (wide : 0 < settings.geometry.stride) (high : 0 < settings.geometry.rows)
    (below : taken ≤ settings.geometry.rows)
    (continues : Continues settings.geometry frame.val taken block.rows)
    (same : settings.geometry.Ends taken (accepts settings.geometry taken block) →
      other.encode settings frame = engine.encode settings frame) (sink : Sink) :
    (holding frame taken).write other block.memory block.rows settings.geometry.stride sink =
      (holding frame taken).write engine block.memory block.rows settings.geometry.stride
        sink := by
  by_cases starved : Starved settings.geometry taken block
  · exact write_silent (write_of_starved frame starved wide high engine sink).2 other engine sink
  · rw [accepts_of_fed starved] at same
    by_cases ends : settings.geometry.Ends taken (settings.geometry.rowsIn block.rows taken)
    · rw [(write_of_ends ends starved wide continues engine sink).1,
        (write_of_ends ends starved wide continues other sink).1, same ends]
    · have silent := (write_of_not_ends ends starved wide below continues engine sink).2
      exact write_silent silent other engine sink

/-! ### A run -/

/-- The calls that blocks make. -/
def presentedAll (engine : Engine) (frame : Frame.Samples settings.geometry) :
    Nat → List Block → List Call
  | _, [] => []
  | before, block :: later =>
    presented engine frame before block ::
      presentedAll engine frame (before + accepts settings.geometry before block) later

/-- A run of a block and of those behind it. -/
theorem run_block {encoder next : Encoder} {after : Sink} {answer : Except Fault Nat}
    {written : Bytes} {stride : Nat} (strideEq : block.stride = stride)
    (outcome : encoder.write engine block.memory block.rows stride sink = (answer, next, after))
    (took : after.accepted = sink.accepted ++ written) (later : List Block) :
    encoder.run engine sink (block :: later) =
      .cons ⟨block.rows, stride, answer, encoder.handed block.memory block.rows stride, written⟩
        (next.run engine after later) := by
  obtain ⟨rows, _, memory⟩ := block
  obtain rfl := strideEq
  exact run_cons outcome took later

/-- **A run of blocks.** -/
theorem run_presented (wide : 0 < settings.geometry.stride) (high : 0 < settings.geometry.rows)
    {frame : Frame.Samples settings.geometry}
    (takes : sink.Takes (engine.encode settings frame) last)
    (below : taken ≤ settings.geometry.rows)
    (presents : Presents settings.geometry frame.val taken blocks) :
    (holding frame taken).run engine (sinkAt settings.geometry sink last taken) blocks =
      ⟨presentedAll engine frame taken blocks,
        holding frame (taken + acceptsAll settings.geometry taken blocks),
        sinkAt settings.geometry sink last
          (taken + acceptsAll settings.geometry taken blocks)⟩ := by
  induction blocks generalizing taken with
  | nil => rfl
  | cons block later ih =>
    obtain ⟨stride_eq, continues, presents⟩ := presents
    obtain ⟨outcome, handed, accepted⟩ := write_presented wide high takes below continues
    have rest := ih (add_accepts_le below block) presents
    rw [run_block stride_eq outcome accepted, handed, rest, acceptsAll, ← Nat.add_assoc]
    rfl

/-- **A run of blocks depends on the engine only by what it encodes the frame to**, and only if the
frame is completed. -/
theorem run_congr (wide : 0 < settings.geometry.stride) (high : 0 < settings.geometry.rows)
    {frame : Frame.Samples settings.geometry}
    (takes : sink.Takes (engine.encode settings frame) last)
    (below : taken ≤ settings.geometry.rows)
    (presents : Presents settings.geometry frame.val taken blocks) {other : Engine}
    (same : settings.geometry.Ends taken (acceptsAll settings.geometry taken blocks) →
      other.encode settings frame = engine.encode settings frame) :
    let before := sinkAt settings.geometry sink last taken
    (holding frame taken).run other before blocks =
      (holding frame taken).run engine before blocks := by
  intro before
  induction blocks generalizing taken with
  | nil => rfl
  | cons block later ih =>
    obtain ⟨stride_eq, continues, presents⟩ := presents
    obtain ⟨outcome, _, accepted⟩ := write_presented wide high takes below continues
    have bound := add_accepts_le below block
    rw [acceptsAll] at same
    have sameCall := write_congr wide high below continues
      (fun ends => same (ends_add_acceptsAll ends later).1) before
    have rest := ih bound presents fun ended => by
      by_cases ends : settings.geometry.Ends taken (accepts settings.geometry taken block)
      · -- the block ends the frame, so those behind it cannot
        exact absurd ended (ends_add_acceptsAll ends later).2
      · exact same ((Geometry.ends_add_iff bound ends).mpr ended)
    rw [run_block stride_eq (sameCall.trans outcome) accepted, rest]
    exact (run_block stride_eq outcome accepted _).symm

/-- The engine is handed the frame once, by a run that ends it. -/
theorem presentedAll_handed (engine : Engine) (frame : Frame.Samples settings.geometry)
    (below : taken ≤ settings.geometry.rows) (blocks : List Block) :
    (presentedAll engine frame taken blocks).filterMap Call.handed =
      if settings.geometry.Ends taken (acceptsAll settings.geometry taken blocks) then [frame.val]
      else [] := by
  induction blocks generalizing taken with
  | nil => exact (if_neg fun ended => Nat.ne_of_lt ended.1 ended.2).symm
  | cons block later ih =>
    have bound := add_accepts_le below block
    rw [presentedAll, List.filterMap_cons, ih bound, acceptsAll]
    unfold presented
    by_cases ends : settings.geometry.Ends taken (accepts settings.geometry taken block)
    · obtain ⟨all, idle⟩ := ends_add_acceptsAll ends later
      simp only [if_pos ends, if_neg idle, if_pos all]
    · simp only [if_neg ends]
      exact if_congr (Geometry.ends_add_iff bound ends).symm rfl rfl

/-! ### Blocks that find memory -/

/-- No block is refused: the first one that brings rows brings them all, or each finds memory. -/
def Provided (geometry : Geometry) (blocks : List Block) : Prop :=
  geometry.AtOnce (blocks.map Block.rows) ∨
    ∀ block ∈ blocks, block.memory.grants geometry.byteCount = true

/-- The numbers of rows that buffers bring, one after another. -/
def rowCounts (geometry : Geometry) : Nat → List Bytes → List Nat
  | _, [] => []
  | before, buffer :: later =>
    geometry.rowsIn buffer before ::
      rowCounts geometry (before + geometry.rowsIn buffer before) later

theorem Provided.first {geometry : Geometry} {later : List Block}
    (provided : Provided geometry (block :: later)) :
    ¬Starved geometry 0 block ∧ (geometry.rowsIn block.rows 0 = 0 → Provided geometry later) := by
  rcases provided with atOnce | granted
  · rw [List.map_cons] at atOnce
    by_cases idle : geometry.rowsIn block.rows 0 = 0
    · exact ⟨fun starved => starved.2.1.1 idle,
        fun _ => .inl ((Geometry.atOnce_cons_of_idle idle _).mp atOnce)⟩
    · exact ⟨fun starved => starved.2.1.2 ((Geometry.atOnce_cons_of_rows idle _).mp atOnce),
        fun none => absurd none idle⟩
  · obtain ⟨first, rest⟩ := List.forall_mem_cons.mp granted
    refine ⟨fun starved => ?_, fun _ => .inr rest⟩
    cases first.symm.trans starved.2.2

/-- **The rows that are told when no block is refused** are those of the buffers. -/
theorem presentedAll_provided (engine : Engine) (frame : Frame.Samples settings.geometry)
    (provided : taken = 0 → Provided settings.geometry blocks) :
    (presentedAll engine frame taken blocks).map Call.answer =
        (rowCounts settings.geometry taken (blocks.map Block.rows)).map .ok ∧
      acceptsAll settings.geometry taken blocks =
        settings.geometry.rowsInAll taken (blocks.map Block.rows) := by
  induction blocks generalizing taken with
  | nil => exact ⟨rfl, rfl⟩
  | cons block later ih =>
    have fed : ¬Starved settings.geometry taken block := by
      intro starved
      obtain rfl := starved.1
      exact (provided rfl).first.1 starved
    have rest : taken + settings.geometry.rowsIn block.rows taken = 0 →
        Provided settings.geometry later := by
      intro idle
      obtain ⟨rfl, none⟩ := Nat.add_eq_zero_iff.mp idle
      exact (provided rfl).first.2 none
    obtain ⟨answers, total⟩ := ih rest
    rw [presentedAll, acceptsAll, accepts_of_fed fed, List.map_cons, List.map_cons, rowCounts,
      Geometry.rowsInAll, answers, total, List.map_cons]
    refine ⟨congrArg (· :: _) ?_, rfl⟩
    exact if_neg fed

/-! ### The frame -/

/-- A single block that holds the whole frame needs no memory. -/
theorem write_at_once (wide : settings.geometry.width ≠ 0) (high : settings.geometry.height ≠ 0)
    {frame : Frame.Samples settings.geometry}
    (takes : sink.Takes (engine.encode settings frame) last) (memory : Memory) :
    (fresh settings).write engine memory frame.val settings.geometry.stride sink =
      (.ok settings.geometry.rows, ⟨some settings, [], settings.geometry.rows, true⟩, last) := by
  have highFrame := Geometry.rows_pos high
  have every : settings.geometry.rowsIn frame.val 0 = settings.geometry.rows :=
    Geometry.rowsIn_whole wide (Nat.le_of_eq frame.property.symm)
  have continues : Continues settings.geometry frame.val 0 frame.val := by
    unfold Continues
    rw [Nat.zero_mul, List.drop_zero]
    exact List.take_prefix _ _
  let block : Block := ⟨frame.val, settings.geometry.stride, memory⟩
  have fed : ¬Starved settings.geometry 0 block := fun starved => starved.2.1.2 every
  have ends : settings.geometry.Ends 0 (settings.geometry.rowsIn block.rows 0) :=
    ⟨highFrame, (Nat.zero_add _).trans every⟩
  obtain ⟨outcome, _⟩ :=
    write_of_ends ends fed (Geometry.stride_pos wide) continues engine sink
  rw [takes.wrote, ← fresh_eq_holding highFrame frame] at outcome
  simp only [block, every] at outcome
  exact outcome

/-- **A frame is encoded alike however it is presented.** Each block has as many rows taken as it
holds and the frame lacks; only the first rows may be refused, if they are not all of the frame and
there is no memory to stage them, and then nothing changes. The engine is handed the frame once, in
the call that completes it, and nothing else; the sink is left as a single block leaves it, and
calls after it take nothing. Encoding ends, with one flush, if all rows were taken, and is refused
with none if not. -/
theorem run_presents (wide : settings.geometry.width ≠ 0) (high : settings.geometry.height ≠ 0)
    (valid : isValidQuality settings.quality = true) {frame : Frame.Samples settings.geometry}
    (takes : sink.Takes (engine.encode settings frame) last)
    (presents : Presents settings.geometry frame.val 0 blocks) :
    let begun := fresh settings
    let stride := settings.geometry.stride
    let total := acceptsAll settings.geometry 0 blocks
    let run := begun.run engine sink blocks
    create.begin settings = (.ok (), begun) ∧
      total ≤ settings.geometry.rows ∧
      run.calls = presentedAll engine frame 0 blocks ∧
      (Provided settings.geometry blocks →
        run.calls.map Call.answer =
            (rowCounts settings.geometry 0 (blocks.map Block.rows)).map .ok ∧
          total = settings.geometry.rowsInAll 0 (blocks.map Block.rows)) ∧
      run.calls.filterMap Call.handed =
        (if total = settings.geometry.rows then [frame.val] else []) ∧
      (∀ other : Engine, (total = settings.geometry.rows →
          other.encode settings frame = engine.encode settings frame) →
        begun.run other sink blocks = run) ∧
      run.sink.accepted = sink.accepted ++
        (if total = settings.geometry.rows then engine.encode settings frame else []) ∧
      (total = settings.geometry.rows →
        ∀ memory : Memory, begun.write engine memory frame.val stride sink =
            (.ok settings.geometry.rows, run.encoder, run.sink) ∧
          ∀ buffer, run.encoder.write engine memory buffer stride run.sink =
            (.ok 0, run.encoder, run.sink)) ∧
      run.sink.flushes = sink.flushes ∧
      run.encoder.finish run.sink =
        if total = settings.geometry.rows then
          (.ok (), { run.sink with flushes := run.sink.flushes + 1 })
        else (.error (.unfinished total settings.geometry.rows), run.sink) := by
  intro begun stride total run
  have wideRow := Geometry.stride_pos wide
  have highFrame := Geometry.rows_pos high
  have bound : total ≤ settings.geometry.rows := by
    have within := add_acceptsAll_le (Nat.zero_le settings.geometry.rows) blocks
    rwa [Nat.zero_add] at within
  have begins : begun = holding frame 0 := fresh_eq_holding highFrame frame
  have sinkBegins : sink = sinkAt settings.geometry sink last 0 :=
    (sinkAt_of_lt sink last highFrame).symm
  have ran : run = ⟨presentedAll engine frame 0 blocks, holding frame total,
      sinkAt settings.geometry sink last total⟩ := by
    have follows := run_presented wideRow highFrame takes (Nat.zero_le _) presents
    rwa [← begins, ← sinkBegins, Nat.zero_add] at follows
  have once : settings.geometry.Ends 0 (acceptsAll settings.geometry 0 blocks) ↔
      total = settings.geometry.rows := by
    rw [Geometry.Ends, Nat.zero_add]
    exact and_iff_right highFrame
  refine ⟨begin_eq_ok_iff.mpr ⟨valid, rfl⟩, bound, congrArg Run.calls ran, fun provided => ?_, ?_,
    ?_, ?_⟩
  · rw [ran]
    exact presentedAll_provided engine frame fun _ => provided
  · rw [ran, presentedAll_handed engine frame (Nat.zero_le _) blocks]
    simp only [once]
  · intro other same
    have congruent := run_congr wideRow highFrame takes (Nat.zero_le _) presents fun ended =>
      same (once.mp ended)
    rwa [← begins, ← sinkBegins] at congruent
  · rw [ran]
    by_cases all : total = settings.geometry.rows
    · simp only [all, if_true, holding_rows, sinkAt_rows]
      exact ⟨takes.accepted_eq,
        fun _ memory => ⟨write_at_once wide high takes memory, fun buffer =>
          (write_complete engine memory last wideRow buffer).1⟩,
        takes.flushes_eq, finish_eq_ok_iff.mpr ⟨rfl, takes.flushError_eq, rfl⟩⟩
    · have short := Nat.lt_of_le_of_ne bound all
      simp only [if_neg all, holding_of_lt frame short, sinkAt_of_lt sink last short]
      exact ⟨(List.append_nil _).symm, fun whole => absurd whole all, trivial, rfl⟩

/-! ### A block that is cut -/

/-- A block of samples that are all different. -/
def numberedBlock : Frame.Samples blockSettings.geometry :=
  ⟨(List.range 64).map UInt8.ofNat, by rw [List.length_map, List.length_range]; rfl⟩

/-- The block, cut within a row and behind one, with an empty buffer between, and past its end. The
first piece finds no memory, and is offered again. -/
def cutBlock : List Block :=
  [⟨numberedBlock.val.take 13, 8, .below 64⟩, ⟨numberedBlock.val.take 13, 8, .below 65⟩,
    ⟨[], 8, .below 0⟩, ⟨(numberedBlock.val.drop 8).take 24, 8, .below 0⟩,
    ⟨numberedBlock.val.drop 32 ++ [1, 2, 3], 8, .below 0⟩, ⟨numberedBlock.val, 8, .below 0⟩]

/-- A sink that takes seven bytes at a time and interrupts a write once. -/
def slowSink : Sink :=
  { Sink.empty with
    limit := fun _ => some 7
    faults := [⟨20, .refuse ⟨.interrupted, "interrupted"⟩⟩] }

/-- The run that offers the block as it is cut. -/
def cutRun : Run := (fresh blockSettings).run Dct.engine slowSink cutBlock

/-- The block is encoded as it is, in the fifth call. -/
theorem run_presents_cut_block :
    isValidQuality blockSettings.quality = true ∧ slowSink.Reliable ∧
      Presents blockSettings.geometry numberedBlock.val 0 cutBlock ∧
      cutRun.calls.map Call.answer =
        [.error .outOfMemory, .ok 1, .ok 0, .ok 3, .ok 4, .ok 0] ∧
      cutRun.calls.map Call.handed = [none, none, none, none, some numberedBlock.val, none] ∧
      cutRun.sink.accepted = Dct.engine.encode blockSettings numberedBlock ∧
      (cutRun.encoder.finish cutRun.sink).1 = .ok () := by
  have reliable : slowSink.Reliable := by
    refine ⟨fun _ => nofun, fun fault member => ?_, rfl⟩
    obtain rfl := List.mem_singleton.mp member
    exact ⟨_, rfl, rfl⟩
  have presents : Presents blockSettings.geometry numberedBlock.val 0 cutBlock :=
    ⟨rfl, by decide, rfl, by decide, rfl, by decide, rfl, by decide, rfl, by decide, rfl,
      by decide, trivial⟩
  have all : acceptsAll blockSettings.geometry 0 cutBlock = blockSettings.geometry.rows := by
    decide
  obtain ⟨last, takes⟩ := reliable.takes (Dct.engine.encode blockSettings numberedBlock)
  obtain ⟨_, _, calls, _, _, _, accepted, _, _, finished⟩ :=
    run_presents (by decide) (by decide) rfl takes presents
  rw [← cutRun] at calls accepted
  rw [if_pos all] at accepted finished
  refine ⟨rfl, reliable, presents, ?_, ?_, accepted, congrArg Prod.fst finished⟩
  · rw [calls]
    rfl
  · rw [calls]
    rfl

end JpegTranscoder.Scanline.Encoder
