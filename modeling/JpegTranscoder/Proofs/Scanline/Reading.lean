/-
**Frames that are read in parts.**

A reader that takes the whole frame has it decoded into its buffer; for any other the frame is
decoded once, if there is memory to stage it, and copied out row by row. Both hand out the same
rows. Without memory there are none to hand out, since the source is given away before it is asked
for:

* `read_pending`, `read_starved`: what the first read that has room for rows gives;
* `Stands.read`: what any read after it gives;
* `readAll_provided`, `readAll_starved`: what reads give one after another;
* `readAll_rows`: the rows that are read of a source, and in what buffers.
-/
import JpegTranscoder.Proofs.Recompression.Flat
import JpegTranscoder.Proofs.Scanline.Frame
import JpegTranscoder.Proofs.Scanline.Rows

namespace JpegTranscoder.Scanline.Decoder

variable {engine : Engine} {memory : Memory} {source : Bytes} {offer : Offer} {shape : Geometry}
  {frame : Frame.Samples shape} {decoder next : Decoder} {buffer : Bytes} {row : Nat}

/-! ### What is read -/

/-- A buffer with the rows at its start that stand at a row of the frame. -/
def filled (shape : Geometry) (frame : Bytes) (row : Nat) (buffer : Bytes) : Bytes :=
  (frame.drop (row * shape.stride)).take (shape.rowsIn buffer row * shape.stride) ++
    buffer.drop (shape.rowsIn buffer row * shape.stride)

/-- The numbers of rows that reads give one after another, and the buffers they leave. -/
def deliveries (shape : Geometry) (frame : Bytes) : Nat → List Bytes → List (Nat × Bytes)
  | _, [] => []
  | row, buffer :: later =>
    (shape.rowsIn buffer row, filled shape frame row buffer) ::
      deliveries shape frame (row + shape.rowsIn buffer row) later

/-- What reads give when there is no memory to stage the frame. The first one that has room for rows
is refused, and so are those behind it, which find no frame. -/
def refusals (shape : Geometry) (fault : Fault) : List Bytes → List (Except Fault (Nat × Bytes))
  | [] => []
  | buffer :: later =>
    if shape.rowsIn buffer 0 = 0 then .ok (0, buffer) :: refusals shape fault later
    else .error fault :: refusals shape .frameUnavailable later

/-- The rows of a frame behind its first ones. -/
theorem length_take_drop_rows {count : Nat} (within : row + count ≤ shape.rows)
    (frame : Frame.Samples shape) :
    ((frame.val.drop (row * shape.stride)).take (count * shape.stride)).length =
      count * shape.stride := by
  have room := Nat.mul_le_mul_right shape.stride within
  rw [Nat.add_mul] at room
  rw [List.length_take, List.length_drop, frame.property, Geometry.byteCount]
  omega

/-! ### One read -/

/-- The decoder that has begun, and has its source still to give away. -/
def pending (source : Bytes) (offer : Offer) (shape : Geometry) : Decoder :=
  ⟨some (source, offer), true, some shape, [], 0⟩

/-- The decoder that has given its source away and got no frame for it. -/
def spent (shape : Geometry) : Decoder := ⟨none, true, some shape, [], 0⟩

/-- A decoder that stands before a row of a decoded frame. -/
inductive Stands (frame : Frame.Samples shape) : Nat → Decoder → Prop where
  /-- The frame is staged. -/
  | staged {row : Nat} (short : row < shape.rows) :
    Stands frame row ⟨none, true, some shape, frame.val, row⟩
  /-- All rows have been read. -/
  | drained : Stands frame shape.rows ⟨none, true, some shape, [], shape.rows⟩

theorem Stands.le_rows (stands : Stands frame row decoder) : row ≤ shape.rows := by
  cases stands with
  | staged short => exact Nat.le_of_lt short
  | drained => exact Nat.le_refl _

/-- Rows are copied from a staged frame. -/
theorem copyRows_staged {count : Nat} (within : row + count ≤ shape.rows)
    (frame : Frame.Samples shape) (buffer : Bytes) :
    ∃ next, copyRows ⟨none, true, some shape, frame.val, row⟩ shape count buffer =
        (.ok (count,
          .start ((frame.val.drop (row * shape.stride)).take (count * shape.stride)) buffer),
          next) ∧
      Stands frame (row + count) next := by
  have room := Nat.mul_le_mul_right shape.stride within
  rw [Nat.add_mul] at room
  have enough : ¬frame.val.length < row * shape.stride + count * shape.stride := by
    rw [frame.property]
    exact Nat.not_lt.mpr room
  unfold copyRows
  refine ⟨_, if_neg enough, ?_⟩
  rcases Nat.eq_or_lt_of_le within with last | due
  · simp only [last, if_true]
    exact .drained
  · simp only [if_neg (Nat.ne_of_lt due)]
    exact .staged due

theorem read_rows (engine : Engine) (memory : Memory) (known : decoder.geometry = some shape)
    (wide : 0 < shape.stride) (buffer : Bytes) :
    decoder.read engine memory buffer shape.stride =
      if shape.rowsIn buffer decoder.nextRow = 0 then (.ok (0, ⟨buffer, rfl⟩), decoder)
      else
        decoder.handOut engine memory shape (shape.rowsIn buffer decoder.nextRow) buffer := by
  rw [read, known]
  simp only [ne_eq, not_true_eq_false, if_false, if_neg (Nat.ne_of_gt wide)]
  rfl

theorem read_some (engine : Engine) (memory : Memory) (known : decoder.geometry = some shape)
    (wide : 0 < shape.stride) (some : shape.rowsIn buffer decoder.nextRow ≠ 0) :
    decoder.read engine memory buffer shape.stride =
      decoder.handOut engine memory shape (shape.rowsIn buffer decoder.nextRow) buffer := by
  rw [read_rows engine memory known wide, if_neg some]

/-- A read that has no room for rows gives none. -/
theorem read_idle (engine : Engine) (memory : Memory) (known : decoder.geometry = some shape)
    (wide : 0 < shape.stride) (idle : shape.rowsIn buffer decoder.nextRow = 0) :
    decoder.read engine memory buffer shape.stride = (.ok (0, ⟨buffer, rfl⟩), decoder) := by
  rw [read_rows engine memory known wide, if_pos idle]

theorem filled_idle (frame : Bytes) (idle : shape.rowsIn buffer row = 0) :
    filled shape frame row buffer = buffer := by
  unfold filled
  rw [idle, Nat.zero_mul, List.take_zero, List.drop_zero, List.nil_append]

/-- Rows are written to the start of a buffer. -/
theorem start_filled (frame : Frame.Samples shape) (below : row ≤ shape.rows) (buffer : Bytes) :
    (Refill.start ((frame.val.drop (row * shape.stride)).take
      (shape.rowsIn buffer row * shape.stride)) buffer).val =
        filled shape frame.val row buffer := by
  have length := length_take_drop_rows (Geometry.add_rowsIn_le below buffer) frame
  have fits : shape.rowsIn buffer row * shape.stride ≤ buffer.length := by
    rw [← shape.length_take_rowsIn]
    exact List.length_take_le' _ _
  show overlay _ buffer = _
  rw [overlay_of_fits (length.symm ▸ fits), length]
  rfl

/-- **One read of a decoded frame** gives its next rows, as many as the buffer has room for. -/
theorem Stands.read (stands : Stands frame row decoder) (wide : 0 < shape.stride)
    (engine : Engine) (memory : Memory) (buffer : Bytes) :
    ∃ answer next, decoder.read engine memory buffer shape.stride =
        (.ok (shape.rowsIn buffer row, answer), next) ∧
      answer.val = filled shape frame.val row buffer ∧
      Stands frame (row + shape.rowsIn buffer row) next := by
  have within := Geometry.add_rowsIn_le stands.le_rows buffer
  have written := start_filled frame stands.le_rows buffer
  by_cases idle : shape.rowsIn buffer row = 0
  · refine ⟨⟨buffer, rfl⟩, decoder, ?_, (filled_idle frame.val idle).symm, ?_⟩
    · cases stands <;> rw [read_idle engine memory rfl wide idle, idle]
    · rw [idle]
      exact stands
  · cases stands with
    | staged short =>
      obtain ⟨next, copied, stands⟩ := copyRows_staged within frame buffer
      refine ⟨_, next, ?_, written, stands⟩
      rw [read_some engine memory rfl wide idle, handOut]
      exact copied
    | drained => exact absurd (shape.rowsIn_done buffer) idle

/-- **The first read that has room for rows** gives the first rows of the frame, if it has room for
all of them or there is memory to stage them. -/
theorem read_pending (offer : Offer) (decodes : engine.decode source shape = .ok frame)
    (wide : 0 < shape.stride) (some : shape.rowsIn buffer 0 ≠ 0)
    (room : shape.rowsIn buffer 0 = shape.rows ∨ memory.grants shape.byteCount = true) :
    ∃ answer next, (pending source offer shape).read engine memory buffer shape.stride =
        (.ok (shape.rowsIn buffer 0, answer), next) ∧
      answer.val = filled shape frame.val 0 buffer ∧ Stands frame (shape.rowsIn buffer 0) next := by
  have written := start_filled frame (Nat.zero_le _) buffer
  have handing : (pending source offer shape).read engine memory buffer shape.stride = _ :=
    read_some engine memory rfl wide some
  by_cases whole : shape.rowsIn buffer 0 = shape.rows
  · -- the reader takes the whole frame, so nothing is staged
    refine ⟨.start frame.val buffer, ⟨none, true, Option.some shape, [], shape.rows⟩, ?_, ?_, ?_⟩
    · rw [handing, handOut]
      simp only [pending, decodes, whole, and_self, if_true]
    · rw [← written, whole, Nat.zero_mul, List.drop_zero, Geometry.take_rows frame.property]
    · rw [whole]
      exact .drained
  · have granted := room.resolve_left whole
    have within := Geometry.add_rowsIn_le (Nat.zero_le shape.rows) buffer
    obtain ⟨next, copied, stands⟩ := copyRows_staged within frame buffer
    rw [Nat.zero_add] at stands
    refine ⟨_, next, ?_, written, stands⟩
    rw [handing, handOut]
    simp only [pending, decodes, whole, granted, and_false, if_false, if_true]
    exact copied

/-- If it has room for a part of them only, and there is no memory, the source is given away for
nothing. -/
theorem read_starved (engine : Engine) (wide : 0 < shape.stride) (splits : shape.Splits buffer)
    (refused : memory.grants shape.byteCount = false) :
    (pending source offer shape).read engine memory buffer shape.stride =
      (.error .outOfMemory, spent shape) := by
  have handing : (pending source offer shape).read engine memory buffer shape.stride = _ :=
    read_some engine memory rfl wide splits.1
  rw [handing, handOut]
  simp only [pending, splits.2, refused, and_false, if_false, Bool.false_eq_true]
  rfl

/-- A decoder without source or frame has no rows to give. -/
theorem read_spent (engine : Engine) (memory : Memory) (wide : 0 < shape.stride)
    (some : shape.rowsIn buffer 0 ≠ 0) :
    (spent shape).read engine memory buffer shape.stride =
      (.error .frameUnavailable, spent shape) := by
  have rows : 0 < shape.rowsIn buffer 0 * shape.stride := Nat.mul_pos (Nat.pos_of_ne_zero some) wide
  have short : (spent shape).staged.length <
      (spent shape).nextRow * shape.stride + shape.rowsIn buffer 0 * shape.stride := by
    rw [show (spent shape).nextRow = 0 from rfl, Nat.zero_mul, Nat.zero_add]
    exact rows
  have handing : (spent shape).read engine memory buffer shape.stride = _ :=
    read_some engine memory rfl wide some
  rw [handing, handOut]
  exact if_pos short

/-! ### Reads one after another -/

/-- Reads into buffers, one after another. One of them at most asks for memory. -/
def readAll (engine : Engine) (memory : Memory) (stride : Nat) :
    Decoder → List Bytes → List (Except Fault (Nat × Bytes)) × Decoder
  | decoder, [] => ([], decoder)
  | decoder, buffer :: later =>
    let (answer, next) := decoder.read engine memory buffer stride
    let (answers, last) := readAll engine memory stride next later
    (answer.map (fun (count, refill) => (count, refill.val)) :: answers, last)

/-- The rows that a read is answered with. -/
def rowsOf (stride : Nat) : Except Fault (Nat × Bytes) → Bytes
  | .ok (count, buffer) => buffer.take (count * stride)
  | .error _ => []

theorem readAll_cons {stride : Nat} {answer : Except Fault (Nat × Refill buffer)}
    (outcome : decoder.read engine memory buffer stride = (answer, next)) (later : List Bytes) :
    (readAll engine memory stride decoder (buffer :: later)).1 =
      answer.map (fun (count, refill) => (count, refill.val)) ::
        (readAll engine memory stride next later).1 := by
  rw [readAll, outcome]

/-- Reads of a decoded frame. -/
theorem Stands.readAll (stands : Stands frame row decoder) (wide : 0 < shape.stride)
    (engine : Engine) (memory : Memory) (buffers : List Bytes) :
    (readAll engine memory shape.stride decoder buffers).1 =
      (deliveries shape frame.val row buffers).map .ok := by
  induction buffers generalizing row decoder with
  | nil => rfl
  | cons buffer later ih =>
    obtain ⟨answer, next, outcome, content, after⟩ := stands.read wide engine memory buffer
    rw [readAll_cons outcome, ih after, deliveries, List.map_cons, ← content]
    rfl

/-- **Reads one after another**, if one of them has room for the whole frame before any other has
room for rows of it, or there is memory to stage it. -/
theorem readAll_provided (decodes : engine.decode source shape = .ok frame)
    (wide : 0 < shape.stride) {buffers : List Bytes}
    (provided : shape.AtOnce buffers ∨ memory.grants shape.byteCount = true) :
    (readAll engine memory shape.stride (pending source offer shape) buffers).1 =
      (deliveries shape frame.val 0 buffers).map .ok := by
  induction buffers with
  | nil => rfl
  | cons buffer later ih =>
    by_cases idle : shape.rowsIn buffer 0 = 0
    · have unread : (pending source offer shape).read engine memory buffer shape.stride = _ :=
        read_idle engine memory rfl wide idle
      rw [Geometry.atOnce_cons_of_idle idle] at provided
      rw [readAll_cons unread, ih provided, deliveries, List.map_cons, filled_idle frame.val idle,
        idle]
      rfl
    · rw [Geometry.atOnce_cons_of_rows idle] at provided
      obtain ⟨answer, next, outcome, content, stands⟩ :=
        read_pending offer decodes wide idle provided
      rw [readAll_cons outcome, stands.readAll wide engine memory later, deliveries, List.map_cons,
        Nat.zero_add, ← content]
      rfl

theorem readAll_spent (engine : Engine) (memory : Memory) (wide : 0 < shape.stride)
    (buffers : List Bytes) :
    (readAll engine memory shape.stride (spent shape) buffers).1 =
      refusals shape .frameUnavailable buffers := by
  induction buffers with
  | nil => rfl
  | cons buffer later ih =>
    rw [refusals]
    split
    · rename_i idle
      rw [readAll_cons (read_idle engine memory rfl wide idle), ih]
      rfl
    · rename_i some
      rw [readAll_cons (read_spent engine memory wide some), ih]
      rfl

/-- **Reads one after another**, otherwise. -/
theorem readAll_starved (engine : Engine) (wide : 0 < shape.stride) {buffers : List Bytes}
    (parts : ¬shape.AtOnce buffers) (refused : memory.grants shape.byteCount = false) :
    (readAll engine memory shape.stride (pending source offer shape) buffers).1 =
      refusals shape .outOfMemory buffers := by
  induction buffers with
  | nil => exact absurd trivial parts
  | cons buffer later ih =>
    by_cases idle : shape.rowsIn buffer 0 = 0
    · have unread : (pending source offer shape).read engine memory buffer shape.stride = _ :=
        read_idle engine memory rfl wide idle
      rw [Geometry.atOnce_cons_of_idle idle] at parts
      rw [readAll_cons unread, ih parts, refusals, if_pos idle]
      rfl
    · rw [Geometry.atOnce_cons_of_rows idle] at parts
      rw [readAll_cons (read_starved engine wide ⟨idle, parts⟩ refused),
        readAll_spent engine memory wide, refusals, if_neg idle]
      rfl

/-- The rows that are read one after another follow each other in the frame. -/
theorem deliveries_rows (frame : Frame.Samples shape) (below : row ≤ shape.rows)
    (buffers : List Bytes) :
    ((deliveries shape frame.val row buffers).map .ok).flatMap (rowsOf shape.stride) =
      (frame.val.drop (row * shape.stride)).take
        (shape.rowsInAll row buffers * shape.stride) := by
  induction buffers generalizing row with
  | nil =>
    show [] = _
    rw [Geometry.rowsInAll, Nat.zero_mul, List.take_zero]
  | cons buffer later ih =>
    have within := Geometry.add_rowsIn_le below buffer
    have length := length_take_drop_rows within frame
    have first : rowsOf shape.stride
          (.ok (shape.rowsIn buffer row, filled shape frame.val row buffer)) =
        (frame.val.drop (row * shape.stride)).take (shape.rowsIn buffer row * shape.stride) :=
      List.take_left' length
    rw [deliveries, List.map_cons, List.flatMap_cons, first, ih within,
      Geometry.rowsInAll, Nat.add_mul, Nat.add_mul, List.take_add, List.drop_drop]

theorem refusals_rows (shape : Geometry) (fault : Fault) (buffers : List Bytes) :
    (refusals shape fault buffers).flatMap (rowsOf shape.stride) = [] := by
  induction buffers generalizing fault with
  | nil => rfl
  | cons buffer later ih =>
    rw [refusals]
    split
    · rw [List.flatMap_cons, ih, rowsOf, Nat.zero_mul, List.take_zero, List.append_nil]
    · rw [List.flatMap_cons, ih, rowsOf, List.append_nil]

/-- Decoding begins of a source that has its end, if the frame that the engine offers has a
shape. -/
theorem begin_eq_ok_iff {terminated : Bool} {begun : Decoder} :
    (create source offer terminated).begin = (.ok shape, begun) ↔
      terminated = true ∧ offer = .ofGeometry shape ∧ begun = pending source offer shape := by
  cases terminated with
  | false =>
    constructor
    · intro began
      cases began
    · rintro ⟨whole, _⟩
      cases whole
  | true =>
    cases shaped : shapeOf offer with
    | error fault =>
      rw [begin_unshaped shaped]
      constructor
      · intro began
        cases began
      · rintro ⟨_, rfl, _⟩
        rw [shapeOf_ofGeometry] at shaped
        cases shaped
    | ok rows =>
      obtain rfl := shapeOf_eq_ok_iff.mp shaped
      rw [begin_shaped shaped]
      constructor
      · intro began
        cases began
        exact ⟨rfl, rfl, rfl⟩
      · rintro ⟨_, same, rfl⟩
        obtain rfl := Except.ok.inj (shaped.symm.trans (shapeOf_eq_ok_iff.mpr same))
        rfl

/-- **A frame is read alike however it is cut.** Let a source be opened that was not cut short, by
an engine that offers no empty frame. Each read gives the next rows of the frame that the engine
decodes, as many as its buffer has room for and the frame has left, and leaves the rest of the
buffer alone; so the rows are the first ones of those that a single read gives.

This takes memory to stage the frame, unless one buffer has room for all of it before any other has
room for rows. When it is refused the first read that has room for rows says so, and no rows are
read at all. -/
theorem readAll_rows {header : Header} {begun : Decoder} (offers : engine.OffersRows source)
    (opened : (openSource engine source).2 = .ok (decoder, header))
    (began : decoder.begin = (.ok shape, begun)) (decodes : engine.decode source shape = .ok frame)
    (memory : Memory) (buffers : List Bytes) :
    let answers := (readAll engine memory shape.stride begun buffers).1
    let total := shape.rowsInAll 0 buffers
    total ≤ shape.rows ∧
      (shape.AtOnce buffers ∨ memory.grants shape.byteCount = true →
        answers = (deliveries shape frame.val 0 buffers).map .ok ∧
        answers.flatMap (rowsOf shape.stride) = frame.val.take (total * shape.stride)) ∧
      (¬shape.AtOnce buffers → memory.grants shape.byteCount = false →
        answers = refusals shape .outOfMemory buffers ∧
        answers.flatMap (rowsOf shape.stride) = []) ∧
      ∀ buffer : Bytes, shape.byteCount ≤ buffer.length →
        ∃ answer last,
          begun.read engine memory buffer shape.stride = (.ok (shape.rows, answer), last) ∧
          answer.val = frame.val ++ buffer.drop shape.byteCount := by
  intro answers total
  obtain ⟨_, _, _, _, accepted, rfl⟩ := openSource_eq_ok_iff.mp opened
  obtain ⟨_, rfl, rfl⟩ := begin_eq_ok_iff.mp began
  obtain ⟨wide, high⟩ := offers.sized accepted
  have wideRow := Geometry.stride_pos wide
  refine ⟨Geometry.rowsInAll_le buffers, fun provided => ?_, fun parts refused => ?_, ?_⟩
  · have all : answers = _ := readAll_provided decodes wideRow provided
    refine ⟨all, ?_⟩
    rw [all, deliveries_rows frame (Nat.zero_le _) buffers, Nat.zero_mul, List.drop_zero]
  · have all : answers = _ := readAll_starved engine wideRow parts refused
    exact ⟨all, all ▸ refusals_rows shape .outOfMemory buffers⟩
  · intro buffer long
    have every := Geometry.rowsIn_whole wide long
    have some : shape.rowsIn buffer 0 ≠ 0 := every ▸ Nat.ne_of_gt (Geometry.rows_pos high)
    obtain ⟨answer, last, outcome, content, _⟩ :=
      read_pending _ decodes wideRow some (.inl every)
    have given : filled shape frame.val 0 buffer =
        frame.val ++ buffer.drop shape.byteCount := by
      unfold filled
      rw [every, Nat.zero_mul, List.drop_zero, Geometry.take_rows frame.property]
      rfl
    rw [every] at outcome
    exact ⟨answer, last, outcome, content.trans given⟩

/-- A stream of a gray block. -/
def blockSource : Bytes := Flat.stream ⟨⟨8, 8, .gray⟩, 50, false, true⟩

theorem inspect_blockSource :
    Flat.engine.inspect blockSource = .ok (.ofGeometry ⟨8, 8, .gray⟩) := by
  obtain ⟨accepted, _⟩ := Flat.conforms.reads ⟨⟨8, 8, .gray⟩, 50, false, true⟩
    (Flat.frame ⟨8, 8, .gray⟩) rfl (by decide) (by decide)
  exact accepted

theorem openSource_blockSource : ∃ header,
    (openSource Flat.engine blockSource).2 =
      .ok (create blockSource (.ofGeometry ⟨8, 8, .gray⟩) true, header) := by
  obtain ⟨header, read, whole, _⟩ := (Flat.stream_form ⟨⟨8, 8, .gray⟩, 50, false, true⟩).read rfl
  exact ⟨header, openSource_eq_ok_iff.mpr ⟨_, true, read, whole, inspect_blockSource, rfl⟩⟩

/-- A gray block is read into buffers that have room for less than a row, for two rows and a half,
for nothing, and for more than the six rows that are left; with memory for the block, and with
none. -/
theorem readAll_rows_block :
    let shape : Geometry := ⟨8, 8, .gray⟩
    let empty (size : Nat) : Bytes := List.replicate size 0
    let gray (size : Nat) : Bytes := List.replicate size 128
    let buffers := [empty 5, empty 20, [], empty 100]
    ∃ decoder header begun,
      (openSource Flat.engine blockSource).2 = .ok (decoder, header) ∧
        decoder.begin = (.ok shape, begun) ∧
        (readAll Flat.engine (.below 65) 8 begun buffers).1 =
          [.ok (0, empty 5), .ok (2, gray 16 ++ empty 4), .ok (0, []),
            .ok (6, gray 48 ++ empty 52)] ∧
        (readAll Flat.engine (.below 64) 8 begun buffers).1 =
          [.ok (0, empty 5), .error .outOfMemory, .ok (0, []), .error .frameUnavailable] := by
  intro shape empty gray buffers
  obtain ⟨header, opened⟩ := openSource_blockSource
  have began : (create blockSource (.ofGeometry shape) true).begin =
      (.ok shape, pending blockSource (.ofGeometry shape) shape) :=
    begin_eq_ok_iff.mpr ⟨rfl, rfl, rfl⟩
  have decodes : Flat.engine.decode blockSource shape = .ok (Flat.frame shape) := rfl
  have offers : Flat.engine.OffersRows blockSource := by
    intro offer told
    cases inspect_blockSource.symm.trans told
    decide
  obtain ⟨_, provided, _⟩ := readAll_rows offers opened began decodes (.below 65) buffers
  obtain ⟨_, _, starved, _⟩ := readAll_rows offers opened began decodes (.below 64) buffers
  have given : deliveries shape (Flat.frame shape).val 0 buffers =
      [(0, empty 5), (2, gray 16 ++ empty 4), (0, []), (6, gray 48 ++ empty 52)] := by decide
  have parts : ¬shape.AtOnce buffers := by
    rw [Geometry.atOnce_cons_of_idle (by decide), Geometry.atOnce_cons_of_rows (by decide)]
    decide
  have refused : refusals shape .outOfMemory buffers =
      [.ok (0, empty 5), .error .outOfMemory, .ok (0, []), .error .frameUnavailable] := by
    simp only [buffers, refusals, if_pos (show shape.rowsIn (empty 5) 0 = 0 by decide),
      if_neg (show shape.rowsIn (empty 20) 0 ≠ 0 by decide),
      if_pos (show shape.rowsIn [] 0 = 0 by decide),
      if_neg (show shape.rowsIn (empty 100) 0 ≠ 0 by decide)]
  exact ⟨_, header, _, opened, began, (provided (.inr (by decide))).1.trans (by rw [given]; rfl),
    (starved parts (by decide)).1.trans refused⟩

end JpegTranscoder.Scanline.Decoder
