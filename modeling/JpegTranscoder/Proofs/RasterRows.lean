/-
**A raster as a list of rows.**

A raster keeps its rows in one block and finds them by offsets. Whatever is written into it, in
whatever order, and also once it is released, it shows a list of rows:

* `Edit.over`: what an edit makes of a list of rows;
* `Holds.shows`: the views of a raster that holds rows;
* `Holds.inWords`: the offsets of its views are words, and lie within its samples;
* `Holds.edit`, `Holds.edited`: the rows after one edit, and after any number of them;
* `edited_shows`: what an allocated raster shows after edits.
-/
import JpegTranscoder.Proofs.RasterShape

namespace JpegTranscoder

variable {rows : List Bytes} {stride : Nat}

/-! ### Writing over blocks -/

/-- Only as many bytes are written as the block has. -/
theorem overlay_take (written block : Bytes) :
    overlay (written.take block.length) block = overlay written block := by
  rw [overlay, overlay, List.take_take, Nat.min_self, List.length_take]
  rcases Nat.le_total block.length written.length with long | short
  · rw [Nat.min_eq_left long, List.drop_length, List.drop_of_length_le long]
  · rw [Nat.min_eq_right short]

theorem overlay_nil (block : Bytes) : overlay [] block = block := by
  rw [overlay, List.take_nil, List.length_nil, List.drop_zero, List.nil_append]

/-- What is too long for the first of two blocks goes on in the second. -/
theorem overlay_append (written first second : Bytes) :
    overlay written (first ++ second) =
      overlay written first ++ overlay (written.drop first.length) second := by
  rw [overlay, overlay, overlay, List.length_append, List.take_add, List.drop_append,
    List.length_drop]
  rcases Nat.le_total first.length written.length with long | short
  · rw [List.drop_of_length_le long, List.nil_append, List.append_nil, List.append_assoc]
  · rw [List.drop_of_length_le short, List.take_nil, List.append_nil, List.nil_append,
      List.append_assoc]

/-- Writes over rows that follow each other: each takes what the rows before it have left. -/
def overlayRows : Bytes → List Bytes → List Bytes
  | _, [] => []
  | block, row :: later => overlay block row :: overlayRows (block.drop row.length) later

theorem flatten_overlayRows (block : Bytes) (rows : List Bytes) :
    (overlayRows block rows).flatten = overlay block rows.flatten := by
  induction rows generalizing block with
  | nil =>
    show [] = overlay block []
    rw [overlay, List.length_nil, List.take_zero, List.drop_nil, List.append_nil]
  | cons row later ih =>
    rw [overlayRows, List.flatten_cons, List.flatten_cons, overlay_append, ih]

theorem length_overlayRows (block : Bytes) (rows : List Bytes) :
    (overlayRows block rows).length = rows.length := by
  induction rows generalizing block with
  | nil => rfl
  | cons row later ih => rw [overlayRows, List.length_cons, List.length_cons, ih]

theorem overlayRows_uniform (uniform : ∀ row ∈ rows, row.length = stride) (block : Bytes) :
    ∀ row ∈ overlayRows block rows, row.length = stride := by
  induction rows generalizing block with
  | nil => exact nofun
  | cons row later ih =>
    obtain ⟨first, others⟩ := List.forall_mem_cons.mp uniform
    rw [overlayRows]
    exact List.forall_mem_cons.mpr ⟨(overlay_length _ _).trans first, ih others _⟩

/-! ### Rows of one length, one behind the other -/

theorem length_flatten_uniform (uniform : ∀ row ∈ rows, row.length = stride) :
    rows.flatten.length = rows.length * stride := by
  induction rows with
  | nil => rw [List.flatten_nil, List.length_nil, List.length_nil, Nat.zero_mul]
  | cons row later ih =>
    obtain ⟨first, others⟩ := List.forall_mem_cons.mp uniform
    rw [List.flatten_cons, List.length_append, ih others, first, List.length_cons, Nat.succ_mul,
      Nat.add_comm]

theorem drop_flatten_uniform (uniform : ∀ row ∈ rows, row.length = stride) (index : Nat) :
    rows.flatten.drop (index * stride) = (rows.drop index).flatten := by
  induction rows generalizing index with
  | nil => rw [List.flatten_nil, List.drop_nil, List.drop_nil, List.flatten_nil]
  | cons row later ih =>
    obtain ⟨first, others⟩ := List.forall_mem_cons.mp uniform
    cases index with
    | zero => rw [Nat.zero_mul, List.drop_zero, List.drop_zero]
    | succ index =>
      rw [List.flatten_cons, Nat.succ_mul, Nat.add_comm, ← List.drop_drop, List.drop_left' first,
        List.drop_succ_cons, ih others]

theorem take_flatten_uniform (uniform : ∀ row ∈ rows, row.length = stride) (index : Nat) :
    rows.flatten.take (index * stride) = (rows.take index).flatten := by
  have whole : rows.flatten = (rows.take index).flatten ++ (rows.drop index).flatten := by
    rw [← List.flatten_append, List.take_append_drop]
  -- both sides lie before the rows from the index on
  refine (List.append_left_inj (rows.drop index).flatten).mp ?_
  rw [← whole, ← drop_flatten_uniform uniform, List.take_append_drop]

theorem take_drop_flatten_uniform (uniform : ∀ row ∈ rows, row.length = stride) {index : Nat}
    (within : index < rows.length) :
    (rows.flatten.drop (index * stride)).take stride = rows[index] := by
  rw [drop_flatten_uniform uniform, List.drop_eq_getElem_cons within, List.flatten_cons,
    List.take_left' (uniform _ (List.getElem_mem within))]

theorem pieces_flatten (uniform : ∀ row ∈ rows, row.length = stride) :
    Raster.pieces stride rows.length rows.flatten = rows := by
  induction rows with
  | nil => rfl
  | cons row later ih =>
    obtain ⟨first, others⟩ := List.forall_mem_cons.mp uniform
    rw [List.length_cons, Raster.pieces, List.flatten_cons, List.take_left' first,
      List.drop_left' first, ih others]

namespace Raster

variable {raster : Raster} {index : Nat}

/-! ### Edits -/

/-- A change of a raster. -/
inductive Edit where
  | row (index : Nat) (bytes : Bytes)
  | rowsFrom (index : Nat) (block : Bytes)
  | release
  deriving DecidableEq

def edit (raster : Raster) : Edit → Raster
  | .row index bytes => raster.setRow index bytes
  | .rowsFrom index block => raster.setRowsFrom index block
  | .release => raster.release

/-- The raster after edits. -/
def edited (raster : Raster) (edits : List Edit) : Raster := edits.foldl edit raster

/-- What an edit makes of a list of rows. -/
def Edit.over (rows : List Bytes) : Edit → List Bytes
  | .row index bytes => rows.modify index (overlay bytes)
  | .rowsFrom index block => rows.take index ++ overlayRows block (rows.drop index)
  | .release => []

/-- Rows of zeros. -/
def blankRows (height stride : Nat) : List Bytes :=
  List.replicate height (List.replicate stride 0)

/-- The rows after edits. -/
def editedRows (rows : List Bytes) (edits : List Edit) : List Bytes := edits.foldl Edit.over rows

/-! ### Views -/

/-- What a raster shows of a list of rows. -/
structure Shows (raster : Raster) (rows : List Bytes) : Prop where
  rows_eq : raster.rows = rows
  samples_eq : raster.samples = rows.flatten
  byteSize_eq : raster.byteSize = rows.length * raster.stride
  hasRow_eq : ∀ index, raster.hasRow index = decide (index < rows.length)
  row_eq : ∀ index, raster.row index = rows[index]?
  rowsFrom_eq : ∀ index, raster.rowsFrom index = (rows.drop index).flatten
  rowsFrom_length : ∀ index,
    (raster.rowsFrom index).length = (rows.length - index) * raster.stride

/-- What views and edits compute are words; a row can be divided by; and the bounds of a row lie in
order within the samples. -/
structure InWords (raster : Raster) : Prop where
  stride_pos : 0 < raster.stride
  stride_lt : raster.stride < wordLimit
  size_lt : raster.byteSize < wordLimit
  bounds : ∀ index, raster.hasRow index = true →
    index + 1 < wordLimit ∧ index * raster.stride ≤ (index + 1) * raster.stride ∧
      (index + 1) * raster.stride ≤ raster.byteSize

/-- The samples of a raster are rows, one behind the other; none are left once it is released. -/
structure Holds (raster : Raster) (rows : List Bytes) : Prop where
  samples_eq : raster.samples = rows.flatten
  uniform : ∀ row ∈ rows, row.length = raster.stride
  count_eq : rows.length = if raster.released then 0 else raster.height

theorem Holds.byteSize_eq (holds : Holds raster rows) :
    raster.byteSize = rows.length * raster.stride := by
  rw [byteSize, holds.samples_eq, length_flatten_uniform holds.uniform]

theorem Holds.hasRow_eq (holds : Holds raster rows) (index : Nat) :
    raster.hasRow index = decide (index < rows.length) := by
  rw [hasRow, holds.count_eq]
  cases raster.released with
  | false => rfl
  | true => exact (decide_eq_false (Nat.not_lt_zero _)).symm

theorem Holds.shows (holds : Holds raster rows) (wide : 0 < raster.stride) :
    raster.Shows rows := by
  have rowsFrom_eq : ∀ index, raster.rowsFrom index = (rows.drop index).flatten := by
    intro index
    rw [rowsFrom, holds.hasRow_eq, holds.samples_eq, drop_flatten_uniform holds.uniform]
    split
    · rfl
    · rename_i behind
      rw [decide_eq_true_eq, Nat.not_lt] at behind
      rw [List.drop_of_length_le behind, List.flatten_nil]
  refine ⟨?_, holds.samples_eq, holds.byteSize_eq, holds.hasRow_eq, fun index => ?_, rowsFrom_eq,
    fun index => ?_⟩
  · rw [Raster.rows, ← byteSize, holds.byteSize_eq, Nat.mul_div_cancel _ wide, holds.samples_eq]
    exact pieces_flatten holds.uniform
  · rw [row, holds.hasRow_eq, holds.samples_eq]
    by_cases within : index < rows.length
    · rw [if_pos (decide_eq_true within), take_drop_flatten_uniform holds.uniform within,
        List.getElem?_eq_getElem within]
    · rw [if_neg (by rw [decide_eq_false within]; exact Bool.false_ne_true),
        List.getElem?_eq_none (Nat.not_lt.mp within)]
  · have uniform : ∀ row ∈ rows.drop index, row.length = raster.stride :=
      fun row among => holds.uniform row (List.mem_of_mem_drop among)
    rw [rowsFrom_eq, length_flatten_uniform uniform, List.length_drop]

theorem Holds.inWords (holds : Holds raster rows) (wide : 0 < raster.stride)
    (fits : raster.height * raster.stride < wordLimit) (high : 0 < raster.height) :
    raster.InWords := by
  have few : rows.length ≤ raster.height := by
    rw [holds.count_eq]
    split
    · exact Nat.zero_le _
    · exact Nat.le_refl _
  have size : raster.byteSize ≤ raster.height * raster.stride := by
    rw [holds.byteSize_eq]
    exact Nat.mul_le_mul_right _ few
  refine ⟨wide, Nat.lt_of_le_of_lt (Nat.le_mul_of_pos_left _ high) fits,
    Nat.lt_of_le_of_lt size fits, fun index has => ?_⟩
  rw [holds.hasRow_eq, decide_eq_true_eq] at has
  refine ⟨?_, Nat.mul_le_mul_right _ (Nat.le_succ _), ?_⟩
  · calc index + 1 ≤ raster.height := Nat.le_trans has few
      _ ≤ raster.height * raster.stride := Nat.le_mul_of_pos_right _ wide
      _ < wordLimit := fits
  · rw [holds.byteSize_eq]
    exact Nat.mul_le_mul_right _ has

/-! ### Rows after edits -/

/-- Edits change the samples of a raster, and whether it is released; nothing else. -/
theorem edit_eq (raster : Raster) (change : Edit) :
    ∃ samples, raster.edit change =
      { raster with samples, released := raster.released || decide (change = .release) } := by
  have kept : ∀ samples, { raster with samples } =
      { raster with samples, released := raster.released || false } := by
    intro samples
    rw [Bool.or_false]
  cases change with
  | row index bytes =>
    rw [edit, setRow]
    split
    · exact ⟨_, kept _⟩
    · exact ⟨_, kept raster.samples⟩
  | rowsFrom index block =>
    rw [edit, setRowsFrom]
    split
    · exact ⟨_, kept _⟩
    · exact ⟨_, kept raster.samples⟩
  | release =>
    refine ⟨[], ?_⟩
    rw [decide_eq_true rfl, Bool.or_true]
    rfl

theorem edited_eq (raster : Raster) (edits : List Edit) :
    ∃ samples, raster.edited edits =
      { raster with samples, released := raster.released || decide (.release ∈ edits) } := by
  induction edits generalizing raster with
  | nil => exact ⟨raster.samples, by rw [decide_eq_false List.not_mem_nil, Bool.or_false]; rfl⟩
  | cons change later ih =>
    obtain ⟨first, changed⟩ := raster.edit_eq change
    obtain ⟨samples, last⟩ := ih (raster.edit change)
    refine ⟨samples, ?_⟩
    show (raster.edit change).edited later = _
    rw [last, changed]
    simp only [List.mem_cons, Bool.decide_or, Bool.or_assoc, eq_comm (a := Edit.release)]

theorem over_row_eq (within : index < rows.length) (bytes : Bytes) :
    Edit.over rows (.row index bytes) =
      rows.take index ++ overlay bytes rows[index] :: rows.drop (index + 1) :=
  List.modify_eq_take_cons_drop within

theorem over_row_behind (behind : rows.length ≤ index) (bytes : Bytes) :
    Edit.over rows (.row index bytes) = rows :=
  List.modify_eq_self behind

theorem over_rowsFrom_behind (behind : rows.length ≤ index) (block : Bytes) :
    Edit.over rows (.rowsFrom index block) = rows := by
  rw [Edit.over, List.take_of_length_le behind, List.drop_of_length_le behind, overlayRows,
    List.append_nil]

theorem over_rowsFrom_before {other : Nat} (early : other < index) (block : Bytes) :
    (Edit.over rows (.rowsFrom index block))[other]? = rows[other]? := by
  rcases Nat.lt_or_ge index rows.length with within | far
  · have before : other < (rows.take index).length := by
      rw [List.length_take, Nat.min_eq_left (Nat.le_of_lt within)]
      exact early
    rw [Edit.over, List.getElem?_append_left before, List.getElem?_take_of_lt early]
  · rw [over_rowsFrom_behind far]

theorem Edit.over_uniform (uniform : ∀ row ∈ rows, row.length = stride) (change : Edit) :
    ∀ row ∈ change.over rows, row.length = stride := by
  have before : ∀ index, ∀ row ∈ rows.take index, row.length = stride :=
    fun _ row among => uniform row (List.mem_of_mem_take among)
  have behind : ∀ index, ∀ row ∈ rows.drop index, row.length = stride :=
    fun _ row among => uniform row (List.mem_of_mem_drop among)
  cases change with
  | row index bytes =>
    rcases Nat.lt_or_ge index rows.length with within | far
    · rw [over_row_eq within]
      refine List.forall_mem_append.mpr ⟨before _, List.forall_mem_cons.mpr ⟨?_, behind _⟩⟩
      exact (overlay_length _ _).trans (uniform _ (List.getElem_mem within))
    · rw [over_row_behind far]
      exact uniform
  | rowsFrom index block =>
    exact List.forall_mem_append.mpr ⟨before _, overlayRows_uniform (behind _) block⟩
  | release => exact nofun

theorem Edit.length_over (change : Edit) (rows : List Bytes) :
    (change.over rows).length = if change = .release then 0 else rows.length := by
  cases change with
  | row index bytes => exact List.length_modify _ _ _
  | rowsFrom index block =>
    show (rows.take index ++ overlayRows block (rows.drop index)).length = rows.length
    rw [List.length_append, length_overlayRows, ← List.length_append, List.take_append_drop]
  | release => rfl

theorem Holds.samples_edit (holds : Holds raster rows) (change : Edit) :
    (raster.edit change).samples = (change.over rows).flatten := by
  have has := holds.hasRow_eq
  cases change with
  | row index bytes =>
    rw [edit, setRow, has]
    rcases Nat.lt_or_ge index rows.length with within | far
    · have size : rows[index].length = raster.stride := holds.uniform _ (List.getElem_mem within)
      rw [if_pos (decide_eq_true within), over_row_eq within, write, holds.samples_eq,
        take_flatten_uniform holds.uniform, drop_flatten_uniform holds.uniform,
        List.drop_eq_getElem_cons within, List.flatten_cons, overlay_append, ← size, overlay_take,
        List.drop_of_length_le (List.length_take_le _ _), overlay_nil, List.flatten_append,
        List.flatten_cons]
    · rw [if_neg (by rw [decide_eq_true_eq]; exact Nat.not_lt.mpr far), over_row_behind far,
        holds.samples_eq]
  | rowsFrom index block =>
    rw [edit, setRowsFrom, has]
    rcases Nat.lt_or_ge index rows.length with within | far
    · rw [if_pos (decide_eq_true within), write, holds.samples_eq,
        take_flatten_uniform holds.uniform, drop_flatten_uniform holds.uniform, Edit.over,
        List.flatten_append, flatten_overlayRows]
    · rw [if_neg (by rw [decide_eq_true_eq]; exact Nat.not_lt.mpr far),
        over_rowsFrom_behind far, holds.samples_eq]
  | release => rfl

/-- **One edit** makes of the rows what it says. -/
theorem Holds.edit (holds : Holds raster rows) (change : Edit) :
    Holds (raster.edit change) (change.over rows) := by
  obtain ⟨samples, changed⟩ := raster.edit_eq change
  have stride_eq : (raster.edit change).stride = raster.stride := by
    rw [changed]
    rfl
  refine ⟨holds.samples_edit change, ?_, ?_⟩
  · rw [stride_eq]
    exact Edit.over_uniform holds.uniform change
  · rw [Edit.length_over, holds.count_eq, changed]
    by_cases released : change = .release
    · simp only [released, decide_true, Bool.or_true, if_true]
    · simp only [released, decide_false, Bool.or_false, if_false]

theorem Holds.edited (holds : Holds raster rows) (edits : List Edit) :
    Holds (raster.edited edits) (editedRows rows edits) := by
  induction edits generalizing raster rows with
  | nil => exact holds
  | cons change later ih => exact ih (holds.edit change)

theorem Holds.row_edit (holds : Holds raster rows) (wide : 0 < raster.stride) (change : Edit)
    (index : Nat) : (raster.edit change).row index = (change.over rows)[index]? := by
  obtain ⟨samples, changed⟩ := raster.edit_eq change
  refine ((holds.edit change).shows ?_).row_eq index
  rw [changed]
  exact wide

/-! ### Allocated rasters -/

variable {memory : Memory} {height width components : Nat}

theorem allocate_lt (allocated : allocate memory height width components = .ok raster) :
    height * (width * components) < wordLimit := by
  unfold allocate at allocated
  split at allocated
  · cases allocated
  · split at allocated
    · cases allocated
    · rename_i bytes product
      obtain ⟨stride, first, second⟩ := Option.bind_eq_some_iff.mp product
      obtain rfl := checkedProduct_eq_some first
      rw [checkedProduct, Nat.mul_comm] at second
      split at second
      · assumption
      · cases second

theorem holds_allocate (allocated : allocate memory height width components = .ok raster) :
    Holds raster (blankRows height (width * components)) := by
  obtain ⟨_, _, _, rfl⟩ := allocate_ok allocated
  refine ⟨?_, ?_, List.length_replicate⟩
  · exact List.flatten_replicate_replicate.symm
  · intro row among
    rw [List.eq_of_mem_replicate among, List.length_replicate]
    rfl

/-- **An allocated raster is a list of rows.** After any edits, with any indices, it shows the rows
that the edits make of rows of zeros: as many as it was allocated with, and none once it is
released. Its dimensions stay, a write to a row leaves the others alone, and a write to the rows
from one on leaves those before it alone. -/
theorem edited_shows (allocated : allocate memory height width components = .ok raster)
    (edits : List Edit) :
    let after := raster.edited edits
    let rows := editedRows (blankRows height (width * components)) edits
    after.Shows rows ∧ after.InWords ∧
      (after.width = width ∧ after.height = height ∧ after.components = components ∧
        after.stride = width * components) ∧
      (.release ∉ edits → rows.length = height ∧ ∀ row ∈ rows, row.length = width * components) ∧
      (.release ∈ edits → rows = []) ∧
      ∀ index other block,
        (other ≠ index → (after.setRow index block).row other = after.row other) ∧
          (after.setRow index block).row index = (after.row index).map (overlay block) ∧
          (other < index → (after.setRowsFrom index block).row other = after.row other) := by
  intro after rows
  obtain ⟨high, columns, deep, fresh⟩ := allocate_ok allocated
  obtain ⟨samples, known⟩ := raster.edited_eq edits
  have holds : Holds after rows := (holds_allocate allocated).edited edits
  have shape : after.width = width ∧ after.height = height ∧ after.components = components ∧
      after.stride = width * components := by
    show (raster.edited edits).width = _ ∧ (raster.edited edits).height = _ ∧
      (raster.edited edits).components = _ ∧ (raster.edited edits).stride = _
    rw [known, fresh]
    exact ⟨rfl, rfl, rfl, rfl⟩
  have released : after.released = decide (.release ∈ edits) := by
    show (raster.edited edits).released = _
    rw [known, fresh, Bool.false_or]
  have wide : 0 < after.stride := by
    rw [shape.2.2.2]
    exact Nat.mul_pos (Nat.pos_of_ne_zero columns) (Nat.pos_of_ne_zero deep)
  have shows := holds.shows wide
  have count := holds.count_eq
  rw [released, shape.2.1] at count
  refine ⟨shows, ?_, shape, fun held => ?_, fun gone => ?_, fun index other block => ⟨?_, ?_, ?_⟩⟩
  · refine holds.inWords wide ?_ ?_
    · rw [shape.2.1, shape.2.2.2]
      exact allocate_lt allocated
    · rw [shape.2.1]
      exact Nat.pos_of_ne_zero high
  · rw [if_neg (by rw [decide_eq_true_eq]; exact held)] at count
    exact ⟨count, shape.2.2.2 ▸ holds.uniform⟩
  · rw [if_pos (decide_eq_true gone)] at count
    exact List.eq_nil_of_length_eq_zero count
  · intro apart
    rw [shows.row_eq]
    exact (holds.row_edit wide (.row index block) other).trans
      (List.getElem?_modify_ne _ _ apart.symm)
  · rw [shows.row_eq]
    exact (holds.row_edit wide (.row index block) index).trans (List.getElem?_modify_eq _ _ _)
  · intro early
    rw [shows.row_eq]
    exact (holds.row_edit wide (.rowsFrom index block) other).trans
      (over_rowsFrom_before early block)

/-- Three rows of two samples: a row is written with more bytes than it has, then the rows from it
on with fewer, and then a row that there is not; at last the samples are given back. -/
theorem edited_shows_three_rows :
    let raster : Raster := ⟨List.replicate 6 0, 2, 3, 1, false⟩
    let edits : List Edit := [.row 1 [7, 8, 9], .rowsFrom 1 [1, 2, 3], .row 3 [5]]
    allocate (.below 64) 3 2 1 = .ok raster ∧
      (raster.edited edits).Shows [[0, 0], [1, 2], [3, 0]] ∧ (raster.edited edits).InWords ∧
      (raster.edited (edits ++ [.release, .row 0 [1]])).Shows [] := by
  intro raster edits
  have allocated : allocate (.below 64) 3 2 1 = .ok raster := rfl
  obtain ⟨shows, inWords, _⟩ := edited_shows allocated edits
  obtain ⟨gone, _⟩ := edited_shows allocated (edits ++ [.release, .row 0 [1]])
  exact ⟨allocated, shows, inWords, gone⟩

end Raster

end JpegTranscoder
