/-
**The shape of a raster.**

Whatever is written into a raster, its dimensions and the number of its bytes stay:

* `Geometry.Shapes`: a raster holds a whole frame of a geometry;
* `Shapes.rowsFrom_eq`, `Shapes.setRowsFrom_eq`: the rows from one on, read and written over;
* `allocate_eq`: a raster of a geometry is allocated wherever its bytes are granted;
* `shapes_allocate`: a raster that was just allocated for a geometry holds a frame of it;
* `shapes_setRowsFrom`: and so it does after rows were written over.
-/
import JpegTranscoder.Geometry
import JpegTranscoder.Raster

namespace JpegTranscoder

/-- The raster holds a whole frame of the geometry, which has rows and columns. -/
structure Geometry.Shapes (geometry : Geometry) (raster : Raster) : Prop where
  width_ne : geometry.width ≠ 0
  height_ne : geometry.height ≠ 0
  held : raster.released = false
  width_eq : raster.width = geometry.width.toNat
  height_eq : raster.height = geometry.rows
  components_eq : raster.components = geometry.components
  length_eq : raster.samples.length = raster.height * raster.stride

namespace Geometry

variable {geometry : Geometry} {raster : Raster}

theorem Shapes.stride_eq (shapes : geometry.Shapes raster) : raster.stride = geometry.stride := by
  rw [Raster.stride, stride, shapes.width_eq, shapes.components_eq]

theorem Shapes.length_eq_byteCount (shapes : geometry.Shapes raster) :
    raster.samples.length = geometry.byteCount := by
  rw [shapes.length_eq, shapes.height_eq, shapes.stride_eq, byteCount]

/-- Other samples, as many as before, are a frame of the same geometry. -/
theorem Shapes.with_samples (shapes : geometry.Shapes raster) {samples : Bytes}
    (same : samples.length = raster.samples.length) :
    geometry.Shapes { raster with samples } := by
  refine ⟨shapes.width_ne, shapes.height_ne, shapes.held, shapes.width_eq, shapes.height_eq,
    shapes.components_eq, ?_⟩
  show samples.length = raster.height * raster.stride
  rw [same, shapes.length_eq]

theorem Shapes.stride_pos (shapes : geometry.Shapes raster) : 0 < raster.stride := by
  rw [shapes.stride_eq]
  exact Geometry.stride_pos shapes.width_ne

theorem Shapes.rows_pos (shapes : geometry.Shapes raster) : 0 < geometry.rows :=
  Geometry.rows_pos shapes.height_ne

/-! ### Rows from one on -/

variable {row : Nat}

theorem Shapes.hasRow (shapes : geometry.Shapes raster) (due : row < geometry.rows) :
    raster.hasRow row = true := by
  rw [Raster.hasRow, shapes.held, shapes.height_eq, decide_eq_true due]
  rfl

theorem Shapes.rowsFrom_eq (shapes : geometry.Shapes raster) (due : row < geometry.rows) :
    raster.rowsFrom row = raster.samples.drop (row * geometry.stride) := by
  rw [Raster.rowsFrom, if_pos (shapes.hasRow due), shapes.stride_eq]

/-- A block for all rows from one on leaves the rows before it alone. -/
theorem Shapes.setRowsFrom_eq (shapes : geometry.Shapes raster) (due : row < geometry.rows)
    {block : Bytes} (same : block.length = (raster.rowsFrom row).length) :
    raster.setRowsFrom row block =
      { raster with samples := raster.samples.take (row * geometry.stride) ++ block } := by
  rw [shapes.rowsFrom_eq due] at same
  rw [Raster.setRowsFrom, if_pos (shapes.hasRow due), shapes.stride_eq, Raster.write,
    overlay_whole same]

theorem length_take_rows {samples : Bytes} (whole : samples.length = geometry.byteCount)
    (within : row ≤ geometry.rows) :
    (samples.take (row * geometry.stride)).length = row * geometry.stride := by
  rw [List.length_take, whole]
  exact Nat.min_eq_left (Nat.mul_le_mul_right _ within)

theorem length_drop_rows {samples : Bytes} (whole : samples.length = geometry.byteCount)
    (row : Nat) :
    (samples.drop (row * geometry.stride)).length = (geometry.rows - row) * geometry.stride := by
  rw [List.length_drop, whole, byteCount, Nat.sub_mul]

end Geometry

theorem checkedProduct_eq_some {first second product : Nat}
    (fits : checkedProduct first second = some product) : product = first * second := by
  unfold checkedProduct at fits
  split at fits
  · exact (Option.some.inj fits).symm
  · cases fits

namespace Raster

/-- An allocated raster has the dimensions that were asked for, and none of them is zero. -/
theorem allocate_ok {memory : Memory} {height width components : Nat} {raster : Raster}
    (allocated : allocate memory height width components = .ok raster) :
    height ≠ 0 ∧ width ≠ 0 ∧ components ≠ 0 ∧
      raster = ⟨List.replicate (height * (width * components)) 0, width, height, components,
        false⟩ := by
  unfold allocate at allocated
  split at allocated
  · cases allocated
  · rename_i nonzero
    rw [not_or, not_or] at nonzero
    refine ⟨nonzero.1, nonzero.2.1, nonzero.2.2, ?_⟩
    split at allocated
    · cases allocated
    · rename_i bytes product
      obtain ⟨stride, first, second⟩ := Option.bind_eq_some_iff.mp product
      rw [checkedProduct_eq_some second, checkedProduct_eq_some first, Nat.mul_comm] at allocated
      split at allocated
      · exact (Except.ok.inj allocated).symm
      · cases allocated

theorem write_length (raster : Raster) (offset : Nat) (block : Bytes) :
    (raster.write offset block).samples.length = raster.samples.length := by
  rw [write, List.length_append, overlay_length, List.length_take, List.length_drop]
  omega

end Raster

namespace Geometry

variable {geometry : Geometry} {raster : Raster}

/-- A raster allocated for a geometry holds a frame of it. -/
theorem shapes_allocate {memory : Memory}
    (allocated : Raster.allocate memory geometry.rows geometry.width.toNat geometry.components =
      .ok raster) : geometry.Shapes raster := by
  obtain ⟨rows, columns, _, rfl⟩ := Raster.allocate_ok allocated
  refine ⟨?_, ?_, rfl, rfl, rfl, rfl, ?_⟩
  · rintro zero
    exact columns (by rw [zero]; rfl)
  · rintro zero
    exact rows (by rw [Geometry.rows, zero]; rfl)
  · exact List.length_replicate

/-- A frame is never too large for a word. -/
theorem byteCount_lt (geometry : Geometry) : geometry.byteCount < wordLimit := by
  have deep : geometry.components ≤ 3 := by
    rw [components]
    cases geometry.color <;> decide
  have wide : geometry.stride ≤ 65535 * 3 :=
    Nat.mul_le_mul (Nat.le_of_lt_succ geometry.width.toNat_lt) deep
  have high : geometry.rows ≤ 65535 := Nat.le_of_lt_succ geometry.height.toNat_lt
  calc geometry.byteCount ≤ 65535 * (65535 * 3) := Nat.mul_le_mul high wide
    _ < wordLimit := by decide

/-- A raster of a geometry is allocated exactly if memory grants its bytes. -/
theorem allocate_eq (memory : Memory) (wide : geometry.width ≠ 0) (high : geometry.height ≠ 0) :
    Raster.allocate memory geometry.rows geometry.width.toNat geometry.components =
      if memory.grants geometry.byteCount then
        .ok ⟨List.replicate geometry.byteCount 0, geometry.width.toNat, geometry.rows,
          geometry.components, false⟩
      else .error (.outOfMemory geometry.byteCount) := by
  have rows := rows_pos high
  have columns : 0 < geometry.width.toNat := by
    rw [Nat.pos_iff_ne_zero]
    exact fun none => wide (UInt16.toNat_inj.mp none)
  have deep : 0 < geometry.components := geometry.color.components_pos
  have whole := geometry.byteCount_lt
  have line : geometry.stride < wordLimit :=
    Nat.lt_of_le_of_lt (Nat.le_mul_of_pos_left _ rows) whole
  have fits : (checkedProduct geometry.width.toNat geometry.components).bind (fun stride =>
      checkedProduct stride geometry.rows) = some geometry.byteCount := by
    have first : checkedProduct geometry.width.toNat geometry.components =
        some geometry.stride := if_pos line
    rw [byteCount, Nat.mul_comm] at whole
    rw [first, Option.bind_some, checkedProduct, if_pos whole, byteCount, Nat.mul_comm]
  rw [Raster.allocate, if_neg (by omega)]
  simp only [fits]

theorem allocate_granted {memory : Memory} (wide : geometry.width ≠ 0) (high : geometry.height ≠ 0)
    (granted : memory.grants geometry.byteCount = true) :
    ∃ raster, Raster.allocate memory geometry.rows geometry.width.toNat geometry.components =
      .ok raster := by
  rw [allocate_eq memory wide high, if_pos granted]
  exact ⟨_, rfl⟩

theorem shapes_setRowsFrom (shapes : geometry.Shapes raster) (row : Nat) (block : Bytes) :
    geometry.Shapes (raster.setRowsFrom row block) := by
  unfold Raster.setRowsFrom
  split
  · exact shapes.with_samples (raster.write_length _ block)
  · exact shapes

end Geometry

end JpegTranscoder
