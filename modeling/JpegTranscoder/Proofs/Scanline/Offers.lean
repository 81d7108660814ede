/-
**Frames that an engine offers.**

An engine tells of a frame in wider numbers than rows are counted in, and may make samples that no
row has. Rows are handed out of those frames only that have the shape of rows:

* `Decoder.shapeOf_eq_ok_iff`: the offers that have a shape are those of the shapes;
* `Engine.OffersRows`: what is relied on of an engine, that no frame that it offers is empty;
* `Dct.offersRows`: an engine of cosine transforms offers no empty frame.
-/
import JpegTranscoder.Dct.Engine
import JpegTranscoder.Proofs.RasterShape
import JpegTranscoder.Proofs.Results
import JpegTranscoder.Scanline.Decoder

namespace JpegTranscoder

variable {engine : Engine} {source : Bytes} {shape : Geometry} {offer : Offer}

/-! ### Shapes -/

/-- The bytes of a frame are counted in 64 bits. -/
theorem Offer.toNat_bytes_ofGeometry (shape : Geometry) :
    (Offer.ofGeometry shape).bytes.toNat = shape.byteCount := by
  show (UInt64.ofNat shape.byteCount).toNat = _
  rw [UInt64.toNat_ofNat']
  exact Nat.mod_eq_of_lt shape.byteCount_lt

/-- A number of 32 bits that is no larger than one of 16 bits can be is one of those. -/
theorem toUInt32_toUInt16 {number : UInt32} (small : ¬65535 < number) :
    number.toUInt16.toUInt32 = number := by
  rw [UInt32.not_lt, UInt32.le_iff_toNat_le] at small
  rw [← UInt32.toNat_inj, UInt16.toNat_toUInt32, UInt32.toNat_toUInt16]
  exact Nat.mod_eq_of_lt (Nat.lt_succ_of_le small)

theorem not_lt_toUInt32 (number : UInt16) : ¬65535 < number.toUInt32 := by
  rw [UInt32.not_lt, UInt32.le_iff_toNat_le, UInt16.toNat_toUInt32]
  exact Nat.le_of_lt_succ number.toNat_lt

namespace Scanline.Decoder

theorem shapeOf_ofGeometry (shape : Geometry) : shapeOf (.ofGeometry shape) = .ok shape := by
  have format : (Offer.ofGeometry shape).format.color = .ok shape.color := by
    rw [Offer.ofGeometry]
    cases shape.color <;> rfl
  have width : (Offer.ofGeometry shape).width.toUInt16 = shape.width :=
    UInt16.toUInt16_toUInt32 shape.width
  have height : (Offer.ofGeometry shape).height.toUInt16 = shape.height :=
    UInt16.toUInt16_toUInt32 shape.height
  have narrow : ¬65535 < (Offer.ofGeometry shape).width := not_lt_toUInt32 shape.width
  have low : ¬65535 < (Offer.ofGeometry shape).height := not_lt_toUInt32 shape.height
  rw [shapeOf, format]
  simp only [width, height, Offer.toNat_bytes_ofGeometry, ne_eq, not_true_eq_false, if_false,
    if_neg narrow, if_neg low]

/-- **The offers that have a shape** are those of the shapes. -/
theorem shapeOf_eq_ok_iff : shapeOf offer = .ok shape ↔ offer = .ofGeometry shape := by
  refine ⟨fun shaped => ?_, fun same => same ▸ shapeOf_ofGeometry shape⟩
  rw [shapeOf] at shaped
  split at shaped
  · cases shaped
  · rename_i color known
    simp only at shaped
    split at shaped
    · cases shaped
    · rename_i narrow
      split at shaped
      · cases shaped
      · rename_i low
        split at shaped
        · cases shaped
        · rename_i counted
          cases shaped
          have format : offer.format = .ofColor color := by
            cases told : offer.format <;> rw [told] at known <;> cases known <;> rfl
          have bytes : offer.bytes.toNat = _ := Decidable.not_not.mp counted
          rw [← Offer.toNat_bytes_ofGeometry, UInt64.toNat_inj] at bytes
          rw [show offer = ⟨offer.format, offer.width, offer.height, offer.bytes⟩ from rfl, bytes,
            format]
          simp only [Offer.ofGeometry, toUInt32_toUInt16 narrow, toUInt32_toUInt16 low]

/-- The offers of two shapes are told apart. -/
theorem ofGeometry_inj {other : Geometry}
    (same : Offer.ofGeometry shape = .ofGeometry other) : shape = other := by
  have shaped := shapeOf_ofGeometry shape
  rw [same, shapeOf_ofGeometry] at shaped
  exact (Except.ok.inj shaped).symm

variable {fault : Fault}

theorem begin_shaped (shaped : shapeOf offer = .ok shape) :
    (create source offer true).begin =
      (.ok shape, { create source offer true with geometry := some shape }) := by
  unfold Decoder.begin
  simp only [create, shaped]
  rfl

theorem begin_unshaped (unshaped : shapeOf offer = .error fault) :
    (create source offer true).begin = (.error fault, create source offer true) := by
  unfold Decoder.begin
  simp only [create, unshaped]
  rfl

end Scanline.Decoder

/-! ### What is relied on -/

/-- The frame that an engine offers of a source, if it accepts it, has rows with samples in them. -/
def Engine.OffersRows (engine : Engine) (source : Bytes) : Prop :=
  ∀ offer, engine.inspect source = .ok offer → offer.width ≠ 0 ∧ offer.height ≠ 0

theorem Engine.OffersRows.sized (offers : engine.OffersRows source)
    (accepted : engine.inspect source = .ok (.ofGeometry shape)) :
    shape.width ≠ 0 ∧ shape.height ≠ 0 := by
  obtain ⟨wide, high⟩ := offers _ accepted
  constructor
  · exact fun none => wide (congrArg UInt16.toUInt32 none)
  · exact fun none => high (congrArg UInt16.toUInt32 none)

namespace Dct

variable {frame : Shape}

theorem width_lt_of_read {payload : Bytes} (read : Shape.read payload = some frame) :
    frame.width < 65536 ∧ frame.height < 65536 := by
  unfold Shape.read at read
  split at read
  · split at read
    · cases read
      exact ⟨UInt16.toNat_lt _, UInt16.toNat_lt _⟩
    · cases read
  · cases read

theorem readFrame_sized {code : UInt8} {payload : Bytes}
    (read : readFrame code payload = .ok frame) :
    frame.geometry.width ≠ 0 ∧ frame.geometry.height ≠ 0 := by
  have checked : checkShape frame = .ok () ∧ frame.width < 65536 ∧ frame.height < 65536 := by
    unfold readFrame at read
    split at read
    · split at read
      · cases read
      · rename_i shape known
        obtain ⟨done, checked, same⟩ := ok_of_map read
        cases same
        exact ⟨checked, width_lt_of_read known⟩
    · cases read
  obtain ⟨sound, narrow, low⟩ := checked
  have sized : ¬(frame.width = 0 ∨ frame.height = 0) := by
    intro empty
    unfold checkShape at sound
    rw [if_pos empty] at sound
    split at sound <;> cases sound
  rw [not_or] at sized
  constructor
  · intro flat
    have zero := congrArg UInt16.toNat flat
    rw [Shape.geometry, UInt16.toNat_ofNat', Nat.mod_eq_of_lt narrow] at zero
    exact sized.1 zero
  · intro flat
    have zero := congrArg UInt16.toNat flat
    rw [Shape.geometry, UInt16.toNat_ofNat', Nat.mod_eq_of_lt low] at zero
    exact sized.2 zero

theorem inspect_sized (accepted : Decoder.inspect source = .ok shape) :
    shape.width ≠ 0 ∧ shape.height ≠ 0 := by
  unfold Decoder.inspect at accepted
  dsimp only at accepted
  split at accepted
  · split at accepted
    · cases accepted
    · obtain ⟨frame, read, accepted⟩ := ok_of_bind accepted
      obtain ⟨_, _, accepted⟩ := ok_of_bind accepted
      split at accepted
      · cases accepted
      · obtain ⟨_, _, accepted⟩ := ok_of_bind accepted
        cases accepted
        exact readFrame_sized read
  · cases accepted

/-- **An engine of cosine transforms offers no empty frame.** -/
theorem offersRows (source : Bytes) : Dct.engine.OffersRows source := by
  intro offer accepted
  obtain ⟨shape, inspected, rfl⟩ := ok_of_map (ok_of_mapError accepted)
  obtain ⟨wide, high⟩ := inspect_sized inspected
  refine ⟨fun none => wide ?_, fun none => high ?_⟩
  · exact UInt16.toUInt32_inj.mp none
  · exact UInt16.toUInt32_inj.mp none

end Dct

end JpegTranscoder
