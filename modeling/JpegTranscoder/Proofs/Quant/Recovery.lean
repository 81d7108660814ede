/-
**The estimate recovers the quality of an encoder that scales the reference tables.**

The thresholds for two tables are the fingerprints that the scaled reference tables leave, and they
fall strictly, so the first that is reached is the encoder's own:

* `Calibration.Falls`: the lists of a calibration, with thresholds for each of 100 qualities;
* `Calibration.Falls.locate_lt`: the sentinels behind the thresholds are never reached;
* `Reference.sums_scaled`, `Reference.hashes_scaled`: the fingerprints of the scaled tables;
* `estimate_scaled`: the estimate of scaled reference tables is the quality they were scaled to;
* `estimate_le`: no estimate lies above 100.
-/
import JpegTranscoder.Options
import JpegTranscoder.Quant.Estimate
import JpegTranscoder.Quant.Reference

namespace JpegTranscoder.Quant

/-! ### Calibrations -/

namespace Calibration

/-- The lists of a calibration: thresholds for each of 100 qualities and a sentinel behind them,
falling strictly. -/
structure Falls (calibration : Calibration) : Prop where
  hashes_length : calibration.hashes.length = 101
  sums_length : calibration.sums.length = 101
  hashes_fall : calibration.hashes.Pairwise (· > ·)
  sums_fall : calibration.sums.Pairwise (· > ·)

theorem color_falls : color.Falls := ⟨rfl, rfl, by decide +kernel, by decide +kernel⟩

theorem gray_falls : gray.Falls := ⟨rfl, rfl, by decide +kernel, by decide +kernel⟩

theorem forChroma_falls (chroma : Option Table) : (forChroma chroma).Falls := by
  cases chroma with
  | none => exact gray_falls
  | some chroma => exact color_falls

variable {calibration : Calibration}

theorem Falls.thresholds_length (falls : calibration.Falls) :
    calibration.thresholds.length = 100 := by
  rw [thresholds, List.length_take, List.length_zip, falls.hashes_length, falls.sums_length]
  decide

/-- **A scan never reaches the sentinels.** -/
theorem Falls.locate_lt (falls : calibration.Falls) {hash sum position : Nat}
    (found : calibration.locate hash sum = some position) : position < 100 := by
  obtain ⟨inside, _⟩ := List.findIdx?_eq_some_iff_getElem.mp found
  rwa [falls.thresholds_length] at inside

/-- A threshold is found where it stands, since those before it are higher. -/
theorem Falls.locate_threshold (falls : calibration.Falls) {position hash sum : Nat}
    (inside : position < 100) (isHash : calibration.hashes[position]? = some hash)
    (isSum : calibration.sums[position]? = some sum) :
    calibration.locate hash sum = some position := by
  obtain ⟨hashInside, rfl⟩ := List.getElem?_eq_some_iff.mp isHash
  obtain ⟨sumInside, rfl⟩ := List.getElem?_eq_some_iff.mp isSum
  refine List.findIdx?_eq_some_iff_getElem.mpr ⟨?_, ?_, ?_⟩
  · rw [falls.thresholds_length]
    exact inside
  · simp [thresholds]
  · intro earlier before
    have higherHash := List.pairwise_iff_getElem.mp falls.hashes_fall earlier position
      (Nat.lt_trans before hashInside) hashInside before
    have higherSum := List.pairwise_iff_getElem.mp falls.sums_fall earlier position
      (Nat.lt_trans before sumInside) sumInside before
    simp only [thresholds, List.getElem_take, List.getElem_zip, Bool.or_eq_true, decide_eq_true_eq,
      not_or, Nat.not_le]
    exact ⟨higherHash, higherSum⟩

end Calibration

theorem estimate_le (luma chroma : Option Table) : (estimate luma chroma).toNat ≤ 100 := by
  unfold estimate
  split
  · rename_i position found
    obtain ⟨table, _, located⟩ := Option.bind_eq_some_iff.mp found
    have inside := (Calibration.forChroma_falls chroma).locate_lt located
    rw [UInt8.toNat_ofNat']
    omega
  · decide

/-! ### Scaled reference tables -/

namespace Reference

/-- A divisor scaled by a percentage, as a number. -/
def scaleBy (percentage divisor : Nat) : Nat :=
  max 1 (min 255 ((divisor * percentage + 50) / 100))

theorem toNat_scaleDivisor (quality : Nat) (divisor : UInt16) :
    (scaleDivisor quality divisor).toNat = scaleBy (scale quality) divisor.toNat := by
  rw [scaleDivisor, scaleBy, UInt16.toNat_ofNat']
  omega

theorem divisor_scaled (base : Vector UInt16 64) (quality : Nat) (position : Fin 64) :
    (scaled base quality).divisor position = scaleBy (scale quality) (base.get position).toNat := by
  rw [Table.divisor, scaled]
  show (base.map (scaleDivisor quality))[position].toNat = _
  rw [Fin.getElem_fin, Vector.getElem_map, toNat_scaleDivisor]
  rfl

theorem sum_scaled (base : Vector UInt16 64) (quality : Nat) :
    (scaled base quality).sum =
      ((base.toList.map UInt16.toNat).map (scaleBy (scale quality))).foldr (· + ·) 0 := by
  have each : UInt16.toNat ∘ scaleDivisor quality = scaleBy (scale quality) ∘ UInt16.toNat :=
    funext fun divisor => toNat_scaleDivisor quality divisor
  rw [Table.sum, scaled, Vector.toList_map, List.map_map, List.map_map, each]

/-- The sums of the scaled tables are the calibration's. -/
theorem sums_scaled : ∀ position : Fin 100,
    Calibration.color.sums[position.val]? =
      some (((luma.toList.map UInt16.toNat).map (scaleBy (scale (position.val + 1)))).foldr
          (· + ·) 0 +
        ((chroma.toList.map UInt16.toNat).map (scaleBy (scale (position.val + 1)))).foldr
          (· + ·) 0) := by
  decide +kernel

/-- The probed divisors of the scaled tables add up to the calibration's. -/
theorem hashes_scaled : ∀ position : Fin 100,
    Calibration.color.hashes[position.val]? =
      some (scaleBy (scale (position.val + 1)) (luma.get 2).toNat +
        scaleBy (scale (position.val + 1)) (luma.get 53).toNat +
        scaleBy (scale (position.val + 1)) (chroma.get 0).toNat +
        scaleBy (scale (position.val + 1)) (chroma.get 63).toNat) := by
  decide +kernel

end Reference

open Reference in
/-- **The estimate of scaled reference tables is the quality they were scaled to.** -/
theorem estimate_scaled {quality : UInt8} (valid : isValidQuality quality = true) :
    estimate (some (scaled luma quality.toNat)) (some (scaled chroma quality.toNat)) = quality := by
  rw [isValidQuality_iff] at valid
  have least : 1 ≤ quality.toNat := UInt8.le_iff_toNat_le.mp valid.1
  have most : quality.toNat ≤ 100 := UInt8.le_iff_toNat_le.mp valid.2
  obtain ⟨position, known⟩ : ∃ position, quality.toNat = position + 1 :=
    ⟨quality.toNat - 1, by omega⟩
  have inside : position < 100 := by omega
  have located : locateTables (scaled luma quality.toNat) (some (scaled chroma quality.toNat)) =
      some position := by
    refine Calibration.color_falls.locate_threshold inside ?_ ?_
    · rw [hashes_scaled ⟨position, inside⟩, ← known]
      simp only [Fingerprint.ofTables, divisor_scaled]
    · rw [sums_scaled ⟨position, inside⟩, ← known]
      simp only [Fingerprint.ofTables, sum_scaled]
  unfold estimate
  rw [Option.bind_some, located]
  show UInt8.ofNat (position + 1) = quality
  rw [← known, UInt8.ofNat_toNat]

end JpegTranscoder.Quant
