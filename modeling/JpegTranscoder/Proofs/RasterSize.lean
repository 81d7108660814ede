/-
**The size of a raster.**

The bytes of a raster are counted by two products, and either may be no word. A product of the first
two factors that is no word stays none with a third factor that is not zero, so two steps refuse
what a single product of the three would, in whatever order they are taken:

* `checkedProduct_bind`: two checked products in a row;
* `checkedProduct_perm`: in every order they come to the same;
* `Raster.allocate_large`, `Raster.allocate_fitting`: what comes of an allocation without a zero
  dimension;
* `Raster.allocate_exact`: what comes of every allocation, and the offsets in what it gives.
-/
import Mathlib.Algebra.BigOperators.Group.List.Basic
import JpegTranscoder.Proofs.RasterRows
import JpegTranscoder.Proofs.Results

namespace JpegTranscoder

/-! ### Checked products -/

/-- **Two checked products** give the product of their three factors, if it is a word. -/
theorem checkedProduct_bind {third : Nat} (first second : Nat) (positive : 0 < third) :
    ((checkedProduct first second).bind fun product => checkedProduct product third) =
      if first * second * third < wordLimit then some (first * second * third) else none := by
  by_cases fits : first * second < wordLimit
  · rw [checkedProduct, if_pos fits, Option.bind_some, checkedProduct]
  · have large : ¬first * second * third < wordLimit := by
      intro small
      exact fits (Nat.lt_of_le_of_lt (Nat.le_mul_of_pos_right _ positive) small)
    rw [checkedProduct, if_neg fits, if_neg large, Option.bind_none]

/-- **The order of the factors** does not matter. -/
theorem checkedProduct_perm {height width components first second third : Nat}
    (order : [first, second, third].Perm [height, width, components]) (high : 0 < height)
    (wide : 0 < width) (deep : 0 < components) :
    ((checkedProduct first second).bind fun product => checkedProduct product third) =
      if height * width * components < wordLimit then some (height * width * components)
      else none := by
  have positive : 0 < third := by
    have among : third ∈ [height, width, components] := order.subset (by simp)
    simp only [List.mem_cons, List.not_mem_nil, or_false] at among
    rcases among with rfl | rfl | rfl
    · exact high
    · exact wide
    · exact deep
  have same : first * second * third = height * width * components := by
    have product := order.prod_eq
    simp only [List.prod_cons, List.prod_nil, mul_one] at product
    rw [Nat.mul_assoc, Nat.mul_assoc, product]
  rw [checkedProduct_bind first second positive, same]

namespace Raster

variable {memory : Memory} {height width components : Nat}

/-! ### Allocations -/

/-- The steps of an allocation come to the product of the dimensions. -/
theorem steps_eq (high : 0 < height) (wide : 0 < width) (deep : 0 < components) :
    ((checkedProduct width components).bind fun stride => checkedProduct stride height) =
      if height * width * components < wordLimit then some (height * width * components)
      else none := by
  have order : ([width, components] ++ [height]).Perm ([height] ++ [width, components]) :=
    List.perm_append_comm
  exact checkedProduct_perm order high wide deep

/-- **A size that is no word** is out of memory as the largest word. -/
theorem allocate_large (memory : Memory) (high : 0 < height) (wide : 0 < width)
    (deep : 0 < components) (large : wordLimit ≤ height * width * components) :
    allocate memory height width components = .error (.outOfMemory (wordLimit - 1)) := by
  rw [allocate, if_neg (by omega)]
  simp only [steps_eq high wide deep, if_neg (Nat.not_lt.mpr large)]

/-- **A size that is a word** is given in zeros, or not granted. -/
theorem allocate_fitting (memory : Memory) (high : 0 < height) (wide : 0 < width)
    (deep : 0 < components) (fits : height * width * components < wordLimit) :
    allocate memory height width components =
      if memory.grants (height * width * components) then
        .ok ⟨List.replicate (height * width * components) 0, width, height, components, false⟩
      else .error (.outOfMemory (height * width * components)) := by
  rw [allocate, if_neg (by omega)]
  simp only [steps_eq high wide deep, if_pos fits]

/-- **Zero dimensions**, and nothing else, are told as such. -/
theorem allocate_zero_iff (memory : Memory) (height width components : Nat) :
    (∃ detail, (allocate memory height width components).mapError TranscodeError.ofAllocation =
      .error (.invalidInput detail)) ↔ height = 0 ∨ width = 0 ∨ components = 0 := by
  by_cases zero : height = 0 ∨ width = 0 ∨ components = 0
  · rw [allocate, if_pos zero]
    exact iff_of_true ⟨_, rfl⟩ zero
  · refine iff_of_false ?_ zero
    have high : 0 < height := by omega
    have wide : 0 < width := by omega
    have deep : 0 < components := by omega
    rintro ⟨detail, refused⟩
    rcases Nat.lt_or_ge (height * width * components) wordLimit with fits | large
    · rw [allocate_fitting memory high wide deep fits] at refused
      split at refused <;> cases refused
    · rw [allocate_large memory high wide deep large] at refused
      cases refused

/-- The offsets of an allocated raster. -/
theorem inWords_allocate {raster : Raster}
    (allocated : allocate memory height width components = .ok raster) :
    raster.InWords ∧ raster.height = height ∧ raster.released = false := by
  obtain ⟨high, columns, deep, fresh⟩ := allocate_ok allocated
  have wide : 0 < raster.stride := by
    rw [fresh]
    exact Nat.mul_pos (Nat.pos_of_ne_zero columns) (Nat.pos_of_ne_zero deep)
  have fits := allocate_lt allocated
  refine ⟨(holds_allocate allocated).inWords wide ?_ ?_, ?_, ?_⟩
  · rw [fresh]
    exact fits
  · rw [fresh]
    exact Nat.pos_of_ne_zero high
  · rw [fresh]
  · rw [fresh]

/-- **The arithmetic of an allocation is exact.** It fails for its input exactly if a dimension is
zero. Otherwise it fails with the largest word if the product of the dimensions is no word, however
it is taken in steps; and if it is one, it gives that many zeros, or fails with just that number
because memory does not grant it. The offsets of the rows of what it gives are words. -/
theorem allocate_exact (memory : Memory) (height width components : Nat) :
    let told := (allocate memory height width components).mapError TranscodeError.ofAllocation
    let product := height * width * components
    ((∃ detail, told = .error (.invalidInput detail)) ↔
      height = 0 ∨ width = 0 ∨ components = 0) ∧
    (0 < height → 0 < width → 0 < components →
      (wordLimit ≤ product → told = .error (.outOfMemory (wordLimit - 1))) ∧
      (product < wordLimit → told =
        if memory.grants product then
          .ok ⟨List.replicate product 0, width, height, components, false⟩
        else .error (.outOfMemory product)) ∧
      ∀ first second third, [first, second, third].Perm [height, width, components] →
        ((checkedProduct first second).bind fun part => checkedProduct part third) =
          if product < wordLimit then some product else none) ∧
    ∀ raster, told = .ok raster →
      raster.stride < wordLimit ∧
      ∀ index < height, index + 1 < wordLimit ∧ index * raster.stride < wordLimit ∧
        (index + 1) * raster.stride < wordLimit := by
  intro told product
  refine ⟨allocate_zero_iff memory height width components, fun high wide deep => ?_,
    fun raster succeeded => ?_⟩
  · refine ⟨fun large => ?_, fun fits => ?_, fun first second third order => ?_⟩
    · show (allocate memory height width components).mapError _ = _
      rw [allocate_large memory high wide deep large]
      rfl
    · show (allocate memory height width components).mapError _ = _
      rw [allocate_fitting memory high wide deep fits]
      by_cases granted : memory.grants product = true
      · rw [if_pos granted, if_pos granted]
        rfl
      · rw [if_neg granted, if_neg granted]
        rfl
    · exact checkedProduct_perm order high wide deep
  · obtain ⟨inWords, known, held⟩ := inWords_allocate (ok_of_mapError succeeded)
    refine ⟨inWords.stride_lt, fun index inside => ?_⟩
    have row : raster.hasRow index = true := by
      rw [hasRow, held, known, decide_eq_true inside]
      rfl
    obtain ⟨next, begins, ends⟩ := inWords.bounds index row
    have last : (index + 1) * raster.stride < wordLimit := Nat.lt_of_le_of_lt ends inWords.size_lt
    exact ⟨next, Nat.lt_of_le_of_lt begins last, last⟩

/-- Dimensions whose first two factors give a word and all three just none; dimensions that give the
largest word, which memory does not grant; and a raster of three rows of two samples. -/
theorem allocate_exact_at_limit :
    let told height width components :=
      (allocate (.below 1000) height width components).mapError TranscodeError.ofAllocation
    told 4294967296 2147483648 2 = .error (.outOfMemory 18446744073709551615) ∧
      checkedProduct 2147483648 2 = some 4294967296 ∧
      told 4294967295 4294967297 1 = .error (.outOfMemory 18446744073709551615) ∧
      told 3 2 1 = .ok ⟨List.replicate 6 0, 2, 3, 1, false⟩ ∧ (2 + 1) * 2 < wordLimit := by
  intro told
  obtain ⟨_, large, _⟩ := allocate_exact (.below 1000) 4294967296 2147483648 2
  obtain ⟨_, most, _⟩ := allocate_exact (.below 1000) 4294967295 4294967297 1
  obtain ⟨_, small, offsets⟩ := allocate_exact (.below 1000) 3 2 1
  have given := (small (by decide) (by decide) (by decide)).2.1 (by decide)
  refine ⟨?_, by decide, ?_, given, ?_⟩
  · exact (large (by decide) (by decide) (by decide)).1 (by decide)
  · exact (most (by decide) (by decide) (by decide)).2.1 (by decide)
  · exact ((offsets _ given).2 2 (by decide)).2.2

end Raster

end JpegTranscoder
