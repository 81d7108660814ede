/-
**Searching a calibration by halves.**

An estimate looks at one quality after another, and at both thresholds of each. The thresholds fall,
so the two lists can as well be searched apart, each by halves, and the earlier of the two positions
is the answer:

* `bisect_eq`: a search by halves finds where what is not reached ends;
* `search_eq`: the position of a number in a falling list is the first threshold that it reaches;
* `findIdx_zip`: the first pair of which either part is reached;
* `Falls.locate_searched`: the scan of a calibration is the earlier of two searches;
* `estimate_eq_zero_iff`: which tables have no estimate;
* `estimate_searched`: what an estimate is by such searches.
-/
import JpegTranscoder.Proofs.Quant.Coarser

namespace JpegTranscoder.Quant

/-! ### Search by halves -/

/-- The position in an interval from which on positions are reached, found by halving the
interval. -/
def bisect (reached : Nat → Bool) (low high : Nat) : Nat :=
  if low < high then
    let middle := (low + high) / 2
    if reached middle then bisect reached low middle else bisect reached (middle + 1) high
  else low
termination_by high - low
decreasing_by all_goals omega

/-- **A search by halves finds the bound** below which nothing is reached and above which
everything is: it never leaves the interval that is left. -/
theorem bisect_eq {reached : Nat → Bool} {low high bound : Nat} (above : low ≤ bound)
    (below : bound ≤ high) (before : ∀ index < bound, reached index = false)
    (behind : ∀ index, bound ≤ index → index < high → reached index = true) :
    bisect reached low high = bound := by
  induction low, high using bisect.induct reached with
  | case1 low high wide middle hit ih =>
    have left : bound ≤ middle := by
      by_contra right
      rw [before middle (Nat.lt_of_not_le right)] at hit
      cases hit
    rw [bisect, if_pos wide]
    simp only
    rw [if_pos hit]
    exact ih above left fun index late within => behind index late (by omega)
  | case2 low high wide middle miss ih =>
    have right : middle + 1 ≤ bound := by
      by_contra left
      exact miss (behind middle (by omega) (by omega))
    rw [bisect, if_pos wide]
    simp only
    rw [if_neg miss]
    exact ih right below behind
  | case3 low high empty =>
    rw [bisect, if_neg empty]
    omega

/-- The 1-based position of the first threshold that a number reaches, in a list of falling
thresholds. -/
def search (thresholds : List Nat) (value : Nat) : Option Nat :=
  let position := bisect (fun index => thresholds[index]?.any (· ≤ value)) 0 thresholds.length
  if position < thresholds.length then some (position + 1) else none

/-- **A search of falling thresholds finds the first that is reached.** -/
theorem search_eq {thresholds : List Nat} (fall : thresholds.Pairwise (· > ·)) (value : Nat) :
    search thresholds value =
      let position := thresholds.findIdx fun threshold => decide (threshold ≤ value)
      if position < thresholds.length then some (position + 1) else none := by
  have found : bisect (fun index => thresholds[index]?.any (· ≤ value)) 0 thresholds.length =
      thresholds.findIdx fun threshold => decide (threshold ≤ value) := by
    refine bisect_eq (Nat.zero_le _) List.findIdx_le_length ?_ ?_
    · intro index early
      have inside : index < thresholds.length := Nat.lt_of_lt_of_le early List.findIdx_le_length
      rw [List.getElem?_eq_getElem inside, Option.any_some]
      exact List.not_of_lt_findIdx early
    · intro index late inside
      have within := Nat.lt_of_le_of_lt late inside
      have first := List.findIdx_getElem (w := within)
      rw [decide_eq_true_eq] at first
      rw [List.getElem?_eq_getElem inside, Option.any_some, decide_eq_true_eq]
      rcases Nat.lt_or_eq_of_le late with behind | same
      · have lower := List.pairwise_iff_getElem.mp fall _ _ within inside behind
        exact Nat.le_trans (Nat.le_of_lt lower) first
      · simp only [same] at first
        exact first
  rw [search, found]

/-- A number that reaches none of falling thresholds lies below the last of them. -/
theorem search_eq_none_iff {thresholds : List Nat} (fall : thresholds.Pairwise (· > ·))
    {value : Nat} (last : Nat) (among : last ∈ thresholds)
    (least : ∀ threshold ∈ thresholds, last ≤ threshold) :
    search thresholds value = none ↔ value < last := by
  have missed : search thresholds value = none ↔
      ¬∃ threshold ∈ thresholds, decide (threshold ≤ value) = true := by
    rw [search_eq fall, ← List.findIdx_lt_length]
    simp only
    split <;> simp_all
  rw [missed]
  constructor
  · intro unreached
    by_contra reached
    exact unreached ⟨last, among, decide_eq_true (Nat.le_of_not_lt reached)⟩
  · rintro below ⟨threshold, inside, reached⟩
    rw [decide_eq_true_eq] at reached
    exact Nat.not_lt.mpr ((least threshold inside).trans reached) below

/-! ### Both lists of a calibration -/

/-- The first pair of which either part is reached stands where the earlier of the two does. -/
theorem findIdx_zip {hashes sums : List Nat} (same : hashes.length = sums.length)
    (first second : Nat → Bool) :
    (hashes.zip sums).findIdx (fun threshold => first threshold.1 || second threshold.2) =
      min (hashes.findIdx first) (sums.findIdx second) := by
  induction hashes generalizing sums with
  | nil =>
    rw [List.zip_nil_left, List.findIdx_nil, List.findIdx_nil, Nat.zero_min]
  | cons hash rest ih =>
    cases sums with
    | nil => cases same
    | cons sum others =>
      rw [List.length_cons, List.length_cons, Nat.add_right_cancel_iff] at same
      rw [List.zip_cons_cons, List.findIdx_cons, List.findIdx_cons, List.findIdx_cons, ih same]
      cases first hash with
      | true => exact (Nat.zero_min _).symm
      | false =>
        cases second sum with
        | true => exact (Nat.min_zero _).symm
        | false => exact (Nat.add_min_add_right _ _ 1).symm

namespace Calibration

variable {calibration : Calibration} {hash sum : Nat}

/-- The thresholds of a list fall as the list does, and there are 100 of them. -/
theorem take_falls {entries : List Nat} (full : entries.length = 101)
    (fall : entries.Pairwise (· > ·)) :
    (entries.take 100).Pairwise (· > ·) ∧ (entries.take 100).length = 100 := by
  refine ⟨fall.sublist (List.take_sublist 100 entries), ?_⟩
  rw [List.length_take, full]
  rfl

/-- The quality that a fingerprint is found at, each of its numbers searched among the thresholds of
its own list: the smaller of the two positions, of which either may be missing. -/
def searchBoth (calibration : Calibration) (hash sum : Nat) : Option Nat :=
  Option.merge min (search (calibration.hashes.take 100) hash)
    (search (calibration.sums.take 100) sum)

/-- **The scan of a calibration is the earlier of two searches.** -/
theorem Falls.locate_searched (falls : calibration.Falls) (hash sum : Nat) :
    (calibration.locate hash sum).map (· + 1) = calibration.searchBoth hash sum := by
  obtain ⟨hashesFall, hashesLength⟩ := take_falls falls.hashes_length falls.hashes_fall
  obtain ⟨sumsFall, sumsLength⟩ := take_falls falls.sums_length falls.sums_fall
  have place : calibration.place hash sum =
      min ((calibration.hashes.take 100).findIdx fun threshold => decide (threshold ≤ hash))
        ((calibration.sums.take 100).findIdx fun threshold => decide (threshold ≤ sum)) := by
    rw [place, thresholds, List.zip, List.take_zipWith]
    exact findIdx_zip (hashesLength.trans sumsLength.symm)
      (fun threshold => decide (threshold ≤ hash)) fun threshold => decide (threshold ≤ sum)
  have most {entries : List Nat} (full : entries.length = 100) (value : Nat) :
      entries.findIdx (fun threshold => decide (threshold ≤ value)) ≤ 100 :=
    full ▸ List.findIdx_le_length
  have hashMost := most hashesLength hash
  have sumMost := most sumsLength sum
  rw [falls.locate_eq, place, searchBoth, search_eq hashesFall, search_eq sumsFall]
  simp only [hashesLength, sumsLength]
  generalize (calibration.hashes.take 100).findIdx _ = first at hashMost
  generalize (calibration.sums.take 100).findIdx _ = second at sumMost
  by_cases hashFound : first < 100
  · by_cases sumFound : second < 100
    · rw [if_pos hashFound, if_pos sumFound, if_pos (by omega)]
      exact congrArg some (Nat.add_min_add_right first second 1).symm
    · rw [if_pos hashFound, if_neg sumFound, if_pos (by omega), Nat.min_eq_left (by omega)]
      rfl
  · by_cases sumFound : second < 100
    · rw [if_neg hashFound, if_pos sumFound, if_pos (by omega), Nat.min_eq_right (by omega)]
      rfl
    · rw [if_neg hashFound, if_neg sumFound, if_neg (by omega)]
      rfl

/-- The quality at which a fingerprint is found, 0 if it is not. -/
def quality (calibration : Calibration) (hash sum : Nat) : UInt8 :=
  (calibration.locate hash sum).elim 0 fun position => UInt8.ofNat (position + 1)

theorem Falls.quality_searched (falls : calibration.Falls) (hash sum : Nat) :
    (calibration.quality hash sum).toNat = (calibration.searchBoth hash sum).getD 0 := by
  rw [← falls.locate_searched, quality]
  cases located : calibration.locate hash sum with
  | none => rfl
  | some position =>
    have inside := falls.locate_lt located
    show (UInt8.ofNat (position + 1)).toNat = position + 1
    rw [UInt8.toNat_ofNat']
    omega

theorem Falls.searchBoth_pos (falls : calibration.Falls) {quality : Nat}
    (found : calibration.searchBoth hash sum = some quality) : quality ≠ 0 := by
  rw [← falls.locate_searched] at found
  obtain ⟨position, _, rfl⟩ := Option.map_eq_some_iff.mp found
  exact Nat.succ_ne_zero position

theorem searchBoth_eq_none_iff :
    calibration.searchBoth hash sum = none ↔
      search (calibration.hashes.take 100) hash = none ∧
        search (calibration.sums.take 100) sum = none := by
  rw [searchBoth]
  cases search (calibration.hashes.take 100) hash <;>
    cases search (calibration.sums.take 100) sum <;> simp [Option.merge]

/-- A fingerprint is found at no quality exactly if neither search finds one. -/
theorem Falls.quality_eq_zero_iff (falls : calibration.Falls) (hash sum : Nat) :
    calibration.quality hash sum = 0 ↔
      search (calibration.hashes.take 100) hash = none ∧
        search (calibration.sums.take 100) sum = none := by
  rw [← UInt8.toNat_inj, falls.quality_searched, ← searchBoth_eq_none_iff]
  cases found : calibration.searchBoth hash sum with
  | none => exact iff_of_true rfl rfl
  | some quality => exact iff_of_false (falls.searchBoth_pos found) (Option.some_ne_none quality)

end Calibration

/-! ### Estimates -/

/-- An estimate is the quality of the fingerprint in its calibration. -/
theorem estimate_some (luma : Table) (chroma : Option Table) :
    estimate (some luma) chroma =
      (Calibration.forChroma chroma).quality (Fingerprint.ofTables luma chroma).hash
        (Fingerprint.ofTables luma chroma).sum := by
  unfold estimate
  rw [Option.bind_some, locateTables, Calibration.quality]
  cases (Calibration.forChroma chroma).locate _ _ with
  | none => rfl
  | some position => rfl

/-- Tables that reach no threshold: there is none for luminance, or both numbers of the fingerprint
lie below the last thresholds. -/
def Unmatched : Option Table → Option Table → Prop
  | none, _ => True
  | some luma, some chroma =>
    luma.divisor 2 + luma.divisor 53 + chroma.divisor 0 + chroma.divisor 63 < 4 ∧
      luma.sum + chroma.sum < 128
  | some luma, none => luma.divisor 2 + luma.divisor 53 < 2 ∧ luma.sum < 64

theorem estimate_eq_zero_iff (luma chroma : Option Table) :
    estimate luma chroma = 0 ↔ Unmatched luma chroma := by
  cases luma with
  | none => exact iff_of_true rfl trivial
  | some luma =>
    rw [estimate_some, (Calibration.forChroma_falls chroma).quality_eq_zero_iff]
    have falls {entries : List Nat} (full : entries.length = 101)
        (fall : entries.Pairwise (· > ·)) := (Calibration.take_falls full fall).1
    cases chroma with
    | none =>
      obtain ⟨hashesLength, sumsLength, hashesFall, sumsFall⟩ := Calibration.gray_falls
      exact and_congr
        (search_eq_none_iff (falls hashesLength hashesFall) 2 (by decide) (by decide))
        (search_eq_none_iff (falls sumsLength sumsFall) 64 (by decide) (by decide))
    | some chroma =>
      obtain ⟨hashesLength, sumsLength, hashesFall, sumsFall⟩ := Calibration.color_falls
      exact and_congr
        (search_eq_none_iff (falls hashesLength hashesFall) 4 (by decide) (by decide))
        (search_eq_none_iff (falls sumsLength sumsFall) 128 (by decide) (by decide))

/-- **An estimate searches ordered data.** In both calibrations, the quality of a fingerprint is the
smaller of the positions at which its two numbers are found by halves among the first 100 thresholds
of their lists, and 0 if neither is found; the sentinels behind them are never reached, though any
number would do so. So an estimate is 0 for tables whose fingerprint lies below the last thresholds,
and for no others; tables without a zero are always estimated. -/
theorem estimate_searched :
    (∀ calibration ∈ [Calibration.color, Calibration.gray],
      calibration.hashes.length = 101 ∧ calibration.sums.length = 101 ∧
      (calibration.hashes[100]? = some 0 ∧ calibration.sums[100]? = some 0) ∧
      ∀ hash sum,
        (∀ position, calibration.locate hash sum = some position → position < 100) ∧
        (calibration.quality hash sum).toNat =
          (Option.merge min (search (calibration.hashes.take 100) hash)
            (search (calibration.sums.take 100) sum)).getD 0) ∧
    (∀ luma chroma, estimate (some luma) chroma =
      (Calibration.forChroma chroma).quality (Fingerprint.ofTables luma chroma).hash
        (Fingerprint.ofTables luma chroma).sum) ∧
    (∀ luma chroma, estimate luma chroma = 0 ↔ Unmatched luma chroma) ∧
    ∀ (luma : Table) (chroma : Option Table), (∀ position, 1 ≤ luma.divisor position) →
      (∀ table ∈ chroma, ∀ position, 1 ≤ table.divisor position) →
      1 ≤ estimate (some luma) chroma ∧ estimate (some luma) chroma ≤ 100 := by
  refine ⟨?_, estimate_some, estimate_eq_zero_iff, ?_⟩
  · have falling {calibration : Calibration} (falls : calibration.Falls) (hash sum : Nat) :=
      And.intro (fun position => @Calibration.Falls.locate_lt _ falls hash sum position)
        (falls.quality_searched hash sum)
    simp only [List.forall_mem_cons]
    exact ⟨⟨rfl, rfl, ⟨rfl, rfl⟩, falling Calibration.color_falls⟩,
      ⟨rfl, rfl, ⟨rfl, rfl⟩, falling Calibration.gray_falls⟩, nofun⟩
  · intro luma chroma positive others
    have matched : ¬Unmatched (some luma) chroma := by
      have second := positive 2
      have middle := positive 53
      cases chroma with
      | none =>
        rintro ⟨hash, _⟩
        omega
      | some chroma =>
        have first := others chroma rfl 0
        have last := others chroma rfl 63
        rintro ⟨hash, _⟩
        omega
    rw [← estimate_eq_zero_iff, ← UInt8.toNat_inj] at matched
    rw [UInt8.le_iff_toNat_le, UInt8.le_iff_toNat_le]
    exact ⟨Nat.pos_of_ne_zero matched, estimate_le _ _⟩

/-- A luminance table of ones and a chrominance table of zeros are told by the sum of their probed
divisors, 2, and by their sum, 64: no threshold is as low. With ones in both, each of the two
searches finds quality 100. -/
theorem estimate_searched_ones :
    let ones : Table := ⟨Vector.replicate 64 1⟩
    let zeros : Table := ⟨Vector.replicate 64 0⟩
    estimate (some ones) (some zeros) = 0 ∧
      1 ≤ estimate (some ones) (some ones) ∧ estimate (some ones) (some ones) ≤ 100 ∧
      search (Calibration.color.hashes.take 100) 4 = some 100 ∧
      search (Calibration.color.sums.take 100) 128 = some 100 ∧
      (Calibration.color.quality 4 128).toNat = 100 := by
  intro ones zeros
  obtain ⟨scanned, _, unmatched, matched⟩ := estimate_searched
  have positive : ∀ position, 1 ≤ ones.divisor position := by decide
  have below : Unmatched (some ones) (some zeros) := by
    constructor <;> decide
  obtain ⟨least, most⟩ := matched ones (some ones) positive (by rintro table ⟨⟩; exact positive)
  obtain ⟨hashesLength, sumsLength, hashesFall, sumsFall⟩ := Calibration.color_falls
  have hash : search (Calibration.color.hashes.take 100) 4 = some 100 := by
    rw [search_eq (Calibration.take_falls hashesLength hashesFall).1]
    decide +kernel
  have sum : search (Calibration.color.sums.take 100) 128 = some 100 := by
    rw [search_eq (Calibration.take_falls sumsLength sumsFall).1]
    decide +kernel
  refine ⟨(unmatched _ _).mpr below, least, most, hash, sum, ?_⟩
  rw [((scanned Calibration.color List.mem_cons_self).2.2.2 4 128).2, hash, sum]
  rfl

end JpegTranscoder.Quant
