/-
**The estimate never rises when tables get coarser.**

The two numbers of a fingerprint are sums of divisors, and a quality is found where one of them
reaches its threshold. Larger divisors make both numbers larger, so what was reached stays reached
and the first quality that is reached comes no later:

* `Table.sum_eq`: the sum of a table as a sum over its positions;
* `Fingerprint.inWords_eq`: the fingerprint as it is added up in words of 32 bits, none of which
  wraps;
* `Fingerprint.ofTables_le`: coarser tables leave a larger fingerprint;
* `rank_estimate`: the rank of an estimate is where the fingerprint is placed in its calibration;
* `estimate_antitone`: the estimate of coarser tables.
-/
import Mathlib.Algebra.BigOperators.Fin
import Mathlib.Algebra.Order.BigOperators.Group.Finset
import JpegTranscoder.Proofs.Quant.Recovery

namespace JpegTranscoder.Quant

/-! ### Sums of divisors -/

namespace Table

variable (table : Table)

/-- The sum of a table is taken over its positions. -/
theorem sum_eq : table.sum = ∑ position : Fin 64, table.divisor position := by
  have listed : table.values.toList.map UInt16.toNat = List.ofFn table.divisor := by
    apply List.ext_getElem
    · simp only [List.length_map, Vector.length_toList, List.length_ofFn]
    · intro index inside within
      rw [List.getElem_map, List.getElem_ofFn]
      rfl
  rw [sum, listed, ← List.sum_eq_foldr, List.sum_ofFn]

theorem divisor_lt (position : Fin 64) : table.divisor position < 65536 :=
  (table.values.get position).toNat_lt

/-- A table of the largest divisors has the largest sum. -/
theorem sum_le : table.sum ≤ 64 * 65535 := by
  rw [sum_eq]
  calc ∑ position, table.divisor position
      ≤ Finset.card (Finset.univ : Finset (Fin 64)) • 65535 :=
        Finset.sum_le_card_nsmul _ _ _ fun position _ =>
          Nat.le_of_lt_succ (table.divisor_lt position)
    _ = 64 * 65535 := rfl

end Table

/-! ### Additions of words -/

/-- The sum of two words, if it is a word. -/
def addWords (first second : UInt32) : Option UInt32 :=
  if first.toNat + second.toNat < UInt32.size then some (first + second) else none

/-- The sum of a word and then of others, one by one, if every sum on the way is a word. -/
def sumWords (start : UInt32) (words : List UInt32) : Option UInt32 := words.foldlM addWords start

theorem addWords_eq {first second : UInt32} (fits : first.toNat + second.toNat < UInt32.size) :
    ∃ total, addWords first second = some total ∧ total.toNat = first.toNat + second.toNat := by
  refine ⟨first + second, if_pos fits, ?_⟩
  rw [UInt32.toNat_add]
  exact Nat.mod_eq_of_lt fits

/-- Words whose sum is a word add up to it: no sum on the way is larger. -/
theorem sumWords_eq {start : UInt32} {words : List UInt32}
    (fits : start.toNat + (words.map UInt32.toNat).foldr (· + ·) 0 < UInt32.size) :
    ∃ total, sumWords start words = some total ∧
      total.toNat = start.toNat + (words.map UInt32.toNat).foldr (· + ·) 0 := by
  induction words generalizing start with
  | nil => exact ⟨start, rfl, rfl⟩
  | cons word rest ih =>
    rw [List.map_cons, List.foldr_cons, ← Nat.add_assoc] at fits ⊢
    obtain ⟨next, added, value⟩ := addWords_eq (Nat.lt_of_le_of_lt (Nat.le_add_right _ _) fits)
    rw [← value] at fits ⊢
    obtain ⟨total, summed, known⟩ := ih fits
    refine ⟨total, ?_, known⟩
    show (addWords start word).bind (sumWords · rest) = _
    rw [added]
    exact summed

/-! ### Fingerprints in words -/

namespace Table

variable (table : Table)

/-- The divisor at a position as a word. -/
def word (position : Fin 64) : UInt32 := (table.values.get position).toUInt32

/-- The sum of a table, added up in words. -/
def sumInWords : Option UInt32 := sumWords 0 (table.values.toList.map UInt16.toUInt32)

theorem sumInWords_eq : ∃ total, table.sumInWords = some total ∧ total.toNat = table.sum := by
  have same : (table.values.toList.map UInt16.toUInt32).map UInt32.toNat =
      table.values.toList.map UInt16.toNat := by
    rw [List.map_map]
    rfl
  have fits : (0 : UInt32).toNat + table.sum < UInt32.size := by
    have most := table.sum_le
    rw [UInt32.toNat_zero, Nat.zero_add]
    exact Nat.lt_of_le_of_lt most (by decide)
  rw [sum, ← same] at fits
  obtain ⟨total, summed, value⟩ := sumWords_eq fits
  refine ⟨total, summed, ?_⟩
  rw [value, same, UInt32.toNat_zero, Nat.zero_add, sum]

end Table

namespace Fingerprint

/-- The divisors that are probed, as words. -/
def probes (luma : Table) : Option Table → List UInt32
  | some chroma => [luma.word 2, luma.word 53, chroma.word 0, chroma.word 63]
  | none => [luma.word 2, luma.word 53]

/-- The hash and the sum of tables, added up in words: none if one of the additions wraps. -/
def inWords (luma : Table) (chroma : Option Table) : Option (UInt32 × UInt32) := do
  let lumaSum ← luma.sumInWords
  let chromaSum ← chroma.elim (some 0) Table.sumInWords
  let sum ← addWords lumaSum chromaSum
  let hash ← sumWords 0 (probes luma chroma)
  return (hash, sum)

theorem probes_eq (luma : Table) (chroma : Option Table) :
    ((probes luma chroma).map UInt32.toNat).foldr (· + ·) 0 = (ofTables luma chroma).hash := by
  cases chroma with
  | none => simp [probes, ofTables, Table.word, Table.divisor]
  | some chroma => simp [probes, ofTables, Table.word, Table.divisor, Nat.add_assoc]

theorem hash_lt (luma : Table) (chroma : Option Table) :
    (ofTables luma chroma).hash < UInt32.size := by
  have second := luma.divisor_lt 2
  have middle := luma.divisor_lt 53
  cases chroma with
  | none =>
    show luma.divisor 2 + luma.divisor 53 < 4294967296
    omega
  | some chroma =>
    have first := chroma.divisor_lt 0
    have last := chroma.divisor_lt 63
    show luma.divisor 2 + luma.divisor 53 + chroma.divisor 0 + chroma.divisor 63 < 4294967296
    omega

/-- **No addition wraps**: added up in words, the fingerprint is the one of the tables. -/
theorem inWords_eq (luma : Table) (chroma : Option Table) :
    ∃ hash sum : UInt32, inWords luma chroma = some (hash, sum) ∧
      hash.toNat = (ofTables luma chroma).hash ∧ sum.toNat = (ofTables luma chroma).sum := by
  obtain ⟨lumaSum, lumaAdded, lumaValue⟩ := luma.sumInWords_eq
  obtain ⟨chromaSum, chromaAdded, total⟩ : ∃ chromaSum,
      chroma.elim (some 0) Table.sumInWords = some chromaSum ∧
        lumaSum.toNat + chromaSum.toNat = (ofTables luma chroma).sum ∧
        lumaSum.toNat + chromaSum.toNat < UInt32.size := by
    have lumaMost := luma.sum_le
    cases chroma with
    | none =>
      refine ⟨0, rfl, ?_, ?_⟩
      · rw [lumaValue]
        rfl
      · rw [lumaValue]
        show luma.sum + 0 < 4294967296
        omega
    | some chroma =>
      obtain ⟨chromaSum, added, value⟩ := chroma.sumInWords_eq
      have chromaMost := chroma.sum_le
      refine ⟨chromaSum, added, ?_, ?_⟩
      · rw [lumaValue, value]
        rfl
      · rw [lumaValue, value]
        show luma.sum + chroma.sum < 4294967296
        omega
  obtain ⟨sum, added, value⟩ := addWords_eq total.2
  have fits : (0 : UInt32).toNat + ((probes luma chroma).map UInt32.toNat).foldr (· + ·) 0 <
      UInt32.size := by
    rw [probes_eq, UInt32.toNat_zero, Nat.zero_add]
    exact hash_lt luma chroma
  obtain ⟨hash, hashed, known⟩ := sumWords_eq fits
  refine ⟨hash, sum, ?_, ?_, value.trans total.1⟩
  · simp only [inWords, lumaAdded, chromaAdded, hashed, Option.bind_eq_bind, Option.bind_some,
      added, Option.pure_def]
  · rw [known, probes_eq, UInt32.toNat_zero, Nat.zero_add]

end Fingerprint

/-! ### Coarser tables -/

/-- The first table divides nowhere by more than the second. -/
def Table.Finer (fine coarse : Table) : Prop :=
  ∀ position : Fin 64, fine.divisor position ≤ coarse.divisor position

variable {fine coarse : Table} {fineChroma coarseChroma : Option Table}

theorem Table.Finer.sum_le_sum (finer : fine.Finer coarse) : fine.sum ≤ coarse.sum := by
  rw [Table.sum_eq, Table.sum_eq]
  exact Finset.sum_le_sum fun position _ => finer position

/-- **Coarser tables leave a larger fingerprint.** -/
theorem Fingerprint.ofTables_le (luma : fine.Finer coarse)
    (chroma : Option.Rel Table.Finer fineChroma coarseChroma) :
    (ofTables fine fineChroma).hash ≤ (ofTables coarse coarseChroma).hash ∧
      (ofTables fine fineChroma).sum ≤ (ofTables coarse coarseChroma).sum := by
  have probed := Nat.add_le_add (luma 2) (luma 53)
  cases chroma with
  | none => exact ⟨probed, luma.sum_le_sum⟩
  | some finer =>
    refine ⟨?_, Nat.add_le_add luma.sum_le_sum finer.sum_le_sum⟩
    exact Nat.add_le_add (Nat.add_le_add probed (finer 0)) (finer 63)

/-! ### Places in a calibration -/

namespace Calibration

variable {calibration : Calibration} {hash sum : Nat}

/-- How many qualities are passed over before the first one of whose thresholds is reached; all of
them, if there is none. -/
def place (calibration : Calibration) (hash sum : Nat) : Nat :=
  calibration.thresholds.findIdx fun threshold =>
    decide (threshold.1 ≤ hash) || decide (threshold.2 ≤ sum)

/-- A larger fingerprint is placed no later. -/
theorem place_le (calibration : Calibration) {hash sum more total : Nat} (larger : hash ≤ more)
    (heavier : sum ≤ total) : calibration.place more total ≤ calibration.place hash sum := by
  apply List.findIdx_le_findIdx
  intro threshold _ reached
  rw [Bool.or_eq_true, decide_eq_true_eq, decide_eq_true_eq] at reached ⊢
  exact reached.imp (Nat.le_trans · larger) (Nat.le_trans · heavier)

theorem Falls.place_le (falls : calibration.Falls) (hash sum : Nat) :
    calibration.place hash sum ≤ 100 := by
  rw [← falls.thresholds_length]
  exact List.findIdx_le_length

theorem Falls.locate_eq (falls : calibration.Falls) (hash sum : Nat) :
    calibration.locate hash sum =
      if calibration.place hash sum < 100 then some (calibration.place hash sum) else none := by
  split
  · rename_i inside
    rw [← falls.thresholds_length] at inside
    exact List.findIdx?_eq_some_iff_findIdx_eq.mpr ⟨inside, rfl⟩
  · rename_i behind
    refine List.findIdx?_eq_none_iff_findIdx_eq.mpr ?_
    rw [falls.thresholds_length]
    exact Nat.le_antisymm (falls.place_le hash sum) (Nat.not_lt.mp behind)

end Calibration

/-! ### Ranks of estimates -/

/-- Qualities in order, with the unknown one above all others. -/
def rank (quality : UInt8) : Nat := if quality = 0 then 101 else quality.toNat

/-- A quality of at most 100 ranks no higher than another exactly if it is known and no larger, or
the other is unknown. -/
theorem rank_le_iff {first second : UInt8} (most : first.toNat ≤ 100) (least : second.toNat ≤ 100) :
    rank first ≤ rank second ↔ (second ≠ 0 → 1 ≤ first ∧ first ≤ second) := by
  have zero (quality : UInt8) : quality = 0 ↔ quality.toNat = 0 := UInt8.toNat_inj.symm
  simp only [rank, ne_eq, zero, UInt8.le_iff_toNat_le, UInt8.reduceToNat]
  split <;> split <;> omega

/-- **The rank of an estimate** is one above the number of qualities that are passed over. -/
theorem rank_estimate (luma : Table) (chroma : Option Table) :
    rank (estimate (some luma) chroma) =
      (Calibration.forChroma chroma).place (Fingerprint.ofTables luma chroma).hash
        (Fingerprint.ofTables luma chroma).sum + 1 := by
  have falls := Calibration.forChroma_falls chroma
  have within := falls.place_le (Fingerprint.ofTables luma chroma).hash
    (Fingerprint.ofTables luma chroma).sum
  unfold estimate
  rw [Option.bind_some, locateTables, falls.locate_eq]
  generalize (Calibration.forChroma chroma).place _ _ = place at within
  by_cases inside : place < 100
  · have value : (UInt8.ofNat (place + 1)).toNat = place + 1 := by
      rw [UInt8.toNat_ofNat']
      omega
    rw [if_pos inside]
    show rank (UInt8.ofNat (place + 1)) = _
    rw [rank, if_neg, value]
    rw [← UInt8.toNat_inj, value]
    exact Nat.succ_ne_zero place
  · rw [if_neg inside]
    show 101 = _
    omega

/-- **The estimate never rises when tables get coarser.** If it is known for finer tables, it is
known for coarser ones, and no larger; so it falls with every divisor, if the unknown quality counts
as the highest. The fingerprint that it is read off is a pair of words for all tables, and so is
every sum on the way. -/
theorem estimate_antitone {fine coarse fineChroma coarseChroma : Option Table}
    (luma : Option.Rel Table.Finer fine coarse)
    (chroma : Option.Rel Table.Finer fineChroma coarseChroma) :
    (estimate fine fineChroma ≠ 0 →
      1 ≤ estimate coarse coarseChroma ∧
        estimate coarse coarseChroma ≤ estimate fine fineChroma) ∧
    rank (estimate coarse coarseChroma) ≤ rank (estimate fine fineChroma) ∧
    ∀ luma chroma, ∃ hash sum : UInt32, Fingerprint.inWords luma chroma = some (hash, sum) ∧
      hash.toNat = (Fingerprint.ofTables luma chroma).hash ∧
      sum.toNat = (Fingerprint.ofTables luma chroma).sum := by
  have lower : rank (estimate coarse coarseChroma) ≤ rank (estimate fine fineChroma) := by
    cases luma with
    | none => exact Nat.le_refl _
    | some finer =>
      have same : Calibration.forChroma coarseChroma = Calibration.forChroma fineChroma := by
        cases chroma <;> rfl
      obtain ⟨larger, heavier⟩ := Fingerprint.ofTables_le finer chroma
      rw [rank_estimate, rank_estimate, same]
      exact Nat.succ_le_succ (Calibration.place_le _ larger heavier)
  refine ⟨?_, lower, Fingerprint.inWords_eq⟩
  exact (rank_le_iff (estimate_le _ _) (estimate_le _ _)).mp lower

/-- Tables of ones are of quality 100. With one divisor raised to 30 they are of quality 94. -/
theorem estimate_antitone_one_raised :
    let ones : Table := ⟨Vector.replicate 64 1⟩
    let raised : Table := ⟨(Vector.replicate 64 1).set 2 30⟩
    Option.Rel Table.Finer (some ones) (some raised) ∧
      Option.Rel Table.Finer (some ones) (some ones) ∧
      estimate (some ones) (some ones) = 100 ∧ estimate (some raised) (some ones) = 94 ∧
      1 ≤ estimate (some raised) (some ones) ∧ estimate (some raised) (some ones) ≤ 100 := by
  intro ones raised
  have higher : ∀ position, ones.divisor position ≤ raised.divisor position := by decide
  have luma : Option.Rel Table.Finer (some ones) (some raised) := .some higher
  have chroma : Option.Rel Table.Finer (some ones) (some ones) := .some fun _ => Nat.le_refl _
  have finest : estimate (some ones) (some ones) = 100 := by decide +kernel
  have lower := (estimate_antitone luma chroma).1
  rw [finest] at lower
  exact ⟨luma, chroma, finest, by decide +kernel, lower (by decide)⟩

end JpegTranscoder.Quant
