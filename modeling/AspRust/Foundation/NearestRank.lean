import Mathlib.Data.List.Sort
import Mathlib.Order.Basic

/-!
# Nearest-rank percentiles

The percentile of a list of samples by nearest rank is the least sample that at least the
given share of the samples does not exceed.  It is found in the sorted list at the index
`⌈length * percent / 100⌉ - 1`.
-/

namespace AspRust.Foundation

variable {α : Type*} [LinearOrder α]

/-- A share of the samples, in percent, is at most a value. -/
def CoversShare (samples : List α) (percent : ℕ) (value : α) : Prop :=
  samples.length * percent ≤ 100 * samples.countP (· ≤ value)

/-- The least sample that covers a share of the samples. -/
structure IsNearestRank (samples : List α) (percent : ℕ) (value : α) : Prop where
  mem : value ∈ samples
  covers : CoversShare samples percent value
  least : ∀ other ∈ samples, CoversShare samples percent other → value ≤ other

/-- The index of a percentile in the sorted samples. -/
def rankIndex (length percent : ℕ) : ℕ := (length * percent + 99) / 100 - 1

theorem rankIndex_lt {length percent : ℕ} (hlength : 0 < length) (hpercent : percent ≤ 100) :
    rankIndex length percent < length := by
  have hle : length * percent ≤ length * 100 := Nat.mul_le_mul_left length hpercent
  unfold rankIndex
  omega

theorem rankIndex_mono (length : ℕ) {low high : ℕ} (h : low ≤ high) :
    rankIndex length low ≤ rankIndex length high := by
  have hle : length * low ≤ length * high := Nat.mul_le_mul_left length h
  unfold rankIndex
  omega

section Sorted

variable {sorted : List α} (hsorted : sorted.Pairwise (· ≤ ·))

include hsorted

theorem getElem_le_getElem_of_sorted {i j : ℕ} (hle : i ≤ j) (hj : j < sorted.length) :
    sorted[i] ≤ sorted[j] := by
  rcases hle.eq_or_lt with rfl | hlt
  · exact le_refl _
  · exact List.pairwise_iff_getElem.mp hsorted i j (hlt.trans hj) hj hlt

/-- The samples up to an index do not exceed the one at the index. -/
theorem lt_countP_of_sorted {i : ℕ} (hi : i < sorted.length) :
    i < sorted.countP (· ≤ sorted[i]) := by
  have htake : (sorted.take (i + 1)).countP (· ≤ sorted[i]) = (sorted.take (i + 1)).length := by
    refine List.countP_eq_length.mpr fun value hvalue => ?_
    obtain ⟨j, hj, rfl⟩ := List.mem_iff_getElem.mp hvalue
    rw [List.length_take] at hj
    rw [List.getElem_take]
    exact decide_eq_true (getElem_le_getElem_of_sorted hsorted (by omega) hi)
  have hle := (List.take_sublist (i + 1) sorted).countP_le (p := (· ≤ sorted[i]))
  rw [htake, List.length_take] at hle
  omega

/-- A value below the sample at an index exceeds only samples before it. -/
theorem countP_le_of_sorted {i : ℕ} (hi : i < sorted.length) {value : α}
    (hvalue : value < sorted[i]) : sorted.countP (· ≤ value) ≤ i := by
  have hdrop : (sorted.drop i).countP (· ≤ value) = 0 := by
    refine List.countP_eq_zero.mpr fun other hother hle => ?_
    obtain ⟨j, hj, rfl⟩ := List.mem_iff_getElem.mp hother
    rw [List.length_drop] at hj
    rw [List.getElem_drop] at hle
    have habove := getElem_le_getElem_of_sorted hsorted (Nat.le_add_right i j) (by omega)
    exact absurd (of_decide_eq_true hle) (not_le.mpr (hvalue.trans_le habove))
  have hsplit : sorted.countP (· ≤ value) =
      (sorted.take i).countP (· ≤ value) + (sorted.drop i).countP (· ≤ value) := by
    rw [← List.countP_append, List.take_append_drop]
  have hle : (sorted.take i).countP (· ≤ value) ≤ (sorted.take i).length := List.countP_le_length
  rw [List.length_take] at hle
  omega

end Sorted

/-- **The sorted samples have the percentile at its index.** -/
theorem isNearestRank_getElem {samples sorted : List α} (hperm : sorted.Perm samples)
    (hsorted : sorted.Pairwise (· ≤ ·)) {percent : ℕ} (hpositive : 0 < percent)
    (hi : rankIndex samples.length percent < sorted.length) :
    IsNearestRank samples percent sorted[rankIndex samples.length percent] := by
  have hlength : 0 < samples.length := by
    rw [← hperm.length_eq]
    omega
  have hshare : 0 < samples.length * percent := Nat.mul_pos hlength hpositive
  have hcount : ∀ value, samples.countP (· ≤ value) = sorted.countP (· ≤ value) :=
    fun value => (hperm.countP_eq _).symm
  refine ⟨hperm.mem_iff.mp (List.getElem_mem hi), ?_, ?_⟩
  · have hlt := lt_countP_of_sorted hsorted hi
    rw [CoversShare, hcount]
    unfold rankIndex at hlt ⊢
    omega
  · intro other hother hcovers
    by_contra hbelow
    have hle := countP_le_of_sorted hsorted hi (not_le.mp hbelow)
    rw [CoversShare, hcount] at hcovers
    unfold rankIndex at hle
    omega

end AspRust.Foundation
