import Mathlib.Data.Nat.Basic
import Mathlib.Tactic.Ring

/-!
# Texts that state their own length

A record may carry the number of its own bytes in decimal, and next to it what a
total exceeds that number by.  Writing the two numbers changes the length they
are about, so a writer measures, writes and measures again.

`recount base total n` is the length measured after `n` has been written: the
`base` bytes that do not depend on the numbers, and the digits of both.  A
consistent record is a fixed point of it.  One need not exist: where the excess
is a power of ten, one more byte takes a digit away, and one byte less brings it
back.  `recount_third_iff` says that three measurements end at a fixed point
exactly when this does not happen.

### What is load-bearing

The width of a number in decimal digits changes by one at most when a few bytes are added or
taken away.  So three measurements either settle or go to and fro between two counts, and the
latter happens at a power of ten only (`oscillates_of_drop`).
-/

namespace AspRust.Foundation

/-! ## Decimal width -/

/-- The number of decimal digits of a number; zero has one. -/
def decimalWidth (n : ℕ) : ℕ := (Nat.toDigits 10 n).length

theorem decimalWidth_pos (n : ℕ) : 0 < decimalWidth n := Nat.length_toDigits_pos

theorem decimalWidth_le_iff {n k : ℕ} (hk : 0 < k) : decimalWidth n ≤ k ↔ n < 10 ^ k :=
  Nat.length_toDigits_le_iff (by omega) hk

theorem lt_pow_decimalWidth (n : ℕ) : n < 10 ^ decimalWidth n :=
  (decimalWidth_le_iff (decimalWidth_pos n)).mp le_rfl

theorem decimalWidth_mono {m n : ℕ} (h : m ≤ n) : decimalWidth m ≤ decimalWidth n :=
  (decimalWidth_le_iff (decimalWidth_pos n)).mpr (h.trans_lt (lt_pow_decimalWidth n))

/-- The width grows by at most one over a distance that is short compared with
the number. -/
theorem decimalWidth_le_succ {m n : ℕ} (h : n ≤ m + 40 + decimalWidth m) :
    decimalWidth n ≤ decimalWidth m + 1 := by
  rw [decimalWidth_le_iff (Nat.succ_pos _), pow_succ]
  have hm := lt_pow_decimalWidth m
  have hwidth : decimalWidth m < 10 ^ decimalWidth m := Nat.lt_pow_self (by omega)
  have hten : 10 ^ 1 ≤ 10 ^ decimalWidth m :=
    Nat.pow_le_pow_right (by omega) (decimalWidth_pos m)
  omega

/-- The width grows no faster than the number. -/
theorem decimalWidth_add_le (n d : ℕ) : decimalWidth (n + d) ≤ decimalWidth n + d := by
  induction d with
  | zero => exact le_rfl
  | succ d ih =>
      have hstep : decimalWidth (n + d + 1) ≤ decimalWidth (n + d) + 1 :=
        decimalWidth_le_succ (by omega)
      change decimalWidth (n + d + 1) ≤ decimalWidth n + (d + 1)
      omega

/-- Where the width grows, the number is a power of ten. -/
theorem eq_pow_of_decimalWidth_lt {n : ℕ} (h : decimalWidth n < decimalWidth (n + 1)) :
    n + 1 = 10 ^ decimalWidth n := by
  have hlow := lt_pow_decimalWidth n
  have hhigh : ¬ decimalWidth (n + 1) ≤ decimalWidth n := by omega
  rw [decimalWidth_le_iff (decimalWidth_pos n)] at hhigh
  omega

theorem decimalWidth_pow (k : ℕ) : decimalWidth (10 ^ k) = k + 1 := by
  have hlow : ¬ decimalWidth (10 ^ k) ≤ k := by
    rcases Nat.eq_zero_or_pos k with rfl | hk
    · have := decimalWidth_pos (10 ^ 0)
      omega
    · rw [decimalWidth_le_iff hk]
      omega
  have hhigh : decimalWidth (10 ^ k) ≤ k + 1 := by
    rw [decimalWidth_le_iff (Nat.succ_pos k)]
    exact Nat.pow_lt_pow_right (by omega) (by omega)
  omega

/-! ## Measuring again -/

/-- The length of a text whose numbers are a count and what the total exceeds it
by. -/
def recount (base total n : ℕ) : ℕ := base + decimalWidth n + decimalWidth (total - n)

/-- The total at which no count is consistent: it exceeds `n` by a power of ten,
and the text is `n` bytes long when the excess has one digit less. -/
def Oscillates (base total : ℕ) : Prop :=
  ∃ k n, 1 ≤ k ∧ total = n + 10 ^ k ∧ n = base + decimalWidth n + k ∧
    decimalWidth (n + 1) = decimalWidth n

section Recount

variable {base total : ℕ}

/-- An oscillating total has no consistent count: below `n` the text is longer
than the count says, above it shorter. -/
theorem recount_ne_of_oscillates (h : Oscillates base total) (m : ℕ) :
    recount base total m ≠ m := by
  obtain ⟨k, n, hk, htotal, hn, hflat⟩ := h
  intro hfix
  unfold recount at hfix
  rcases Nat.lt_or_ge n m with hlt | hle
  · -- beyond `n` the excess has at most `k` digits
    have hexcess : decimalWidth (total - m) ≤ k := by
      rw [decimalWidth_le_iff hk]
      have := Nat.pow_pos (n := k) (show 0 < 10 by omega)
      omega
    have hgrow := decimalWidth_add_le (n + 1) (m - (n + 1))
    rw [show n + 1 + (m - (n + 1)) = m by omega] at hgrow
    omega
  · -- up to `n` it has at least `k + 1`
    have hexcess : k + 1 ≤ decimalWidth (total - m) := by
      rw [← decimalWidth_pow k]
      exact decimalWidth_mono (by omega)
    have hgrow := decimalWidth_add_le m (n - m)
    rw [show m + (n - m) = n by omega] at hgrow
    omega

/-- What the widths of a total can do over the counts that are measured. -/
theorem decimalWidth_excess_le {m n : ℕ} (hle : m ≤ n)
    (hnear : n ≤ m + 40 + decimalWidth m) (htotal : total < 10 ^ 20) :
    decimalWidth (total - m) ≤ decimalWidth (total - n) + 1 := by
  rcases Nat.lt_or_ge m total with hm | hm
  · have hsmall : decimalWidth m ≤ 20 :=
      (decimalWidth_le_iff (by omega)).mpr (hm.trans htotal)
    rw [decimalWidth_le_iff (Nat.succ_pos _), pow_succ]
    have hrest := lt_pow_decimalWidth (total - n)
    have hten : 10 ^ 1 ≤ 10 ^ decimalWidth (total - n) :=
      Nat.pow_le_pow_right (by omega) (decimalWidth_pos _)
    omega
  · rw [Nat.sub_eq_zero_of_le hm, Nat.sub_eq_zero_of_le (hm.trans hle)]
    omega

/-- Where one byte more takes a digit from the excess and none from the count,
the total oscillates. -/
theorem oscillates_of_drop {n : ℕ} (hn : n + 1 = recount base total n)
    (hflat : decimalWidth (n + 1) = decimalWidth n)
    (hdrop : decimalWidth (total - (n + 1)) < decimalWidth (total - n)) :
    Oscillates base total := by
  have hpos : total - n = total - (n + 1) + 1 := by
    rcases Nat.lt_or_ge n total with hlt | hge
    · omega
    · rw [Nat.sub_eq_zero_of_le hge, Nat.sub_eq_zero_of_le (by omega)] at hdrop
      omega
  rw [hpos] at hdrop
  have hpow := eq_pow_of_decimalWidth_lt hdrop
  refine ⟨decimalWidth (total - (n + 1)), n, decimalWidth_pos _, by omega, ?_, hflat⟩
  have hwidth : decimalWidth (total - n) = decimalWidth (total - (n + 1)) + 1 := by
    rw [hpos, hpow, decimalWidth_pow]
  unfold recount at hn
  omega

/-- **Three measurements.**  Measuring with both numbers zero, and then twice
more, ends at a consistent count exactly when the total does not oscillate. -/
theorem recount_third_iff (htotal : total < 10 ^ 20) :
    recount base total (recount base total (recount base total (base + 2))) =
        recount base total (recount base total (base + 2)) ↔ ¬ Oscillates base total := by
  refine ⟨fun hfix hbad => recount_ne_of_oscillates hbad _ hfix, ?_⟩
  intro hcalm
  generalize hfirst : base + 2 = first
  generalize hsecond : recount base total first = second
  generalize hthird : recount base total second = third
  have hwidths : ∀ n, 1 ≤ decimalWidth n := decimalWidth_pos
  have hexcess : ∀ n, decimalWidth (total - n) ≤ 20 := fun n =>
    (decimalWidth_le_iff (by omega)).mpr (by omega)
  have hsecond' : second = base + decimalWidth first + decimalWidth (total - first) :=
    hsecond.symm
  have hthird' : third = base + decimalWidth second + decimalWidth (total - second) :=
    hthird.symm
  have h1 := hwidths first
  have h2 := hwidths (total - first)
  have h3 := hexcess first
  have h4 := hexcess second
  have hle : first ≤ second := by omega
  have hgrow : decimalWidth second ≤ decimalWidth first + 1 :=
    decimalWidth_le_succ (by omega)
  have hmono : decimalWidth first ≤ decimalWidth second := decimalWidth_mono hle
  have hshrink : decimalWidth (total - first) ≤ decimalWidth (total - second) + 1 :=
    decimalWidth_excess_le hle (by omega) htotal
  have hanti : decimalWidth (total - second) ≤ decimalWidth (total - first) :=
    decimalWidth_mono (by omega)
  -- the second count is right, or one too small, or one too large
  rcases Nat.lt_trichotomy third second with hbelow | hsame | habove
  · have hlt : first < second := by
      rcases hle.lt_or_eq with hlt | heq
      · exact hlt
      · rw [heq, hthird] at hsecond
        omega
    obtain rfl : second = third + 1 := by omega
    have hflat : decimalWidth (third + 1) = decimalWidth third := by
      have hlow : decimalWidth first ≤ decimalWidth third := decimalWidth_mono (by omega)
      have hhigh : decimalWidth third ≤ decimalWidth (third + 1) := decimalWidth_mono (by omega)
      omega
    have hdrop : decimalWidth (total - (third + 1)) ≤ decimalWidth (total - third) :=
      decimalWidth_mono (by omega)
    have hstep : decimalWidth (total - third) ≤ decimalWidth (total - (third + 1)) + 1 :=
      decimalWidth_excess_le (by omega) (by omega) htotal
    by_contra hne
    unfold recount at hne
    refine hcalm (oscillates_of_drop (n := third) ?_ hflat (by omega))
    unfold recount
    omega
  · rw [hsame] at hthird ⊢
    exact hthird
  · have hsucc : third = second + 1 := by omega
    have hflat : decimalWidth (second + 1) = decimalWidth second := by
      have hlow : decimalWidth second ≤ decimalWidth third := decimalWidth_mono (by omega)
      have hhigh : decimalWidth third ≤ decimalWidth first + 1 :=
        decimalWidth_le_succ (by omega)
      rw [← hsucc]
      omega
    by_contra hne
    refine hcalm (oscillates_of_drop (n := second) ?_ hflat ?_)
    · rw [hthird]
      exact hsucc.symm
    · have hdrop : decimalWidth (total - (second + 1)) ≤ decimalWidth (total - second) :=
        decimalWidth_mono (by omega)
      unfold recount at hne
      rw [hsucc] at hne hthird'
      omega

end Recount

end AspRust.Foundation
