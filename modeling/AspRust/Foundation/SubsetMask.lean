import Mathlib.Data.List.Basic
import Mathlib.Data.List.Nodup
import Mathlib.Data.List.Perm.Subperm
import Mathlib.Data.Nat.Bitwise

/-!
# Selecting by the bits of a number

The members of a list whose positions are the bits of a number.  Counting the numbers
below two to the length of the list goes through all choices of members of a list
without repetition, each choice once (`existsUnique_select`).
-/

namespace AspRust.Foundation

namespace SubsetMask

variable {α : Type*}

/-- The members of a list whose bit is set; the first member has the bit `bit`. -/
def selectFrom (mask bit : ℕ) (list : List α) : List α :=
  (list.zipIdx bit).filterMap fun entry =>
    if mask &&& (1 <<< entry.2) = 0 then none else some entry.1

/-- The members of a list whose bit is set. -/
def select (mask : ℕ) (list : List α) : List α := selectFrom mask 0 list

theorem and_shiftLeft_eq_zero_iff {mask bit : ℕ} :
    mask &&& (1 <<< bit) = 0 ↔ mask.testBit bit = false := by
  rw [Nat.one_shiftLeft]
  constructor
  · intro h
    have hbit := congrArg (Nat.testBit · bit) h
    simpa [Nat.testBit_two_pow_self] using hbit
  · intro h
    apply Nat.eq_of_testBit_eq
    intro other
    rw [Nat.testBit_and, Nat.testBit_two_pow, Nat.zero_testBit]
    by_cases heq : bit = other
    · rw [← heq, h, Bool.false_and]
    · rw [decide_eq_false heq, Bool.and_false]

@[simp] theorem selectFrom_nil (mask bit : ℕ) : selectFrom mask bit ([] : List α) = [] := rfl

theorem selectFrom_cons (mask bit : ℕ) (head : α) (rest : List α) :
    selectFrom mask bit (head :: rest) =
      if mask.testBit bit then head :: selectFrom mask (bit + 1) rest
      else selectFrom mask (bit + 1) rest := by
  rw [selectFrom, List.zipIdx_cons, List.filterMap_cons]
  by_cases hbit : mask.testBit bit = true
  · have hne : mask &&& (1 <<< bit) ≠ 0 := by
      rw [Ne, and_shiftLeft_eq_zero_iff, hbit]
      exact Bool.noConfusion
    simp only [if_neg hne, if_pos hbit]
    rfl
  · rw [Bool.not_eq_true] at hbit
    simp only [if_pos (and_shiftLeft_eq_zero_iff.mpr hbit), hbit]
    rfl

/-- Halving the number moves its bits to the positions before. -/
theorem selectFrom_succ (mask bit : ℕ) (list : List α) :
    selectFrom mask (bit + 1) list = selectFrom (mask / 2) bit list := by
  induction list generalizing bit with
  | nil => rfl
  | cons head rest ih => rw [selectFrom_cons, selectFrom_cons, ih, Nat.testBit_succ]

@[simp] theorem select_nil (mask : ℕ) : select mask ([] : List α) = [] := rfl

theorem select_cons (mask : ℕ) (head : α) (rest : List α) :
    select mask (head :: rest) =
      if mask % 2 = 1 then head :: select (mask / 2) rest else select (mask / 2) rest := by
  rw [select, selectFrom_cons, selectFrom_succ, Nat.testBit_zero]
  simp only [decide_eq_true_eq, select]

theorem select_sublist (mask : ℕ) (list : List α) : (select mask list).Sublist list := by
  induction list generalizing mask with
  | nil => exact .slnil
  | cons head rest ih =>
      rw [select_cons]
      split
      · exact (ih _).cons_cons head
      · exact (ih _).cons head

/-- What was selected tells the selection. -/
theorem select_eq_filter {list : List α} (hnodup : list.Nodup) {mask : ℕ} {chosen : α → Bool}
    (h : ∀ element ∈ list, element ∈ select mask list ↔ chosen element = true) :
    select mask list = list.filter chosen := by
  induction list generalizing mask with
  | nil => rfl
  | cons head rest ih =>
      obtain ⟨hhead, hrest⟩ := List.nodup_cons.mp hnodup
      have hself := h head List.mem_cons_self
      rw [List.filter_cons]
      rw [select_cons] at h hself ⊢
      by_cases hodd : mask % 2 = 1
      · rw [if_pos hodd] at h hself ⊢
        rw [if_pos (hself.mp List.mem_cons_self), ih hrest ?_]
        intro element hmem
        rw [← h element (List.mem_cons_of_mem _ hmem), List.mem_cons]
        refine (or_iff_right ?_).symm
        rintro rfl
        exact hhead hmem
      · rw [if_neg hodd] at h hself ⊢
        have hunchosen : ¬ chosen head = true := fun hchosen =>
          hhead ((select_sublist _ _).subset (hself.mpr hchosen))
        rw [if_neg hunchosen]
        exact ih hrest fun element hmem => h element (List.mem_cons_of_mem _ hmem)

/-- **Every choice of members is that of one number.** -/
theorem existsUnique_select {list : List α} (hnodup : list.Nodup) (chosen : α → Bool) :
    ∃! mask, mask < 2 ^ list.length ∧ select mask list = list.filter chosen := by
  induction list with
  | nil =>
      refine ⟨0, ⟨Nat.one_pos, rfl⟩, ?_⟩
      rintro mask ⟨hmask, -⟩
      exact Nat.lt_one_iff.mp hmask
  | cons head rest ih =>
      obtain ⟨hhead, hrest⟩ := List.nodup_cons.mp hnodup
      obtain ⟨half, ⟨hhalf, hselect⟩, hunique⟩ := ih hrest
      rw [List.length_cons, pow_succ, List.filter_cons]
      by_cases hchosen : chosen head = true
      · rw [if_pos hchosen]
        refine ⟨2 * half + 1, ⟨by omega, ?_⟩, ?_⟩
        · have hodd : (2 * half + 1) % 2 = 1 := by omega
          have hhalves : (2 * half + 1) / 2 = half := by omega
          rw [select_cons, if_pos hodd, hhalves, hselect]
        · rintro mask ⟨hmask, heq⟩
          rw [select_cons] at heq
          split at heq
          · next hodd =>
              have hhalves := hunique (mask / 2) ⟨by omega, List.tail_eq_of_cons_eq heq⟩
              omega
          · -- the head is not among the members of the rest
            have hmem : head ∈ select (mask / 2) rest := heq ▸ List.mem_cons_self
            exact absurd ((select_sublist _ _).subset hmem) hhead
      · rw [if_neg hchosen]
        refine ⟨2 * half, ⟨by omega, ?_⟩, ?_⟩
        · have heven : ¬ 2 * half % 2 = 1 := by omega
          have hhalves : 2 * half / 2 = half := by omega
          rw [select_cons, if_neg heven, hhalves, hselect]
        · rintro mask ⟨hmask, heq⟩
          rw [select_cons] at heq
          split at heq
          · have hmem : head ∈ rest.filter chosen := heq ▸ List.mem_cons_self
            exact absurd (List.mem_filter.mp hmem).2 hchosen
          · next heven =>
              have hhalves := hunique (mask / 2) ⟨by omega, heq⟩
              omega

end SubsetMask

end AspRust.Foundation
