import Mathlib.Logic.Relation
import Mathlib.Data.List.Nodup
import Mathlib.Data.List.Infix

/-!
# Dependency-first orders

`r a b` reads "`a` depends on `b`".  `DependencyFirst r order` says that a list
meets every element after everything it depends on, and `Acyclic r` that no
element depends on itself through one or more steps (a self loop is a cycle).

The two meet in one direction here: an element of a dependency-first list lies
on no cycle (`DependencyFirst.not_transGen_self`), because a step of `r` moves
strictly towards the front.  The other direction, that an acyclic relation has
such a list, is what a depth-first search computes, and is proved where the
search is.
-/

namespace AspRust.Foundation

open Relation

variable {α : Type*} {r : α → α → Prop}

/-- No element depends on itself through one or more steps. -/
def Acyclic (r : α → α → Prop) : Prop := ∀ a, ¬ TransGen r a a

/-- Every element of the list comes once, and after everything it depends on. -/
structure DependencyFirst (r : α → α → Prop) (order : List α) : Prop where
  /-- No element comes twice. -/
  nodup : order.Nodup
  /-- What stands before an element holds all it depends on. -/
  closed : ∀ before a after, order = before ++ a :: after → ∀ b, r a b → b ∈ before

namespace DependencyFirst

theorem nil : DependencyFirst r [] :=
  ⟨List.nodup_nil, by intro before a after h; simp at h⟩

/-- An element whose dependencies are all listed can be put at the end. -/
theorem concat {order : List α} (h : DependencyFirst r order) {a : α}
    (hfresh : a ∉ order) (hdeps : ∀ b, r a b → b ∈ order) :
    DependencyFirst r (order ++ [a]) := by
  refine ⟨?_, ?_⟩
  · rw [List.nodup_append]
    refine ⟨h.nodup, List.nodup_singleton a, ?_⟩
    intro x hx y hy hxy
    rw [List.mem_singleton] at hy
    exact hfresh (hy ▸ hxy ▸ hx)
  · intro before x after heq b hb
    rcases List.eq_nil_or_concat after with rfl | ⟨init, last, rfl⟩
    · -- `x` is the new last element
      obtain ⟨hbefore, hx⟩ := List.append_inj' heq rfl
      have hxa : x = a := by simpa using hx.symm
      exact hbefore ▸ hdeps b (hxa ▸ hb)
    · -- `x` already stood in the old list
      have hsplit : order ++ [a] = (before ++ x :: init) ++ [last] := by
        simpa using heq
      obtain ⟨hold, -⟩ := List.append_inj' hsplit rfl
      exact h.closed before x init hold b hb

variable [DecidableEq α] {order : List α}

/-- One step of the relation moves strictly towards the front of the list. -/
theorem idxOf_lt (h : DependencyFirst r order) {a b : α} (ha : a ∈ order)
    (hab : r a b) : b ∈ order ∧ order.idxOf b < order.idxOf a := by
  obtain ⟨before, after, hsplit⟩ := List.append_of_mem ha
  have hb : b ∈ before := h.closed before a after hsplit b hab
  have hanot : a ∉ before := by
    intro hmem
    have hnodup := hsplit ▸ h.nodup
    exact (List.nodup_append.mp hnodup).2.2 a hmem a List.mem_cons_self rfl
  subst hsplit
  refine ⟨List.mem_append_left _ hb, ?_⟩
  rw [List.idxOf_append_of_mem hb, List.idxOf_append_of_notMem hanot]
  have hlt : before.idxOf b < before.length := List.idxOf_lt_length_of_mem hb
  omega

/-- So do several steps. -/
theorem idxOf_lt_of_transGen (h : DependencyFirst r order) {a b : α}
    (ha : a ∈ order) (hab : TransGen r a b) :
    b ∈ order ∧ order.idxOf b < order.idxOf a := by
  induction hab with
  | single hstep => exact h.idxOf_lt ha hstep
  | tail _ hstep ih =>
      obtain ⟨hmem, hlt⟩ := ih
      obtain ⟨hmem', hlt'⟩ := h.idxOf_lt hmem hstep
      exact ⟨hmem', lt_trans hlt' hlt⟩

/-- An element of a dependency-first list lies on no cycle. -/
theorem not_transGen_self (h : DependencyFirst r order) {a : α} (ha : a ∈ order) :
    ¬ TransGen r a a :=
  fun hcycle => lt_irrefl _ (h.idxOf_lt_of_transGen ha hcycle).2

/-- A dependency-first list of everything that depends on something witnesses
that the relation is acyclic. -/
theorem acyclic (h : DependencyFirst r order) (hall : ∀ a b, r a b → a ∈ order) :
    Acyclic r := by
  intro a hcycle
  obtain ⟨b, hab, -⟩ := TransGen.head'_iff.mp hcycle
  exact h.not_transGen_self (hall a b hab) hcycle

end DependencyFirst

end AspRust.Foundation
