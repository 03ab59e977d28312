import AspRust.Foundation.AdmissionWorklist
import AspRust.Foundation.Worklist

/-!
# Depth-first search that marks when it pops

The other loop that closes a set under successors: an element is marked when it is taken
from the stack, not when it is pushed, so it may stand on the stack several times.  Only
its first turn pushes successors.  A step therefore uses up an entry of the stack, and
what it pushes it takes from the successors of elements that had no turn yet; the
stack and these successors bound the number of steps (`mem_visit_iff`).

### Use

`domain` is any list that holds what can be visited, with repetitions or without; it serves as the
bound only.  The order of the visits is that of the stack and is not described.
-/

namespace AspRust.Foundation

namespace DepthFirst

variable {K : Type} [LinearOrder K]

/-- Push the elements that are not marked. -/
def pushNew (seen : OrderedSet K) (elements stack : List K) : List K :=
  elements.foldl (fun stack element => if element ∈ seen.keys then stack else element :: stack)
    stack

theorem mem_pushNew {seen : OrderedSet K} {elements stack : List K} {k : K} :
    k ∈ pushNew seen elements stack ↔ k ∈ stack ∨ k ∈ elements ∧ k ∉ seen.keys := by
  induction elements generalizing stack with
  | nil => simp [pushNew]
  | cons head rest ih =>
      have hcons : pushNew seen (head :: rest) stack =
          pushNew seen rest (if head ∈ seen.keys then stack else head :: stack) := rfl
      rw [hcons, ih]
      by_cases hhead : head ∈ seen.keys
      · rw [if_pos hhead, List.mem_cons]
        constructor
        · rintro (hstack | ⟨hrest, hfresh⟩)
          · exact Or.inl hstack
          · exact Or.inr ⟨Or.inr hrest, hfresh⟩
        · rintro (hstack | ⟨rfl | hrest, hfresh⟩)
          · exact Or.inl hstack
          · exact absurd hhead hfresh
          · exact Or.inr ⟨hrest, hfresh⟩
      · rw [if_neg hhead, List.mem_cons, List.mem_cons]
        constructor
        · rintro ((rfl | hstack) | ⟨hrest, hfresh⟩)
          · exact Or.inr ⟨Or.inl rfl, hhead⟩
          · exact Or.inl hstack
          · exact Or.inr ⟨Or.inr hrest, hfresh⟩
        · rintro (hstack | ⟨rfl | hrest, hfresh⟩)
          · exact Or.inl (Or.inr hstack)
          · exact Or.inl (Or.inl rfl)
          · exact Or.inr ⟨hrest, hfresh⟩

theorem length_pushNew_le (seen : OrderedSet K) (elements stack : List K) :
    (pushNew seen elements stack).length ≤ stack.length + elements.length := by
  induction elements generalizing stack with
  | nil => simp [pushNew]
  | cons head rest ih =>
      have hrest := ih (if head ∈ seen.keys then stack else head :: stack)
      have hpush : (if head ∈ seen.keys then stack else head :: stack).length ≤
          stack.length + 1 := by
        split <;> simp
      rw [List.length_cons]
      exact hrest.trans (by omega)

variable (next : K → List K)

/-- The loop; the top of the stack is its first element. -/
def visit : ℕ → List K → OrderedSet K → OrderedSet K
  | 0, _, seen => seen
  | _ + 1, [], seen => seen
  | fuel + 1, element :: stack, seen =>
      if element ∈ seen.keys then visit fuel stack seen
      else visit fuel (pushNew (seen.add element) (next element) stack) (seen.add element)

/-- What holds between two steps: marked and stacked elements are reached, and the seeds
and the successors of marked elements are marked or stacked. -/
structure Invariant (seeds : OrderedSet K) (stack : List K) (seen : OrderedSet K) : Prop where
  seen_reached : ∀ k ∈ seen.keys, Worklist.Reachable next seeds k
  stack_reached : ∀ k ∈ stack, Worklist.Reachable next seeds k
  seeds_covered : ∀ k ∈ seeds.keys, k ∈ seen.keys ∨ k ∈ stack
  seen_covered : ∀ k ∈ seen.keys, ∀ successor ∈ next k, successor ∈ seen.keys ∨ successor ∈ stack

variable {next} {seeds seen : OrderedSet K} {stack : List K} {element : K}

theorem invariant_start (seeds : OrderedSet K) :
    Invariant next seeds seeds.keys.reverse ∅ where
  seen_reached k hk := by simp at hk
  stack_reached k hk := ⟨k, List.mem_reverse.mp hk, .refl⟩
  seeds_covered k hk := Or.inr (List.mem_reverse.mpr hk)
  seen_covered k hk := by simp at hk

/-- A marked element that is popped again changes nothing. -/
theorem Invariant.skip (h : Invariant next seeds (element :: stack) seen)
    (hseen : element ∈ seen.keys) : Invariant next seeds stack seen := by
  have hcovered : ∀ {k}, k ∈ seen.keys ∨ k ∈ element :: stack → k ∈ seen.keys ∨ k ∈ stack := by
    rintro k (hk | hk)
    · exact Or.inl hk
    · rcases List.mem_cons.mp hk with rfl | hk
      · exact Or.inl hseen
      · exact Or.inr hk
  exact
    { seen_reached := h.seen_reached
      stack_reached := fun k hk => h.stack_reached k (List.mem_cons_of_mem _ hk)
      seeds_covered := fun k hk => hcovered (h.seeds_covered k hk)
      seen_covered := fun k hk successor hnext => hcovered (h.seen_covered k hk successor hnext) }

/-- A new element is marked, and its successors are pushed. -/
theorem Invariant.expand (h : Invariant next seeds (element :: stack) seen) :
    Invariant next seeds (pushNew (seen.add element) (next element) stack)
      (seen.add element) := by
  have helement := h.stack_reached element List.mem_cons_self
  have hcovered : ∀ {k}, k ∈ seen.keys ∨ k ∈ element :: stack →
      k ∈ (seen.add element).keys ∨ k ∈ pushNew (seen.add element) (next element) stack := by
    intro k hk
    rw [OrderedSet.mem_keys_add, mem_pushNew]
    rcases hk with hk | hk
    · exact Or.inl (Or.inr hk)
    · rcases List.mem_cons.mp hk with rfl | hk
      · exact Or.inl (Or.inl rfl)
      · exact Or.inr (Or.inl hk)
  refine
    { seen_reached := ?_
      stack_reached := ?_
      seeds_covered := fun k hk => hcovered (h.seeds_covered k hk)
      seen_covered := ?_ }
  · intro k hk
    rcases OrderedSet.mem_keys_add.mp hk with rfl | hk
    · exact helement
    · exact h.seen_reached k hk
  · intro k hk
    rcases mem_pushNew.mp hk with hk | ⟨hnext, -⟩
    · exact h.stack_reached k (List.mem_cons_of_mem _ hk)
    · obtain ⟨seed, hseed, hpath⟩ := helement
      exact ⟨seed, hseed, hpath.tail hnext⟩
  · intro k hk successor hnext
    rcases OrderedSet.mem_keys_add.mp hk with rfl | hk
    · by_cases hmarked : successor ∈ (seen.add k).keys
      · exact Or.inl hmarked
      · exact Or.inr (mem_pushNew.mpr (Or.inr ⟨hnext, hmarked⟩))
    · exact hcovered (h.seen_covered k hk successor hnext)

/-- With an empty stack, everything reachable is marked. -/
theorem Invariant.complete (h : Invariant next seeds [] seen) {k : K} :
    k ∈ seen.keys ↔ Worklist.Reachable next seeds k := by
  have hmarked : ∀ {k}, k ∈ seen.keys ∨ k ∈ [] → k ∈ seen.keys := by
    rintro k (hk | hk)
    · exact hk
    · cases hk
  constructor
  · exact h.seen_reached k
  · rintro ⟨seed, hseed, hpath⟩
    induction hpath with
    | refl => exact hmarked (h.seeds_covered seed hseed)
    | tail _ hnext ih => exact hmarked (h.seen_covered _ ih _ hnext)

/-- **A run with enough fuel marks everything reachable.**  The stack and the domain hold
all that can be visited. -/
theorem mem_visit_iff {domain : List K}
    (hdomain : ∀ k ∈ domain, ∀ successor ∈ next k, successor ∈ domain) {fuel : ℕ}
    (hstack : ∀ k ∈ stack, k ∈ domain) (h : Invariant next seeds stack seen)
    (hfuel : stack.length + AdmissionWorklist.openOffers next domain seen ≤ fuel) {k : K} :
    k ∈ (visit next fuel stack seen).keys ↔ Worklist.Reachable next seeds k := by
  induction fuel generalizing stack seen with
  | zero =>
      obtain rfl : stack = [] := List.eq_nil_of_length_eq_zero (by omega)
      exact h.complete
  | succ fuel ih =>
      cases stack with
      | nil => exact h.complete
      | cons element rest =>
          rw [List.length_cons] at hfuel
          have hrest : ∀ k ∈ rest, k ∈ domain := fun k hk => hstack k (List.mem_cons_of_mem _ hk)
          have helement := hstack element List.mem_cons_self
          rw [visit]
          split
          · next hseen => exact ih hrest (h.skip hseen) (by omega)
          · next hfresh =>
              refine ih ?_ h.expand ?_
              · intro k hk
                rcases mem_pushNew.mp hk with hk | ⟨hnext, -⟩
                · exact hrest k hk
                · exact hdomain element helement k hnext
              · have hpush := length_pushNew_le (seen.add element) (next element) rest
                have hopen : AdmissionWorklist.openOffers next domain (seen.add element) +
                    (next element).length ≤ AdmissionWorklist.openOffers next domain seen :=
                  AdmissionWorklist.openOffers_add hfresh helement
                omega

end DepthFirst

end AspRust.Foundation
