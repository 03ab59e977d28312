import AspRust.Foundation.OrderedMap
import Mathlib.Data.Finset.Card
import Mathlib.Logic.Relation
import Mathlib.Order.Bounds.Basic

/-!
# Closing a set under a successor function

`closeFrom` is the usual loop: a stack of elements to look at, the elements already
looked at, and the set found so far.  An element not looked at yet adds its
successors to the set, and those that are new are pushed.

The loop has no bound of its own, so the recursion is given fuel.  Every push adds an
element to the set, and a run makes one step for each push: where all successors lie
in a finite set, as many steps as there are seeds and elements of that set
are enough, and the set found is everything reachable from the seeds
(`mem_close_iff`).  The loop itself, one `turn` after another and without fuel, then ends
with that set (`close_endsIn`), which is the least one that holds the seeds and is closed
under successors (`isLeast_setOf_reachable`).

### What is load-bearing

An element is looked at once, and what it adds is pushed if it is new to the set.  `Invariant`
says that the stack holds what was added and not looked at, and that what was looked at has its
successors in the set.  Where the stack is empty the set is closed, and that it holds nothing
else is kept by each turn.
-/

namespace AspRust.Foundation

namespace Worklist

variable {K : Type*} [LinearOrder K]

/-- Add elements to a set and push those that are new. -/
def insertNew (elements : List K) (state : OrderedSet K × List K) : OrderedSet K × List K :=
  elements.foldl (fun state element =>
    (state.1.add element, if element ∈ state.1.keys then state.2 else element :: state.2)) state

section InsertNew

variable {elements : List K} {state : OrderedSet K × List K} {k : K}

theorem insertNew_cons (head : K) (rest : List K) (state : OrderedSet K × List K) :
    insertNew (head :: rest) state =
      insertNew rest (state.1.add head,
        if head ∈ state.1.keys then state.2 else head :: state.2) := rfl

theorem mem_insertNew_fst :
    k ∈ (insertNew elements state).1.keys ↔ k ∈ state.1.keys ∨ k ∈ elements := by
  induction elements generalizing state with
  | nil => simp [insertNew]
  | cons head rest ih =>
      rw [insertNew_cons, ih, OrderedSet.mem_keys_add, List.mem_cons]
      tauto

/-- What is pushed is new in the set. -/
theorem mem_insertNew_snd :
    k ∈ (insertNew elements state).2 ↔ k ∈ state.2 ∨ k ∈ elements ∧ k ∉ state.1.keys := by
  induction elements generalizing state with
  | nil => simp [insertNew]
  | cons head rest ih =>
      rw [insertNew_cons, ih, OrderedSet.mem_keys_add, List.mem_cons]
      by_cases hhead : head ∈ state.1.keys
      · rw [if_pos hhead]
        grind
      · rw [if_neg hhead, List.mem_cons]
        grind

/-- The set grows by one for each push. -/
theorem length_insertNew :
    (insertNew elements state).2.length + state.1.keys.length =
      state.2.length + (insertNew elements state).1.keys.length := by
  induction elements generalizing state with
  | nil => simp [insertNew]
  | cons head rest ih =>
      have hrest := @ih (state.1.add head,
        if head ∈ state.1.keys then state.2 else head :: state.2)
      rw [insertNew_cons]
      by_cases hhead : head ∈ state.1.keys
      · simp only [hhead, if_true] at hrest ⊢
        rw [OrderedSet.add_of_mem hhead] at hrest ⊢
        exact hrest
      · simp only [hhead, if_false, List.length_cons] at hrest ⊢
        rw [OrderedSet.length_keys_add_of_notMem hhead] at hrest
        omega

end InsertNew

variable (next : K → List K)

/-- The loop; `pending` is a stack, its top first. -/
def closeFrom : ℕ → List K → OrderedSet K → OrderedSet K → OrderedSet K
  | 0, _, _, found => found
  | _, [], _, found => found
  | fuel + 1, element :: pending, visited, found =>
      if element ∈ visited.keys then closeFrom fuel pending visited found
      else
        let grown := insertNew (next element) (found, pending)
        closeFrom fuel grown.2 (visited.add element) grown.1

/-- An element reached from a seed. -/
def Reachable (seeds : OrderedSet K) (k : K) : Prop :=
  ∃ seed ∈ seeds.keys, Relation.ReflTransGen (fun a b => b ∈ next a) seed k

/-- What holds between two steps of the loop. -/
structure Invariant (seeds : OrderedSet K) (pending : List K) (visited found : OrderedSet K) :
    Prop where
  /-- Seeds are found. -/
  seeds_found : ∀ k ∈ seeds.keys, k ∈ found.keys
  /-- What is found is reached. -/
  found_reached : ∀ k ∈ found.keys, Reachable next seeds k
  /-- The stack holds found elements. -/
  pending_found : ∀ k ∈ pending, k ∈ found.keys
  /-- What is found was looked at or will be. -/
  found_covered : ∀ k ∈ found.keys, k ∈ visited.keys ∨ k ∈ pending
  /-- The successors of what was looked at are found. -/
  visited_closed : ∀ k ∈ visited.keys, ∀ successor ∈ next k, successor ∈ found.keys

variable {next} {seeds visited found : OrderedSet K} {pending : List K} {element : K}

/-- Seeds without successors are all that is reached. -/
theorem reachable_iff_of_final (h : ∀ seed ∈ seeds.keys, next seed = [])
    {k : K} : Reachable next seeds k ↔ k ∈ seeds.keys := by
  constructor
  · rintro ⟨seed, hseed, hpath⟩
    rcases Relation.ReflTransGen.cases_head hpath with rfl | ⟨successor, hnext, -⟩
    · exact hseed
    · rw [h seed hseed] at hnext
      cases hnext
  · intro hk
    exact ⟨k, hk, .refl⟩

/-- An element looked at before is dropped. -/
theorem Invariant.skip (h : Invariant next seeds (element :: pending) visited found)
    (hvisited : element ∈ visited.keys) : Invariant next seeds pending visited found where
  seeds_found := h.seeds_found
  found_reached := h.found_reached
  pending_found k hk := h.pending_found k (List.mem_cons_of_mem _ hk)
  found_covered k hk := by
    rcases h.found_covered k hk with hk | hk
    · exact Or.inl hk
    · rcases List.mem_cons.mp hk with rfl | hk
      · exact Or.inl hvisited
      · exact Or.inr hk
  visited_closed := h.visited_closed

/-- Looking at an element adds its successors. -/
theorem Invariant.expand (h : Invariant next seeds (element :: pending) visited found) :
    Invariant next seeds (insertNew (next element) (found, pending)).2 (visited.add element)
      (insertNew (next element) (found, pending)).1 where
  seeds_found k hk := mem_insertNew_fst.mpr (Or.inl (h.seeds_found k hk))
  found_reached k hk := by
    rcases mem_insertNew_fst.mp hk with hk | hk
    · exact h.found_reached k hk
    · obtain ⟨seed, hseed, hpath⟩ := h.found_reached element (h.pending_found element List.mem_cons_self)
      exact ⟨seed, hseed, hpath.tail hk⟩
  pending_found k hk := by
    rcases mem_insertNew_snd.mp hk with hk | ⟨hk, -⟩
    · exact mem_insertNew_fst.mpr (Or.inl (h.pending_found k (List.mem_cons_of_mem _ hk)))
    · exact mem_insertNew_fst.mpr (Or.inr hk)
  found_covered k hk := by
    rw [OrderedSet.mem_keys_add, mem_insertNew_snd]
    -- an element found just now is pushed, one found before was visited or pending
    by_cases hfound : k ∈ found.keys
    · rcases h.found_covered k hfound with hk | hk
      · exact Or.inl (Or.inr hk)
      · rcases List.mem_cons.mp hk with rfl | hk
        · exact Or.inl (Or.inl rfl)
        · exact Or.inr (Or.inl hk)
    · rcases mem_insertNew_fst.mp hk with hk | hk
      · exact absurd hk hfound
      · exact Or.inr (Or.inr ⟨hk, hfound⟩)
  visited_closed k hk successor hsuccessor := by
    rw [mem_insertNew_fst]
    rcases OrderedSet.mem_keys_add.mp hk with rfl | hk
    · exact Or.inr hsuccessor
    · exact Or.inl (h.visited_closed k hk successor hsuccessor)

/-- With nothing left to look at, everything reachable is found. -/
theorem Invariant.complete (h : Invariant next seeds [] visited found) {k : K} :
    k ∈ found.keys ↔ Reachable next seeds k := by
  constructor
  · exact h.found_reached k
  · rintro ⟨seed, hseed, hpath⟩
    induction hpath with
    | refl => exact h.seeds_found seed hseed
    | tail _ hnext ih =>
        rcases h.found_covered _ ih with hvisited | hpending
        · exact h.visited_closed _ hvisited _ hnext
        · cases hpending

/-- Found elements are seeds or lie in the set of all successors. -/
theorem Invariant.length_le (h : Invariant next seeds pending visited found)
    {domain : Finset K} (hdomain : ∀ k, ∀ successor ∈ next k, successor ∈ domain) :
    found.keys.length ≤ seeds.keys.length + domain.card := by
  have hsubset : found.keys.toFinset ⊆ seeds.keys.toFinset ∪ domain := by
    intro k hk
    obtain ⟨seed, hseed, hpath⟩ := h.found_reached k (List.mem_toFinset.mp hk)
    rw [Finset.mem_union, List.mem_toFinset]
    rcases Relation.ReflTransGen.cases_tail hpath with rfl | ⟨before, -, hnext⟩
    · exact Or.inl hseed
    · exact Or.inr (hdomain before k hnext)
  calc found.keys.length
      = found.keys.toFinset.card := (List.toFinset_card_of_nodup found.nodup_keys).symm
    _ ≤ (seeds.keys.toFinset ∪ domain).card := Finset.card_le_card hsubset
    _ ≤ seeds.keys.toFinset.card + domain.card := Finset.card_union_le _ _
    _ ≤ seeds.keys.length + domain.card :=
        Nat.add_le_add_right (List.toFinset_card_le _) _

/-- **The rule of the loop.**  With enough fuel for the stack and for all that may still be
pushed, what holds of an empty stack and goes back over both kinds of turns holds of the
result. -/
theorem closeFrom_induction {motive : List K → OrderedSet K → OrderedSet K → OrderedSet K → Prop}
    {domain : Finset K} (hdomain : ∀ k, ∀ successor ∈ next k, successor ∈ domain)
    (finish : ∀ visited found, Invariant next seeds [] visited found → motive [] visited found found)
    (skip : ∀ element rest visited found result, element ∈ visited.keys →
      motive rest visited found result → motive (element :: rest) visited found result)
    (expand : ∀ element rest visited found result, element ∉ visited.keys →
      motive (insertNew (next element) (found, rest)).2 (visited.add element)
        (insertNew (next element) (found, rest)).1 result →
      motive (element :: rest) visited found result)
    {fuel : ℕ} (h : Invariant next seeds pending visited found)
    (hfuel : pending.length + (seeds.keys.length + domain.card) ≤ fuel + found.keys.length) :
    motive pending visited found (closeFrom next fuel pending visited found) := by
  induction fuel generalizing pending visited found with
  | zero =>
      -- what is found is bounded, so no fuel left means nothing pending
      have hbound := h.length_le hdomain
      obtain rfl : pending = [] := List.eq_nil_of_length_eq_zero (by omega)
      exact finish visited found h
  | succ fuel ih =>
      cases pending with
      | nil => exact finish visited found h
      | cons element rest =>
          rw [List.length_cons] at hfuel
          rw [closeFrom]
          split
          · next hvisited =>
              exact skip element rest visited found _ hvisited (ih (h.skip hvisited) (by omega))
          · next hvisited =>
              -- the stack grows by as much as is newly found
              have hgrown : (insertNew (next element) (found, rest)).2.length +
                  found.keys.length =
                    rest.length + (insertNew (next element) (found, rest)).1.keys.length :=
                length_insertNew
              exact expand element rest visited found _ hvisited (ih h.expand (by omega))

theorem mem_closeFrom_iff {domain : Finset K}
    (hdomain : ∀ k, ∀ successor ∈ next k, successor ∈ domain) {fuel : ℕ}
    (h : Invariant next seeds pending visited found)
    (hfuel : pending.length + (seeds.keys.length + domain.card) ≤ fuel + found.keys.length)
    {k : K} : k ∈ (closeFrom next fuel pending visited found).keys ↔ Reachable next seeds k := by
  refine closeFrom_induction (motive := fun _ _ _ result => k ∈ result.keys ↔ _) hdomain
    ?_ ?_ ?_ h hfuel
  · intro visited found hover
    exact hover.complete
  · intro element rest visited found result _ hresult
    exact hresult
  · intro element rest visited found result _ hresult
    exact hresult

/-- Before the first turn the seeds are found and still to be looked at. -/
theorem Invariant.initial : Invariant next seeds seeds.keys.reverse ∅ seeds where
  seeds_found _ hk := hk
  found_reached k hk := ⟨k, hk, .refl⟩
  pending_found _ hk := List.mem_reverse.mp hk
  found_covered _ hk := Or.inr (List.mem_reverse.mpr hk)
  visited_closed k hk := by simp at hk

/-- **The loop finds everything reachable from its seeds.** -/
theorem mem_close_iff {domain : Finset K}
    (hdomain : ∀ k, ∀ successor ∈ next k, successor ∈ domain) {fuel : ℕ}
    (hfuel : seeds.keys.length + domain.card ≤ fuel) {k : K} :
    k ∈ (closeFrom next fuel seeds.keys.reverse ∅ seeds).keys ↔ Reachable next seeds k := by
  refine mem_closeFrom_iff hdomain Invariant.initial ?_
  rw [List.length_reverse]
  omega

/-- What is reachable is the least set that holds the seeds and the successors of its
elements. -/
theorem isLeast_setOf_reachable (next : K → List K) (seeds : OrderedSet K) :
    IsLeast {closed : Set K | (∀ seed ∈ seeds.keys, seed ∈ closed) ∧
      ∀ k ∈ closed, ∀ successor ∈ next k, successor ∈ closed} {k | Reachable next seeds k} := by
  refine ⟨⟨fun seed hseed => ⟨seed, hseed, .refl⟩, ?_⟩, ?_⟩
  · rintro k ⟨seed, hseed, hpath⟩ successor hsuccessor
    exact ⟨seed, hseed, hpath.tail hsuccessor⟩
  · rintro closed ⟨hseeds, hclosed⟩ k ⟨seed, hseed, hpath⟩
    induction hpath with
    | refl => exact hseeds seed hseed
    | tail _ hnext ih => exact hclosed _ ih _ hnext

/-! ## The loop without fuel -/

/-- A loop ends in a state.  `turn` makes one turn of it, and fails when it is over. -/
inductive EndsIn {σ : Type*} (turn : σ → Option σ) : σ → σ → Prop
  | over {state : σ} : turn state = none → EndsIn turn state state
  | again {state after final : σ} :
      turn state = some after → EndsIn turn after final → EndsIn turn state final

/-- What the loop holds between two turns. -/
structure State (K : Type*) [LinearOrder K] where
  pending : List K
  visited : OrderedSet K
  found : OrderedSet K

/-- One turn of the loop; it is over when nothing is pending. -/
def turn (next : K → List K) (state : State K) : Option (State K) :=
  match state.pending with
  | [] => none
  | element :: pending =>
      some (if element ∈ state.visited.keys then { state with pending := pending }
        else
          let grown := insertNew (next element) (state.found, pending)
          ⟨grown.2, state.visited.add element, grown.1⟩)

/-- The loop ends, and with enough fuel its bounded form finds the same. -/
theorem closeFrom_endsIn {domain : Finset K}
    (hdomain : ∀ k, ∀ successor ∈ next k, successor ∈ domain) {fuel : ℕ}
    (h : Invariant next seeds pending visited found)
    (hfuel : pending.length + (seeds.keys.length + domain.card) ≤ fuel + found.keys.length) :
    ∃ final, EndsIn (turn next) ⟨pending, visited, found⟩ final ∧
      final.found = closeFrom next fuel pending visited found := by
  refine closeFrom_induction (motive := fun pending visited found result =>
    ∃ final, EndsIn (turn next) ⟨pending, visited, found⟩ final ∧ final.found = result) hdomain
    ?_ ?_ ?_ h hfuel
  · intro visited found _
    exact ⟨_, .over rfl, rfl⟩
  · rintro element rest visited found result hvisited ⟨final, hends, hfound⟩
    exact ⟨final, .again (by simp [turn, hvisited]) hends, hfound⟩
  · rintro element rest visited found result hvisited ⟨final, hends, hfound⟩
    exact ⟨final, .again (by simp [turn, hvisited]) hends, hfound⟩

/-- From its seeds the loop ends. -/
theorem close_endsIn {domain : Finset K}
    (hdomain : ∀ k, ∀ successor ∈ next k, successor ∈ domain) {fuel : ℕ}
    (hfuel : seeds.keys.length + domain.card ≤ fuel) :
    ∃ final, EndsIn (turn next) ⟨seeds.keys.reverse, ∅, seeds⟩ final ∧
      final.found = closeFrom next fuel seeds.keys.reverse ∅ seeds := by
  refine closeFrom_endsIn hdomain Invariant.initial ?_
  rw [List.length_reverse]
  omega

end Worklist

end AspRust.Foundation
