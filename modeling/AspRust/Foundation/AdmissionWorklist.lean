import AspRust.Foundation.OrderedMap
import AspRust.Foundation.Outcome
import Mathlib.Algebra.BigOperators.Group.List.Basic
import Mathlib.Algebra.GroupWithZero.Nat

/-!
# Draining a sorted set of pending keys

The loop of this module takes the least pending key, lets an admission test turn it into
an element or drop it, and adds what a new element offers to the pending keys.  Keys and
elements are different types: several keys may be admitted as one element, and a key that
is not admitted leaves no trace.

`Admitted` is what the loop is for: the least set that holds the admitted seeds and is
closed under admitted offers.  Each element offers its keys once, so the pending keys and
the offers of the elements not yet admitted bound the number of steps, however the
offers lead back to one another (`exists_drain_eq_ok`).

### What is load-bearing

The admission test is a function of the key alone.  So a key that was dropped may be pushed and
dropped again without harm, and the order in which keys are popped decides nothing but the order
of the steps.  The offers of an element are counted when it is admitted and not before, which is
why the measure goes down although an element may offer more keys than were pending.
-/

namespace AspRust.Foundation

namespace OrderedSet

variable {K : Type*} [LinearOrder K]

/-- The least element of a set, and the others. -/
def popFirst? (s : OrderedSet K) : Option (K × OrderedSet K) :=
  match s with
  | ⟨[], _⟩ => none
  | ⟨(k, _) :: rest, h⟩ => some (k, ⟨rest, (List.pairwise_cons.mp h).2⟩)

theorem popFirst?_eq_none_iff {s : OrderedSet K} : s.popFirst? = none ↔ s.keys = [] := by
  obtain ⟨entries, h⟩ := s
  cases entries with
  | nil => simp [popFirst?, OrderedMap.keys]
  | cons head rest => simp [popFirst?, OrderedMap.keys]

/-- The elements of a set are the one taken and those left. -/
theorem keys_of_popFirst? {s rest : OrderedSet K} {k : K}
    (h : s.popFirst? = some (k, rest)) : s.keys = k :: rest.keys := by
  obtain ⟨entries, hincreasing⟩ := s
  cases entries with
  | nil => simp [popFirst?] at h
  | cons head tail =>
      simp only [popFirst?, Option.some.injEq, Prod.mk.injEq] at h
      obtain ⟨rfl, rfl⟩ := h
      rfl

/-- Adding a list to a set adds at most its length. -/
theorem length_foldl_add_le (elements : List K) (s : OrderedSet K) :
    (elements.foldl add s).keys.length ≤ s.keys.length + elements.length := by
  induction elements generalizing s with
  | nil => simp
  | cons head rest ih =>
      have hrest := ih (s.add head)
      have hadd : (s.add head).keys.length ≤ s.keys.length + 1 := by
        by_cases hmem : head ∈ s.keys
        · rw [add_of_mem hmem]
          omega
        · rw [length_keys_add_of_notMem hmem]
      rw [List.foldl_cons, List.length_cons]
      omega

end OrderedSet

namespace AdmissionWorklist

variable {K A : Type}

section Meaning

variable (accept : K → Option A) (next : A → List K)

/-- The least set that holds the admitted seeds and is closed under admitted offers. -/
inductive Admitted (seeds : List K) : A → Prop
  /-- A seed that is admitted. -/
  | seed {key : K} {element : A} :
      key ∈ seeds → accept key = some element → Admitted seeds element
  /-- An admitted offer of an admitted element. -/
  | offer {first second : A} {key : K} :
      Admitted seeds first → key ∈ next first → accept key = some second → Admitted seeds second

/-- A set that holds the admitted seeds and is closed under admitted offers. -/
structure ClosedUnder (seeds : List K) (S : A → Prop) : Prop where
  /-- What a seed is admitted as is in the set. -/
  seeds_mem : ∀ key ∈ seeds, ∀ element, accept key = some element → S element
  /-- What an offer of a member is admitted as is in the set. -/
  offers_mem : ∀ first, S first → ∀ key ∈ next first, ∀ second,
    accept key = some second → S second

/-- A key that the loop looks at: a seed, or an offer of an admitted element. -/
def Offered (seeds : List K) (key : K) : Prop :=
  key ∈ seeds ∨ ∃ element, Admitted accept next seeds element ∧ key ∈ next element

variable {accept next} {seeds : List K}

/-- What an offered key is admitted as is in the set. -/
theorem Offered.isAdmitted {key : K} (h : Offered accept next seeds key) {element : A}
    (haccept : accept key = some element) : Admitted accept next seeds element := by
  rcases h with hseed | ⟨first, hfirst, hoffer⟩
  · exact .seed hseed haccept
  · exact .offer hfirst hoffer haccept

/-- Every element of the set is admitted for some offered key. -/
theorem Admitted.exists_offered {element : A} (h : Admitted accept next seeds element) :
    ∃ key, Offered accept next seeds key ∧ accept key = some element := by
  cases h with
  | seed hseed haccept => exact ⟨_, Or.inl hseed, haccept⟩
  | offer hfirst hoffer haccept => exact ⟨_, Or.inr ⟨_, hfirst, hoffer⟩, haccept⟩

/-- The admitted elements are such a set. -/
theorem closedUnder_admitted : ClosedUnder accept next seeds (Admitted accept next seeds) where
  seeds_mem _ hseed _ haccept := .seed hseed haccept
  offers_mem _ hfirst _ hoffer _ haccept := .offer hfirst hoffer haccept

/-- They are the least such set. -/
theorem Admitted.mem_of_closedUnder {S : A → Prop} (hclosed : ClosedUnder accept next seeds S)
    {element : A} (h : Admitted accept next seeds element) : S element := by
  induction h with
  | seed hseed haccept => exact hclosed.seeds_mem _ hseed _ haccept
  | offer _ hoffer haccept ih => exact hclosed.offers_mem _ ih _ hoffer _ haccept

end Meaning

variable [LinearOrder K] [LinearOrder A]

/-- The loop: take the least pending key, and if it is admitted as a new element, add
what that element offers. -/
def drain (accept : K → Option A) (next : A → List K) :
    ℕ → OrderedSet K → OrderedSet A → Outcome (OrderedSet A)
  | 0, _, _ => .error .exhausted
  | fuel + 1, pending, admitted =>
      match pending.popFirst? with
      | none => .ok admitted
      | some (key, pending) =>
          match accept key with
          | none => drain accept next fuel pending admitted
          | some element =>
              if element ∈ admitted.keys then drain accept next fuel pending admitted
              else drain accept next fuel ((next element).foldl OrderedSet.add pending)
                (admitted.add element)

variable {accept : K → Option A} {next : A → List K} {seeds : List K} {pending : OrderedSet K}
  {admitted : OrderedSet A}

/-! ## The invariant of the loop -/

/-- A key that is pending, or has been looked at. -/
def Covered (accept : K → Option A) (pending : OrderedSet K) (admitted : OrderedSet A) (key : K) :
    Prop :=
  key ∈ pending.keys ∨ ∀ element, accept key = some element → element ∈ admitted.keys

variable (accept next) in
/-- What holds between two steps of the loop. -/
structure Invariant (seeds : List K) (pending : OrderedSet K) (admitted : OrderedSet A) :
    Prop where
  /-- What is admitted belongs to the set. -/
  admitted_sound : ∀ element ∈ admitted.keys, Admitted accept next seeds element
  /-- What is pending is a seed or an offer. -/
  pending_sound : ∀ key ∈ pending.keys, Offered accept next seeds key
  /-- No seed is lost. -/
  seeds_covered : ∀ key ∈ seeds, Covered accept pending admitted key
  /-- No offer is lost. -/
  offers_covered : ∀ element ∈ admitted.keys, ∀ key ∈ next element,
    Covered accept pending admitted key

/-- A key stays covered when the loop takes another one, or takes it and puts what it is
admitted as into the set. -/
theorem Covered.step {key taken : K} {rest more : OrderedSet K} {larger : OrderedSet A}
    (h : Covered accept pending admitted key)
    (hpop : pending.popFirst? = some (taken, rest))
    (hrest : ∀ other ∈ rest.keys, other ∈ more.keys)
    (hlarger : ∀ element ∈ admitted.keys, element ∈ larger.keys)
    (htaken : ∀ element, accept taken = some element → element ∈ larger.keys) :
    Covered accept more larger key := by
  rcases h with hpending | hdone
  · rw [OrderedSet.keys_of_popFirst? hpop] at hpending
    rcases List.mem_cons.mp hpending with rfl | hpending
    · exact Or.inr htaken
    · exact Or.inl (hrest key hpending)
  · exact Or.inr fun element haccept => hlarger element (hdone element haccept)

/-- A key that adds nothing is dropped. -/
theorem Invariant.skip (h : Invariant accept next seeds pending admitted) {key : K}
    {rest : OrderedSet K} (hpop : pending.popFirst? = some (key, rest))
    (hknown : ∀ element, accept key = some element → element ∈ admitted.keys) :
    Invariant accept next seeds rest admitted where
  admitted_sound := h.admitted_sound
  pending_sound other hother := h.pending_sound other (by
    rw [OrderedSet.keys_of_popFirst? hpop]
    exact List.mem_cons_of_mem _ hother)
  seeds_covered other hother := (h.seeds_covered other hother).step hpop
    (fun _ hmem => hmem) (fun _ hmem => hmem) hknown
  offers_covered element helement other hother :=
    (h.offers_covered element helement other hother).step hpop
      (fun _ hmem => hmem) (fun _ hmem => hmem) hknown

/-- A new element adds its offers. -/
theorem Invariant.expand (h : Invariant accept next seeds pending admitted) {key : K}
    {rest : OrderedSet K} {element : A} (hpop : pending.popFirst? = some (key, rest))
    (haccept : accept key = some element) :
    Invariant accept next seeds ((next element).foldl OrderedSet.add rest)
      (admitted.add element) := by
  have hmember : Admitted accept next seeds element := by
    refine (h.pending_sound key ?_).isAdmitted haccept
    rw [OrderedSet.keys_of_popFirst? hpop]
    exact List.mem_cons_self
  have hrest : ∀ other ∈ rest.keys, other ∈ ((next element).foldl OrderedSet.add rest).keys :=
    fun other hother => OrderedSet.mem_foldl_add.mpr (Or.inl hother)
  have hlarger : ∀ other ∈ admitted.keys, other ∈ (admitted.add element).keys :=
    fun other hother => OrderedSet.mem_keys_add.mpr (Or.inr hother)
  have htaken : ∀ other, accept key = some other → other ∈ (admitted.add element).keys := by
    intro other hother
    obtain rfl := Option.some.inj (haccept.symm.trans hother)
    exact OrderedSet.mem_keys_add.mpr (Or.inl rfl)
  refine ⟨?_, ?_, ?_, ?_⟩
  · intro other hother
    rcases OrderedSet.mem_keys_add.mp hother with rfl | hother
    · exact hmember
    · exact h.admitted_sound other hother
  · intro other hother
    rcases OrderedSet.mem_foldl_add.mp hother with hother | hother
    · refine h.pending_sound other ?_
      rw [OrderedSet.keys_of_popFirst? hpop]
      exact List.mem_cons_of_mem _ hother
    · exact Or.inr ⟨element, hmember, hother⟩
  · intro other hother
    exact (h.seeds_covered other hother).step hpop hrest hlarger htaken
  · intro other hother offer hoffer
    rcases OrderedSet.mem_keys_add.mp hother with rfl | hother
    · exact Or.inl (OrderedSet.mem_foldl_add.mpr (Or.inr hoffer))
    · exact (h.offers_covered other hother offer hoffer).step hpop hrest hlarger htaken

/-- With nothing pending, the admitted elements are the set. -/
theorem Invariant.complete (h : Invariant accept next seeds pending admitted)
    (hempty : pending.keys = []) {element : A} :
    element ∈ admitted.keys ↔ Admitted accept next seeds element := by
  have hdone : ∀ {key : K}, Covered accept pending admitted key →
      ∀ element, accept key = some element → element ∈ admitted.keys := by
    intro key hcovered
    rcases hcovered with hpending | hdone
    · rw [hempty] at hpending
      cases hpending
    · exact hdone
  constructor
  · exact h.admitted_sound element
  · intro hadmitted
    have hclosed : ClosedUnder accept next seeds (· ∈ admitted.keys) :=
      ⟨fun key hkey => hdone (h.seeds_covered key hkey),
        fun first hfirst key hkey => hdone (h.offers_covered first hfirst key hkey)⟩
    exact hadmitted.mem_of_closedUnder hclosed

/-! ## Enough fuel -/

/-- The number of keys that elements not yet admitted can still offer. -/
def openOffers (next : A → List K) (domain : List A) (admitted : OrderedSet A) : ℕ :=
  ((domain.filter (· ∉ admitted.keys)).map fun element => (next element).length).sum

omit [LinearOrder K] in
theorem openOffers_cons (next : A → List K) (head : A) (rest : List A) (admitted : OrderedSet A) :
    openOffers next (head :: rest) admitted =
      (if head ∈ admitted.keys then 0 else (next head).length) +
        openOffers next rest admitted := by
  by_cases hhead : head ∈ admitted.keys <;> simp [openOffers, hhead]

omit [LinearOrder K] in
theorem openOffers_add_le (next : A → List K) (admitted : OrderedSet A) (element : A)
    (domain : List A) :
    openOffers next domain (admitted.add element) ≤ openOffers next domain admitted := by
  induction domain with
  | nil => exact le_rfl
  | cons head rest ih =>
      rw [openOffers_cons, openOffers_cons]
      by_cases hhead : head ∈ admitted.keys
      · rw [if_pos hhead, if_pos (OrderedSet.mem_keys_add.mpr (Or.inr hhead))]
        omega
      · rw [if_neg hhead]
        split <;> omega

omit [LinearOrder K] in
/-- A new element of the domain uses up its offers. -/
theorem openOffers_add {element : A} (hfresh : element ∉ admitted.keys) {domain : List A}
    (hmem : element ∈ domain) :
    openOffers next domain (admitted.add element) + (next element).length ≤
      openOffers next domain admitted := by
  induction domain with
  | nil => cases hmem
  | cons head rest ih =>
      rw [openOffers_cons, openOffers_cons]
      by_cases heq : head = element
      · subst heq
        have hrest := openOffers_add_le next admitted head rest
        rw [if_pos (OrderedSet.mem_keys_add.mpr (Or.inl rfl)), if_neg hfresh]
        omega
      · have hrest := ih (List.mem_of_ne_of_mem (Ne.symm heq) hmem)
        have hsame : head ∈ (admitted.add element).keys ↔ head ∈ admitted.keys := by
          rw [OrderedSet.mem_keys_add]
          simp [heq]
        simp only [hsame]
        omega

/-- **The loop ends with the least set.**  The elements that can be admitted are listed
in `domain`. -/
theorem exists_drain_eq_ok {domain : List A}
    (hdomain : ∀ key element, accept key = some element → element ∈ domain) {fuel : ℕ}
    (h : Invariant accept next seeds pending admitted)
    (hfuel : pending.keys.length + openOffers next domain admitted < fuel) :
    ∃ result, drain accept next fuel pending admitted = .ok result ∧
      ∀ element, element ∈ result.keys ↔ Admitted accept next seeds element := by
  induction fuel generalizing pending admitted with
  | zero => exact absurd hfuel (Nat.not_lt_zero _)
  | succ fuel ih =>
      rw [drain]
      cases hpop : pending.popFirst? with
      | none =>
          exact ⟨admitted, rfl, fun element =>
            h.complete (OrderedSet.popFirst?_eq_none_iff.mp hpop)⟩
      | some taken =>
          obtain ⟨key, rest⟩ := taken
          rw [OrderedSet.keys_of_popFirst? hpop, List.length_cons] at hfuel
          cases haccept : accept key with
          | none =>
              simp only [haccept]
              exact ih (h.skip hpop (by simp [haccept])) (by omega)
          | some element =>
              simp only [haccept]
              by_cases hknown : element ∈ admitted.keys
              · rw [if_pos hknown]
                refine ih (h.skip hpop ?_) (by omega)
                intro other hother
                obtain rfl := Option.some.inj (haccept.symm.trans hother)
                exact hknown
              · rw [if_neg hknown]
                refine ih (h.expand hpop haccept) ?_
                have hlength := OrderedSet.length_foldl_add_le (next element) rest
                have hopen : openOffers next domain (admitted.add element) +
                    (next element).length ≤ openOffers next domain admitted :=
                  openOffers_add hknown (hdomain key element haccept)
                omega

/-- The loop from scratch. -/
theorem exists_drain_seeds_eq_ok {domain : List A}
    (hdomain : ∀ key element, accept key = some element → element ∈ domain) {fuel : ℕ}
    (hfuel : pending.keys.length + (domain.map fun element => (next element).length).sum < fuel) :
    ∃ result, drain accept next fuel pending ∅ = .ok result ∧
      ∀ element, element ∈ result.keys ↔ Admitted accept next pending.keys element := by
  refine exists_drain_eq_ok hdomain ?_ ?_
  · exact
      { admitted_sound := fun element helement => by simp at helement
        pending_sound := fun key hkey => Or.inl hkey
        seeds_covered := fun key hkey => Or.inl hkey
        offers_covered := fun element helement => by simp at helement }
  · simpa [openOffers] using hfuel

end AdmissionWorklist

end AspRust.Foundation
