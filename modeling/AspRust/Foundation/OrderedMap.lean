import Mathlib.Data.List.Induction
import Mathlib.Data.List.Sort
import Mathlib.Data.Prod.Lex
import Mathlib.Order.Basic

/-!
# Maps iterated in key order

`OrderedMap K V` is a finite map kept as a list of entries with strictly
increasing keys.  It is the model of a B-tree map: lookup and insertion follow
the key, and iteration is the entry list itself, so that the order in which a
program walks the map is part of its value.

The strict order is a field of the structure.  Two consequences carry every
later use: a key has at most one entry (`get?_eq_some_iff`), and a map is
determined by its lookups (`ext_get?`).  `OrderedSet K` is the map with no
values.

### Use

Maps are compared by lookups (`ext_get?`) and walked by entries.  A loop that inserts is
described by `get?_insertAll`: the last element with a key counts, and where the elements are
sorted and different the entries are the elements.  Nothing here depends on how the list is
searched, so the cost of a lookup in the source is not that of the model.
-/

namespace AspRust.Foundation

/-- A finite map as a list of entries with strictly increasing keys. -/
structure OrderedMap (K V : Type*) [LinearOrder K] where
  /-- The entries, in key order. -/
  entries : List (K × V)
  /-- Keys strictly increase, so no key occurs twice. -/
  increasing : entries.Pairwise fun a b => a.1 < b.1

namespace OrderedMap

variable {K V : Type*} [LinearOrder K]

instance [DecidableEq V] : DecidableEq (OrderedMap K V) := fun m n =>
  decidable_of_iff (m.entries = n.entries) (by cases m; cases n; simp)

/-- The map with no entry. -/
def empty : OrderedMap K V := ⟨[], List.Pairwise.nil⟩

instance : EmptyCollection (OrderedMap K V) := ⟨empty⟩

instance : Inhabited (OrderedMap K V) := ⟨empty⟩

/-- The keys, in order. -/
def keys (m : OrderedMap K V) : List K := m.entries.map Prod.fst

instance (m : OrderedMap K V) (k : K) : Decidable (k ∈ m.keys) :=
  inferInstanceAs (Decidable (k ∈ m.entries.map Prod.fst))

/-- The values, in key order. -/
def values (m : OrderedMap K V) : List V := m.entries.map Prod.snd

/-- The value stored at a key. -/
def get? (m : OrderedMap K V) (k : K) : Option V :=
  (m.entries.find? fun entry => entry.1 = k).map Prod.snd

/-- Insertion into a list of entries: replace the entry of `k`, or put it where
the key order wants it. -/
def insertEntry (k : K) (v : V) : List (K × V) → List (K × V)
  | [] => [(k, v)]
  | (k', v') :: rest =>
      if k < k' then (k, v) :: (k', v') :: rest
      else if k = k' then (k, v) :: rest
      else (k', v') :: insertEntry k v rest

/-- An inserted list holds the new entry and the old entries of other keys. -/
theorem mem_insertEntry {k : K} {v : V} {l : List (K × V)}
    (hl : l.Pairwise fun a b => a.1 < b.1) {e : K × V} :
    e ∈ insertEntry k v l ↔ e = (k, v) ∨ (e ∈ l ∧ e.1 ≠ k) := by
  induction l with
  | nil => simp [insertEntry]
  | cons head rest ih =>
      obtain ⟨k', v'⟩ := head
      obtain ⟨hhead, hrest⟩ := List.pairwise_cons.mp hl
      unfold insertEntry
      by_cases hlt : k < k'
      · -- every old key is above `k`, so no old entry is dropped
        have habove : ∀ e ∈ (k', v') :: rest, e.1 ≠ k := by
          intro e he
          rcases List.mem_cons.mp he with rfl | he
          · exact ne_of_gt hlt
          · exact ne_of_gt (lt_trans hlt (hhead e he))
        rw [if_pos hlt, List.mem_cons]
        constructor
        · rintro (rfl | he)
          · exact Or.inl rfl
          · exact Or.inr ⟨he, habove e he⟩
        · rintro (rfl | ⟨he, -⟩)
          · exact Or.inl rfl
          · exact Or.inr he
      · rw [if_neg hlt]
        by_cases heq : k = k'
        · subst heq
          rw [if_pos rfl, List.mem_cons, List.mem_cons]
          constructor
          · rintro (rfl | he)
            · exact Or.inl rfl
            · exact Or.inr ⟨Or.inr he, ne_of_gt (hhead e he)⟩
          · rintro (rfl | ⟨rfl | he, hne⟩)
            · exact Or.inl rfl
            · exact absurd rfl hne
            · exact Or.inr he
        · rw [if_neg heq, List.mem_cons, ih hrest, List.mem_cons]
          constructor
          · rintro (rfl | rfl | ⟨he, hne⟩)
            · exact Or.inr ⟨Or.inl rfl, Ne.symm heq⟩
            · exact Or.inl rfl
            · exact Or.inr ⟨Or.inr he, hne⟩
          · rintro (rfl | ⟨rfl | he, hne⟩)
            · exact Or.inr (Or.inl rfl)
            · exact Or.inl rfl
            · exact Or.inr (Or.inr ⟨he, hne⟩)

/-- Insertion keeps the keys strictly increasing. -/
theorem insertEntry_increasing (k : K) (v : V) {l : List (K × V)}
    (hl : l.Pairwise fun a b => a.1 < b.1) :
    (insertEntry k v l).Pairwise fun a b => a.1 < b.1 := by
  induction l with
  | nil => simp [insertEntry]
  | cons head rest ih =>
      obtain ⟨k', v'⟩ := head
      obtain ⟨hhead, hrest⟩ := List.pairwise_cons.mp hl
      unfold insertEntry
      by_cases hlt : k < k'
      · rw [if_pos hlt]
        refine List.pairwise_cons.mpr ⟨?_, hl⟩
        intro e he
        rcases List.mem_cons.mp he with rfl | he
        · exact hlt
        · exact lt_trans hlt (hhead e he)
      · rw [if_neg hlt]
        by_cases heq : k = k'
        · rw [if_pos heq]
          refine List.pairwise_cons.mpr ⟨?_, hrest⟩
          intro e he
          exact heq ▸ hhead e he
        · rw [if_neg heq]
          refine List.pairwise_cons.mpr ⟨?_, ih hrest⟩
          intro e he
          rcases (mem_insertEntry hrest).mp he with rfl | ⟨he, -⟩
          · exact lt_of_le_of_ne (not_lt.mp hlt) (Ne.symm heq)
          · exact hhead e he

/-- Insert an entry, replacing the value the key had. -/
def insert (m : OrderedMap K V) (k : K) (v : V) : OrderedMap K V :=
  ⟨insertEntry k v m.entries, insertEntry_increasing k v m.increasing⟩

/-- A lookup succeeds exactly on the entries: keys are unique. -/
theorem get?_eq_some_iff {m : OrderedMap K V} {k : K} {v : V} :
    m.get? k = some v ↔ (k, v) ∈ m.entries := by
  obtain ⟨l, hl⟩ := m
  simp only [get?]
  induction l with
  | nil => simp
  | cons head rest ih =>
      obtain ⟨k', v'⟩ := head
      obtain ⟨hhead, hrest⟩ := List.pairwise_cons.mp hl
      by_cases heq : k' = k
      · subst heq
        rw [List.find?_cons_of_pos (by simp)]
        constructor
        · intro h
          simp only [Option.map_some, Option.some.injEq] at h
          exact h ▸ List.mem_cons_self
        · intro h
          rcases List.mem_cons.mp h with h | h
          · simp [(Prod.mk.inj h).2]
          · exact absurd (hhead _ h) (lt_irrefl _)
      · rw [List.find?_cons_of_neg (by simpa using heq), ih hrest, List.mem_cons]
        have hne : (k, v) ≠ (k', v') := fun h => heq (Prod.mk.inj h).1.symm
        simp [hne]

/-- The keys are the arguments at which a lookup succeeds. -/
theorem mem_keys_iff {m : OrderedMap K V} {k : K} :
    k ∈ m.keys ↔ ∃ v, m.get? k = some v := by
  simp [keys, get?_eq_some_iff]

theorem get?_eq_none_iff {m : OrderedMap K V} {k : K} :
    m.get? k = none ↔ k ∉ m.keys := by
  rw [mem_keys_iff]
  cases m.get? k <;> simp

/-- Keys are pairwise distinct. -/
theorem nodup_keys (m : OrderedMap K V) : m.keys.Nodup := by
  rw [keys, List.Nodup, List.pairwise_map]
  exact m.increasing.imp fun h => ne_of_lt h

theorem mem_values_iff {m : OrderedMap K V} {v : V} :
    v ∈ m.values ↔ ∃ k, m.get? k = some v := by
  simp [values, get?_eq_some_iff]

@[simp] theorem get?_empty (k : K) : (∅ : OrderedMap K V).get? k = none := rfl

@[simp] theorem keys_empty : (∅ : OrderedMap K V).keys = [] := rfl

/-- The lookups of a map after an insertion. -/
theorem get?_insert (m : OrderedMap K V) (k k' : K) (v : V) :
    (m.insert k v).get? k' = if k' = k then some v else m.get? k' := by
  ext w
  rw [get?_eq_some_iff, insert, mem_insertEntry m.increasing]
  by_cases heq : k' = k
  · simp [heq, eq_comm]
  · simp [heq, get?_eq_some_iff]

@[simp] theorem get?_insert_self (m : OrderedMap K V) (k : K) (v : V) :
    (m.insert k v).get? k = some v := by simp [get?_insert]

@[simp] theorem mem_keys_insert {m : OrderedMap K V} {k k' : K} {v : V} :
    k' ∈ (m.insert k v).keys ↔ k' = k ∨ k' ∈ m.keys := by
  rw [mem_keys_iff, mem_keys_iff]
  by_cases heq : k' = k <;> simp [get?_insert, heq]

/-- Remove the entry of a key. -/
def erase (m : OrderedMap K V) (k : K) : OrderedMap K V :=
  ⟨m.entries.filter fun entry => entry.1 ≠ k, m.increasing.filter _⟩

/-- The lookups of a map after a removal. -/
theorem get?_erase (m : OrderedMap K V) (k k' : K) :
    (m.erase k).get? k' = if k' = k then none else m.get? k' := by
  ext w
  rw [get?_eq_some_iff, erase, List.mem_filter]
  by_cases heq : k' = k
  · simp [heq]
  · simp [heq, get?_eq_some_iff]

/-- Apply a function to all values. -/
def mapValues {W : Type*} (f : V → W) (m : OrderedMap K V) : OrderedMap K W :=
  ⟨m.entries.map fun entry => (entry.1, f entry.2), List.pairwise_map.mpr m.increasing⟩

@[simp] theorem keys_mapValues {W : Type*} (f : V → W) (m : OrderedMap K V) :
    (m.mapValues f).keys = m.keys := by
  simp [keys, mapValues]

@[simp] theorem get?_mapValues {W : Type*} (f : V → W) (m : OrderedMap K V) (k : K) :
    (m.mapValues f).get? k = (m.get? k).map f := by
  rw [get?, mapValues, List.find?_map, get?, Option.map_map, Option.map_map]
  rfl

/-! ### Inserting a list of elements

A loop that inserts elements under a key.  Of several elements with one key the last one
stays. -/

section InsertAll

variable {ι : Type*} (key : ι → K) (value : ι → V)

/-- Insert a list of elements, each under its key; later ones win. -/
def insertAll (elements : List ι) (m : OrderedMap K V) : OrderedMap K V :=
  elements.foldl (fun m element => m.insert (key element) (value element)) m

theorem mem_keys_insertAll {elements : List ι} {m : OrderedMap K V} {k : K} :
    k ∈ (insertAll key value elements m).keys ↔
      k ∈ m.keys ∨ ∃ element ∈ elements, key element = k := by
  unfold insertAll
  induction elements generalizing m with
  | nil => simp
  | cons head rest ih =>
      rw [List.foldl_cons, ih, mem_keys_insert]
      simp only [List.mem_cons, exists_eq_or_imp, eq_comm (a := k)]
      tauto

/-- An inserted element is looked up, when elements with its key have its
value. -/
theorem get?_insertAll {elements : List ι} {element : ι} (hmem : element ∈ elements)
    (hunique : ∀ other ∈ elements, key other = key element → value other = value element)
    (m : OrderedMap K V) :
    (insertAll key value elements m).get? (key element) = some (value element) := by
  unfold insertAll
  induction elements using List.reverseRecOn with
  | nil => simp at hmem
  | append_singleton rest last ih =>
      rw [List.foldl_append, List.foldl_cons, List.foldl_nil, get?_insert]
      split
      · next hkey => rw [hunique last (by simp) hkey.symm]
      · next hkey =>
          rcases List.mem_append.mp hmem with hrest | hlast
          · exact ih hrest fun other hother => hunique other (List.mem_append_left _ hother)
          · exact absurd (congrArg key (List.mem_singleton.mp hlast)) hkey

/-- What is looked up was there before or was inserted. -/
theorem exists_of_get?_insertAll {elements : List ι} {m : OrderedMap K V} {k : K} {v : V}
    (h : (insertAll key value elements m).get? k = some v) :
    m.get? k = some v ∨ ∃ element ∈ elements, key element = k ∧ value element = v := by
  unfold insertAll at h
  induction elements using List.reverseRecOn with
  | nil => exact Or.inl h
  | append_singleton rest last ih =>
      rw [List.foldl_append, List.foldl_cons, List.foldl_nil, get?_insert] at h
      split at h
      · next hkey => exact Or.inr ⟨last, by simp, hkey.symm, Option.some.inj h⟩
      · rcases ih h with hbefore | ⟨element, hmem, hkey, hvalue⟩
        · exact Or.inl hbefore
        · exact Or.inr ⟨element, List.mem_append_left _ hmem, hkey, hvalue⟩

/-- Of the elements of one key the last is looked up. -/
theorem get?_insertAll_empty (elements : List ι) (k : K) :
    (insertAll key value elements ∅).get? k =
      (elements.reverse.find? fun element => key element = k).map value := by
  unfold insertAll
  induction elements using List.reverseRecOn with
  | nil => rfl
  | append_singleton rest last ih =>
      rw [List.foldl_append, List.foldl_cons, List.foldl_nil, get?_insert, List.reverse_append,
        List.reverse_singleton, List.singleton_append, List.find?_cons]
      by_cases hkey : k = key last
      · rw [if_pos hkey, decide_eq_true hkey.symm, Option.map_some]
      · rw [if_neg hkey, ih, decide_eq_false (Ne.symm hkey)]

/-- Of the elements of one key the last is looked up.  In a list sorted by value that is
one with the greatest value. -/
theorem get?_insertAll_of_sorted [LinearOrder V] {elements : List ι}
    (hsorted : elements.Pairwise fun first second => value first ≤ value second) {k : K} {v : V} :
    (insertAll key value elements ∅).get? k = some v ↔
      (∃ element ∈ elements, key element = k ∧ value element = v) ∧
        ∀ element ∈ elements, key element = k → value element ≤ v := by
  unfold insertAll
  induction elements using List.reverseRecOn with
  | nil => simp
  | append_singleton rest last ih =>
      obtain ⟨hrest, -, hlast⟩ := List.pairwise_append.mp hsorted
      have hbelow : ∀ element ∈ rest, value element ≤ value last :=
        fun element hmem => hlast element hmem last (List.mem_singleton.mpr rfl)
      rw [List.foldl_append, List.foldl_cons, List.foldl_nil, get?_insert]
      by_cases hkey : k = key last
      · rw [if_pos hkey, Option.some.injEq]
        constructor
        · rintro rfl
          refine ⟨⟨last, by simp, hkey.symm, rfl⟩, fun element hmem _ => ?_⟩
          rcases List.mem_append.mp hmem with hmem | hmem
          · exact hbelow element hmem
          · rw [List.mem_singleton.mp hmem]
        · rintro ⟨⟨element, hmem, -, rfl⟩, hbound⟩
          rcases List.mem_append.mp hmem with hmem | hmem
          · exact le_antisymm (hbound last (by simp) hkey.symm) (hbelow element hmem)
          · rw [List.mem_singleton.mp hmem]
      · rw [if_neg hkey, ih hrest]
        have hother : ∀ element, element ∈ rest ++ [last] ∧ key element = k ↔
            element ∈ rest ∧ key element = k := by
          intro element
          rw [List.mem_append, List.mem_singleton]
          constructor
          · rintro ⟨hmem | rfl, heq⟩
            · exact ⟨hmem, heq⟩
            · exact absurd heq.symm hkey
          · rintro ⟨hmem, heq⟩
            exact ⟨Or.inl hmem, heq⟩
        constructor
        · rintro ⟨⟨element, hmem, heq, hvalue⟩, hbound⟩
          refine ⟨⟨element, ((hother element).mpr ⟨hmem, heq⟩).1, heq, hvalue⟩, ?_⟩
          intro other hmem heq
          exact hbound other ((hother other).mp ⟨hmem, heq⟩).1 heq
        · rintro ⟨⟨element, hmem, heq, hvalue⟩, hbound⟩
          refine ⟨⟨element, ((hother element).mp ⟨hmem, heq⟩).1, heq, hvalue⟩, ?_⟩
          intro other hmem heq
          exact hbound other ((hother other).mpr ⟨hmem, heq⟩).1 heq

end InsertAll

/-- A map is determined by its lookups. -/
theorem ext_get? {m n : OrderedMap K V} (h : ∀ k, m.get? k = n.get? k) : m = n := by
  have hmem : ∀ e, e ∈ m.entries ↔ e ∈ n.entries := by
    rintro ⟨k, v⟩
    rw [← get?_eq_some_iff, ← get?_eq_some_iff, h k]
  have hm : m.entries.Nodup := m.increasing.imp fun hlt heq => by simp [heq] at hlt
  have hn : n.entries.Nodup := n.increasing.imp fun hlt heq => by simp [heq] at hlt
  have hperm : m.entries.Perm n.entries := (List.perm_ext_iff_of_nodup hm hn).mpr hmem
  have heq : m.entries = n.entries :=
    hperm.eq_of_pairwise
      (fun a b _ _ hab hba => absurd (lt_trans hab hba) (lt_irrefl _))
      m.increasing n.increasing
  cases m; cases n; cases heq; rfl

/-- A map is its entries. -/
theorem eq_of_entries_eq {m n : OrderedMap K V} (h : m.entries = n.entries) : m = n := by
  cases m
  cases n
  cases h
  rfl

/-- Inserting the entries of a map gives the map. -/
theorem insertAll_entries (m : OrderedMap K V) : insertAll Prod.fst Prod.snd m.entries ∅ = m := by
  refine ext_get? fun k => ?_
  ext v
  constructor
  · intro h
    rcases exists_of_get?_insertAll Prod.fst Prod.snd h with hempty | ⟨entry, hmem, rfl, rfl⟩
    · cases hempty
    · exact get?_eq_some_iff.mpr hmem
  · intro h
    have hmem : (k, v) ∈ m.entries := get?_eq_some_iff.mp h
    refine get?_insertAll Prod.fst Prod.snd hmem ?_ ∅
    rintro ⟨k', v'⟩ hother rfl
    have hget : m.get? k' = some v' := get?_eq_some_iff.mpr hother
    rw [h] at hget
    exact (Option.some.inj hget).symm

/-- Maps with the same keys list them in the same order. -/
theorem keys_ext {W : Type*} {m : OrderedMap K V} {n : OrderedMap K W}
    (h : ∀ k, k ∈ m.keys ↔ k ∈ n.keys) : m.keys = n.keys := by
  have hperm : m.keys.Perm n.keys :=
    (List.perm_ext_iff_of_nodup m.nodup_keys n.nodup_keys).mpr h
  have hm : m.keys.Pairwise (· < ·) := List.pairwise_map.mpr m.increasing
  have hn : n.keys.Pairwise (· < ·) := List.pairwise_map.mpr n.increasing
  exact hperm.eq_of_pairwise
    (fun a b _ _ hab hba => absurd (lt_trans hab hba) (lt_irrefl _)) hm hn

end OrderedMap

/-- A finite set iterated in order. -/
abbrev OrderedSet (K : Type*) [LinearOrder K] := OrderedMap K Unit

namespace OrderedSet

variable {K : Type*} [LinearOrder K]

/-- Add an element. -/
def add (s : OrderedSet K) (k : K) : OrderedSet K := OrderedMap.insert s k ()

@[simp] theorem mem_keys_add {s : OrderedSet K} {k k' : K} :
    k' ∈ (s.add k).keys ↔ k' = k ∨ k' ∈ s.keys := OrderedMap.mem_keys_insert

/-- The set of the elements of a list. -/
def ofList (l : List K) : OrderedSet K := l.foldl add ∅

/-- A set is determined by its elements. -/
theorem ext_keys {s t : OrderedSet K} (h : ∀ k, k ∈ s.keys ↔ k ∈ t.keys) : s = t := by
  refine OrderedMap.ext_get? fun k => ?_
  by_cases hk : k ∈ s.keys
  · obtain ⟨u, hu⟩ := OrderedMap.mem_keys_iff.mp hk
    obtain ⟨w, hw⟩ := OrderedMap.mem_keys_iff.mp ((h k).mp hk)
    rw [hu, hw]
  · rw [OrderedMap.get?_eq_none_iff.mpr hk,
      OrderedMap.get?_eq_none_iff.mpr (fun ht => hk ((h k).mpr ht))]

theorem mem_foldl_add {l : List K} {s : OrderedSet K} {k : K} :
    k ∈ (l.foldl add s).keys ↔ k ∈ s.keys ∨ k ∈ l := by
  induction l generalizing s with
  | nil => simp
  | cons head rest ih =>
      rw [List.foldl_cons, ih, mem_keys_add, List.mem_cons]
      tauto

/-- Adding an element that is there changes nothing. -/
theorem add_of_mem {s : OrderedSet K} {k : K} (h : k ∈ s.keys) : s.add k = s := by
  refine ext_keys fun other => ?_
  rw [mem_keys_add]
  constructor
  · rintro (rfl | hother)
    · exact h
    · exact hother
  · exact Or.inr

theorem length_keys_add_of_notMem {s : OrderedSet K} {k : K} (h : k ∉ s.keys) :
    (s.add k).keys.length = s.keys.length + 1 := by
  have hperm : (s.add k).keys.Perm (k :: s.keys) := by
    refine (List.perm_ext_iff_of_nodup (s.add k).nodup_keys ?_).mpr fun other => ?_
    · exact List.nodup_cons.mpr ⟨h, s.nodup_keys⟩
    · rw [mem_keys_add, List.mem_cons]
  exact hperm.length_eq

/-- What a pass over a list adds, when each step adds what a relation says. -/
theorem mem_foldl_iff {ι : Type*} {step : OrderedSet K → ι → OrderedSet K} {adds : ι → K → Prop}
    (hstep : ∀ s element k, k ∈ (step s element).keys ↔ k ∈ s.keys ∨ adds element k)
    {elements : List ι} {s : OrderedSet K} {k : K} :
    k ∈ (elements.foldl step s).keys ↔ k ∈ s.keys ∨ ∃ element ∈ elements, adds element k := by
  induction elements generalizing s with
  | nil => simp
  | cons head rest ih =>
      rw [List.foldl_cons, ih, hstep]
      simp only [List.mem_cons, exists_eq_or_imp]
      tauto

@[simp] theorem mem_ofList {l : List K} {k : K} : k ∈ (ofList l).keys ↔ k ∈ l := by
  simp [ofList, mem_foldl_add]

end OrderedSet

end AspRust.Foundation
