import AspRust.Foundation.OrderedMap

/-!
# Maps that keep the first value of a key

Elements are collected under a key; an element without a key, or whose key is taken, is
dropped.  The map then holds, under each key, the first element that has it
(`get?_keepFirst`): kept elements have different keys, and every key of an element is
taken by one that is kept.
-/

namespace AspRust.Foundation

namespace OrderedMap

variable {K V : Type*} [LinearOrder K]

/-- Insert an entry, unless the key is taken. -/
def orInsert (m : OrderedMap K V) (k : K) (v : V) : OrderedMap K V :=
  match m.get? k with
  | some _ => m
  | none => m.insert k v

theorem get?_orInsert (m : OrderedMap K V) (k k' : K) (v : V) :
    (m.orInsert k v).get? k' = (m.get? k').or (if k' = k then some v else none) := by
  unfold orInsert
  split
  · next old hold =>
      by_cases hkey : k' = k
      · subst hkey
        simp [hold]
      · simp [hkey]
  · next hnone =>
      rw [get?_insert]
      by_cases hkey : k' = k
      · subst hkey
        simp [hnone]
      · simp [hkey]

variable (key : V → Option K)

/-- Collect an element under its key, if it has one that is not taken. -/
def collectFirst (m : OrderedMap K V) (element : V) : OrderedMap K V :=
  match key element with
  | some k => m.orInsert k element
  | none => m

/-- Collect elements; the first one of a key stays. -/
def keepFirst (elements : List V) : OrderedMap K V := elements.foldl (collectFirst key) ∅

theorem get?_collectFirst (m : OrderedMap K V) (element : V) (k : K) :
    (collectFirst key m element).get? k =
      (m.get? k).or (if key element = some k then some element else none) := by
  unfold collectFirst
  split
  · next k' hkey =>
      rw [get?_orInsert, hkey]
      simp only [Option.some.injEq, eq_comm (a := k)]
  · next hnone => simp [hnone]

/-- **Under each key stands the first element that has it.** -/
theorem get?_keepFirst (elements : List V) (k : K) :
    (keepFirst key elements).get? k = elements.find? fun element => key element = some k := by
  unfold keepFirst
  induction elements using List.reverseRecOn with
  | nil => rfl
  | append_singleton rest last ih =>
      rw [List.foldl_append, List.foldl_cons, List.foldl_nil, get?_collectFirst, ih,
        List.find?_append]
      congr 1
      by_cases hkey : key last = some k <;> simp [hkey]

variable {key} {elements : List V}

/-- What is kept is the first element with its key. -/
theorem mem_values_keepFirst {v : V} :
    v ∈ (keepFirst key elements).values ↔
      ∃ k, key v = some k ∧ elements.find? (fun element => key element = some k) = some v := by
  rw [mem_values_iff]
  constructor
  · rintro ⟨k, hk⟩
    rw [get?_keepFirst] at hk
    exact ⟨k, by simpa using List.find?_some hk, hk⟩
  · rintro ⟨k, -, hk⟩
    exact ⟨k, by rw [get?_keepFirst, hk]⟩

theorem mem_of_mem_values_keepFirst {v : V} (h : v ∈ (keepFirst key elements).values) :
    v ∈ elements := by
  obtain ⟨k, -, hk⟩ := mem_values_keepFirst.mp h
  exact List.mem_of_find?_eq_some hk

/-- Every key of an element is taken by some element. -/
theorem exists_kept {element : V} {k : K} (hmem : element ∈ elements)
    (hkey : key element = some k) :
    ∃ kept ∈ (keepFirst key elements).values, key kept = some k := by
  cases hfind : elements.find? fun other => key other = some k with
  | none => exact absurd (List.find?_eq_none.mp hfind element hmem) (by simpa using hkey)
  | some kept =>
      have hkept : key kept = some k := by simpa using List.find?_some hfind
      exact ⟨kept, mem_values_keepFirst.mpr ⟨k, hkept, hfind⟩, hkept⟩

/-- Kept elements have different keys. -/
theorem eq_of_mem_values_keepFirst {v w : V} (hv : v ∈ (keepFirst key elements).values)
    (hw : w ∈ (keepFirst key elements).values) (hkey : key v = key w) : v = w := by
  obtain ⟨k, hvk, hfirst⟩ := mem_values_keepFirst.mp hv
  obtain ⟨k', hwk, hsecond⟩ := mem_values_keepFirst.mp hw
  obtain rfl : k = k' := by
    rw [hvk, hwk] at hkey
    exact Option.some.inj hkey
  exact Option.some.inj (hfirst.symm.trans hsecond)

theorem nodup_map_values_keepFirst : ((keepFirst key elements).values.map key).Nodup := by
  have hkeys : (keepFirst key elements).values.map key =
      (keepFirst key elements).keys.map some := by
    rw [values, keys, List.map_map, List.map_map]
    refine List.map_congr_left fun entry hentry => ?_
    have hget := get?_eq_some_iff.mpr hentry
    rw [get?_keepFirst] at hget
    simpa using List.find?_some hget
  rw [hkeys]
  exact (nodup_keys _).map (Option.some_injective K)

end OrderedMap

end AspRust.Foundation
