import AspRust.Foundation.OrderedMap

/-!
# Maps that keep the least value of a key

Elements are collected under a key; of two elements with one key the lighter one stays.
The map then holds, under each key, an element of least weight among those that have it
(`least_of_get?_keepLeast`).

Where key and weight tell elements apart, that element is the only one (`Least.unique`), so
the map depends on nothing but which elements there are: not on their order, not on how
often they come (`keepLeast_congr`), and not on whether groups of them have been collected
before (`keepLeast_flatMap_values`).

### Use

`Determined` is the hypothesis under which the map depends on the elements as a set: key and
weight tell two of them apart.  Without it the map still holds a least element under each key,
and which one depends on the order.
-/

namespace AspRust.Foundation

namespace OrderedMap

variable {K V : Type*} [LinearOrder K] (key : V → K) (weight : V → ℕ)

/-- Collect an element, unless one that is no heavier has its key. -/
def collectLeast (m : OrderedMap K V) (element : V) : OrderedMap K V :=
  match m.get? (key element) with
  | some existing => if weight element < weight existing then m.insert (key element) element else m
  | none => m.insert (key element) element

/-- Collect elements; one of least weight stays for each key. -/
def keepLeast (elements : List V) : OrderedMap K V := elements.foldl (collectLeast key weight) ∅

/-- An element of least weight among those with its key. -/
structure Least (elements : List V) (k : K) (v : V) : Prop where
  mem : v ∈ elements
  key_eq : key v = k
  le : ∀ other ∈ elements, key other = k → weight v ≤ weight other

variable {key weight} {elements : List V} {k : K} {v : V}

theorem get?_collectLeast_of_ne (m : OrderedMap K V) {element : V} (hne : k ≠ key element) :
    (collectLeast key weight m element).get? k = m.get? k := by
  unfold collectLeast
  split
  · split
    · rw [get?_insert, if_neg hne]
    · rfl
  · rw [get?_insert, if_neg hne]

/-- The element under the key of the last one is the lighter of the two. -/
theorem get?_collectLeast_self (m : OrderedMap K V) (element : V) :
    ∃ kept, (collectLeast key weight m element).get? (key element) = some kept ∧
      (kept = element ∨ m.get? (key element) = some kept) ∧ weight kept ≤ weight element ∧
      ∀ existing, m.get? (key element) = some existing → weight kept ≤ weight existing := by
  unfold collectLeast
  cases hget : m.get? (key element) with
  | none =>
      refine ⟨element, by rw [get?_insert, if_pos rfl], Or.inl rfl, le_rfl, ?_⟩
      rintro existing ⟨⟩
  | some existing =>
      dsimp only
      split
      · rename_i hlighter
        refine ⟨element, by rw [get?_insert, if_pos rfl], Or.inl rfl, le_rfl, ?_⟩
        rintro _ ⟨⟩
        exact hlighter.le
      · rename_i hheavier
        refine ⟨existing, hget, Or.inr rfl, Nat.le_of_not_lt hheavier, ?_⟩
        rintro _ ⟨⟩
        exact le_rfl

/-- Under each key stands an element of least weight, and something stands under the key of
every element. -/
theorem keepLeast_spec (elements : List V) (k : K) :
    (∀ v, (keepLeast key weight elements).get? k = some v → Least key weight elements k v) ∧
      ((keepLeast key weight elements).get? k = none →
        ∀ element ∈ elements, key element ≠ k) := by
  unfold keepLeast
  induction elements using List.reverseRecOn with
  | nil =>
      refine ⟨?_, fun _ element hmem => absurd hmem List.not_mem_nil⟩
      rintro v ⟨⟩
  | append_singleton rest last ih =>
      obtain ⟨hsome, hnone⟩ := ih
      rw [List.foldl_append, List.foldl_cons, List.foldl_nil]
      by_cases hkey : k = key last
      · subst hkey
        obtain ⟨kept, hkept, horigin, hlast, hrest⟩ :=
          @get?_collectLeast_self _ _ _ key weight (rest.foldl (collectLeast key weight) ∅) last
        rw [hkept]
        refine ⟨?_, fun h => absurd h (Option.some_ne_none kept)⟩
        rintro _ ⟨⟩
        refine ⟨?_, ?_, ?_⟩
        · obtain rfl | hold := horigin
          · exact List.mem_append_right rest List.mem_cons_self
          · exact List.mem_append_left _ (hsome kept hold).mem
        · obtain rfl | hold := horigin
          · rfl
          · exact (hsome kept hold).key_eq
        · -- what was there before is no lighter than what is kept
          intro other hother hotherKey
          obtain hother | hother := List.mem_append.mp hother
          · cases hget : (rest.foldl (collectLeast key weight) ∅).get? (key last) with
            | none => exact absurd hotherKey (hnone hget other hother)
            | some existing =>
                exact (hrest existing hget).trans ((hsome existing hget).le other hother hotherKey)
          · rw [List.mem_singleton.mp hother]
            exact hlast
      · have hlast : ∀ other ∈ rest ++ [last], key other = k → other ∈ rest := by
          intro other hother hotherKey
          obtain hother | hother := List.mem_append.mp hother
          · exact hother
          · rw [List.mem_singleton.mp hother] at hotherKey
            exact absurd hotherKey.symm hkey
        rw [get?_collectLeast_of_ne _ hkey]
        refine ⟨fun v hv => ?_, fun hget other hother hotherKey => ?_⟩
        · obtain ⟨hmem, hvKey, hle⟩ := hsome v hv
          exact ⟨List.mem_append_left _ hmem, hvKey, fun other hother hotherKey =>
            hle other (hlast other hother hotherKey) hotherKey⟩
        · exact hnone hget other (hlast other hother hotherKey) hotherKey

theorem least_of_get?_keepLeast (h : (keepLeast key weight elements).get? k = some v) :
    Least key weight elements k v := (keepLeast_spec elements k).1 v h

theorem mem_keys_keepLeast :
    k ∈ (keepLeast key weight elements).keys ↔ ∃ element ∈ elements, key element = k := by
  constructor
  · intro h
    obtain ⟨v, hv⟩ := mem_keys_iff.mp h
    have hleast := least_of_get?_keepLeast hv
    exact ⟨v, hleast.mem, hleast.key_eq⟩
  · rintro ⟨element, hmem, hkey⟩
    cases hget : (keepLeast key weight elements).get? k with
    | none => exact absurd hkey ((keepLeast_spec elements k).2 hget element hmem)
    | some v => exact mem_keys_iff.mpr ⟨v, hget⟩

variable (weight) in
theorem exists_get?_keepLeast {element : V} (hmem : element ∈ elements) (hkey : key element = k) :
    ∃ kept, (keepLeast key weight elements).get? k = some kept ∧
      Least key weight elements k kept := by
  obtain ⟨kept, hkept⟩ := mem_keys_iff.mp (mem_keys_keepLeast.mpr ⟨element, hmem, hkey⟩)
  exact ⟨kept, hkept, least_of_get?_keepLeast hkept⟩

/-- The keys of the values are the keys of the map. -/
theorem map_values_keepLeast :
    (keepLeast key weight elements).values.map key = (keepLeast key weight elements).keys := by
  rw [values, keys, List.map_map]
  refine List.map_congr_left fun entry hentry => ?_
  exact (least_of_get?_keepLeast (get?_eq_some_iff.mpr hentry)).key_eq

/-! ## Independence of the order -/

variable (key weight) in
/-- Key and weight tell the elements apart. -/
def Determined (elements : List V) : Prop :=
  ∀ v ∈ elements, ∀ w ∈ elements, key v = key w → weight v = weight w → v = w

omit [LinearOrder K] in
theorem Least.unique {w : V} (hdetermined : Determined key weight elements)
    (hv : Least key weight elements k v) (hw : Least key weight elements k w) : v = w := by
  refine hdetermined v hv.mem w hw.mem (hv.key_eq.trans hw.key_eq.symm) ?_
  exact le_antisymm (hv.le w hw.mem hw.key_eq) (hw.le v hv.mem hv.key_eq)

theorem get?_keepLeast_iff (hdetermined : Determined key weight elements) :
    (keepLeast key weight elements).get? k = some v ↔ Least key weight elements k v := by
  refine ⟨least_of_get?_keepLeast, fun h => ?_⟩
  obtain ⟨kept, hkept, hleast⟩ := exists_get?_keepLeast weight h.mem h.key_eq
  rw [hkept, hleast.unique hdetermined h]

/-- Two lists with the same least elements are collected alike. -/
theorem keepLeast_eq_of_least {others : List V} (hfirst : Determined key weight elements)
    (hsecond : Determined key weight others)
    (h : ∀ k v, Least key weight elements k v ↔ Least key weight others k v) :
    keepLeast key weight elements = keepLeast key weight others := by
  refine ext_get? fun k => Option.ext fun v => ?_
  rw [get?_keepLeast_iff hfirst, get?_keepLeast_iff hsecond, h]

/-- **Only the elements count**, not their order and not how often they come. -/
theorem keepLeast_congr {others : List V} (hdetermined : Determined key weight elements)
    (h : ∀ v, v ∈ elements ↔ v ∈ others) :
    keepLeast key weight elements = keepLeast key weight others := by
  have hother : Determined key weight others := fun v hv w hw =>
    hdetermined v ((h v).mpr hv) w ((h w).mpr hw)
  refine keepLeast_eq_of_least hdetermined hother fun k v => ?_
  constructor
  · intro hleast
    exact ⟨(h v).mp hleast.mem, hleast.key_eq, fun w hw => hleast.le w ((h w).mpr hw)⟩
  · intro hleast
    exact ⟨(h v).mpr hleast.mem, hleast.key_eq, fun w hw => hleast.le w ((h w).mp hw)⟩

/-- **Groups that have been collected are collected like their elements.** -/
theorem keepLeast_flatMap_values {ι : Type*} {groups : List ι} {members : ι → List V}
    (hdetermined : Determined key weight (groups.flatMap members)) :
    keepLeast key weight (groups.flatMap fun group => (keepLeast key weight (members group)).values) =
      keepLeast key weight (groups.flatMap members) := by
  have hkept : ∀ v, v ∈ groups.flatMap (fun group =>
      (keepLeast key weight (members group)).values) → v ∈ groups.flatMap members := by
    intro v hv
    obtain ⟨group, hgroup, hvalue⟩ := List.mem_flatMap.mp hv
    obtain ⟨k, hk⟩ := mem_values_iff.mp hvalue
    exact List.mem_flatMap.mpr ⟨group, hgroup, (least_of_get?_keepLeast hk).mem⟩
  refine keepLeast_eq_of_least (fun v hv w hw => hdetermined v (hkept v hv) w (hkept w hw))
    hdetermined fun k v => ?_
  constructor
  · intro hleast
    refine ⟨hkept v hleast.mem, hleast.key_eq, fun other hother hotherKey => ?_⟩
    -- some value of its group is no heavier than another element
    obtain ⟨group, hgroup, hmember⟩ := List.mem_flatMap.mp hother
    obtain ⟨w, hw, hwLeast⟩ := exists_get?_keepLeast weight hmember hotherKey
    have hwMem : w ∈ groups.flatMap fun group =>
        (keepLeast key weight (members group)).values :=
      List.mem_flatMap.mpr ⟨group, hgroup, mem_values_iff.mpr ⟨k, hw⟩⟩
    exact (hleast.le w hwMem hwLeast.key_eq).trans (hwLeast.le other hmember hotherKey)
  · intro hleast
    refine ⟨?_, hleast.key_eq, fun other hother => hleast.le other (hkept other hother)⟩
    obtain ⟨group, hgroup, hmember⟩ := List.mem_flatMap.mp hleast.mem
    obtain ⟨w, hw, hwLeast⟩ := exists_get?_keepLeast weight hmember hleast.key_eq
    have hwMem : w ∈ groups.flatMap members :=
      List.mem_flatMap.mpr ⟨group, hgroup, hwLeast.mem⟩
    have hweight := le_antisymm (hleast.le w hwMem hwLeast.key_eq)
      (hwLeast.le v hmember hleast.key_eq)
    obtain rfl := hdetermined v hleast.mem w hwMem
      (hleast.key_eq.trans hwLeast.key_eq.symm) hweight
    exact List.mem_flatMap.mpr ⟨group, hgroup, mem_values_iff.mpr ⟨k, hw⟩⟩

end OrderedMap

end AspRust.Foundation
