import Mathlib.Data.List.Basic

/-!
# Lookup under several keys

Entries are filed under one key each, and the first entry of a key counts.  A lookup tries
several keys in their order and takes what it finds first.

So a lookup is decided at the first of its keys under which anything is filed
(`lookup_of_firstFiled`).  When entries are added behind those that are there, an old entry
under that key still counts; otherwise the first of the new ones there does
(`lookup_append_of_old`, `lookup_append_of_new`).

### Use

The keys of a lookup are in the order in which they are tried, and the entries in the order in
which they were filed.  A caller asks at which key a lookup is decided (`FirstFiled`), and adds
entries with the two lemmas for appended ones.
-/

namespace AspRust.Foundation

namespace LayeredLookup

variable {K E : Type*} [DecidableEq K] (keyOf : E → K)

/-- The entry that counts for a key. -/
def filed? (entries : List E) (key : K) : Option E := entries.find? fun entry => keyOf entry = key

/-- The first thing that is found under the keys. -/
def lookup (keys : List K) (entries : List E) : Option E := keys.findSome? (filed? keyOf entries)

omit [DecidableEq K] in
/-- Something is filed under the key. -/
def IsFiled (entries : List E) (key : K) : Prop := ∃ entry ∈ entries, keyOf entry = key

omit [DecidableEq K] in
/-- The first of the keys under which something is filed. -/
def FirstFiled (keys : List K) (entries : List E) (key : K) : Prop :=
  ∃ before after, keys = before ++ key :: after ∧ IsFiled keyOf entries key ∧
    ∀ earlier ∈ before, ¬ IsFiled keyOf entries earlier

variable {keyOf} {keys : List K} {entries old new : List E} {key : K}

theorem filed?_eq_none_iff : filed? keyOf entries key = none ↔ ¬ IsFiled keyOf entries key := by
  rw [filed?, List.find?_eq_none, IsFiled]
  simp

theorem exists_filed? (h : IsFiled keyOf entries key) :
    ∃ entry, filed? keyOf entries key = some entry := by
  refine Option.ne_none_iff_exists'.mp fun hnone => ?_
  exact filed?_eq_none_iff.mp hnone h

/-- A lookup is decided at the first key under which something is filed. -/
theorem lookup_of_firstFiled (h : FirstFiled keyOf keys entries key) :
    lookup keyOf keys entries = filed? keyOf entries key := by
  obtain ⟨before, after, rfl, hfiled, hbefore⟩ := h
  obtain ⟨entry, hentry⟩ := exists_filed? hfiled
  have hnone : before.findSome? (filed? keyOf entries) = none :=
    List.findSome?_eq_none_iff.mpr fun earlier hearlier =>
      filed?_eq_none_iff.mpr (hbefore earlier hearlier)
  rw [lookup, List.findSome?_append, hnone, Option.none_or, List.findSome?_cons, hentry]

omit [DecidableEq K] in
theorem exists_firstFiled (h : ∃ key ∈ keys, IsFiled keyOf entries key) :
    ∃ key, FirstFiled keyOf keys entries key := by
  induction keys with
  | nil =>
      obtain ⟨key, hmem, -⟩ := h
      exact absurd hmem List.not_mem_nil
  | cons first rest ih =>
      by_cases hfirst : IsFiled keyOf entries first
      · exact ⟨first, [], rest, rfl, hfirst, fun earlier hearlier =>
          absurd hearlier List.not_mem_nil⟩
      · obtain ⟨key, hmem, hkey⟩ := h
        have hrest : key ∈ rest := by
          obtain rfl | hrest := List.mem_cons.mp hmem
          · exact absurd hkey hfirst
          · exact hrest
        obtain ⟨found, before, after, rfl, hfound, hbefore⟩ := ih ⟨key, hrest, hkey⟩
        refine ⟨found, first :: before, after, rfl, hfound, fun earlier hearlier => ?_⟩
        obtain rfl | hearlier := List.mem_cons.mp hearlier
        · exact hfirst
        · exact hbefore earlier hearlier

theorem lookup_eq_none_iff :
    lookup keyOf keys entries = none ↔ ¬ ∃ key ∈ keys, IsFiled keyOf entries key := by
  rw [lookup, List.findSome?_eq_none_iff]
  simp only [filed?_eq_none_iff, not_exists, not_and]

omit [DecidableEq K] in
theorem isFiled_append :
    IsFiled keyOf (old ++ new) key ↔ IsFiled keyOf old key ∨ IsFiled keyOf new key := by
  simp only [IsFiled, List.mem_append, or_and_right, exists_or]

/-- An old entry under the deciding key still counts. -/
theorem lookup_append_of_old (h : FirstFiled keyOf keys (old ++ new) key)
    (hold : IsFiled keyOf old key) : lookup keyOf keys (old ++ new) = lookup keyOf keys old := by
  have hfirst : FirstFiled keyOf keys old key := by
    obtain ⟨before, after, hkeys, -, hbefore⟩ := h
    exact ⟨before, after, hkeys, hold, fun earlier hearlier hfiled =>
      hbefore earlier hearlier (isFiled_append.mpr (Or.inl hfiled))⟩
  obtain ⟨entry, hentry⟩ := exists_filed? hold
  rw [lookup_of_firstFiled h, lookup_of_firstFiled hfirst, hentry, filed?, List.find?_append]
  rw [filed?] at hentry
  rw [hentry, Option.some_or]

/-- Without one the first of the new entries under the deciding key counts. -/
theorem lookup_append_of_new (h : FirstFiled keyOf keys (old ++ new) key)
    (hold : ¬ IsFiled keyOf old key) : lookup keyOf keys (old ++ new) = filed? keyOf new key := by
  have hnone := filed?_eq_none_iff.mpr hold
  rw [filed?] at hnone
  rw [lookup_of_firstFiled h, filed?, List.find?_append, hnone, Option.none_or, filed?]

omit [DecidableEq K] in
/-- Only the keys of the entries say where something is filed. -/
theorem firstFiled_map :
    FirstFiled id keys (entries.map keyOf) key ↔ FirstFiled keyOf keys entries key := by
  have hfiled : ∀ key, IsFiled id (entries.map keyOf) key ↔ IsFiled keyOf entries key := by
    intro key
    simp [IsFiled]
  simp only [FirstFiled, hfiled]

end LayeredLookup

end AspRust.Foundation
