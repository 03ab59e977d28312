import AspRust.Foundation.OrderedMap
import Mathlib.Data.List.Perm.Basic

/-!
# Groups of elements under keys

Elements are put into groups by their key, each group in the order of the elements; an
element without a key goes into none.  Under a key then stand the elements that have it, if
there are any (`get?_collectGroups`).

Taken one key after the other, the groups hold every element that has a key exactly once
(`perm_flatMap_filter`).
-/

namespace AspRust.Foundation

namespace OrderedMap

variable {K V : Type*} [LinearOrder K] (key : V → Option K)

/-- Put an element at the end of its group. -/
def collectGroup (m : OrderedMap K (List V)) (element : V) : OrderedMap K (List V) :=
  match key element with
  | some k => m.insert k ((m.get? k).getD [] ++ [element])
  | none => m

/-- Put elements into groups, one after the other. -/
def collectGroups (elements : List V) : OrderedMap K (List V) :=
  elements.foldl (collectGroup key) ∅

variable {key}

/-- **Under a key stand the elements that have it.** -/
theorem get?_collectGroups (elements : List V) (k : K) :
    (collectGroups key elements).get? k =
      if elements.filter (fun element => key element = some k) = [] then none
      else some (elements.filter fun element => key element = some k) := by
  unfold collectGroups
  induction elements using List.reverseRecOn with
  | nil => rfl
  | append_singleton rest last ih =>
      rw [List.foldl_append, List.foldl_cons, List.foldl_nil, List.filter_append, collectGroup]
      cases hkey : key last with
      | none =>
          have hlast : [last].filter (fun element => key element = some k) = [] := by simp [hkey]
          rw [hlast, List.append_nil]
          exact ih
      | some k' =>
          dsimp only
          rw [get?_insert]
          by_cases hsame : k = k'
          · subst hsame
            have hlast : [last].filter (fun element => key element = some k) = [last] := by
              simp [hkey]
            have hne : rest.filter (fun element => key element = some k) ++ [last] ≠ [] := by simp
            rw [if_pos rfl, hlast, if_neg hne, ih]
            by_cases hempty : rest.filter (fun element => key element = some k) = []
            · rw [if_pos hempty, hempty, Option.getD_none]
            · rw [if_neg hempty, Option.getD_some]
          · have hlast : [last].filter (fun element => key element = some k) = [] := by
              simp [hkey, Ne.symm hsame]
            rw [if_neg hsame, hlast, List.append_nil]
            exact ih

end OrderedMap

variable {K V : Type*} [DecidableEq K]

/-- **Every element with a key is in exactly one group.**  The keys are listed once each, and
the key of every element is among them. -/
theorem perm_flatMap_filter {key : V → Option K} {keys : List K} (hnodup : keys.Nodup) :
    ∀ {elements : List V}, (∀ element ∈ elements, ∀ k, key element = some k → k ∈ keys) →
      ((keys.flatMap fun k => elements.filter fun element => key element = some k) ++
        elements.filter fun element => key element = none).Perm elements := by
  induction keys with
  | nil =>
      intro elements hkeys
      have hnone : elements.filter (fun element => key element = none) = elements := by
        refine List.filter_eq_self.mpr fun element hmem => ?_
        cases hkey : key element with
        | none => simp
        | some k => exact absurd (hkeys element hmem k hkey) List.not_mem_nil
      rw [List.flatMap_nil, List.nil_append, hnone]
  | cons first rest ih =>
      intro elements hkeys
      obtain ⟨hfirst, hrest⟩ := List.nodup_cons.mp hnodup
      -- the elements of the first key are set apart, and the others keep their groups
      let others := elements.filter fun element => ¬ key element = some first
      have hothers : ∀ element ∈ others, ∀ k, key element = some k → k ∈ rest := by
        intro element hmem k hkey
        obtain ⟨hmem, hne⟩ := List.mem_filter.mp hmem
        obtain rfl | hk := List.mem_cons.mp (hkeys element hmem k hkey)
        · simp [hkey] at hne
        · exact hk
      have hgroup : ∀ k ∈ rest, (others.filter fun element => key element = some k) =
          elements.filter fun element => key element = some k := by
        intro k hk
        rw [List.filter_filter]
        refine List.filter_congr fun element _ => ?_
        by_cases hkey : key element = some k
        · have hne : k ≠ first := fun h => hfirst (h ▸ hk)
          simp [hkey, hne]
        · simp [hkey]
      have hnone : (others.filter fun element => key element = none) =
          elements.filter fun element => key element = none := by
        rw [List.filter_filter]
        refine List.filter_congr fun element _ => ?_
        by_cases hkey : key element = none
        · simp [hkey]
        · simp [hkey]
      have hperm := ih hrest hothers
      rw [hnone, List.flatMap_congr hgroup] at hperm
      rw [List.flatMap_cons, List.append_assoc]
      refine (hperm.append_left _).trans ?_
      have hsplit := List.filter_append_perm (fun element => key element = some first) elements
      simpa only [others, decide_not] using hsplit

end AspRust.Foundation
