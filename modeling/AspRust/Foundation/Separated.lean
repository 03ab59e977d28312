import Mathlib.Data.List.Infix

/-!
# Lists joined by a separator

A program that joins pieces by a separator relies on the pieces not holding it.  That
is not enough for every separator: `aa` also stands across the end of a piece and the
separator after it.  A separator is `Distinctive` when its first element does not come
back in it; then the first place where it stands in a joined list is the end of the
first piece (`append_marker_inj`), and the pieces are read off the join
(`intercalate_inj`).
-/

namespace AspRust.Foundation

namespace Separated

variable {α : Type*}

/-- A list whose first element does not come back in it. -/
def Distinctive : List α → Prop
  | [] => False
  | first :: rest => first ∉ rest

/-- A piece before the marker is no longer than another one that holds no marker. -/
private theorem not_longer {marker first second after : List α} (hmarker : Distinctive marker)
    (hsecond : ¬ marker <:+: second) {overlap : List α} (hsplit : second = first ++ overlap)
    (hne : overlap ≠ []) {before : List α} (h : marker ++ before = overlap ++ (marker ++ after)) :
    False := by
  rcases List.append_eq_append_iff.mp h with ⟨more, hoverlap, -⟩ | ⟨more, hover, htail⟩
  · -- the marker stands inside the longer piece
    refine hsecond ⟨first, more, ?_⟩
    rw [hsplit, hoverlap, List.append_assoc]
  · -- the marker would hold its first element again
    cases marker with
    | nil => exact hmarker
    | cons head rest =>
        cases overlap with
        | nil => exact hne rfl
        | cons inner others =>
            obtain ⟨rfl, hrest⟩ : head = inner ∧ rest = others ++ more := by
              simpa using hover
            cases more with
            | nil =>
                refine hsecond ⟨first, [], ?_⟩
                simp [hsplit, hrest]
            | cons next tail =>
                obtain ⟨rfl, -⟩ : head = next ∧ rest ++ after = tail ++ before := by
                  simpa using htail
                exact hmarker (hrest ▸ List.mem_append_right _ List.mem_cons_self)

/-- **The first marker ends the first piece.** -/
theorem append_marker_inj {marker first second before after : List α}
    (hmarker : Distinctive marker) (hfirst : ¬ marker <:+: first)
    (hsecond : ¬ marker <:+: second)
    (h : first ++ (marker ++ before) = second ++ (marker ++ after)) :
    first = second ∧ before = after := by
  have hsame : first = second := by
    rcases List.append_eq_append_iff.mp h with ⟨overlap, hsplit, hrest⟩ | ⟨overlap, hsplit, hrest⟩
    · by_cases hempty : overlap = []
      · simp [hsplit, hempty]
      · exact (not_longer hmarker hsecond hsplit hempty hrest).elim
    · by_cases hempty : overlap = []
      · simp [hsplit, hempty]
      · exact (not_longer hmarker hfirst hsplit hempty hrest).elim
  subst hsame
  exact ⟨rfl, List.append_cancel_left (List.append_cancel_left h)⟩

/-- **The pieces are read off the join**, when they hold no separator and there is at
least one of them. -/
theorem intercalate_inj {marker : List α} (hmarker : Distinctive marker)
    {first second : List (List α)} (hfirst : ∀ piece ∈ first, ¬ marker <:+: piece)
    (hsecond : ∀ piece ∈ second, ¬ marker <:+: piece) (hne : first ≠ []) (hne' : second ≠ [])
    (h : marker.intercalate first = marker.intercalate second) : first = second := by
  induction first generalizing second with
  | nil => exact absurd rfl hne
  | cons piece rest ih =>
      cases second with
      | nil => exact absurd rfl hne'
      | cons piece' rest' =>
          have hpiece := hfirst piece List.mem_cons_self
          have hpiece' := hsecond piece' List.mem_cons_self
          cases rest with
          | nil =>
              cases rest' with
              | nil => simpa using h
              | cons next' others' =>
                  rw [List.intercalate_singleton, List.intercalate_cons_cons] at h
                  exact absurd ⟨piece', _, h.symm⟩ hpiece
          | cons next others =>
              cases rest' with
              | nil =>
                  rw [List.intercalate_singleton, List.intercalate_cons_cons] at h
                  exact absurd ⟨piece, _, h⟩ hpiece'
              | cons next' others' =>
                  rw [List.intercalate_cons_cons, List.intercalate_cons_cons, List.append_assoc,
                    List.append_assoc] at h
                  obtain ⟨rfl, hrest⟩ := append_marker_inj hmarker hpiece hpiece' h
                  rw [ih (fun other hother => hfirst other (List.mem_cons_of_mem _ hother))
                    (fun other hother => hsecond other (List.mem_cons_of_mem _ hother))
                    (by simp) (by simp) hrest]

/-- A list without an element of the whole stands on one side of that element. -/
theorem infix_append_cons {marker first second : List α} {element : α}
    (hfree : element ∉ marker) (h : marker <:+: first ++ element :: second) :
    marker <:+: first ∨ marker <:+: second := by
  obtain ⟨before, after, hsplit⟩ := h
  rw [List.append_assoc] at hsplit
  rcases List.append_eq_append_iff.mp hsplit with ⟨rest, hfirst, hmiddle⟩ | ⟨rest, hbefore, hsecond⟩
  · rcases List.append_eq_append_iff.mp hmiddle with ⟨tail, hrest, -⟩ | ⟨tail, hmarker, hcons⟩
    · exact Or.inl ⟨before, tail, by rw [hfirst, hrest, List.append_assoc]⟩
    · cases tail with
      | nil => exact Or.inl ⟨before, [], by rw [hfirst, hmarker]; simp⟩
      | cons head others =>
          obtain ⟨rfl, -⟩ : element = head ∧ second = others ++ after := by simpa using hcons
          exact absurd (hmarker ▸ List.mem_append_right _ List.mem_cons_self) hfree
  · cases rest with
    | nil =>
        cases marker with
        | nil => exact Or.inl (List.nil_infix)
        | cons head others =>
            obtain ⟨rfl, -⟩ : element = head ∧ second = others ++ after := by
              simpa using hsecond
            exact absurd List.mem_cons_self hfree
    | cons head others =>
        obtain ⟨-, hrest⟩ : element = head ∧ second = others ++ (marker ++ after) := by
          simpa using hsecond
        exact Or.inr ⟨others, after, by rw [hrest, List.append_assoc]⟩

/-- Pieces without a list in them, joined by an element that is not in it, do not hold
the list. -/
theorem not_infix_intercalate {marker : List α} {element : α} (hfree : element ∉ marker)
    (hne : marker ≠ []) {pieces : List (List α)} (hpieces : ∀ piece ∈ pieces, ¬ marker <:+: piece) :
    ¬ marker <:+: [element].intercalate pieces := by
  induction pieces with
  | nil => simpa using hne
  | cons piece rest ih =>
      have hpiece := hpieces piece List.mem_cons_self
      cases rest with
      | nil => simpa using hpiece
      | cons next others =>
          intro hinside
          rw [List.intercalate_cons_cons, List.append_assoc] at hinside
          rcases infix_append_cons hfree hinside with hleft | hright
          · exact hpiece hleft
          · exact ih (fun other hother => hpieces other (List.mem_cons_of_mem _ hother)) hright

end Separated

end AspRust.Foundation
