import AspRust.Foundation.Text

/-!
# Patterns with a wildcard

A pattern is a list in which one symbol, the wildcard, stands for any list.  `Fills`
says that a list is the pattern with every wildcard replaced by some list, not
necessarily the same one at each place.  Cut at its wildcards, a pattern is a first part,
which begins the list, and further parts, which occur one after another behind it:
`fills_iff_scattered`.

A search without backtracking takes for each part its first occurrence.  As far as the
parts themselves go, nothing is lost by that: `leftmost_of_scattered` says that whenever
the parts can be placed, the search places them, and leaves at least as much of the list.
What a placement up to the end of the list says about a shorter list is in
`scattered_iff_exists_append`.

### What is load-bearing

Only the last part is bound to the end of the list.  A search that takes first occurrences
leaves the longest rest for what follows, so it finds a placement of the parts in the middle
whenever there is one; the end of the list is where a longest rest is not what is needed.
-/

namespace AspRust.Foundation

variable {α : Type}

/-! ## Replacing the wildcards

The relation, by recursion on the pattern. -/

/-- A list is the pattern with every wildcard replaced by some list. -/
inductive Fills (wildcard : α) : List α → List α → Prop
  | nil : Fills wildcard [] []
  | wildcard (filling : List α) {pattern value : List α} :
      Fills wildcard pattern value → Fills wildcard (wildcard :: pattern) (filling ++ value)
  | literal {x : α} {pattern value : List α} :
      x ≠ wildcard → Fills wildcard pattern value →
        Fills wildcard (x :: pattern) (x :: value)

theorem fills_nil_iff {wildcard : α} {value : List α} :
    Fills wildcard [] value ↔ value = [] := by
  constructor
  · intro h
    cases h
    rfl
  · rintro rfl
    exact .nil

theorem fills_wildcard_iff {wildcard : α} {pattern value : List α} :
    Fills wildcard (wildcard :: pattern) value ↔
      ∃ filling after, value = filling ++ after ∧ Fills wildcard pattern after := by
  constructor
  · intro h
    cases h with
    | wildcard filling hafter => exact ⟨filling, _, rfl, hafter⟩
    | literal hne _ => exact absurd rfl hne
  · rintro ⟨filling, after, rfl, hafter⟩
    exact .wildcard filling hafter

theorem fills_literal_iff {wildcard x : α} (hx : x ≠ wildcard) {pattern value : List α} :
    Fills wildcard (x :: pattern) value ↔
      ∃ after, value = x :: after ∧ Fills wildcard pattern after := by
  constructor
  · intro h
    cases h with
    | wildcard filling hafter => exact absurd rfl hx
    | literal _ hafter => exact ⟨_, rfl, hafter⟩
  · rintro ⟨after, rfl, hafter⟩
    exact .literal hx hafter

/-! ## Parts one after another

A pattern is cut at its wildcards.  Its parts are found one after another, and what is
left over between them is what the wildcards stand for. -/

/-- The parts occur in a list one after another, each behind any filling, and `rest` is
what stands behind the last of them. -/
def Scattered : List (List α) → List α → List α → Prop
  | [], xs, rest => xs = rest
  | part :: parts, xs, rest =>
      ∃ filling after, xs = filling ++ part ++ after ∧ Scattered parts after rest

/-- What stands behind the last part may be cut off or put back. -/
theorem scattered_iff_exists_append {parts : List (List α)} {xs rest : List α} :
    Scattered parts xs rest ↔ ∃ shorter, xs = shorter ++ rest ∧ Scattered parts shorter [] := by
  induction parts generalizing xs with
  | nil =>
      constructor
      · intro h
        exact ⟨[], h, rfl⟩
      · rintro ⟨shorter, rfl, h⟩
        have hshorter : shorter = [] := h
        rw [hshorter]
        rfl
  | cons part parts ih =>
      constructor
      · rintro ⟨filling, after, rfl, hafter⟩
        obtain ⟨shorter, rfl, hshorter⟩ := ih.mp hafter
        exact ⟨filling ++ part ++ shorter, by simp, filling, shorter, rfl, hshorter⟩
      · rintro ⟨shorter, rfl, filling, after, rfl, hafter⟩
        exact ⟨filling, after ++ rest, by simp, ih.mpr ⟨after, rfl, hafter⟩⟩

/-- A last part that is empty takes in whatever is left. -/
theorem scattered_nil_of_last_nil {parts : List (List α)} {xs rest : List α}
    (h : Scattered (parts ++ [[]]) xs rest) : Scattered (parts ++ [[]]) xs [] := by
  induction parts generalizing xs with
  | nil => exact ⟨xs, [], by simp, rfl⟩
  | cons part parts ih =>
      obtain ⟨filling, after, hxs, hafter⟩ := h
      exact ⟨filling, after, hxs, ih hafter⟩

theorem splitWhen_ne_nil (separator : Char → Bool) (text : List Char) :
    splitWhen separator text ≠ [] := by
  cases text with
  | nil => exact List.cons_ne_nil _ _
  | cons c rest =>
      unfold splitWhen
      split
      · exact List.cons_ne_nil _ _
      · split <;> exact List.cons_ne_nil _ _

/-- A separator at the end of a text opens an empty last piece. -/
theorem splitWhen_concat_separator {separator : Char → Bool} {c : Char}
    (hc : separator c = true) (text : List Char) :
    splitWhen separator (text ++ [c]) = splitWhen separator text ++ [[]] := by
  induction text with
  | nil => simp [splitWhen, hc]
  | cons x rest ih =>
      obtain ⟨piece, pieces, hrest⟩ := List.exists_cons_of_ne_nil (splitWhen_ne_nil separator rest)
      cases hx : separator x <;> simp [splitWhen, hx, ih, hrest]

/-- Any other character at the end of a text ends its last piece. -/
theorem splitWhen_concat_literal {separator : Char → Bool} {c : Char}
    (hc : separator c = false) (text : List Char) :
    ∃ pieces last, splitWhen separator (text ++ [c]) = pieces ++ [last ++ [c]] := by
  induction text with
  | nil => exact ⟨[], [], by simp [splitWhen, hc]⟩
  | cons x rest ih =>
      obtain ⟨pieces, last, hrest⟩ := ih
      cases hx : separator x with
      | true => exact ⟨[] :: pieces, last, by simp [splitWhen, hx, hrest]⟩
      | false =>
          cases pieces with
          | nil => exact ⟨[], x :: last, by simp [splitWhen, hx, hrest]⟩
          | cons piece pieces =>
              exact ⟨(x :: piece) :: pieces, last, by simp [splitWhen, hx, hrest]⟩

/-- A pattern cut at its wildcards: the first part begins the list, and the others are
scattered over what follows, up to its end. -/
theorem fills_iff_scattered {wildcard : Char} {pattern value first : List Char}
    {parts : List (List Char)} (hsplit : splitWhen (· = wildcard) pattern = first :: parts) :
    Fills wildcard pattern value ↔
      ∃ after, value = first ++ after ∧ Scattered parts after [] := by
  induction pattern generalizing value first parts with
  | nil =>
      obtain ⟨rfl, rfl⟩ : [] = first ∧ [] = parts := by simpa [splitWhen] using hsplit
      rw [fills_nil_iff]
      constructor
      · rintro rfl
        exact ⟨[], rfl, rfl⟩
      · rintro ⟨after, rfl, hafter⟩
        exact hafter
  | cons c rest ih =>
      -- the pieces of the tail are the pieces to compare with
      obtain ⟨piece, pieces, hrest⟩ : ∃ piece pieces,
          splitWhen (· = wildcard) rest = piece :: pieces :=
        List.exists_cons_of_ne_nil (splitWhen_ne_nil _ _)
      by_cases hc : c = wildcard
      · subst hc
        obtain ⟨rfl, rfl⟩ : [] = first ∧ piece :: pieces = parts := by
          simpa [splitWhen, hrest] using hsplit
        rw [fills_wildcard_iff]
        constructor
        · rintro ⟨filling, after, rfl, hafter⟩
          obtain ⟨behind, rfl, hbehind⟩ := (ih hrest).mp hafter
          exact ⟨_, rfl, filling, behind, by simp, hbehind⟩
        · rintro ⟨after, rfl, filling, behind, rfl, hbehind⟩
          exact ⟨filling, piece ++ behind, by simp, (ih hrest).mpr ⟨behind, rfl, hbehind⟩⟩
      · obtain ⟨rfl, rfl⟩ : c :: piece = first ∧ pieces = parts := by
          simpa [splitWhen, hrest, hc] using hsplit
        rw [fills_literal_iff hc]
        constructor
        · rintro ⟨after, rfl, hafter⟩
          obtain ⟨behind, rfl, hbehind⟩ := (ih hrest).mp hafter
          exact ⟨behind, rfl, hbehind⟩
        · rintro ⟨after, rfl, hafter⟩
          exact ⟨piece ++ after, rfl, (ih hrest).mpr ⟨after, rfl, hafter⟩⟩

/-! ## Placing from the left

The search finds the first occurrence of each part in what is left.  A part that can be
placed later can also be placed at its first occurrence, and then more is left. -/

section Leftmost

variable [DecidableEq α]

/-- A match found is a match. -/
theorem eq_append_of_findSlice {part xs : List α} {position : ℕ}
    (h : findSlice part xs = some position) :
    xs = xs.take position ++ part ++ xs.drop (position + part.length) := by
  induction xs generalizing position with
  | nil =>
      unfold findSlice at h
      split at h
      · next hnil => simp [hnil]
      · simp at h
  | cons x rest ih =>
      unfold findSlice at h
      split at h
      · next hbegin =>
          obtain rfl : 0 = position := Option.some.inj h
          obtain ⟨after, hafter⟩ := List.isPrefixOf_iff_prefix.mp hbegin
          simp [← hafter]
      · obtain ⟨earlier, hearlier, rfl⟩ := Option.map_eq_some_iff.mp h
        have htail := ih hearlier
        rw [List.take_succ_cons, Nat.add_right_comm, List.drop_succ_cons, List.cons_append,
          List.cons_append, ← htail]

/-- Where a part occurs, the search finds an occurrence that is not later. -/
theorem findSlice_le_of_append (part filling after : List α) :
    ∃ position, findSlice part (filling ++ part ++ after) = some position ∧
      position ≤ filling.length := by
  induction filling with
  | nil =>
      refine ⟨0, ?_, le_rfl⟩
      rw [List.nil_append]
      cases hlist : part ++ after with
      | nil =>
          obtain ⟨rfl, -⟩ := List.append_eq_nil_iff.mp hlist
          rfl
      | cons x rest =>
          have hbegin : part.isPrefixOf (x :: rest) = true :=
            List.isPrefixOf_iff_prefix.mpr (hlist ▸ List.prefix_append part after)
          rw [findSlice, if_pos hbegin]
  | cons x filling ih =>
      obtain ⟨position, hposition, hle⟩ := ih
      rw [List.cons_append, List.cons_append, findSlice]
      split
      · exact ⟨0, rfl, Nat.zero_le _⟩
      · rw [hposition]
        exact ⟨position + 1, rfl, Nat.succ_le_succ hle⟩

/-- An occurrence is the one that is found exactly if no other begins before it. -/
theorem findSlice_eq_length_iff (part before after : List α) :
    findSlice part (before ++ part ++ after) = some before.length ↔
      ∀ front back, before ++ part = front ++ part ++ back → back = [] := by
  constructor
  · intro h front back heq
    have hlength := congrArg List.length heq
    obtain ⟨position, hposition, hle⟩ := findSlice_le_of_append part front (back ++ after)
    rw [← List.append_assoc, ← heq] at hposition
    obtain rfl : before.length = position := Option.some.inj (h.symm.trans hposition)
    simp only [List.length_append] at hlength
    exact List.eq_nil_of_length_eq_zero (by omega)
  · intro hfirst
    obtain ⟨position, hposition, hle⟩ := findSlice_le_of_append part before after
    have hmatch := eq_append_of_findSlice hposition
    have hlength := findSlice_add_length_le hposition
    -- what is found ends inside `before ++ part`
    have hbegin : (before ++ part ++ after).take position ++ part <+: before ++ part := by
      refine List.prefix_of_prefix_length_le ⟨_, hmatch.symm⟩ (List.prefix_append _ after) ?_
      simp only [List.length_append, List.length_take] at hlength ⊢
      omega
    obtain ⟨back, hback⟩ := hbegin
    have hnil := hfirst _ _ hback.symm
    have hsame := congrArg List.length hback
    rw [hnil] at hsame
    simp only [List.length_append, List.length_take, List.length_nil] at hsame hlength
    rw [hposition]
    congr 1
    omega

/-- What is left after each part was taken at its first occurrence. -/
def leftmost : List (List α) → List α → Option (List α)
  | [], xs => some xs
  | part :: parts, xs =>
      match findSlice part xs with
      | none => none
      | some position => leftmost parts (xs.drop (position + part.length))

theorem scattered_of_leftmost {parts : List (List α)} {xs rest : List α}
    (h : leftmost parts xs = some rest) : Scattered parts xs rest := by
  induction parts generalizing xs with
  | nil => exact Option.some.inj h
  | cons part parts ih =>
      unfold leftmost at h
      split at h
      · cases h
      · next position hposition => exact ⟨_, _, eq_append_of_findSlice hposition, ih h⟩

/-- Wherever the parts can be placed in an end of a list, the search places them in the
list, and leaves at least as much of it. -/
theorem leftmost_of_scattered {parts : List (List α)} {xs tail rest : List α}
    (htail : tail <:+ xs) (h : Scattered parts tail rest) :
    ∃ left, leftmost parts xs = some left ∧ rest <:+ left := by
  induction parts generalizing xs tail with
  | nil =>
      have hrest : tail = rest := h
      exact ⟨xs, rfl, hrest ▸ htail⟩
  | cons part parts ih =>
      obtain ⟨filling, after, rfl, hafter⟩ := h
      obtain ⟨before, rfl⟩ := htail
      have hlist : before ++ (filling ++ part ++ after) = (before ++ filling) ++ part ++ after := by
        simp
      obtain ⟨position, hposition, hle⟩ := findSlice_le_of_append part (before ++ filling) after
      -- the first occurrence is not later than this one, so no less is left behind it
      have hafter_suffix : after <:+
          ((before ++ filling) ++ part ++ after).drop (position + part.length) := by
        have hend : after = ((before ++ filling) ++ part ++ after).drop
            ((before ++ filling).length + part.length) := by
          rw [← List.length_append, List.drop_left]
        have hmore : (before ++ filling).length + part.length =
            (position + part.length) + ((before ++ filling).length - position) := by
          omega
        rw [hmore, ← List.drop_drop] at hend
        exact ⟨_, (congrArg _ hend).trans (List.take_append_drop _ _)⟩
      obtain ⟨left, hleft, hrest⟩ := ih hafter_suffix hafter
      refine ⟨left, ?_, hrest⟩
      rw [hlist, leftmost, hposition]
      exact hleft

end Leftmost

end AspRust.Foundation
