import AspRust.Discovery.Membership
import AspRust.Foundation.Wildcard

/-!
# What a star matches

Discovery and the provider compare one component of a member pattern with one component
of a path by the same search.  The pattern is cut at its stars, the first part must begin
the value, and each further part is looked for in what is left and taken at its first
occurrence.  For the last part this is one occurrence too few: it has to end the value,
so the one to take is the last.  A pattern such as `*-core` therefore refuses
`asp-core-core`.

`globComponentMatches_eq_true_iff` says what the search accepts: the values that fill the
pattern, and among those, when the pattern does not end in a star, only the ones of which
no shorter beginning fills it.

### What is load-bearing

The search never goes back.  `Foundation.Wildcard` says that this loses nothing for the parts
in the middle, whose first occurrence leaves the most; it loses the values in which the last
part occurs before the end as well.  The condition in `globComponentMatches_eq_true_iff` is
that of a shorter beginning, since a last part that occurs earlier ends a beginning which
fills the pattern too.
-/

namespace AspRust.Discovery

open AspRust.Foundation

/-! ## The parts behind the first star -/

theorem findSlice_nil (xs : List Char) : findSlice [] xs = some 0 := by
  cases xs <;> rfl

/-- Behind a last part that is empty nothing is asked of the end of the value. -/
theorem globPartsMatch_concat_nil (parts : List (List Char)) (remaining : List Char) :
    globPartsMatch (parts ++ [[]]) remaining = leftmost (parts ++ [[]]) remaining := by
  induction parts generalizing remaining with
  | nil => simp [globPartsMatch, leftmost, findSlice_nil]
  | cons part parts ih =>
      rw [List.cons_append, globPartsMatch, leftmost]
      by_cases hpart : part = []
      · subst hpart
        simp [findSlice_nil, ih]
      · rw [if_neg hpart]
        cases hfind : findSlice part remaining with
        | none => rfl
        | some index => simp [ih]

/-- A last part that is not empty must end the value where it is first found. -/
theorem globPartsMatch_concat_literal (parts : List (List Char)) {last : List Char}
    (hlast : last ≠ []) (remaining : List Char) :
    globPartsMatch (parts ++ [last]) remaining =
      if leftmost (parts ++ [last]) remaining = some [] then some [] else none := by
  induction parts generalizing remaining with
  | nil =>
      rw [List.nil_append, globPartsMatch, if_neg hlast, leftmost]
      cases hfind : findSlice last remaining with
      | none => rfl
      | some index =>
          by_cases hafter : remaining.drop (index + last.length) = []
          · simp [globPartsMatch, leftmost, hafter]
          · simp [leftmost, hafter]
  | cons part parts ih =>
      rw [List.cons_append, globPartsMatch, leftmost]
      by_cases hpart : part = []
      · subst hpart
        simp [findSlice_nil, ih]
      · rw [if_neg hpart]
        cases hfind : findSlice part remaining with
        | none => rfl
        | some index => simp [ih]

/-! ## One component -/

/-- The comparison as it is made for a pattern with a star: the first part begins the
value, and the others are matched against what follows. -/
theorem globComponentMatches_of_split {pattern value first : List Char}
    {parts : List (List Char)} (hstar : '*' ∈ pattern)
    (hsplit : splitWhen (· = '*') pattern = first :: parts) :
    globComponentMatches pattern value = true ↔
      ∃ after remaining, value = first ++ after ∧ globPartsMatch parts after = some remaining ∧
        (pattern.getLast? = some '*' ∨ remaining = []) := by
  by_cases hpattern : pattern = ['*']
  · -- a lone star is matched before the pattern is split
    subst hpattern
    obtain ⟨rfl, rfl⟩ : [] = first ∧ [[]] = parts := by simpa [splitWhen] using hsplit
    refine iff_of_true rfl ⟨value, value, rfl, ?_, Or.inl rfl⟩
    simp [globPartsMatch]
  · rw [globComponentMatches, if_neg hpattern, if_neg (not_not_intro hstar), hsplit]
    by_cases hbegin : first <+: value
    · obtain ⟨after, rfl⟩ := hbegin
      have hfirst : first.isPrefixOf (first ++ after) = true :=
        List.isPrefixOf_iff_prefix.mpr (List.prefix_append _ _)
      simp only [hfirst, Bool.not_true, Bool.false_eq_true, if_false, List.drop_left]
      constructor
      · intro h
        cases hparts : globPartsMatch parts after with
        | none => simp [hparts] at h
        | some remaining => exact ⟨after, remaining, rfl, hparts, by simpa [hparts] using h⟩
      · rintro ⟨behind, remaining, hbehind, hparts, hend⟩
        obtain rfl := List.append_cancel_left hbehind
        simpa [hparts] using hend
    · have hfirst : first.isPrefixOf value = false :=
        Bool.eq_false_iff.mpr fun h => hbegin (List.isPrefixOf_iff_prefix.mp h)
      simp only [hfirst, Bool.not_false, if_true, Bool.false_eq_true, false_iff]
      rintro ⟨after, -, rfl, -⟩
      exact hbegin (List.prefix_append _ _)

/-- A value is the only one to fill a pattern without a star. -/
theorem fills_iff_eq {pattern value : List Char} (hstar : '*' ∉ pattern) :
    Fills '*' pattern value ↔ pattern = value := by
  have hsplit : splitWhen (· = '*') pattern = [pattern] :=
    splitWhen_of_notMem fun c hc => decide_eq_false fun heq => hstar (heq ▸ hc)
  rw [fills_iff_scattered hsplit]
  constructor
  · rintro ⟨after, rfl, hafter⟩
    have hnil : after = [] := hafter
    rw [hnil, List.append_nil]
  · rintro rfl
    exact ⟨[], (List.append_nil _).symm, rfl⟩

/-- A pattern that ends in a star is compared as it should be. -/
theorem globComponentMatches_concat_star (start value : List Char) :
    globComponentMatches (start ++ ['*']) value = true ↔ Fills '*' (start ++ ['*']) value := by
  obtain ⟨first, parts, hstart⟩ :=
    List.exists_cons_of_ne_nil (splitWhen_ne_nil (· = '*') start)
  have hsplit : splitWhen (· = '*') (start ++ ['*']) = first :: (parts ++ [[]]) := by
    rw [splitWhen_concat_separator (by rfl), hstart, List.cons_append]
  rw [globComponentMatches_of_split (by simp) hsplit, fills_iff_scattered hsplit]
  constructor
  · rintro ⟨after, remaining, rfl, hparts, -⟩
    rw [globPartsMatch_concat_nil] at hparts
    exact ⟨after, rfl, scattered_nil_of_last_nil (scattered_of_leftmost hparts)⟩
  · rintro ⟨after, rfl, hafter⟩
    obtain ⟨left, hleft, -⟩ := leftmost_of_scattered (List.suffix_refl after) hafter
    exact ⟨after, left, rfl, (globPartsMatch_concat_nil _ _).trans hleft, Or.inl (by simp)⟩

/-- A pattern with a star that does not end in one takes a value only where no shorter
beginning of the value fills it. -/
theorem globComponentMatches_concat_literal {start value : List Char} {c : Char}
    (hstar : '*' ∈ start) (hc : c ≠ '*') :
    globComponentMatches (start ++ [c]) value = true ↔
      Fills '*' (start ++ [c]) value ∧
        ∀ shorter, shorter <+: value → Fills '*' (start ++ [c]) shorter → shorter = value := by
  obtain ⟨first, behindStar, rfl, hfree⟩ := List.eq_append_cons_of_mem hstar
  obtain ⟨parts, last, hparts⟩ :=
    @splitWhen_concat_literal (· = '*') c (decide_eq_false hc) behindStar
  have hlast : last ++ [c] ≠ [] := List.concat_ne_nil _ _
  have hsplit : splitWhen (· = '*') (first ++ '*' :: behindStar ++ [c]) =
      first :: (parts ++ [last ++ [c]]) := by
    rw [List.append_assoc, List.cons_append, ← hparts]
    exact splitWhen_append_cons
      (fun other hother => decide_eq_false fun heq => hfree (heq ▸ hother)) rfl
  rw [globComponentMatches_of_split (List.mem_append_left _ hstar) hsplit]
  simp only [fills_iff_scattered hsplit, globPartsMatch_concat_literal parts hlast]
  constructor
  · rintro ⟨after, remaining, rfl, hfound, -⟩
    have hleftmost : leftmost (parts ++ [last ++ [c]]) after = some [] := by
      by_contra hother
      simp [hother] at hfound
    refine ⟨⟨after, rfl, scattered_of_leftmost hleftmost⟩, ?_⟩
    rintro shorter ⟨tail, htail⟩ ⟨front, rfl, hfront⟩
    -- the tail behind a shorter placement is a part of what the search leaves, nothing
    have hafter : front ++ tail = after := by
      rw [List.append_assoc] at htail
      exact List.append_cancel_left htail
    obtain ⟨left, hleft, hsuffix⟩ := leftmost_of_scattered (List.suffix_refl after)
      (scattered_iff_exists_append.mpr ⟨front, hafter.symm, hfront⟩)
    obtain rfl : [] = left := Option.some.inj (hleftmost.symm.trans hleft)
    rw [← hafter, List.suffix_nil.mp hsuffix, List.append_nil]
  · rintro ⟨⟨after, rfl, hafter⟩, hshortest⟩
    obtain ⟨left, hleft, -⟩ := leftmost_of_scattered (List.suffix_refl after) hafter
    obtain ⟨front, hfront, hscattered⟩ :=
      scattered_iff_exists_append.mp (scattered_of_leftmost hleft)
    -- what the search leaves is what a shorter value would not have
    have hsame : first ++ front = first ++ after :=
      hshortest _ ⟨left, by rw [List.append_assoc, ← hfront]⟩ ⟨front, rfl, hscattered⟩
    have hnil : left = [] := by
      rw [← List.append_cancel_left hsame] at hfront
      simpa using hfront
    exact ⟨after, [], rfl, by rw [hleft, hnil, if_pos rfl], Or.inr rfl⟩

/-- **What the search accepts.**  The value fills the pattern, and unless the pattern
ends in a star no shorter beginning of the value does. -/
theorem globComponentMatches_eq_true_iff (pattern value : List Char) :
    globComponentMatches pattern value = true ↔
      Fills '*' pattern value ∧
        (pattern.getLast? = some '*' ∨
          ∀ shorter, shorter <+: value → Fills '*' pattern shorter → shorter = value) := by
  by_cases hstar : '*' ∈ pattern
  · obtain ⟨start, c, rfl⟩ := (List.eq_nil_or_concat' pattern).resolve_left
      (List.ne_nil_of_mem hstar)
    by_cases hc : c = '*'
    · subst hc
      rw [globComponentMatches_concat_star]
      simp
    · have hlast : (start ++ [c]).getLast? ≠ some '*' := by simpa using hc
      have hstart : '*' ∈ start := by simpa [Ne.symm hc] using hstar
      rw [globComponentMatches_concat_literal hstart hc]
      simp only [hlast, false_or]
  · have hpattern : pattern ≠ ['*'] := fun h => hstar (h ▸ List.mem_singleton_self _)
    rw [globComponentMatches, if_neg hpattern, if_pos hstar, decide_eq_true_iff]
    simp only [fills_iff_eq hstar]
    constructor
    · rintro rfl
      exact ⟨rfl, Or.inr fun shorter _ hshorter => hshorter.symm⟩
    · exact fun h => h.1

/-- **When a star matches what it should.**  Both comparisons accept exactly the values
that fill the pattern, unless the pattern does not end in a star and both the value and
a shorter beginning of it fill the pattern.

The parts between the stars are searched from the left, which is right for all parts but
the last: that one has to stand at the end of the value, and it is looked for at its
first place. -/
theorem componentMatches_correct_iff (pattern value : List Char) :
    ((globComponentMatches pattern value = true ↔ Fills '*' pattern value) ∧
        (workspaceMemberComponentMatches pattern value = true ↔ Fills '*' pattern value)) ↔
      (pattern.getLast? = some '*' ∨ ¬ Fills '*' pattern value ∨
        ∀ shorter, shorter <+: value → Fills '*' pattern shorter → shorter = value) := by
  have hcopy : workspaceMemberComponentMatches pattern value = globComponentMatches pattern value :=
    rfl
  rw [hcopy, and_self, globComponentMatches_eq_true_iff]
  tauto

/-- The value `asp-core-core` is `*-core` with the star replaced by `asp-core`, and both
comparisons refuse it. -/
theorem repeated_part_refused :
    Fills '*' "*-core".toList "asp-core-core".toList ∧
      globComponentMatches "*-core".toList "asp-core-core".toList = false ∧
      workspaceMemberComponentMatches "*-core".toList "asp-core-core".toList = false := by
  refine ⟨?_, by decide, by decide⟩
  have hcore : Fills '*' "-core".toList "-core".toList := (fills_iff_eq (by decide)).mpr rfl
  exact Fills.wildcard "asp-core".toList hcore

end AspRust.Discovery
