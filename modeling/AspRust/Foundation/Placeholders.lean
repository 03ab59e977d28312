import AspRust.Foundation.Replacement

/-!
# Numbered placeholders

Parts of a text can be kept from a textual rewriting by putting a numbered mark in the place of
each and putting the parts back afterwards, one number after the other.  A mark that stands in
the rest of the text, or in a part that is put back, is then taken for a place.

`Apart` says that this does not happen: when a part is put back, its mark begins nowhere but in
its place.  That is exactly when every part comes back (`norm_putBack_iff`), also if the
result only matters up to some normal form.

### What is load-bearing

Parts are put back one number after the other, and a part that was put back is text for the next
number.  So a mark in a part matters only for the numbers behind it, and `Apart` is stated along
the order in which parts are put back.
-/

namespace AspRust.Foundation

/-- An occurrence of a pattern begins in a text, when another text follows it. -/
def BeginsIn (pattern text after : List Char) : Prop :=
  ∃ front back, text = front ++ back ∧ back ≠ [] ∧ pattern <+: back ++ after

section BeginsIn

variable {pattern replacement : List Char}

theorem not_beginsIn_nil (after : List Char) : ¬ BeginsIn pattern [] after := by
  rintro ⟨front, back, htext, hback, -⟩
  exact hback (List.append_eq_nil_iff.mp htext.symm).2

theorem beginsIn_cons {c : Char} {text after : List Char} :
    BeginsIn pattern (c :: text) after ↔
      pattern <+: c :: (text ++ after) ∨ BeginsIn pattern text after := by
  constructor
  · rintro ⟨front, back, htext, hback, hbegin⟩
    cases front with
    | nil =>
        rw [List.nil_append] at htext
        rw [← htext, List.cons_append] at hbegin
        exact Or.inl hbegin
    | cons d front => exact Or.inr ⟨front, back, (List.cons_eq_cons.mp htext).2, hback, hbegin⟩
  · rintro (hbegin | ⟨front, back, rfl, hback, hbegin⟩)
    · exact ⟨[], c :: text, rfl, List.cons_ne_nil _ _, hbegin⟩
    · exact ⟨c :: front, back, rfl, hback, hbegin⟩

theorem beginsIn_append {first second after : List Char} :
    BeginsIn pattern (first ++ second) after ↔
      BeginsIn pattern first (second ++ after) ∨ BeginsIn pattern second after := by
  induction first with
  | nil => simp [not_beginsIn_nil]
  | cons c first ih =>
      rw [List.cons_append, beginsIn_cons, beginsIn_cons, ih, List.append_assoc, or_assoc]

/-- Where no occurrence begins, a replacement passes. -/
theorem replaceAll_append_of_not_beginsIn {text after : List Char}
    (h : ¬ BeginsIn pattern text after) :
    replaceAll pattern replacement (text ++ after) =
      text ++ replaceAll pattern replacement after :=
  replaceAll_append_of_clear fun front back hsplit hback hbegin =>
    h ⟨front, back, hsplit, hback, hbegin⟩

end BeginsIn

/-- Marks for numbered places, and the characters that the parts put back begin and end with. -/
structure Placeholders where
  mark : ℕ → List Char
  IsMarkChar : Char → Prop
  IsFence : Char → Prop
  mark_ne_nil : ∀ index, mark index ≠ []
  isMarkChar_of_mem : ∀ {index c}, c ∈ mark index → IsMarkChar c
  eq_of_prefix : ∀ {first second after}, mark first <+: mark second ++ after → first = second
  not_isMarkChar : ∀ {c}, IsFence c → ¬ IsMarkChar c

namespace Placeholders

variable (marks : Placeholders)

/-- A text begins and ends with a fence. -/
def Fenced (literal : List Char) : Prop :=
  (∃ c rest, literal = c :: rest ∧ marks.IsFence c) ∧
    ∃ front c, literal = front ++ [c] ∧ marks.IsFence c

/-- Put the parts in the place of their marks, one after the other. -/
def putBack : ℕ → List (List Char) → List Char → List Char
  | _, [], text => text
  | index, literal :: rest, text =>
      putBack (index + 1) rest (replaceAll (marks.mark index) literal text)

/-- A text with marks in the places of its parts. -/
def masked : ℕ → List Char → List (List Char × List Char) → List Char
  | _, front, [] => front
  | index, front, (_, code) :: rest => front ++ (marks.mark index ++ masked (index + 1) code rest)

/-- A text with its parts. -/
def filled : List Char → List (List Char × List Char) → List Char
  | front, [] => front
  | front, (literal, code) :: rest => front ++ (literal ++ filled code rest)

/-- When a part is put back, its mark begins nowhere but in its place. -/
def Apart : ℕ → List Char → List (List Char × List Char) → Prop
  | _, _, [] => True
  | index, front, (literal, code) :: rest =>
      ¬ BeginsIn (marks.mark index) front (marks.mark index ++ masked marks (index + 1) code rest) ∧
      ¬ BeginsIn (marks.mark index) (masked marks (index + 1) code rest) [] ∧
      Apart (index + 1) (front ++ (literal ++ code)) rest

variable {marks}

/-! ## Putting back

A part is put back by a replacement in the whole text.  It goes from the left, so what
it does to a text is said by its first character, or by the mark that the text begins
with. -/

theorem putBack_append_cons {c : Char} (hc : ¬ marks.IsMarkChar c) (index : ℕ)
    (literals : List (List Char)) (before after : List Char) :
    putBack marks index literals (before ++ c :: after) =
      putBack marks index literals before ++ c :: putBack marks index literals after := by
  induction literals generalizing index before after with
  | nil => rfl
  | cons literal rest ih =>
      have hnotMem : c ∉ marks.mark index := fun hmem => hc (marks.isMarkChar_of_mem hmem)
      rw [putBack, putBack, putBack,
        replaceAll_append_cons_of_notMem (marks.mark_ne_nil index) hnotMem, ih]

@[simp]
theorem putBack_nil (index : ℕ) (literals : List (List Char)) :
    putBack marks index literals [] = [] := by
  induction literals generalizing index with
  | nil => rfl
  | cons literal rest ih => rw [putBack, replaceAll_nil, ih]

theorem putBack_cons_fence {c : Char} (hc : marks.IsFence c) (index : ℕ)
    (literals : List (List Char)) (text : List Char) :
    putBack marks index literals (c :: text) = c :: putBack marks index literals text := by
  have h := putBack_append_cons (marks.not_isMarkChar hc) index literals [] text
  rwa [List.nil_append, putBack_nil, List.nil_append] at h

/-- What follows a part is put back on its own. -/
theorem putBack_append_fenced {literal : List Char} (hfenced : marks.Fenced literal) (index : ℕ)
    (literals : List (List Char)) (text : List Char) :
    putBack marks index literals (literal ++ text) =
      putBack marks index literals literal ++ putBack marks index literals text := by
  obtain ⟨-, front, c, rfl, hc⟩ := hfenced
  have hplain := marks.not_isMarkChar hc
  rw [List.append_assoc, List.singleton_append, putBack_append_cons hplain,
    putBack_append_cons hplain, putBack_nil, List.append_assoc, List.singleton_append]

/-- A text of mark characters at the front of the result was there, and nothing began in it. -/
theorem replaceAll_eq_append {index : ℕ} {literal kept text rest : List Char}
    (hfenced : marks.Fenced literal) (hkept : ∀ c ∈ kept, marks.IsMarkChar c)
    (h : replaceAll (marks.mark index) literal text = kept ++ rest) :
    ∃ after, text = kept ++ after ∧ replaceAll (marks.mark index) literal after = rest ∧
      ¬ BeginsIn (marks.mark index) kept after := by
  induction kept generalizing text with
  | nil => exact ⟨text, rfl, h, not_beginsIn_nil _⟩
  | cons c kept ih =>
      cases text with
      | nil => exact absurd h (by simp)
      | cons d text =>
          by_cases hbegin : marks.mark index <+: d :: text
          · -- the result would begin with a fence
            obtain ⟨after, hafter⟩ := hbegin
            obtain ⟨⟨x, others, rfl, hx⟩, -⟩ := hfenced
            rw [← hafter, replaceAll_append (marks.mark_ne_nil index), List.cons_append,
              List.cons_append] at h
            exact absurd ((List.cons_eq_cons.mp h).1 ▸ hkept c List.mem_cons_self)
              (marks.not_isMarkChar hx)
          · rw [replaceAll_cons hbegin, List.cons_append] at h
            obtain ⟨rfl, htail⟩ := List.cons_eq_cons.mp h
            obtain ⟨after, rfl, hafter, hbegins⟩ :=
              ih (fun e he => hkept e (List.mem_cons_of_mem _ he)) htail
            refine ⟨after, rfl, hafter, fun hmem => ?_⟩
            rcases beginsIn_cons.mp hmem with hfirst | hlater
            · exact hbegin hfirst
            · exact hbegins hlater

/-- **The first character** of a text is kept, or the text begins with a mark that no earlier
replacement breaks, and a part is put in its place. -/
theorem putBack_cons {literals : List (List Char)}
    (hfenced : ∀ literal ∈ literals, marks.Fenced literal) (index : ℕ) (c : Char)
    (text : List Char) :
    putBack marks index literals (c :: text) = c :: putBack marks index literals text ∨
    ∃ offset literal after, literals[offset]? = some literal ∧
      c :: text = marks.mark (index + offset) ++ after ∧
      putBack marks index literals (c :: text) =
        putBack marks (index + offset + 1) (literals.drop (offset + 1)) literal ++
          putBack marks index literals after ∧
      (0 < offset → ¬ BeginsIn (marks.mark index) (marks.mark (index + offset)) after) := by
  induction literals generalizing index text with
  | nil => exact Or.inl rfl
  | cons first rest ih =>
      have hfirst := hfenced first List.mem_cons_self
      by_cases hbegin : marks.mark index <+: c :: text
      · obtain ⟨after, hafter⟩ := hbegin
        refine Or.inr ⟨0, first, after, rfl, hafter.symm, ?_, fun h => absurd h (lt_irrefl 0)⟩
        rw [← hafter, putBack, replaceAll_append (marks.mark_ne_nil index),
          putBack_append_fenced hfirst]
        rfl
      · rw [putBack, putBack, replaceAll_cons hbegin]
        rcases ih (fun literal hmem => hfenced literal (List.mem_cons_of_mem _ hmem)) (index + 1)
          (replaceAll (marks.mark index) first text) with
          hkept | ⟨offset, literal, after, hliteral, hmark, hput, -⟩
        · exact Or.inl hkept
        · have hindex : index + (offset + 1) = index + 1 + offset := by omega
          rw [← replaceAll_cons hbegin] at hmark
          obtain ⟨before, hbefore, hreplaced, hbegins⟩ := replaceAll_eq_append hfirst
            (fun _ hmem => marks.isMarkChar_of_mem hmem) hmark
          refine Or.inr ⟨offset + 1, literal, before, hliteral, ?_, ?_, fun _ => ?_⟩
          · rw [hindex, hbefore]
          · rw [hput, ← hreplaced, hindex, List.drop_succ_cons, putBack]
          · rwa [hindex]

/-- Putting parts back changes a text where a mark character becomes a fence, if at all. -/
theorem putBack_eq_or {literals : List (List Char)}
    (hfenced : ∀ literal ∈ literals, marks.Fenced literal) (index : ℕ) (text : List Char) :
    putBack marks index literals text = text ∨
    ∃ front c d rest rest', text = front ++ c :: rest ∧
      putBack marks index literals text = front ++ d :: rest' ∧
      marks.IsMarkChar c ∧ marks.IsFence d := by
  induction text with
  | nil => exact Or.inl (putBack_nil index literals)
  | cons c text ih =>
      rcases putBack_cons hfenced index c text with
        hkept | ⟨offset, literal, after, hliteral, hmark, hput, -⟩
      · rw [hkept]
        rcases ih with hsame | ⟨front, e, d, rest, rest', htext, hput, he, hd⟩
        · exact Or.inl (by rw [hsame])
        · exact Or.inr ⟨c :: front, e, d, rest, rest', by rw [htext]; rfl, by rw [hput]; rfl, he, hd⟩
      · obtain ⟨⟨d, others, rfl, hd⟩, -⟩ := hfenced literal (List.mem_of_getElem? hliteral)
        rw [putBack_cons_fence hd, List.cons_append] at hput
        refine Or.inr ⟨[], c, d, text, _, rfl, hput, ?_, hd⟩
        · obtain ⟨first, mark, hfirst⟩ :=
            List.exists_cons_of_ne_nil (marks.mark_ne_nil (index + offset))
          rw [hfirst, List.cons_append] at hmark
          rw [(List.cons_eq_cons.mp hmark).1]
          exact marks.isMarkChar_of_mem (hfirst ▸ List.mem_cons_self)

/-! ## Enough

If marks are apart, the replacement with a number finds the mark in its place only, and
what is left is the text with one part more in its place. -/

theorem filled_append (before front : List Char) (pieces : List (List Char × List Char)) :
    filled (before ++ front) pieces = before ++ filled front pieces := by
  cases pieces with
  | nil => rfl
  | cons piece rest => rw [filled, filled, List.append_assoc]

theorem masked_append (index : ℕ) (before front : List Char)
    (pieces : List (List Char × List Char)) :
    masked marks index (before ++ front) pieces = before ++ masked marks index front pieces := by
  cases pieces with
  | nil => rfl
  | cons piece rest => rw [masked, masked, List.append_assoc]

/-- A text with marks begins with its code or with a mark. -/
theorem head?_masked {index : ℕ} {front : List Char} {pieces : List (List Char × List Char)}
    {c : Char} (h : (masked marks index front pieces).head? = some c) :
    front.head? = some c ∨ marks.IsMarkChar c := by
  cases pieces with
  | nil => exact Or.inl h
  | cons piece rest =>
      rw [masked, List.head?_append, Option.or_eq_some_iff] at h
      rcases h with hfront | ⟨-, hmark⟩
      · exact Or.inl hfront
      · obtain ⟨d, mark, hd⟩ := List.exists_cons_of_ne_nil (marks.mark_ne_nil index)
        rw [hd] at hmark
        rw [← Option.some.inj hmark]
        exact Or.inr (marks.isMarkChar_of_mem (hd ▸ List.mem_cons_self))

/-- If a mark begins nowhere but in its place, the part is put there and nowhere else. -/
theorem replaceAll_masked {index : ℕ} {front literal code : List Char}
    {rest : List (List Char × List Char)}
    (hfront : ¬ BeginsIn (marks.mark index) front
      (marks.mark index ++ masked marks (index + 1) code rest))
    (hcode : ¬ BeginsIn (marks.mark index) (masked marks (index + 1) code rest) []) :
    replaceAll (marks.mark index) literal (masked marks index front ((literal, code) :: rest)) =
      masked marks (index + 1) (front ++ (literal ++ code)) rest := by
  have hafter := @replaceAll_append_of_not_beginsIn _ literal _ _ hcode
  rw [replaceAll_nil, List.append_nil] at hafter
  rw [masked, replaceAll_append_of_not_beginsIn hfront,
    replaceAll_append (marks.mark_ne_nil index), hafter, masked_append, masked_append]

/-- **If all marks are apart, every part comes back.** -/
theorem putBack_masked {index : ℕ} {front : List Char} {pieces : List (List Char × List Char)}
    (h : Apart marks index front pieces) :
    putBack marks index (pieces.map Prod.fst) (masked marks index front pieces) =
      filled front pieces := by
  induction pieces generalizing index front with
  | nil => rfl
  | cons piece rest ih =>
      obtain ⟨literal, code⟩ := piece
      obtain ⟨hfront, hcode, hrest⟩ := h
      rw [List.map_cons, putBack, replaceAll_masked hfront hcode, ih hrest, filled_append,
        filled_append, filled]

/-! ## Only then

A normal form is compared from the front.  Where a mark begins that should not, a part
is put, and its first character stands in the result where the text to be had has a
character of a mark.  The normal form has to tell these two apart, and equal normal
forms have to stay equal when a common first character is taken off. -/

section Norm

variable {β : Type*} {norm : List Char → β}
  (hcancel : ∀ {c : Char} {first second : List Char},
    norm (c :: first) = norm (c :: second) → norm first = norm second)
  (hdiffer : ∀ {c d : Char} {first second : List Char},
    marks.IsFence c → marks.IsMarkChar d → norm (c :: first) ≠ norm (d :: second))

include hcancel

theorem norm_cancel_append {before first second : List Char}
    (h : norm (before ++ first) = norm (before ++ second)) : norm first = norm second := by
  induction before with
  | nil => exact h
  | cons c before ih => exact ih (hcancel h)

include hdiffer

/-- A text that comes back as it was has no mark of the first part beginning in it. -/
theorem not_beginsIn_of_norm {index : ℕ} {first : List Char} {literals : List (List Char)}
    (hfenced : ∀ literal ∈ first :: literals, marks.Fenced literal)
    {front text text' : List Char}
    (h : norm (putBack marks index (first :: literals) (front ++ text)) = norm (front ++ text')) :
    ¬ BeginsIn (marks.mark index) front text ∧
      norm (putBack marks index (first :: literals) text) = norm text' := by
  induction front with
  | nil => exact ⟨not_beginsIn_nil _, h⟩
  | cons c front ih =>
      rcases putBack_cons hfenced index c (front ++ text) with
        hkept | ⟨offset, literal, after, hliteral, hmark, hput, -⟩
      · rw [List.cons_append, hkept] at h
        obtain ⟨hfront, hnorm⟩ := ih (hcancel h)
        refine ⟨fun hmem => ?_, hnorm⟩
        rcases beginsIn_cons.mp hmem with ⟨after, hafter⟩ | hlater
        · -- the first character would have become a fence
          obtain ⟨⟨x, others, hx, hfence⟩, -⟩ := hfenced first List.mem_cons_self
          rw [putBack, ← hafter, replaceAll_append (marks.mark_ne_nil index), hx,
            List.cons_append, putBack_cons_fence hfence] at hkept
          obtain ⟨d, mark, hd⟩ := List.exists_cons_of_ne_nil (marks.mark_ne_nil index)
          rw [hd, List.cons_append] at hafter
          refine marks.not_isMarkChar hfence ?_
          rw [(List.cons_eq_cons.mp hkept).1, ← (List.cons_eq_cons.mp hafter).1]
          exact marks.isMarkChar_of_mem (hd ▸ List.mem_cons_self)
        · exact hfront hlater
      · obtain ⟨⟨x, others, rfl, hfence⟩, -⟩ := hfenced literal (List.mem_of_getElem? hliteral)
        obtain ⟨d, mark, hd⟩ :=
          List.exists_cons_of_ne_nil (marks.mark_ne_nil (index + offset))
        rw [hd, List.cons_append] at hmark
        rw [List.cons_append, hput, putBack_cons_fence hfence, List.cons_append,
          (List.cons_eq_cons.mp hmark).1] at h
        exact absurd h (hdiffer hfence (marks.isMarkChar_of_mem (hd ▸ List.mem_cons_self)))

/-- Where a part comes back, what follows it does, and no earlier mark begins in its own. -/
theorem not_beginsIn_mark_of_norm {index offset : ℕ} {literals : List (List Char)}
    {literal text text' : List Char}
    (hfenced : ∀ literal ∈ literals, marks.Fenced literal)
    (hliteral : literals[offset]? = some literal)
    (h : norm (putBack marks index literals (marks.mark (index + offset) ++ text)) =
      norm (literal ++ text')) :
    (0 < offset → ¬ BeginsIn (marks.mark index) (marks.mark (index + offset)) text) ∧
      norm (putBack marks index literals text) = norm text' := by
  obtain ⟨c, mark, hc⟩ := List.exists_cons_of_ne_nil (marks.mark_ne_nil (index + offset))
  have hmarkChar : marks.IsMarkChar c := marks.isMarkChar_of_mem (hc ▸ List.mem_cons_self)
  have hfencedLiteral := hfenced literal (List.mem_of_getElem? hliteral)
  rcases putBack_cons hfenced index c (mark ++ text) with
    hkept | ⟨offset', literal', after, hliteral', hmark, hput, hbegins⟩
  · obtain ⟨⟨x, others, rfl, hfence⟩, -⟩ := hfencedLiteral
    rw [hc, List.cons_append, hkept] at h
    exact absurd h.symm (hdiffer hfence hmarkChar)
  · -- the mark at the front is the part's own
    rw [← List.cons_append, ← hc] at hmark hput
    have hindex : index + offset' = index + offset :=
      marks.eq_of_prefix ⟨after, hmark.symm⟩
    obtain rfl : offset' = offset := Nat.add_left_cancel hindex
    obtain rfl : literal' = literal := Option.some.inj (hliteral'.symm.trans hliteral)
    obtain rfl : text = after := List.append_cancel_left hmark
    refine ⟨hbegins, ?_⟩
    rw [hput] at h
    have hlater : ∀ literal ∈ literals.drop (offset' + 1), marks.Fenced literal :=
      fun literal hmem => hfenced literal (List.mem_of_mem_drop hmem)
    rcases putBack_eq_or hlater (index + offset' + 1) literal' with
      hsame | ⟨front, e, d, rest, rest', htext, hchanged, he, hd⟩
    · rw [hsame] at h
      exact norm_cancel_append hcancel h
    · rw [hchanged, htext, List.append_assoc, List.append_assoc] at h
      exact absurd (norm_cancel_append hcancel h) (hdiffer hd he)

/-- Where the rest of a text comes back, no earlier mark begins in it. -/
theorem not_beginsIn_masked_of_norm {index : ℕ} {first : List Char} {literals : List (List Char)}
    (hfenced : ∀ literal ∈ first :: literals, marks.Fenced literal)
    {pieces : List (List Char × List Char)} {offset : ℕ} {front : List Char}
    (hpieces : pieces.map Prod.fst = (first :: literals).drop (offset + 1))
    (h : norm (putBack marks index (first :: literals)
      (masked marks (index + (offset + 1)) front pieces)) = norm (filled front pieces)) :
    ¬ BeginsIn (marks.mark index) (masked marks (index + (offset + 1)) front pieces) [] := by
  induction pieces generalizing offset front with
  | nil =>
      have hfront : norm (putBack marks index (first :: literals) (front ++ [])) =
          norm (front ++ []) := by
        rw [List.append_nil]
        exact h
      exact (not_beginsIn_of_norm hcancel hdiffer hfenced hfront).1
  | cons piece rest ih =>
      obtain ⟨literal, code⟩ := piece
      have hliteral : (first :: literals)[offset + 1]? = some literal := by
        rw [← List.head?_drop, ← hpieces]
        rfl
      obtain ⟨hfront, hnorm⟩ := not_beginsIn_of_norm hcancel hdiffer hfenced h
      obtain ⟨hmark, hnorm⟩ :=
        not_beginsIn_mark_of_norm hcancel hdiffer hfenced hliteral hnorm
      have hrest := @ih (offset + 1) code (by
        rw [← List.tail_drop, ← hpieces]
        rfl) hnorm
      rw [masked, beginsIn_append, beginsIn_append, List.append_nil, List.append_nil]
      rintro (hbegins | hbegins | hbegins)
      · exact hfront hbegins
      · exact hmark (Nat.succ_pos offset) hbegins
      · exact hrest hbegins

/-- **Every part comes back** if and only if all marks are apart. -/
theorem norm_putBack_iff {index : ℕ} {front : List Char} {pieces : List (List Char × List Char)}
    (hfenced : ∀ piece ∈ pieces, marks.Fenced piece.1) :
    norm (putBack marks index (pieces.map Prod.fst) (masked marks index front pieces)) =
        norm (filled front pieces) ↔
      Apart marks index front pieces := by
  refine ⟨fun h => ?_, fun h => by rw [putBack_masked h]⟩
  induction pieces generalizing index front with
  | nil => trivial
  | cons piece rest ih =>
      obtain ⟨literal, code⟩ := piece
      have hliterals : ∀ other ∈ literal :: rest.map Prod.fst, marks.Fenced other := by
        intro other hmem
        obtain ⟨piece, hpiece, rfl⟩ :=
          List.mem_map.mp (show other ∈ ((literal, code) :: rest).map Prod.fst from hmem)
        exact hfenced piece hpiece
      obtain ⟨hfront, hnorm⟩ := not_beginsIn_of_norm hcancel hdiffer hliterals h
      obtain ⟨-, hnorm⟩ := @not_beginsIn_mark_of_norm marks _ norm hcancel hdiffer index 0
        (literal :: rest.map Prod.fst) literal _ _ hliterals rfl hnorm
      have hcode := @not_beginsIn_masked_of_norm marks _ norm hcancel hdiffer index literal
        (rest.map Prod.fst) hliterals rest 0 code rfl hnorm
      refine ⟨hfront, hcode, ih (fun other hmem => hfenced other (List.mem_cons_of_mem _ hmem)) ?_⟩
      rw [List.map_cons, putBack, replaceAll_masked hfront hcode] at h
      rw [h, filled_append, filled_append, filled]

end Norm

end Placeholders

end AspRust.Foundation
