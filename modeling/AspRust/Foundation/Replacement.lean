import AspRust.Foundation.Text

/-!
# Textual replacement

`replaceAll` replaces a pattern in a text wherever it stands, from the left, and goes on after
each occurrence.  What it does is said by three equations: an occurrence at the beginning is
replaced, any other character is passed over, and the empty text is left as it is.
`replaceAll_induction` is the induction that goes with them.

### Use

A text with marks in it is a list of segments, the marks and the texts between them
(`segmentsText`).  `replaceAll_segmentsText_iff` asks for occurrences of the pattern that are no
marks; they are counted, since an occurrence that begins in one segment and ends in the next
belongs to neither.
-/

namespace AspRust.Foundation

/-- A text with every occurrence of a pattern replaced. -/
def replaceAll (pattern replacement text : List Char) : List Char :=
  List.intercalate replacement (splitPattern pattern text)

section Pieces

variable {pattern : List Char}

/-- The characters that are still to be passed may as well be dropped. -/
theorem splitPatternFrom_eq_drop (skip : ℕ) (text : List Char) :
    splitPatternFrom pattern skip text = splitPattern pattern (text.drop skip) := by
  induction text generalizing skip with
  | nil =>
      rw [List.drop_nil]
      cases skip <;> rfl
  | cons c rest ih =>
      cases skip with
      | zero => rfl
      | succ skip => exact ih skip

theorem splitPattern_ne_nil (text : List Char) : splitPattern pattern text ≠ [] := by
  cases text with
  | nil => exact List.cons_ne_nil _ _
  | cons c rest =>
      unfold splitPattern splitPatternFrom
      split
      · exact List.cons_ne_nil _ _
      · split <;> exact List.cons_ne_nil _ _

theorem splitPattern_append (hpattern : pattern ≠ []) (rest : List Char) :
    splitPattern pattern (pattern ++ rest) = [] :: splitPattern pattern rest := by
  obtain ⟨first, others, rfl⟩ := List.exists_cons_of_ne_nil hpattern
  have hbegin : (first :: others).isPrefixOf (first :: (others ++ rest)) = true :=
    List.isPrefixOf_iff_prefix.mpr (List.prefix_append (first :: others) rest)
  rw [List.cons_append, splitPattern, splitPatternFrom, if_pos hbegin, splitPatternFrom_eq_drop,
    List.length_cons, Nat.add_sub_cancel, List.drop_left]

theorem splitPattern_cons {c : Char} {rest : List Char} (h : ¬ pattern <+: c :: rest) :
    ∃ piece pieces, splitPattern pattern rest = piece :: pieces ∧
      splitPattern pattern (c :: rest) = (c :: piece) :: pieces := by
  obtain ⟨piece, pieces, hrest⟩ := List.exists_cons_of_ne_nil (splitPattern_ne_nil rest)
  refine ⟨piece, pieces, hrest, ?_⟩
  have hbegin : ¬ pattern.isPrefixOf (c :: rest) = true :=
    fun hmatch => h (List.isPrefixOf_iff_prefix.mp hmatch)
  rw [splitPattern, splitPatternFrom, if_neg hbegin]
  rw [splitPattern] at hrest
  rw [hrest]

end Pieces

section ReplaceAll

variable {pattern replacement : List Char}

@[simp]
theorem replaceAll_nil : replaceAll pattern replacement [] = [] := rfl

/-- An occurrence at the beginning is replaced. -/
theorem replaceAll_append (hpattern : pattern ≠ []) (rest : List Char) :
    replaceAll pattern replacement (pattern ++ rest) =
      replacement ++ replaceAll pattern replacement rest := by
  obtain ⟨piece, pieces, hrest⟩ :=
    List.exists_cons_of_ne_nil (@splitPattern_ne_nil pattern rest)
  rw [replaceAll, replaceAll, splitPattern_append hpattern, hrest, List.intercalate_cons_cons,
    List.nil_append]

/-- A character where no occurrence begins is passed over. -/
theorem replaceAll_cons {c : Char} {rest : List Char} (h : ¬ pattern <+: c :: rest) :
    replaceAll pattern replacement (c :: rest) =
      c :: replaceAll pattern replacement rest := by
  obtain ⟨piece, pieces, hrest, hcons⟩ := splitPattern_cons h
  rw [replaceAll, replaceAll, hcons, hrest]
  cases pieces with
  | nil => simp
  | cons next others =>
      rw [List.intercalate_cons_cons, List.intercalate_cons_cons, List.cons_append,
        List.cons_append]

/-- A text is empty, begins with an occurrence, or begins with a character where none begins. -/
theorem replaceAll_induction {motive : List Char → Prop} (hpattern : pattern ≠ [])
    (nil : motive []) (occurrence : ∀ rest, motive rest → motive (pattern ++ rest))
    (passed : ∀ c rest, ¬ pattern <+: c :: rest → motive rest → motive (c :: rest))
    (text : List Char) : motive text := by
  induction hlength : text.length using Nat.strong_induction_on generalizing text with
  | _ length ih =>
      cases text with
      | nil => exact nil
      | cons c rest =>
          by_cases hbegin : pattern <+: c :: rest
          · obtain ⟨after, hafter⟩ := hbegin
            rw [← hafter]
            refine occurrence after (ih after.length ?_ after rfl)
            have hpos := List.length_pos_of_ne_nil hpattern
            rw [← hlength, ← hafter, List.length_append]
            omega
          · refine passed c rest hbegin (ih rest.length ?_ rest rfl)
            rw [← hlength]
            exact Nat.lt_succ_self rest.length

/-- What is in the text afterwards was there before or is in the replacement. -/
theorem mem_of_mem_replaceAll {text : List Char} {c : Char} (hpattern : pattern ≠ [])
    (hc : c ∈ replaceAll pattern replacement text) : c ∈ replacement ∨ c ∈ text := by
  induction text using replaceAll_induction hpattern with
  | nil => exact Or.inr hc
  | occurrence rest ih =>
      rw [replaceAll_append hpattern, List.mem_append] at hc
      rcases hc with hc | hc
      · exact Or.inl hc
      · exact (ih hc).imp id (List.mem_append_right _)
  | passed first rest hpassed ih =>
      rw [replaceAll_cons hpassed, List.mem_cons] at hc
      rcases hc with rfl | hc
      · exact Or.inr List.mem_cons_self
      · exact (ih hc).imp id (List.mem_cons_of_mem _)

/-- Where the pattern does not occur nothing is replaced. -/
theorem replaceAll_of_not_occurs {text : List Char} (h : ¬ pattern <:+: text) :
    replaceAll pattern replacement text = text := by
  induction text with
  | nil => rfl
  | cons c rest ih =>
      rw [replaceAll_cons fun hbegin => h hbegin.isInfix,
        ih fun hinside => h (hinside.trans (List.infix_cons List.infix_rfl))]

/-- A part where no occurrence begins is passed over. -/
theorem replaceAll_append_of_clear {chunk rest : List Char}
    (h : ∀ front back, chunk = front ++ back → back ≠ [] → ¬ pattern <+: back ++ rest) :
    replaceAll pattern replacement (chunk ++ rest) =
      chunk ++ replaceAll pattern replacement rest := by
  induction chunk with
  | nil => rfl
  | cons c chunk ih =>
      have hfirst := h [] (c :: chunk) rfl (List.cons_ne_nil _ _)
      rw [List.cons_append] at hfirst ⊢
      rw [replaceAll_cons hfirst, ih, List.cons_append]
      intro front back hchunk hback
      exact h (c :: front) back (by rw [hchunk, List.cons_append]) hback

/-- A pattern without some character does not reach over it. -/
theorem prefix_of_prefix_append_cons {c : Char} (hc : c ∉ pattern) {before after : List Char}
    (h : pattern <+: before ++ c :: after) : pattern <+: before := by
  obtain ⟨tail, htail⟩ := h
  rcases List.append_eq_append_iff.mp htail with ⟨more, hbefore, -⟩ | ⟨more, hlonger, hrest⟩
  · exact ⟨more, hbefore.symm⟩
  · cases more with
    | nil =>
        rw [List.append_nil] at hlonger
        exact hlonger ▸ List.prefix_rfl
    | cons first others =>
        obtain ⟨rfl, -⟩ := List.cons_eq_cons.mp hrest
        exact absurd (hlonger ▸ List.mem_append_right _ List.mem_cons_self) hc

/-- A character that the pattern does not have divides the text. -/
theorem replaceAll_append_cons_of_notMem {c : Char} (hpattern : pattern ≠ []) (hc : c ∉ pattern)
    (before after : List Char) :
    replaceAll pattern replacement (before ++ c :: after) =
      replaceAll pattern replacement before ++ c :: replaceAll pattern replacement after := by
  induction before using replaceAll_induction hpattern with
  | nil =>
      rw [List.nil_append, replaceAll_nil, List.nil_append]
      refine replaceAll_cons fun hbegin => ?_
      exact hpattern (List.prefix_nil.mp (prefix_of_prefix_append_cons hc hbegin))
  | occurrence rest ih =>
      rw [List.append_assoc, replaceAll_append hpattern, replaceAll_append hpattern, ih,
        List.append_assoc]
  | passed first rest hpassed ih =>
      rw [List.cons_append, replaceAll_cons, replaceAll_cons hpassed, ih, List.cons_append]
      intro hbegin
      exact hpassed (prefix_of_prefix_append_cons hc hbegin)

/-! ## Counting

The number of occurrences that a replacement finds.  It is read off the length of the
result unless pattern and replacement are equally long, and in any case it is zero
exactly if the pattern does not occur. -/

/-- How often a pattern is replaced. -/
def occurrences (pattern text : List Char) : ℕ := (splitPattern pattern text).length - 1

@[simp]
theorem occurrences_nil : occurrences pattern [] = 0 := rfl

theorem occurrences_append (hpattern : pattern ≠ []) (rest : List Char) :
    occurrences pattern (pattern ++ rest) = occurrences pattern rest + 1 := by
  have hpos := List.length_pos_of_ne_nil (@splitPattern_ne_nil pattern rest)
  rw [occurrences, occurrences, splitPattern_append hpattern, List.length_cons]
  omega

theorem occurrences_cons {c : Char} {rest : List Char} (h : ¬ pattern <+: c :: rest) :
    occurrences pattern (c :: rest) = occurrences pattern rest := by
  obtain ⟨piece, pieces, hrest, hcons⟩ := splitPattern_cons h
  rw [occurrences, occurrences, hcons, hrest, List.length_cons, List.length_cons]

/-- Each replacement exchanges the length of the pattern for that of the replacement. -/
theorem length_replaceAll (hpattern : pattern ≠ []) (text : List Char) :
    (replaceAll pattern replacement text).length + occurrences pattern text * pattern.length =
      text.length + occurrences pattern text * replacement.length := by
  induction text using replaceAll_induction hpattern with
  | nil => simp
  | occurrence rest ih =>
      rw [replaceAll_append hpattern, occurrences_append hpattern, List.length_append,
        List.length_append, Nat.succ_mul, Nat.succ_mul]
      omega
  | passed c rest hpassed ih =>
      rw [replaceAll_cons hpassed, occurrences_cons hpassed, List.length_cons, List.length_cons]
      omega

theorem occurrences_eq_zero_iff (hpattern : pattern ≠ []) {text : List Char} :
    occurrences pattern text = 0 ↔ ¬ pattern <:+: text := by
  induction text using replaceAll_induction hpattern with
  | nil =>
      rw [occurrences_nil, List.infix_nil]
      exact iff_of_true rfl hpattern
  | occurrence rest ih =>
      rw [occurrences_append hpattern]
      exact iff_of_false (Nat.succ_ne_zero _) fun h => h (List.prefix_append _ _).isInfix
  | passed c rest hpassed ih =>
      rw [occurrences_cons hpassed, ih, List.infix_cons_iff, not_or]
      exact (and_iff_right hpassed).symm

/-- Where the replacement is another text of the same length, a text that is left as it is has
no occurrence. -/
theorem not_infix_of_replaceAll_eq (hpattern : pattern ≠ []) (hne : replacement ≠ pattern)
    (hlength : replacement.length = pattern.length) {text : List Char}
    (h : replaceAll pattern replacement text = text) : ¬ pattern <:+: text := by
  induction text using replaceAll_induction hpattern with
  | nil => exact fun hinside => hpattern (List.infix_nil.mp hinside)
  | occurrence rest ih =>
      rw [replaceAll_append hpattern] at h
      exact absurd (List.append_inj_left h hlength) hne
  | passed c rest hpassed ih =>
      rw [replaceAll_cons hpassed, List.cons_inj_right] at h
      rw [List.infix_cons_iff, not_or]
      exact ⟨hpassed, ih h⟩

/-- Replacing a pattern by itself changes nothing. -/
theorem replaceAll_self (hpattern : pattern ≠ []) (text : List Char) :
    replaceAll pattern pattern text = text := by
  induction text using replaceAll_induction hpattern with
  | nil => rfl
  | occurrence rest ih => rw [replaceAll_append hpattern, ih]
  | passed c rest hpassed ih => rw [replaceAll_cons hpassed, ih]

end ReplaceAll

/-! ## Marked texts

A replacement that is meant for marks in a text can hit other places, too.  The segments
are counted one by one: the marks, and the occurrences that are no marks. -/

section Segments

/-- A part of a text that ends with a separator, perhaps after a mark. -/
structure Segment where
  marked : Bool
  content : List Char

/-- The parts one after the other, with a text in the place of each mark. -/
def segmentsText (separator : Char) (mark : List Char) (segments : List Segment) : List Char :=
  segments.flatMap fun segment =>
    (if segment.marked then mark ++ segment.content else segment.content) ++ [separator]

variable {separator : Char} {pattern replacement : List Char}

theorem segmentsText_cons (mark : List Char) (segment : Segment) (rest : List Segment) :
    segmentsText separator mark (segment :: rest) =
      (if segment.marked then mark ++ segment.content else segment.content) ++
        separator :: segmentsText separator mark rest := by
  rw [segmentsText, List.flatMap_cons, List.append_assoc, List.singleton_append]
  rfl

/-- Where only marks are occurrences, a replacement replaces the marks. -/
theorem replaceAll_segmentsText (hpattern : pattern ≠ []) (hseparator : separator ∉ pattern)
    {segments : List Segment} (h : ∀ segment ∈ segments, ¬ pattern <:+: segment.content) :
    replaceAll pattern replacement (segmentsText separator pattern segments) =
      segmentsText separator replacement segments := by
  induction segments with
  | nil => rfl
  | cons segment rest ih =>
      have hcontent := @replaceAll_of_not_occurs pattern replacement segment.content
        (h segment List.mem_cons_self)
      rw [segmentsText_cons, segmentsText_cons,
        replaceAll_append_cons_of_notMem hpattern hseparator,
        ih fun other hother => h other (List.mem_cons_of_mem _ hother)]
      congr 1
      cases hmarked : segment.marked with
      | false =>
          show replaceAll pattern replacement segment.content = segment.content
          exact hcontent
      | true =>
          show replaceAll pattern replacement (pattern ++ segment.content) =
            replacement ++ segment.content
          rw [replaceAll_append hpattern, hcontent]

/-- How often a pattern occurs besides the marks. -/
def strayOccurrences (pattern : List Char) (segments : List Segment) : ℕ :=
  (segments.map fun segment => occurrences pattern segment.content).sum

/-- Each stray occurrence exchanges the length of the pattern for that of the replacement. -/
theorem length_replaceAll_segmentsText (hpattern : pattern ≠ [])
    (hseparator : separator ∉ pattern) (segments : List Segment) :
    (replaceAll pattern replacement (segmentsText separator pattern segments)).length +
        strayOccurrences pattern segments * pattern.length =
      (segmentsText separator replacement segments).length +
        strayOccurrences pattern segments * replacement.length := by
  induction segments with
  | nil => simp [segmentsText, strayOccurrences]
  | cons segment rest ih =>
      have hstray : strayOccurrences pattern (segment :: rest) =
          occurrences pattern segment.content + strayOccurrences pattern rest := by
        rw [strayOccurrences, List.map_cons, List.sum_cons]
        rfl
      have hcontent := @length_replaceAll pattern replacement hpattern segment.content
      rw [segmentsText_cons, segmentsText_cons,
        replaceAll_append_cons_of_notMem hpattern hseparator, hstray, Nat.add_mul, Nat.add_mul,
        List.length_append, List.length_append, List.length_cons, List.length_cons]
      cases hmarked : segment.marked with
      | false =>
          simp only [Bool.false_eq_true, if_false]
          omega
      | true =>
          simp only [if_true, replaceAll_append hpattern, List.length_append]
          omega

/-- **A replacement replaces exactly the marks** if and only if the pattern does not occur
elsewhere, or nothing changes at all. -/
theorem replaceAll_segmentsText_iff (hpattern : pattern ≠ []) (hseparator : separator ∉ pattern)
    (segments : List Segment) :
    replaceAll pattern replacement (segmentsText separator pattern segments) =
        segmentsText separator replacement segments ↔
      replacement = pattern ∨ ∀ segment ∈ segments, ¬ pattern <:+: segment.content := by
  constructor
  · intro heq
    by_cases hne : replacement = pattern
    · exact Or.inl hne
    right
    by_cases hlength : replacement.length = pattern.length
    · -- the parts keep their places, so each of them is as it should be
      induction segments with
      | nil => exact fun segment hmem => absurd hmem List.not_mem_nil
      | cons segment rest ih =>
          rw [segmentsText_cons, segmentsText_cons,
            replaceAll_append_cons_of_notMem hpattern hseparator] at heq
          have hkept : ∀ text, (replaceAll pattern replacement text).length = text.length := by
            intro text
            have h := @length_replaceAll pattern replacement hpattern text
            rw [hlength] at h
            exact Nat.add_right_cancel h
          have hparts : replaceAll pattern replacement segment.content = segment.content ∧
              replaceAll pattern replacement (segmentsText separator pattern rest) =
                segmentsText separator replacement rest := by
            cases hmarked : segment.marked with
            | false =>
                rw [hmarked] at heq
                obtain ⟨hcontent, hrest⟩ := List.append_inj heq (hkept _)
                exact ⟨hcontent, (List.cons_eq_cons.mp hrest).2⟩
            | true =>
                rw [hmarked] at heq
                simp only [if_true, replaceAll_append hpattern, List.append_assoc,
                  List.append_cancel_left_eq] at heq
                obtain ⟨hcontent, hrest⟩ := List.append_inj heq (hkept _)
                exact ⟨hcontent, (List.cons_eq_cons.mp hrest).2⟩
          intro other hother
          rcases List.mem_cons.mp hother with rfl | hmem
          · exact not_infix_of_replaceAll_eq hpattern hne hlength hparts.1
          · exact ih hparts.2 other hmem
    · -- any stray occurrence shows in the length
      have hcount := @length_replaceAll_segmentsText separator pattern replacement hpattern
        hseparator segments
      rw [heq] at hcount
      have hzero : strayOccurrences pattern segments = 0 := by
        rcases Nat.eq_zero_or_pos (strayOccurrences pattern segments) with hzero | hpos
        · exact hzero
        · exact absurd (Nat.eq_of_mul_eq_mul_left hpos (Nat.add_left_cancel hcount)).symm hlength
      intro segment hmem
      refine (occurrences_eq_zero_iff hpattern).mp ?_
      exact List.sum_eq_zero_iff_forall_eq_nat.mp hzero _ (List.mem_map_of_mem hmem)
  · rintro (rfl | h)
    · exact replaceAll_self hpattern _
    · exact replaceAll_segmentsText hpattern hseparator h

end Segments

/-- A search finds exactly what occurs. -/
theorem containsSlice_iff_occurs {α : Type*} [DecidableEq α] {pattern xs : List α} :
    containsSlice pattern xs = true ↔ pattern <:+: xs := by
  unfold containsSlice
  induction xs with
  | nil =>
      rw [findSlice, List.infix_nil]
      by_cases h : pattern = []
      · simp [h]
      · simp [h]
  | cons x rest ih =>
      rw [findSlice, List.infix_cons_iff, ← List.isPrefixOf_iff_prefix]
      by_cases h : pattern.isPrefixOf (x :: rest) = true
      · simp [h]
      · rw [if_neg h, Option.isSome_map, ih]
        exact (or_iff_right h).symm

end AspRust.Foundation
