import AspRust.Foundation.Replacement
import Mathlib.Data.List.DropRight

/-!
# The words of a text

A program that turns any text into an identifier often keeps its words and puts one separator
between them: runs of separators are collapsed, and those at the ends are cut off.  All that
the identifier tells about the text is its words (`tidy_eq_iff`).
-/

namespace AspRust.Foundation

namespace Words

variable {separator : Char}

/-- The non-empty pieces of a text between separators. -/
def words (separator : Char) (text : List Char) : List (List Char) :=
  (text.splitOn separator).filter (· ≠ [])

theorem splitOn_cons_separator (text : List Char) :
    (separator :: text).splitOn separator = [] :: text.splitOn separator := by
  rw [List.splitOn_eq_splitOnP, List.splitOnP_cons_eq_if_modifyHead, if_pos (beq_self_eq_true separator)]
  rfl

theorem splitOn_cons {c : Char} (hc : c ≠ separator) (text : List Char) :
    (c :: text).splitOn separator = (text.splitOn separator).modifyHead (c :: ·) := by
  rw [List.splitOn_eq_splitOnP, List.splitOnP_cons_eq_if_modifyHead, if_neg (by simpa using hc)]
  rfl

@[simp]
theorem words_nil : words separator [] = [] := by
  rw [words, List.splitOn_nil]
  rfl

@[simp]
theorem words_cons_separator (text : List Char) :
    words separator (separator :: text) = words separator text := by
  rw [words, splitOn_cons_separator]
  rfl

/-- A separator stands between the words before and after it. -/
theorem words_append_separator (before after : List Char) :
    words separator (before ++ separator :: after) =
      words separator before ++ words separator after := by
  unfold words
  rw [List.splitOn_eq_splitOnP, List.splitOnP_append_cons before after (by simp),
    List.filter_append]
  rfl

/-- A text without separators is its only word. -/
theorem words_of_notMem {text : List Char} (hfree : separator ∉ text) (hne : text ≠ []) :
    words separator text = [text] := by
  have hsplit : text.splitOn separator = [text] := by
    rw [List.splitOn_eq_splitOnP]
    refine List.splitOnP_eq_singleton fun c hc => ?_
    exact beq_eq_false_iff_ne.mpr fun h => hfree (h ▸ hc)
  rw [words, hsplit, List.filter_singleton]
  simp [hne]

/-! ## Collapsing

Runs of separators are collapsed by replacing pairs until there are none.  Each round
shortens the text, so the number of its characters bounds the rounds, and no round
changes the words. -/

/-- Where each pair of separators is replaced by one, the first piece and the words after it
are as before. -/
theorem splitOn_replaceAll_pair (text : List Char) :
    ∃ piece pieces others, text.splitOn separator = piece :: pieces ∧
      (replaceAll [separator, separator] [separator] text).splitOn separator =
        piece :: others ∧
      others.filter (· ≠ []) = pieces.filter (· ≠ []) := by
  induction text using replaceAll_induction (List.cons_ne_nil separator [separator]) with
  | nil => exact ⟨[], [], [], List.splitOn_nil separator, List.splitOn_nil separator, rfl⟩
  | occurrence rest ih =>
      obtain ⟨piece, pieces, others, hrest, hreplaced, hsame⟩ := ih
      refine ⟨[], [] :: piece :: pieces, piece :: others, ?_, ?_, ?_⟩
      · rw [List.cons_append, List.singleton_append, splitOn_cons_separator,
          splitOn_cons_separator, hrest]
      · rw [replaceAll_append (List.cons_ne_nil _ _), List.singleton_append,
          splitOn_cons_separator, hreplaced]
      · simp only [List.filter_cons, hsame, ne_eq, not_true_eq_false, decide_false,
          Bool.false_eq_true, if_false]
  | passed c rest hpassed ih =>
      obtain ⟨piece, pieces, others, hrest, hreplaced, hsame⟩ := ih
      rw [replaceAll_cons hpassed]
      by_cases hc : c = separator
      · subst hc
        refine ⟨[], piece :: pieces, piece :: others, ?_, ?_, ?_⟩
        · rw [splitOn_cons_separator, hrest]
        · rw [splitOn_cons_separator, hreplaced]
        · simp only [List.filter_cons, hsame]
      · refine ⟨c :: piece, pieces, others, ?_, ?_, hsame⟩
        · rw [splitOn_cons hc, hrest, List.modifyHead_cons]
        · rw [splitOn_cons hc, hreplaced, List.modifyHead_cons]

theorem words_replaceAll_pair (text : List Char) :
    words separator (replaceAll [separator, separator] [separator] text) =
      words separator text := by
  obtain ⟨piece, pieces, others, htext, hreplaced, hsame⟩ :=
    @splitOn_replaceAll_pair separator text
  rw [words, words, htext, hreplaced, List.filter_cons, List.filter_cons, hsame]

/-- Replacing a pair shortens the text. -/
theorem length_replaceAll_pair_le (text : List Char) :
    (replaceAll [separator, separator] [separator] text).length ≤ text.length := by
  induction text using replaceAll_induction (List.cons_ne_nil separator [separator]) with
  | nil => exact le_refl _
  | occurrence rest ih =>
      rw [replaceAll_append (List.cons_ne_nil _ _), List.length_append, List.length_append]
      exact Nat.add_le_add (Nat.le_succ 1) ih
  | passed c rest hpassed ih =>
      rw [replaceAll_cons hpassed]
      exact Nat.succ_le_succ ih

theorem length_replaceAll_pair_lt {text : List Char} (h : [separator, separator] <:+: text) :
    (replaceAll [separator, separator] [separator] text).length < text.length := by
  induction text using replaceAll_induction (List.cons_ne_nil separator [separator]) with
  | nil => exact absurd (List.infix_nil.mp h) (List.cons_ne_nil _ _)
  | occurrence rest ih =>
      have hle := @length_replaceAll_pair_le separator rest
      rw [replaceAll_append (List.cons_ne_nil _ _), List.length_append, List.length_append]
      simp only [List.length_cons, List.length_nil]
      omega
  | passed c rest hpassed ih =>
      rw [replaceAll_cons hpassed]
      rcases List.infix_cons_iff.mp h with hbegin | hrest
      · exact absurd hbegin hpassed
      · exact Nat.succ_lt_succ (ih hrest)

/-- Pairs of separators are replaced as long as there are any. -/
def collapse (separator : Char) : ℕ → List Char → List Char
  | 0, text => text
  | fuel + 1, text =>
      if containsSlice [separator, separator] text then
        collapse separator fuel (replaceAll [separator, separator] [separator] text)
      else text

theorem words_collapse (fuel : ℕ) (text : List Char) :
    words separator (collapse separator fuel text) = words separator text := by
  induction fuel generalizing text with
  | zero => rfl
  | succ fuel ih =>
      rw [collapse]
      split
      · rw [ih, words_replaceAll_pair]
      · rfl

/-- As many rounds as there are characters are enough. -/
theorem not_infix_collapse {fuel : ℕ} {text : List Char} (hfuel : text.length ≤ fuel) :
    ¬ [separator, separator] <:+: collapse separator fuel text := by
  induction fuel generalizing text with
  | zero =>
      obtain rfl := List.eq_nil_of_length_eq_zero (Nat.le_zero.mp hfuel)
      exact fun h => List.cons_ne_nil _ _ (List.infix_nil.mp h)
  | succ fuel ih =>
      rw [collapse]
      split
      · next hpair =>
          have hshorter := length_replaceAll_pair_lt (containsSlice_iff_occurs.mp hpair)
          exact ih (by omega)
      · next hpair => exact fun h => hpair (containsSlice_iff_occurs.mpr h)

theorem mem_of_mem_collapse {fuel : ℕ} {text : List Char} {c : Char}
    (hc : c ∈ collapse separator fuel text) : c ∈ text ∨ c = separator := by
  induction fuel generalizing text with
  | zero => exact Or.inl hc
  | succ fuel ih =>
      rw [collapse] at hc
      split at hc
      · rcases ih hc with hreplaced | hseparator
        · exact (mem_of_mem_replaceAll (List.cons_ne_nil _ _) hreplaced).symm.imp id
            List.mem_singleton.mp
        · exact Or.inr hseparator
      · exact Or.inl hc

/-! ## Trimming

Separators at the ends belong to no word. -/

theorem words_dropWhile (text : List Char) :
    words separator (text.dropWhile (· = separator)) = words separator text := by
  induction text with
  | nil => rfl
  | cons c rest ih =>
      by_cases hc : c = separator
      · subst hc
        rw [List.dropWhile_cons_of_pos (by simp), ih, words_cons_separator]
      · rw [List.dropWhile_cons_of_neg (by simpa using hc)]

theorem words_rdropWhile (text : List Char) :
    words separator (text.rdropWhile (· = separator)) = words separator text := by
  induction text using List.reverseRecOn with
  | nil => rfl
  | append_singleton text c ih =>
      by_cases hc : c = separator
      · subst hc
        rw [List.rdropWhile_concat_pos _ _ _ (by simp), ih, words_append_separator,
          words_nil, List.append_nil]
      · rw [List.rdropWhile_concat_neg _ _ _ (by simpa using hc)]

theorem words_trimMatches (text : List Char) :
    words separator (trimMatches separator text) = words separator text := by
  show words separator ((text.dropWhile (· = separator)).rdropWhile (· = separator)) = _
  rw [words_rdropWhile, words_dropWhile]

theorem head?_trimMatches_ne (text : List Char) :
    (trimMatches separator text).head? ≠ some separator := by
  show ((text.dropWhile (· = separator)).rdropWhile (· = separator)).head? ≠ some separator
  intro h
  obtain ⟨rest, hrest⟩ := List.head?_eq_some_iff.mp h
  obtain ⟨after, hafter⟩ := List.rdropWhile_prefix (· = separator)
    (text.dropWhile (· = separator))
  rw [hrest, List.cons_append] at hafter
  have hhead := List.head?_dropWhile_not (· = separator) text
  rw [← hafter] at hhead
  simp at hhead

theorem getLast?_trimMatches_ne (text : List Char) :
    (trimMatches separator text).getLast? ≠ some separator := by
  show ((text.dropWhile (· = separator)).rdropWhile (· = separator)).getLast? ≠ some separator
  intro h
  obtain ⟨hne, hlast⟩ := List.mem_getLast?_eq_getLast h
  have hkept := List.rdropWhile_last_not (· = separator) (text.dropWhile (· = separator)) hne
  rw [← hlast] at hkept
  simp at hkept

/-! ## Tidy texts

A text without pairs of separators and without one at its ends is its words with single
separators between them.  So a tidy text is determined by the words, and the words by
the tidy text. -/

/-- An empty piece after the first one stands at a pair of separators or at the end. -/
theorem nil_mem_tail_splitOn {text : List Char} (h : [] ∈ (text.splitOn separator).tail) :
    [separator, separator] <:+: text ∨ text.getLast? = some separator := by
  induction text with
  | nil =>
      rw [List.splitOn_nil] at h
      cases h
  | cons c rest ih =>
      have hlast : rest.getLast? = some separator → (c :: rest).getLast? = some separator := by
        intro hrest
        rw [List.getLast?_cons, hrest]
        rfl
      by_cases hc : c = separator
      · subst hc
        rw [splitOn_cons_separator, List.tail_cons] at h
        cases rest with
        | nil => exact Or.inr rfl
        | cons next others =>
            by_cases hnext : next = c
            · exact Or.inl ⟨[], others, by rw [hnext]; rfl⟩
            · -- the first piece is not empty, so it is a later one
              obtain ⟨piece, pieces, hothers⟩ :=
                List.exists_cons_of_ne_nil (List.splitOn_ne_nil c others)
              rw [splitOn_cons hnext, hothers, List.modifyHead_cons, List.mem_cons] at h
              have htail := h.resolve_left (List.cons_ne_nil _ _).symm
              have hih := ih (by
                rw [splitOn_cons hnext, hothers, List.modifyHead_cons, List.tail_cons]
                exact htail)
              exact hih.imp (fun hinside => hinside.trans (List.infix_cons List.infix_rfl)) hlast
      · obtain ⟨piece, pieces, hrest⟩ :=
          List.exists_cons_of_ne_nil (List.splitOn_ne_nil separator rest)
        rw [splitOn_cons hc, hrest, List.modifyHead_cons, List.tail_cons] at h
        have hih := ih (by rw [hrest, List.tail_cons]; exact h)
        exact hih.imp (fun hinside => hinside.trans (List.infix_cons List.infix_rfl)) hlast

/-- A text without pairs of separators, and without one at its ends, is its words with one
separator between them. -/
theorem intercalate_words {text : List Char} (hpair : ¬ [separator, separator] <:+: text)
    (hhead : text.head? ≠ some separator) (hlast : text.getLast? ≠ some separator) :
    List.intercalate [separator] (words separator text) = text := by
  cases text with
  | nil => rw [words_nil]; rfl
  | cons c rest =>
      have hc : c ≠ separator := fun h => hhead (congrArg some h)
      have hfull : words separator (c :: rest) = (c :: rest).splitOn separator := by
        rw [words, List.filter_eq_self]
        intro piece hpiece
        rw [decide_eq_true_eq]
        rintro rfl
        obtain ⟨first, pieces, hrest⟩ :=
          List.exists_cons_of_ne_nil (List.splitOn_ne_nil separator rest)
        have htail : [] ∈ ((c :: rest).splitOn separator).tail := by
          rw [splitOn_cons hc, hrest, List.modifyHead_cons] at hpiece ⊢
          exact (List.mem_cons.mp hpiece).resolve_left (List.cons_ne_nil _ _).symm
        rcases nil_mem_tail_splitOn htail with h | h
        · exact hpair h
        · exact hlast h
      rw [hfull, List.intercalate_splitOn]

/-- A text with its runs of separators collapsed and those at its ends cut off. -/
def tidy (separator : Char) (text : List Char) : List Char :=
  trimMatches separator (collapse separator text.length text)

@[simp]
theorem words_tidy (text : List Char) : words separator (tidy separator text) =
    words separator text := by
  rw [tidy, words_trimMatches, words_collapse]

theorem tidy_occurs (text : List Char) :
    tidy separator text <:+: collapse separator text.length text :=
  (List.rdropWhile_prefix _ _).isInfix.trans (List.dropWhile_suffix _).isInfix

/-- A tidy text has no characters of its own. -/
theorem mem_of_mem_tidy {text : List Char} {c : Char} (hc : c ∈ tidy separator text) :
    c ∈ text ∨ c = separator :=
  mem_of_mem_collapse ((tidy_occurs text).subset hc)

/-- A tidy text is its words with one separator between them. -/
theorem tidy_eq_intercalate (text : List Char) :
    tidy separator text = List.intercalate [separator] (words separator text) := by
  have hpair : ¬ [separator, separator] <:+: tidy separator text :=
    fun h => not_infix_collapse le_rfl (h.trans (tidy_occurs text))
  rw [← words_tidy text, intercalate_words hpair (head?_trimMatches_ne _)
    (getLast?_trimMatches_ne _)]

/-- **All that a tidy text tells about a text is its words.** -/
theorem tidy_eq_iff {first second : List Char} :
    tidy separator first = tidy separator second ↔
      words separator first = words separator second := by
  constructor
  · intro h
    rw [← words_tidy first, h, words_tidy]
  · intro h
    rw [tidy_eq_intercalate, tidy_eq_intercalate, h]

end Words

end AspRust.Foundation
