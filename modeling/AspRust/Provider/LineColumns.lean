import AspRust.Provider.ExactProjection
import Mathlib.Data.List.DropRight

/-!
# Lines and columns as byte offsets

The tokenizer gives the position of a character boundary as a line, counted from one, and
a column, counted in characters from the start of the line; only a line feed ends a line.
The projection turns positions back into byte offsets.  It adds up the bytes of the lines
before, which is right for every text, and then adds the column, which is a number of
characters.

So the offset is right exactly if every character between the start of the line and the
boundary takes one byte: `lineColumnOffset_lineColumnAt_iff`.  A position the tokenizer
can give is never refused.

### What is load-bearing

The tokenizer counts characters and the projection adds bytes, so the two agree on a line
exactly as far as each character is one byte.  The lines before are no matter: their bytes are
added up as bytes, and a position that the tokenizer can give lies on a line that exists
(`exists_completeLines`), so the lookup never fails.
-/

namespace AspRust.Provider

open AspRust.Foundation

/-! ## Positions of character boundaries -/

/-- What stands on the line of a boundary before it. -/
def currentLine (before : List Char) : List Char := before.rtakeWhile (· ≠ '\n')

/-- The position the tokenizer gives the boundary behind a piece of the text. -/
def lineColumnAt (before : List Char) : LineColumn where
  line := before.count '\n' + 1
  column := (currentLine before).length

example : lineColumnAt "a\r\nbö".toList = ⟨2, 2⟩ := by decide

theorem newline_notMem_currentLine (before : List Char) : '\n' ∉ currentLine before := by
  intro hmem
  simpa using List.mem_rtakeWhile_imp hmem

/-- A text of complete lines. -/
def joinLines (complete : List (List Char)) : List Char :=
  (complete.map (· ++ ['\n'])).flatten

theorem joinLines_cons (line : List Char) (complete : List (List Char)) :
    joinLines (line :: complete) = line ++ '\n' :: joinLines complete := by
  simp [joinLines]

/-- What stands before a boundary is some complete lines and the beginning of another. -/
theorem exists_joinLines (before : List Char) :
    ∃ complete, (∀ line ∈ complete, '\n' ∉ line) ∧
      before = joinLines complete ++ currentLine before := by
  induction before using List.reverseRecOn with
  | nil => exact ⟨[], by simp, rfl⟩
  | append_singleton rest c ih =>
      obtain ⟨complete, hlines, hrest⟩ := ih
      by_cases hc : c = '\n'
      · subst hc
        refine ⟨complete ++ [currentLine rest], ?_, ?_⟩
        · intro line hline
          rcases List.mem_append.mp hline with hline | hline
          · exact hlines line hline
          · obtain rfl := List.mem_singleton.mp hline
            exact newline_notMem_currentLine rest
        · have hcurrent : currentLine (rest ++ ['\n']) = [] :=
            List.rtakeWhile_concat_neg _ _ _ (by simp)
          rw [hcurrent]
          conv_lhs => rw [hrest]
          simp [joinLines]
      · have hcurrent : currentLine (rest ++ [c]) = currentLine rest ++ [c] :=
          List.rtakeWhile_concat_pos _ _ _ (by simpa using hc)
        refine ⟨complete, hlines, ?_⟩
        rw [hcurrent, ← List.append_assoc, ← hrest]

/-! ## The lines of a text -/

theorem count_joinLines {complete : List (List Char)} (hlines : ∀ line ∈ complete, '\n' ∉ line) :
    (joinLines complete).count '\n' = complete.length := by
  induction complete with
  | nil => rfl
  | cons line rest ih =>
      have hline := List.count_eq_zero.mpr (hlines line List.mem_cons_self)
      rw [joinLines_cons, List.count_append, List.count_cons_self, hline,
        ih fun other hother => hlines other (List.mem_cons_of_mem _ hother), List.length_cons]
      omega

/-- A line without a line feed in it is one piece with what follows up to the next one. -/
theorem splitInclusive_append {line : List Char} (hline : '\n' ∉ line) (rest : List Char) :
    splitInclusive (line ++ '\n' :: rest) = (line ++ ['\n']) :: splitInclusive rest := by
  induction line with
  | nil => simp [splitInclusive]
  | cons c tail ih =>
      have hc : c ≠ '\n' := fun h => hline (h ▸ List.mem_cons_self)
      rw [List.cons_append, splitInclusive, if_neg hc,
        ih fun hmem => hline (List.mem_cons_of_mem _ hmem)]
      rfl

theorem splitInclusive_joinLines {complete : List (List Char)}
    (hlines : ∀ line ∈ complete, '\n' ∉ line) (rest : List Char) :
    splitInclusive (joinLines complete ++ rest) =
      complete.map (· ++ ['\n']) ++ splitInclusive rest := by
  induction complete with
  | nil => rfl
  | cons line tail ih =>
      rw [joinLines_cons, List.append_assoc, List.cons_append,
        splitInclusive_append (hlines line List.mem_cons_self),
        ih fun other hother => hlines other (List.mem_cons_of_mem _ hother)]
      rfl

/-- **The lines before a boundary.**  As many complete lines as there are line feeds before a
boundary are lines of every text that goes on behind it. -/
theorem exists_completeLines (before after : List Char) :
    ∃ complete, (∀ line ∈ complete, '\n' ∉ line) ∧
      before = joinLines complete ++ currentLine before ∧
      before.count '\n' = complete.length ∧
      splitInclusive (before ++ after) =
        complete.map (· ++ ['\n']) ++ splitInclusive (currentLine before ++ after) := by
  obtain ⟨complete, hlines, hbefore⟩ := exists_joinLines before
  have hcount : before.count '\n' = complete.length := by
    rw [hbefore, List.count_append, count_joinLines hlines,
      List.count_eq_zero.mpr (newline_notMem_currentLine before), Nat.add_zero]
  refine ⟨complete, hlines, hbefore, hcount, ?_⟩
  conv_lhs => rw [hbefore, List.append_assoc]
  exact splitInclusive_joinLines hlines _

/-- The line a piece without a line feed begins. -/
theorem splitInclusive_eq_cons {line after : List Char} (hline : '\n' ∉ line)
    (hne : line ++ after ≠ []) :
    ∃ tail lines, splitInclusive (line ++ after) = (line ++ tail) :: lines := by
  induction line with
  | nil =>
      cases after with
      | nil => exact absurd rfl hne
      | cons c rest =>
          rw [List.nil_append, splitInclusive]
          split
          · exact ⟨_, _, rfl⟩
          · split <;> exact ⟨_, _, rfl⟩
  | cons c tail ih =>
      have hc : c ≠ '\n' := fun h => hline (h ▸ List.mem_cons_self)
      rw [List.cons_append, splitInclusive, if_neg hc]
      by_cases hempty : tail ++ after = []
      · obtain ⟨rfl, rfl⟩ := List.append_eq_nil_iff.mp hempty
        exact ⟨[], [], rfl⟩
      · obtain ⟨more, lines, hmore⟩ :=
          ih (fun hmem => hline (List.mem_cons_of_mem _ hmem)) hempty
        rw [hmore]
        exact ⟨more, lines, rfl⟩

theorem splitWhen_joinLines {complete : List (List Char)}
    (hlines : ∀ line ∈ complete, '\n' ∉ line) :
    splitWhen (· = '\n') (joinLines complete) = complete ++ [[]] := by
  induction complete with
  | nil => rfl
  | cons line rest ih =>
      have hfree : ∀ other ∈ line, decide (other = '\n') = false := fun other hother =>
        decide_eq_false fun heq => hlines line List.mem_cons_self (heq ▸ hother)
      rw [joinLines_cons, splitWhen_append_cons hfree (by rfl),
        ih fun other hother => hlines other (List.mem_cons_of_mem _ hother)]
      rfl

theorem length_lines_joinLines {complete : List (List Char)}
    (hlines : ∀ line ∈ complete, '\n' ∉ line) :
    (lines (joinLines complete)).length = complete.length := by
  simp [lines, splitWhen_joinLines hlines]

theorem sum_utf8Length (pieces : List (List Char)) :
    (pieces.map utf8Length).sum = utf8Length pieces.flatten := by
  induction pieces with
  | nil => rfl
  | cons piece rest ih => simp [ih]

theorem length_le_utf8Length (text : List Char) : text.length ≤ utf8Length text := by
  induction text with
  | nil => exact le_rfl
  | cons c rest ih =>
      have hpos := Char.utf8Size_pos c
      rw [utf8Length_cons, List.length_cons]
      omega

/-! ## The offset of a position -/

/-- What the conversion makes of the position of a boundary: the bytes of the lines before
it, and one for each character before it on its line. -/
theorem lineColumnOffset_lineColumnAt (before after : List Char) :
    ∃ complete, before = complete ++ currentLine before ∧
      lineColumnOffset (before ++ after) (lineColumnAt before) =
        some (utf8Length complete + (currentLine before).length) := by
  obtain ⟨complete, hlines, hbefore, hcount, hsource⟩ := exists_completeLines before after
  refine ⟨joinLines complete, hbefore, ?_⟩
  have hcurrent := newline_notMem_currentLine before
  have hline : (lineColumnAt before).line = complete.length + 1 := by
    rw [lineColumnAt, hcount]
  rw [lineColumnOffset, hline, if_neg (Nat.succ_ne_zero _), Nat.add_sub_cancel, hsource,
    List.getElem?_append_right (by simp), List.length_map, Nat.sub_self,
    List.take_left' (List.length_map _), sum_utf8Length]
  by_cases hempty : currentLine before ++ after = []
  · -- the end of a text that is empty or ends in a line feed is on a line of its own
    obtain ⟨hnone, rfl⟩ := List.append_eq_nil_iff.mp hempty
    have hwhole : before = joinLines complete := by
      rw [hbefore, hnone, List.append_nil]
    rw [hempty, hnone, List.append_nil, hwhole, length_lines_joinLines hlines]
    have hcolumn : (lineColumnAt (joinLines complete)).column = 0 := by
      rw [← hwhole, lineColumnAt, hnone]
      rfl
    simp [splitInclusive, hcolumn]
  · obtain ⟨tail, lines, hpiece⟩ := splitInclusive_eq_cons hcurrent hempty
    have hfits : (lineColumnAt before).column ≤ utf8Length (currentLine before ++ tail) := by
      rw [utf8Length_append]
      exact (length_le_utf8Length _).trans (Nat.le_add_right _ _)
    rw [hpiece, List.getElem?_cons_zero]
    simp only [hfits, if_true]
    rfl

/-- A text has as many bytes as characters exactly if every character takes one. -/
theorem utf8Length_eq_length_iff {text : List Char} :
    utf8Length text = text.length ↔ ∀ c ∈ text, c.toNat ≤ 0x7F := by
  refine ⟨fun h => ?_, utf8Length_of_ascii⟩
  induction text with
  | nil => simp
  | cons c rest ih =>
      have hrest := length_le_utf8Length rest
      have hpos := Char.utf8Size_pos c
      rw [utf8Length_cons, List.length_cons] at h
      have hone : c.utf8Size = 1 := by omega
      intro other hother
      rcases List.mem_cons.mp hother with rfl | hother
      · simpa [UInt32.le_iff_toNat_le] using Char.utf8Size_eq_one_iff.mp hone
      · exact ih (by omega) other hother

/-- **When a position gives its offset back.**  For every text and every boundary in it,
the position of the boundary is accepted, and the offset is that of the boundary exactly
if no character takes more than one byte between the start of the line and the
boundary.  A column is a number of characters, and it is added to the bytes of the lines
before. -/
theorem lineColumnOffset_lineColumnAt_iff (before after : List Char) :
    (lineColumnOffset (before ++ after) (lineColumnAt before)).isSome = true ∧
      (lineColumnOffset (before ++ after) (lineColumnAt before) = some (utf8Length before) ↔
        ∀ c ∈ currentLine before, c.toNat ≤ 0x7F) := by
  obtain ⟨complete, hbefore, hoffset⟩ := lineColumnOffset_lineColumnAt before after
  refine ⟨by rw [hoffset]; rfl, ?_⟩
  have hbytes : utf8Length before = utf8Length complete + utf8Length (currentLine before) := by
    conv_lhs => rw [hbefore]
    exact utf8Length_append _ _
  rw [hoffset, hbytes, Option.some_inj, Nat.add_left_cancel_iff, eq_comm]
  exact utf8Length_eq_length_iff

/-- The boundary behind `"é"`, quotes included, is at byte 4 and in column 3; it comes
back as byte 3, the boundary before the closing quote. -/
theorem accented_position_lost :
    lineColumnAt "\"é\"".toList = ⟨1, 3⟩ ∧ utf8Length "\"é\"".toList = 4 ∧
      lineColumnOffset ("\"é\"".toList ++ ";".toList) (lineColumnAt "\"é\"".toList) = some 3 := by
  decide

end AspRust.Provider
