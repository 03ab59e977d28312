import AspRust.Foundation.MaskedRewriting
import AspRust.Foundation.Wildcard
import AspRust.Parser.TokenLiterals
import Mathlib.Data.List.DropRight

/-!
# The code of a token text

What of a token text is code is what is neither white space nor a comma before a closing
bracket: `significant` is the rest.  Compacting code with placeholders changes only the code
between them, keeps what is significant of it, and neither makes nor breaks a placeholder in it
(`sameCode_compactCode`).

### What is load-bearing

The rewriting of code is a list of replacements, applied one after the other.  Each of them
changes white space or a comma in front of a bracket and nothing else, so each keeps
`significant`; none of them has a character of a placeholder in it, so a placeholder is code to
none of them.
-/

namespace AspRust.Parser

open AspRust.Foundation AspRust.Foundation.Placeholders

/-! ## Significant code

A comma is dropped if the next significant character is a closing bracket.  That looks
ahead, so what is significant of two texts together is not always what is significant of
each; it is where the second begins with the end of a literal. -/

/-- A text without commas before closing brackets. -/
def dropCommas : List Char → List Char
  | [] => []
  | c :: rest =>
      if c = ',' ∧ (dropCommas rest).head? = some ')' then dropCommas rest
      else c :: dropCommas rest

/-- A text without white space, and then without commas before closing brackets. -/
def significant (text : List Char) : List Char :=
  dropCommas (text.filter fun c => !isWhitespace c)

theorem significant_cons_blank {c : Char} (hc : isWhitespace c = true) (text : List Char) :
    significant (c :: text) = significant text := by
  rw [significant, List.filter_cons_of_neg (by simp [hc])]
  rfl

theorem significant_cons {c : Char} (hc : isWhitespace c = false) (text : List Char) :
    significant (c :: text) =
      if c = ',' ∧ (significant text).head? = some ')' then significant text
      else c :: significant text := by
  rw [significant, List.filter_cons_of_pos (by simp [hc]), dropCommas]
  rfl

/-- What is significant before some code does not depend on how that is written. -/
theorem significant_cons_congr {first second : List Char}
    (h : significant first = significant second) (c : Char) :
    significant (c :: first) = significant (c :: second) := by
  cases hc : isWhitespace c with
  | true => rw [significant_cons_blank hc, significant_cons_blank hc, h]
  | false => rw [significant_cons hc, significant_cons hc, h]

theorem significant_append_congr {first second : List Char}
    (h : significant first = significant second) (before : List Char) :
    significant (before ++ first) = significant (before ++ second) := by
  induction before with
  | nil => exact h
  | cons c before ih => exact significant_cons_congr ih c

/-- A character in front tells nothing of what is significant behind it. -/
theorem significant_cancel {c : Char} {first second : List Char}
    (h : significant (c :: first) = significant (c :: second)) :
    significant first = significant second := by
  cases hc : isWhitespace c with
  | true => rwa [significant_cons_blank hc, significant_cons_blank hc] at h
  | false =>
      rw [significant_cons hc, significant_cons hc] at h
      -- a comma is dropped on both sides or on none
      have hcomma : ∀ {kept dropped : List Char}, c = ',' → dropped.head? = some ')' →
          c :: kept ≠ dropped := by
        rintro kept dropped rfl hhead rfl
        exact absurd hhead (by simp)
      split at h
      · next hfirst =>
          split at h
          · exact h
          · exact absurd h.symm (hcomma hfirst.1 hfirst.2)
      · split at h
        · next hsecond => exact absurd h (hcomma hsecond.1 hsecond.2)
        · exact (List.cons_eq_cons.mp h).2

theorem isWhitespace_of_isPlaceholderChar {c : Char} (hc : IsPlaceholderChar c) :
    isWhitespace c = false := by
  rcases hc with hc | hc
  · have hall : "_ASPLITER".toList.all (fun c => !isWhitespace c) = true := by decide
    simpa using List.all_eq_true.mp hall c hc
  · exact not_isWhitespace_of_isDigit hc

theorem significant_cons_kept {c : Char} (hblank : isWhitespace c = false) (hcomma : c ≠ ',')
    (text : List Char) : significant (c :: text) = c :: significant text := by
  rw [significant_cons hblank, if_neg fun h => hcomma h.1]

theorem ends_kept {c : Char} (hc : IsLiteralEnd c) : isWhitespace c = false ∧ c ≠ ',' ∧ c ≠ ')' := by
  unfold IsLiteralEnd at hc
  simp only [List.mem_cons, List.not_mem_nil, or_false] at hc
  rcases hc with rfl | rfl | rfl | rfl | rfl | rfl | rfl | rfl <;> decide

theorem placeholderChar_kept {c : Char} (hc : IsPlaceholderChar c) :
    isWhitespace c = false ∧ c ≠ ',' := by
  refine ⟨isWhitespace_of_isPlaceholderChar hc, ?_⟩
  rintro rfl
  rcases hc with hc | hc
  · exact absurd hc (by decide)
  · exact absurd hc (by decide)

/-- The end of a literal is told from a character of a placeholder. -/
theorem significant_differ {c d : Char} {first second : List Char} (hc : IsLiteralEnd c)
    (hd : IsPlaceholderChar d) : significant (c :: first) ≠ significant (d :: second) := by
  rw [significant_cons_kept (ends_kept hc).1 (ends_kept hc).2.1,
    significant_cons_kept (placeholderChar_kept hd).1 (placeholderChar_kept hd).2]
  intro h
  obtain ⟨rfl, -⟩ := List.cons_eq_cons.mp h
  exact literalPlaceholders.not_isMarkChar hc hd

/-- Code and what follows the end of a literal are significant on their own. -/
theorem significant_append_end {c : Char} (hc : IsLiteralEnd c) (before after : List Char) :
    significant (before ++ c :: after) = significant before ++ significant (c :: after) := by
  induction before with
  | nil => rfl
  | cons d before ih =>
      rw [List.cons_append]
      cases hd : isWhitespace d with
      | true => rw [significant_cons_blank hd, significant_cons_blank hd, ih]
      | false =>
          have hhead : (significant before ++ significant (c :: after)).head? = some ')' ↔
              (significant before).head? = some ')' := by
            cases significant before with
            | nil =>
                rw [List.nil_append, significant_cons_kept (ends_kept hc).1 (ends_kept hc).2.1]
                simp [(ends_kept hc).2.2]
            | cons e rest => rfl
          rw [significant_cons hd, significant_cons hd, ih]
          by_cases hdropped : d = ',' ∧ (significant before).head? = some ')'
          · rw [if_pos hdropped, if_pos ⟨hdropped.1, hhead.mpr hdropped.2⟩]
          · rw [if_neg hdropped, if_neg fun h => hdropped ⟨h.1, hhead.mp h.2⟩, List.cons_append]

/-! ## The same code

Texts are compared in pieces: a first piece of code, and literals with the code behind
them.  Two texts have the same code if their pieces have the same literals and the same
significant code, and if a placeholder can stand by accident in both or in none. -/

/-- The pieces have the same literals and the same significant code. -/
def SameSignificant (front front' : List Char) (pieces pieces' : List (List Char × List Char)) :
    Prop :=
  significant front' = significant front ∧
    List.Forall₂ (fun kept piece => kept.1 = piece.1 ∧ significant kept.2 = significant piece.2)
      pieces' pieces

/-- Code and literals that differ in white space and commas only, with marks apart in both or in
none. -/
structure SameCode (front front' : List Char) (pieces pieces' : List (List Char × List Char)) :
    Prop where
  significant : SameSignificant front front' pieces pieces'
  apart : Apart literalPlaceholders 0 front pieces ↔ Apart literalPlaceholders 0 front' pieces'

theorem SameSignificant.refl (front : List Char) (pieces : List (List Char × List Char)) :
    SameSignificant front front pieces pieces :=
  ⟨rfl, List.forall₂_same.mpr fun _ _ => ⟨rfl, rfl⟩⟩

theorem SameSignificant.trans {front front' front'' : List Char}
    {pieces pieces' pieces'' : List (List Char × List Char)}
    (h : SameSignificant front front' pieces pieces')
    (h' : SameSignificant front' front'' pieces' pieces'') :
    SameSignificant front front'' pieces pieces'' := by
  refine ⟨h'.1.trans h.1, ?_⟩
  have hlast := h'.2
  have hfirst := h.2
  clear h h'
  induction hlast generalizing pieces with
  | nil =>
      cases hfirst
      exact .nil
  | cons hpiece _ ih =>
      cases hfirst with
      | cons hpiece' hrest =>
          exact .cons ⟨hpiece.1.trans hpiece'.1, hpiece.2.trans hpiece'.2⟩ (ih hrest)

theorem SameCode.trans {front front' front'' : List Char}
    {pieces pieces' pieces'' : List (List Char × List Char)} (h : SameCode front front' pieces pieces')
    (h' : SameCode front' front'' pieces' pieces'') : SameCode front front'' pieces pieces'' :=
  ⟨h.significant.trans h'.significant, h.apart.trans h'.apart⟩

theorem SameSignificant.map_fst {front front' : List Char}
    {pieces pieces' : List (List Char × List Char)}
    (h : SameSignificant front front' pieces pieces') :
    pieces'.map Prod.fst = pieces.map Prod.fst := by
  obtain ⟨-, hall⟩ := h
  induction hall with
  | nil => rfl
  | cons hpiece _ ih => rw [List.map_cons, List.map_cons, ih, hpiece.1]

/-- The same code with the same literals is significant in the same way. -/
theorem SameSignificant.filled_eq {front front' : List Char}
    {pieces pieces' : List (List Char × List Char)}
    (h : SameSignificant front front' pieces pieces')
    (hfenced : ∀ piece ∈ pieces, literalPlaceholders.Fenced piece.1) :
    significant (filled front' pieces') = significant (filled front pieces) := by
  obtain ⟨hfront, hall⟩ := h
  induction hall generalizing front front' with
  | nil => exact hfront
  | @cons kept piece pieces' pieces hpiece _ ih =>
      obtain ⟨literal, code⟩ := piece
      obtain ⟨literal', code'⟩ := kept
      obtain ⟨rfl, hcode⟩ := hpiece
      have hrest := ih (fun other hmem => hfenced other (List.mem_cons_of_mem _ hmem)) hcode
      obtain ⟨⟨c, rest, hliteral, hc⟩, -⟩ := hfenced _ List.mem_cons_self
      rw [filled, filled]
      have hafter := significant_append_congr hrest literal'
      have hliteral' : literal' = c :: rest := hliteral
      rw [hliteral', List.cons_append, List.cons_append, significant_append_end hc,
        significant_append_end hc, hfront, ← List.cons_append, ← List.cons_append, ← hliteral',
        hafter]

/-! ## White space at the ends

Compaction trims a text, which cuts white space off its first and its last piece. -/

/-- A text of white space. -/
def Blank (text : List Char) : Prop := ∀ c ∈ text, isWhitespace c = true

theorem unmarked_of_blank {text : List Char} (h : Blank text) : Unmarked literalPlaceholders text :=
  fun c hc hmark => by
    have hblank := isWhitespace_of_isPlaceholderChar hmark
    rw [h c hc] at hblank
    cases hblank

theorem significant_blank_append {blank : List Char} (h : Blank blank) (text : List Char) :
    significant (blank ++ text) = significant text := by
  induction blank with
  | nil => rfl
  | cons c blank ih =>
      rw [List.cons_append, significant_cons_blank (h c List.mem_cons_self),
        ih fun d hd => h d (List.mem_cons_of_mem _ hd)]

theorem significant_append_blank {blank : List Char} (h : Blank blank) (text : List Char) :
    significant (text ++ blank) = significant text := by
  have hnil : significant blank = significant [] := by
    rw [← List.append_nil blank, significant_blank_append h]
  rw [significant_append_congr hnil text, List.append_nil]

theorem Alike.refl (front : List Char) (pieces : List (List Char × List Char)) :
    Alike literalPlaceholders front pieces front pieces := by
  induction pieces generalizing front with
  | nil => exact (SameRuns.refl front).atEnd
  | cons piece rest ih => exact .cons (SameRuns.refl front) (ih piece.2)

/-- White space at the front may be cut off. -/
theorem sameCode_of_blank_front {blank : List Char} (h : Blank blank) (front : List Char)
    (pieces : List (List Char × List Char)) : SameCode (blank ++ front) front pieces pieces := by
  refine ⟨⟨(significant_blank_append h front).symm, (SameSignificant.refl front pieces).2⟩, ?_⟩
  exact (Alike.refl front pieces).apart_iff (.nil_of_unmarked (unmarked_of_blank h)) 0

/-- White space at the end may be cut off. -/
theorem exists_sameCode_of_blank_end (front : List Char) (pieces : List (List Char × List Char)) :
    ∃ front' pieces' blank, Blank blank ∧ SameSignificant front front' pieces pieces' ∧
      Alike literalPlaceholders front pieces front' pieces' ∧ ∀ index,
        masked literalPlaceholders index front pieces =
          masked literalPlaceholders index front' pieces' ++ blank ∧
        ∀ c, (masked literalPlaceholders index front' pieces').getLast? = some c →
          isWhitespace c = false := by
  induction pieces generalizing front with
  | nil =>
      have hsplit : front.rdropWhile isWhitespace ++ front.rtakeWhile isWhitespace = front :=
        List.rdropWhile_append_rtakeWhile
      have hblank : Blank (front.rtakeWhile isWhitespace) :=
        fun c hc => List.mem_rtakeWhile_imp hc
      refine ⟨front.rdropWhile isWhitespace, [], front.rtakeWhile isWhitespace, hblank,
        ⟨?_, .nil⟩, ?_, fun _ => ⟨hsplit.symm, fun c hc => ?_⟩⟩
      · rw [← significant_append_blank hblank, hsplit]
      · have halike := @Alike.of_unmarked_end literalPlaceholders
          (front.rdropWhile isWhitespace) _ (unmarked_of_blank hblank)
        rwa [hsplit] at halike
      · obtain ⟨hne, rfl⟩ := List.mem_getLast?_eq_getLast hc
        exact Bool.eq_false_iff.mpr (List.rdropWhile_last_not isWhitespace front hne)
  | cons piece rest ih =>
      obtain ⟨literal, code⟩ := piece
      obtain ⟨code', rest', blank, hblank, hsame, halike, hmasked⟩ := ih code
      refine ⟨front, (literal, code') :: rest', blank, hblank,
        ⟨rfl, .cons ⟨rfl, hsame.1⟩ hsame.2⟩, .cons (SameRuns.refl front) halike, fun index => ?_⟩
      obtain ⟨htext, hlast⟩ := hmasked (index + 1)
      refine ⟨?_, fun c hc => ?_⟩
      · rw [masked, masked, htext, List.append_assoc, List.append_assoc]
      · rw [masked, List.getLast?_append, List.getLast?_append] at hc
        cases htail : (masked literalPlaceholders (index + 1) code' rest').getLast? with
        | some d =>
            rw [htail] at hc
            obtain rfl := Option.some.inj hc
            exact hlast _ htail
        | none =>
            rw [htail, Option.none_or] at hc
            cases hmark : (literalPlaceholders.mark index).getLast? with
            | none =>
                exact absurd (List.getLast?_eq_none_iff.mp hmark)
                  (literalPlaceholders.mark_ne_nil index)
            | some d =>
                rw [hmark] at hc
                obtain rfl := Option.some.inj hc
                exact isWhitespace_of_isPlaceholderChar
                  (literalPlaceholders.isMarkChar_of_mem (List.mem_of_getLast? hmark))

/-! ## Words

Folding white space is splitting a text into words and joining them by single spaces.
On pieces it is done character by character (`squeezeBlanks`), which the last lemma of
this section compares. -/

theorem splitWhen_append_separator {separator : Char → Bool} {c : Char}
    (hc : separator c = true) (before after : List Char) :
    splitWhen separator (before ++ c :: after) =
      splitWhen separator before ++ splitWhen separator after := by
  induction before with
  | nil => exact splitWhen_append_cons (fun _ hmem => absurd hmem List.not_mem_nil) hc
  | cons d before ih =>
      rw [List.cons_append, splitWhen, splitWhen, ih]
      cases separator d with
      | true => rfl
      | false =>
          obtain ⟨piece, pieces, hbefore⟩ :=
            List.exists_cons_of_ne_nil (splitWhen_ne_nil separator before)
          rw [hbefore]
          rfl

/-- White space divides the words. -/
theorem splitWhitespace_append_cons {c : Char} (hc : isWhitespace c = true)
    (before after : List Char) :
    splitWhitespace (before ++ c :: after) = splitWhitespace before ++ splitWhitespace after := by
  rw [splitWhitespace, splitWhen_append_separator hc, List.filter_append]
  rfl

theorem splitWhitespace_cons_blank {c : Char} (hc : isWhitespace c = true) (text : List Char) :
    splitWhitespace (c :: text) = splitWhitespace text := splitWhitespace_append_cons hc [] text

theorem splitWhitespace_blank_append {blank : List Char} (h : Blank blank) (text : List Char) :
    splitWhitespace (blank ++ text) = splitWhitespace text := by
  induction blank with
  | nil => rfl
  | cons c blank ih =>
      rw [List.cons_append, splitWhitespace_cons_blank (h c List.mem_cons_self),
        ih fun d hd => h d (List.mem_cons_of_mem _ hd)]

theorem splitWhitespace_append_blank {blank : List Char} (h : Blank blank) (text : List Char) :
    splitWhitespace (text ++ blank) = splitWhitespace text := by
  cases blank with
  | nil => rw [List.append_nil]
  | cons c blank =>
      have hrest := splitWhitespace_blank_append (fun d hd => h d (List.mem_cons_of_mem _ hd)) []
      rw [List.append_nil] at hrest
      rw [splitWhitespace_append_cons (h c List.mem_cons_self), hrest]
      exact List.append_nil _

theorem splitWhitespace_cons {c : Char} (hc : isWhitespace c = false) (text : List Char) :
    ∃ piece pieces, splitWhen isWhitespace text = piece :: pieces ∧
      splitWhitespace (c :: text) = (c :: piece) :: pieces.filter (· ≠ []) := by
  obtain ⟨piece, pieces, htext⟩ :=
    List.exists_cons_of_ne_nil (splitWhen_ne_nil isWhitespace text)
  refine ⟨piece, pieces, htext, ?_⟩
  rw [splitWhitespace, splitWhen, hc, htext]
  rfl

/-- A text with any character that is not white space has a word. -/
theorem splitWhitespace_ne_nil {c : Char} {text : List Char} (hmem : c ∈ text)
    (hc : isWhitespace c = false) : splitWhitespace text ≠ [] := by
  induction text with
  | nil => cases hmem
  | cons d text ih =>
      cases hd : isWhitespace d with
      | true =>
          rw [splitWhitespace_cons_blank hd]
          rcases List.mem_cons.mp hmem with rfl | hmem
          · rw [hc] at hd
            cases hd
          · exact ih hmem
      | false =>
          obtain ⟨piece, pieces, -, hwords⟩ := splitWhitespace_cons hd text
          rw [hwords]
          exact List.cons_ne_nil _ _

/-- A text with one space for each run of white space. -/
def squeezeBlanks : List Char → List Char
  | [] => []
  | c :: rest =>
      if isWhitespace c then
        if rest.head?.any isWhitespace then squeezeBlanks rest else ' ' :: squeezeBlanks rest
      else c :: squeezeBlanks rest

theorem intercalate_cons_word {c : Char} {word : List Char} {words : List (List Char)} :
    List.intercalate [' '] ((c :: word) :: words) = c :: List.intercalate [' '] (word :: words) := by
  cases words with
  | nil => simp
  | cons next rest => rw [List.intercalate_cons_cons, List.intercalate_cons_cons]; rfl

/-- The words of a text without white space at its end, with a space for white space at its
front. -/
theorem squeezeBlanks_eq {text : List Char} {last : Char} (hlast : text.getLast? = some last)
    (hblank : isWhitespace last = false) :
    squeezeBlanks text = (if text.head?.any isWhitespace then [' '] else []) ++
      List.intercalate [' '] (splitWhitespace text) := by
  induction text with
  | nil => cases hlast
  | cons c text ih =>
      cases text with
      | nil =>
          obtain rfl : c = last := Option.some.inj hlast
          simp [squeezeBlanks, splitWhitespace, splitWhen, hblank]
      | cons d text =>
          rw [List.getLast?_cons_cons] at hlast
          have htext := ih hlast
          rw [squeezeBlanks]
          cases hc : isWhitespace c with
          | true =>
              have hspace : (if (c :: d :: text).head?.any isWhitespace then [' '] else []) =
                  [' '] := if_pos hc
              rw [splitWhitespace_cons_blank hc, hspace]
              cases hd : isWhitespace d with
              | true =>
                  simp only [List.head?_cons, Option.any_some, hd, if_true] at htext ⊢
                  exact htext
              | false =>
                  simp only [List.head?_cons, Option.any_some, hd, if_true, Bool.false_eq_true,
                    if_false, List.nil_append] at htext ⊢
                  rw [htext]
                  rfl
          | false =>
              simp only [List.head?_cons, Option.any_some, hc, Bool.false_eq_true, if_false,
                List.nil_append]
              obtain ⟨piece, pieces, hsplit, hwords⟩ := splitWhitespace_cons hc (d :: text)
              rw [htext, hwords, intercalate_cons_word]
              congr 1
              cases hd : isWhitespace d with
              | true =>
                  -- the first word ends here, and there is another
                  have hpieces : piece = [] ∧ pieces = splitWhen isWhitespace text := by
                    rw [splitWhen, hd, if_pos rfl] at hsplit
                    obtain ⟨hpiece, hpieces⟩ := List.cons_eq_cons.mp hsplit
                    exact ⟨hpiece.symm, hpieces.symm⟩
                  obtain ⟨rfl, rfl⟩ := hpieces
                  have hmem : last ∈ text := by
                    cases text with
                    | nil =>
                        obtain rfl : d = last := Option.some.inj hlast
                        rw [hd] at hblank
                        cases hblank
                    | cons e text =>
                        rw [List.getLast?_cons_cons] at hlast
                        exact List.mem_of_getLast? hlast
                  obtain ⟨word, words, htail⟩ :=
                    List.exists_cons_of_ne_nil (splitWhitespace_ne_nil hmem hblank)
                  rw [splitWhitespace_cons_blank hd]
                  show _ = List.intercalate [' '] ([] :: splitWhitespace text)
                  rw [htail, List.intercalate_cons_cons]
                  simp [hd]
              | false =>
                  obtain ⟨piece', pieces', hsplit', hwords'⟩ := splitWhitespace_cons hd text
                  rw [splitWhen, hd, hsplit'] at hsplit
                  obtain ⟨rfl, rfl⟩ := List.cons_eq_cons.mp hsplit
                  rw [hwords']
                  simp [hd]

/-- **Words joined by spaces** are a text with its runs of white space squeezed, once those at its
ends are cut off. -/
theorem intercalate_splitWhitespace {text : List Char}
    (hfirst : ∀ c, text.head? = some c → isWhitespace c = false)
    (hlast : ∀ c, text.getLast? = some c → isWhitespace c = false) :
    List.intercalate [' '] (splitWhitespace text) = squeezeBlanks text := by
  cases hend : text.getLast? with
  | none =>
      rw [List.getLast?_eq_none_iff.mp hend]
      rfl
  | some last =>
      have hany : text.head?.any isWhitespace = false := by
        cases hhead : text.head? with
        | none => rfl
        | some c => exact hfirst c hhead
      rw [squeezeBlanks_eq hend (hlast last hend), hany]
      rfl

/-! ## Compaction

Each step of the compaction of code keeps what is significant: folding white space, and
each rule of the list.  A step is a rewriting of code around placeholders, and these
compose. -/

/-- A rewriting of code around placeholders that keeps what is significant. -/
structure Compacts (rewrite : List Char → List Char) : Prop where
  around : RewritesAround literalPlaceholders rewrite
  significant_eq : ∀ text, significant (rewrite text) = significant text

theorem Compacts.comp {first second : List Char → List Char} (hfirst : Compacts first)
    (hsecond : Compacts second) : Compacts (second ∘ first) :=
  ⟨hfirst.around.comp hsecond.around, fun text =>
    (hsecond.significant_eq (first text)).trans (hfirst.significant_eq text)⟩

theorem Compacts.sameCode {rewrite : List Char → List Char} (h : Compacts rewrite)
    (front : List Char) (pieces : List (List Char × List Char)) :
    SameCode front (rewrite front) pieces (pieces.map (Prod.map id rewrite)) := by
  refine ⟨⟨h.significant_eq front, ?_⟩, ?_⟩
  · rw [List.forall₂_map_left_iff]
    exact List.forall₂_same.mpr fun piece _ => ⟨rfl, h.significant_eq piece.2⟩
  · have hapart := (h.around.alike front pieces).apart_iff
      (.nil_of_unmarked (fun c hc => absurd hc List.not_mem_nil)) 0
    rwa [List.nil_append, List.nil_append] at hapart

theorem not_isPlaceholderChar_of_blank {c : Char} (hc : isWhitespace c = true) :
    ¬ IsPlaceholderChar c := fun hmark => by
  rw [isWhitespace_of_isPlaceholderChar hmark] at hc
  cases hc

theorem compacts_squeezeBlanks : Compacts squeezeBlanks where
  around := {
    nil := rfl
    append_cons := by
      intro c hc before after
      have hblank : isWhitespace c = false := isWhitespace_of_isPlaceholderChar hc
      induction before with
      | nil => simp [squeezeBlanks, hblank]
      | cons d before ih =>
          have hhead : ((before ++ c :: after).head?.any isWhitespace) =
              (before.head?.any isWhitespace) := by
            cases before with
            | nil => simp [hblank]
            | cons e before => rfl
          rw [List.cons_append, squeezeBlanks, squeezeBlanks, ih, hhead]
          split
          · split <;> rfl
          · rfl
    sameRuns := by
      intro text
      induction text with
      | nil => exact .nil
      | cons c text ih =>
          rw [squeezeBlanks]
          cases hc : isWhitespace c with
          | false => exact ih.cons c
          | true =>
              have hone : ∀ {e}, isWhitespace e = true → Unmarked literalPlaceholders [e] :=
                fun he e' he' => List.mem_singleton.mp he' ▸ not_isPlaceholderChar_of_blank he
              have hspace : SameRuns literalPlaceholders [c] [' '] :=
                .of_unmarked (hone hc) (hone (by decide)) (List.cons_ne_nil _ _)
                  (List.cons_ne_nil _ _)
              cases text with
              | nil => exact hspace
              | cons d text =>
                  cases hd : isWhitespace d with
                  | true =>
                      have htwo : Unmarked literalPlaceholders [c, d] := by
                        intro e he
                        rcases List.mem_pair.mp he with rfl | rfl
                        · exact not_isPlaceholderChar_of_blank hc
                        · exact not_isPlaceholderChar_of_blank hd
                      have hpair : SameRuns literalPlaceholders ([c, d] ++ text) ([d] ++ text) :=
                        (SameRuns.of_unmarked htwo (hone hd) (List.cons_ne_nil _ _)
                          (List.cons_ne_nil _ _)).append (.refl text)
                      simpa [hd] using hpair.trans ih
                  | false => simpa [hd] using hspace.append ih }
  significant_eq := by
    intro text
    induction text with
    | nil => rfl
    | cons c text ih =>
        rw [squeezeBlanks]
        cases hc : isWhitespace c with
        | false => exact significant_cons_congr ih c
        | true =>
            rw [if_pos rfl, significant_cons_blank hc]
            split
            · exact ih
            · rw [significant_cons_blank (by decide), ih]

/-- A character that is in no placeholder. -/
def isFree (c : Char) : Bool := c ∉ "_ASPLITER".toList && !c.isDigit

theorem unmarked_of_all {text : List Char} (h : text.all isFree = true) :
    Unmarked literalPlaceholders text := by
  intro c hc hmark
  have hfree := List.all_eq_true.mp h c hc
  rw [isFree, Bool.and_eq_true, decide_eq_true_eq, Bool.not_eq_true'] at hfree
  rcases hmark with hmem | hdigit
  · exact hfree.1 hmem
  · rw [hfree.2] at hdigit
    cases hdigit

/-- What a rule of the list replaces is the same text but for white space, or a comma before a
closing bracket. -/
theorem compactionRules_spec : ∀ rule ∈ compactionRules,
    rule.1.toList ≠ [] ∧ rule.2.toList ≠ [] ∧
      rule.1.toList.all isFree = true ∧ rule.2.toList.all isFree = true ∧
      (rule.1.toList.filter (fun c => !isWhitespace c) =
          rule.2.toList.filter (fun c => !isWhitespace c) ∨ rule = (",)", ")")) := by
  decide +kernel

theorem significant_filter (text after : List Char) :
    significant (text ++ after) = significant (text.filter (fun c => !isWhitespace c) ++ after) := by
  induction text with
  | nil => rfl
  | cons c text ih =>
      cases hc : isWhitespace c with
      | true =>
          rw [List.cons_append, significant_cons_blank hc, ih,
            List.filter_cons_of_neg (by simp [hc])]
      | false =>
          rw [List.filter_cons_of_pos (by simp [hc])]
          exact significant_cons_congr ih c

theorem compacts_rule {rule : String × String} (hrule : rule ∈ compactionRules) :
    Compacts (replaceAll rule.1.toList rule.2.toList) := by
  obtain ⟨hpattern, hreplacement, hunmarked, hunmarked', hsame⟩ := compactionRules_spec rule hrule
  refine ⟨rewritesAround_replaceAll hpattern hreplacement (unmarked_of_all hunmarked)
    (unmarked_of_all hunmarked'),
    fun text => ?_⟩
  induction text using replaceAll_induction hpattern with
  | nil => rfl
  | occurrence rest ih =>
      rw [replaceAll_append hpattern]
      rcases hsame with hfilter | rfl
      · rw [significant_filter, ← hfilter, ← significant_filter]
        exact significant_append_congr ih _
      · -- the comma before the bracket is not significant
        have hbracket : significant (')' :: rest) = ')' :: significant rest :=
          significant_cons_kept (by decide) (by decide) rest
        show significant (')' :: replaceAll ",)".toList ")".toList rest) =
          significant (',' :: ')' :: rest)
        rw [significant_cons (by decide : isWhitespace ',' = false) (')' :: rest), if_pos]
        · exact significant_cons_congr ih ')'
        · rw [hbracket]
          exact ⟨rfl, rfl⟩
  | passed c rest hpassed ih =>
      rw [replaceAll_cons hpassed]
      exact significant_cons_congr ih c

theorem compacts_foldl {rules : List (String × String)} (hrules : rules ⊆ compactionRules) :
    Compacts fun text =>
      rules.foldl (fun compacted rule => replaceAll rule.1.toList rule.2.toList compacted) text := by
  induction rules with
  | nil =>
      exact ⟨⟨rfl, fun _ _ _ => rfl, fun text => .refl text⟩, fun _ => rfl⟩
  | cons rule rules ih =>
      exact (compacts_rule (hrules List.mem_cons_self)).comp
        (ih fun other hother => hrules (List.mem_cons_of_mem _ hother))

/-- **Compacting code with placeholders** leaves the same code. -/
theorem sameCode_compactCode (front : List Char) (pieces : List (List Char × List Char)) :
    ∃ front' pieces', SameCode front front' pieces pieces' ∧
      compactCode (masked literalPlaceholders 0 front pieces) =
        masked literalPlaceholders 0 front' pieces' := by
  -- white space at the end and at the front is cut off
  obtain ⟨front₁, pieces₁, blank, hblank, hsame, halike, hmasked⟩ :=
    exists_sameCode_of_blank_end front pieces
  obtain ⟨htext, hlast⟩ := hmasked 0
  have hfirst : SameCode front front₁ pieces pieces₁ := by
    have hapart := halike.apart_iff
      (.nil_of_unmarked (fun c hc => absurd hc List.not_mem_nil)) 0
    rw [List.nil_append, List.nil_append] at hapart
    exact ⟨hsame, hapart⟩
  have hspaces : Blank (front₁.takeWhile isWhitespace) := fun c hc => List.mem_takeWhile_imp hc
  have hsecond := sameCode_of_blank_front hspaces (front₁.dropWhile isWhitespace) pieces₁
  rw [List.takeWhile_append_dropWhile] at hsecond
  have hkept : masked literalPlaceholders 0 front₁ pieces₁ = front₁.takeWhile isWhitespace ++
      masked literalPlaceholders 0 (front₁.dropWhile isWhitespace) pieces₁ := by
    rw [← masked_append, List.takeWhile_append_dropWhile]
  -- what is left is squeezed and rewritten
  have hstep := compacts_squeezeBlanks.comp (compacts_foldl (List.Subset.refl compactionRules))
  refine ⟨_, _, (hfirst.trans hsecond).trans (hstep.sameCode _ _), ?_⟩
  rw [← hstep.around.masked, Function.comp_apply, compactCode, htext, hkept, List.append_assoc,
    splitWhitespace_blank_append hspaces, splitWhitespace_append_blank hblank,
    intercalate_splitWhitespace]
  · intro c hc
    rcases head?_masked hc with hhead | hmark
    · have hnot := List.head?_dropWhile_not isWhitespace front₁
      rw [hhead] at hnot
      exact hnot
    · exact isWhitespace_of_isPlaceholderChar hmark
  · intro c hc
    refine hlast c ?_
    rw [hkept, List.getLast?_append, hc]
    rfl

end AspRust.Parser
