import AspRust.Foundation.Placeholders
import Mathlib.Data.List.Forall2

/-!
# Rewriting around placeholders

A rewriting that knows nothing of mark characters leaves marks where they are, and rewrites the
texts between them one by one (`RewritesAround.masked`).  If it also leaves alone which mark
characters follow each other, marks are apart afterwards exactly if they were before
(`Alike.apart_iff`).

### What is load-bearing

Two things can go wrong when a rewriting passes by a mark: it may change characters of the mark,
or it may bring two pieces together that make a new one.  `SameRuns` is about the second: what
stands next to each other in runs of mark characters is the same before and after.
-/

namespace AspRust.Foundation

namespace Placeholders

section Alike

variable (marks : Placeholders)

/-- Two texts begin with the same mark characters. -/
def SameHead (first second : List Char) : Prop :=
  ∀ pattern, (∀ c ∈ pattern, marks.IsMarkChar c) → (pattern <+: first ↔ pattern <+: second)

/-- The same runs of mark characters begin in two texts, whatever mark characters follow. -/
def SameStarts (first second : List Char) : Prop :=
  ∀ after after', SameHead marks after after' → ∀ pattern, pattern ≠ [] →
    (∀ c ∈ pattern, marks.IsMarkChar c) →
      (BeginsIn pattern first after ↔ BeginsIn pattern second after')

/-- Two texts have the same runs of mark characters, also where they meet other texts. -/
def SameRuns (first second : List Char) : Prop :=
  SameStarts marks first second ∧ ∀ after after', SameHead marks after after' →
    SameHead marks (first ++ after) (second ++ after')

/-- No character of a text is a mark character. -/
def Unmarked (text : List Char) : Prop := ∀ c ∈ text, ¬ marks.IsMarkChar c

/-- Texts with the same parts, and the same runs between them. -/
inductive Alike : List Char → List (List Char × List Char) → List Char →
    List (List Char × List Char) → Prop
  | last {front front' : List Char} (hhead : SameHead marks front front')
      (hstarts : ∀ pattern, pattern ≠ [] → (∀ c ∈ pattern, marks.IsMarkChar c) →
        (BeginsIn pattern front [] ↔ BeginsIn pattern front' [])) :
      Alike front [] front' []
  | cons {front front' literal code code' : List Char} {rest rest' : List (List Char × List Char)}
      (hfront : SameRuns marks front front') (hrest : Alike code rest code' rest') :
      Alike front ((literal, code) :: rest) front' ((literal, code') :: rest')

variable {marks}

/-! ## Runs

A run is a stretch of mark characters.  Two texts have the same runs if the same
stretches begin in both, and if that stays so whatever they stand in front of. -/

theorem SameHead.refl (text : List Char) : SameHead marks text text := fun _ _ => Iff.rfl

theorem SameHead.cons {first second : List Char} (h : SameHead marks first second) (c : Char) :
    SameHead marks (c :: first) (c :: second) := by
  intro pattern hpattern
  cases pattern with
  | nil => exact iff_of_true List.nil_prefix List.nil_prefix
  | cons d pattern =>
      rw [List.cons_prefix_cons, List.cons_prefix_cons,
        h pattern fun e he => hpattern e (List.mem_cons_of_mem _ he)]

/-- A text without a mark character at its front begins with no run. -/
theorem not_prefix_of_unmarked {pattern text after : List Char} (hpattern : pattern ≠ [])
    (hmarks : ∀ c ∈ pattern, marks.IsMarkChar c) (hne : text ≠ []) (htext : Unmarked marks text) :
    ¬ pattern <+: text ++ after := by
  obtain ⟨d, pattern, rfl⟩ := List.exists_cons_of_ne_nil hpattern
  obtain ⟨c, text, rfl⟩ := List.exists_cons_of_ne_nil hne
  rw [List.cons_append, List.cons_prefix_cons]
  rintro ⟨rfl, -⟩
  exact htext d List.mem_cons_self (hmarks d List.mem_cons_self)

theorem not_beginsIn_of_unmarked {pattern text after : List Char} (hpattern : pattern ≠ [])
    (hmarks : ∀ c ∈ pattern, marks.IsMarkChar c) (htext : Unmarked marks text) :
    ¬ BeginsIn pattern text after := by
  rintro ⟨front, back, rfl, hback, hbegin⟩
  exact not_prefix_of_unmarked hpattern hmarks hback
    (fun c hc => htext c (List.mem_append_right _ hc)) hbegin

theorem SameStarts.nil_of_unmarked {text : List Char} (h : Unmarked marks text) :
    SameStarts marks text [] := fun _ _ _ _ hpattern hmarks =>
  iff_of_false (not_beginsIn_of_unmarked hpattern hmarks h) (not_beginsIn_nil _)

theorem SameStarts.append {first first' second second' : List Char}
    (hfirst : SameStarts marks first first') (hsecond : SameRuns marks second second') :
    SameStarts marks (first ++ second) (first' ++ second') := by
  intro after after' hafter pattern hpattern hmarks
  rw [beginsIn_append, beginsIn_append,
    hfirst _ _ (hsecond.2 _ _ hafter) pattern hpattern hmarks,
    hsecond.1 _ _ hafter pattern hpattern hmarks]

theorem SameRuns.append {first first' second second' : List Char}
    (hfirst : SameRuns marks first first') (hsecond : SameRuns marks second second') :
    SameRuns marks (first ++ second) (first' ++ second') := by
  refine ⟨hfirst.1.append hsecond, fun after after' hafter => ?_⟩
  rw [List.append_assoc, List.append_assoc]
  exact hfirst.2 _ _ (hsecond.2 _ _ hafter)

theorem SameRuns.nil : SameRuns marks [] [] :=
  ⟨fun _ _ _ _ _ _ => iff_of_false (not_beginsIn_nil _) (not_beginsIn_nil _), fun _ _ h => h⟩

theorem SameRuns.cons {first second : List Char} (h : SameRuns marks first second) (c : Char) :
    SameRuns marks (c :: first) (c :: second) := by
  refine ⟨fun after after' hafter pattern hpattern hmarks => ?_, fun after after' hafter => ?_⟩
  · rw [beginsIn_cons, beginsIn_cons, (h.2 _ _ hafter).cons c pattern hmarks,
      h.1 _ _ hafter pattern hpattern hmarks]
  · rw [List.cons_append, List.cons_append]
    exact (h.2 _ _ hafter).cons c

theorem SameRuns.refl (text : List Char) : SameRuns marks text text := by
  induction text with
  | nil => exact .nil
  | cons c text ih => exact ih.cons c

theorem SameRuns.trans {first second third : List Char} (h : SameRuns marks first second)
    (h' : SameRuns marks second third) : SameRuns marks first third :=
  ⟨fun _ after' hafter pattern hpattern hmarks =>
      (h.1 _ _ hafter pattern hpattern hmarks).trans
        (h'.1 _ _ (SameHead.refl after') pattern hpattern hmarks),
    fun _ after' hafter pattern hmarks =>
      (h.2 _ _ hafter pattern hmarks).trans (h'.2 _ _ (SameHead.refl after') pattern hmarks)⟩

/-- A text without mark characters may be exchanged for another. -/
theorem SameRuns.of_unmarked {first second : List Char} (hfirst : Unmarked marks first)
    (hsecond : Unmarked marks second) (hne : first ≠ []) (hne' : second ≠ []) :
    SameRuns marks first second := by
  refine ⟨fun after after' _ pattern hpattern hmarks => iff_of_false
    (not_beginsIn_of_unmarked hpattern hmarks hfirst)
    (not_beginsIn_of_unmarked hpattern hmarks hsecond), fun after after' _ pattern hmarks => ?_⟩
  by_cases hpattern : pattern = []
  · rw [hpattern]
    exact iff_of_true List.nil_prefix List.nil_prefix
  · exact iff_of_false (not_prefix_of_unmarked hpattern hmarks hne hfirst)
      (not_prefix_of_unmarked hpattern hmarks hne' hsecond)

/-! ## Alike texts

Texts with the same parts in the same order and the same runs between them.  Whether a
mark begins in a wrong place can be seen from the runs alone. -/

theorem SameRuns.atEnd {front front' : List Char} (h : SameRuns marks front front') :
    Alike marks front [] front' [] := by
  refine Alike.last ?_ (h.1 [] [] (SameHead.refl []))
  have hhead := h.2 [] [] (SameHead.refl [])
  rwa [List.append_nil, List.append_nil] at hhead

/-- What follows the last run of a text may be cut off. -/
theorem Alike.of_unmarked_end {front after : List Char} (h : Unmarked marks after) :
    Alike marks (front ++ after) [] front [] := by
  have hafter : SameHead marks after [] := by
    intro pattern hmarks
    by_cases hpattern : pattern = []
    · rw [hpattern]
      exact iff_of_true List.nil_prefix List.nil_prefix
    · refine iff_of_false (fun hbegin => ?_) (fun hnil => hpattern (List.prefix_nil.mp hnil))
      obtain ⟨c, pattern, rfl⟩ := List.exists_cons_of_ne_nil hpattern
      exact h c (hbegin.subset List.mem_cons_self) (hmarks c List.mem_cons_self)
  refine Alike.last ?_ fun pattern hpattern hmarks => ?_
  · have hhead := (SameRuns.refl front).2 _ _ hafter
    rwa [List.append_nil] at hhead
  · rw [beginsIn_append, List.append_nil,
      (SameRuns.refl front).1 _ _ hafter pattern hpattern hmarks]
    exact or_iff_left (not_beginsIn_of_unmarked hpattern hmarks h)

theorem Alike.masked {front front' : List Char} {pieces pieces' : List (List Char × List Char)}
    (h : Alike marks front pieces front' pieces') (index : ℕ) :
    Alike marks (masked marks index front pieces) []
      (Placeholders.masked marks index front' pieces') [] := by
  induction h generalizing index with
  | last hhead hstarts => exact .last hhead hstarts
  | @cons front front' literal code code' rest rest' hfront _ ih =>
      obtain ⟨hhead, hstarts⟩ := ih (index + 1)
      have hruns := hfront.append (SameRuns.refl (marks.mark index))
      rw [Placeholders.masked, Placeholders.masked, ← List.append_assoc, ← List.append_assoc]
      refine .last (hruns.2 _ _ hhead) fun pattern hpattern hmarks => ?_
      rw [@beginsIn_append pattern (front ++ marks.mark index),
        @beginsIn_append pattern (front' ++ marks.mark index), List.append_nil, List.append_nil,
        hruns.1 _ _ hhead pattern hpattern hmarks, hstarts pattern hpattern hmarks]

/-- **In alike texts** marks are apart or not alike. -/
theorem Alike.apart_iff {front front' : List Char} {pieces pieces' : List (List Char × List Char)}
    (h : Alike marks front pieces front' pieces') {before before' : List Char}
    (hbefore : SameStarts marks before before') (index : ℕ) :
    Apart marks index (before ++ front) pieces ↔ Apart marks index (before' ++ front') pieces' := by
  induction h generalizing before before' index with
  | last => exact Iff.rfl
  | @cons front front' literal code code' rest rest' hfront hrest ih =>
      have hmarks : ∀ c ∈ marks.mark index, marks.IsMarkChar c :=
        fun c hc => marks.isMarkChar_of_mem hc
      have hne := marks.mark_ne_nil index
      obtain ⟨hhead, hstarts⟩ := hrest.masked (index + 1)
      have hfollow := (SameRuns.refl (marks.mark index)).2 _ _ hhead
      have hliteral := @SameRuns.refl marks literal
      have hmore := ih ((hbefore.append hfront).append hliteral) (index + 1)
      rw [Apart, Apart, (hbefore.append hfront) _ _ hfollow _ hne hmarks,
        hstarts _ hne hmarks, ← List.append_assoc, ← List.append_assoc, hmore]

end Alike

/-! ## Rewriting

A rewriting that goes around mark characters can be done piece by piece, and two of them
one after the other are one.  A replacement is one if its pattern has no mark character
in it and what it puts has none either. -/

section Rewriting

variable (marks : Placeholders)

/-- A rewriting that treats the texts around mark characters one by one. -/
structure RewritesAround (rewrite : List Char → List Char) : Prop where
  nil : rewrite [] = []
  append_cons : ∀ {c}, marks.IsMarkChar c → ∀ before after,
    rewrite (before ++ c :: after) = rewrite before ++ c :: rewrite after
  sameRuns : ∀ text, SameRuns marks text (rewrite text)

variable {marks}

theorem RewritesAround.append_mark {rewrite : List Char → List Char}
    (h : RewritesAround marks rewrite) {run : List Char} (hne : run ≠ [])
    (hrun : ∀ c ∈ run, marks.IsMarkChar c) (before after : List Char) :
    rewrite (before ++ (run ++ after)) = rewrite before ++ (run ++ rewrite after) := by
  induction run generalizing before with
  | nil => exact absurd rfl hne
  | cons c run ih =>
      rw [List.cons_append, h.append_cons (hrun c List.mem_cons_self), List.cons_append]
      cases run with
      | nil => rfl
      | cons d run =>
          have hrest := ih (List.cons_ne_nil _ _) (fun e he => hrun e (List.mem_cons_of_mem _ he)) []
          rw [List.nil_append, h.nil, List.nil_append] at hrest
          rw [hrest]

/-- **A rewriting of a masked text** rewrites what is between the marks. -/
theorem RewritesAround.masked {rewrite : List Char → List Char}
    (h : RewritesAround marks rewrite) (index : ℕ) (front : List Char)
    (pieces : List (List Char × List Char)) :
    rewrite (masked marks index front pieces) =
      Placeholders.masked marks index (rewrite front) (pieces.map (Prod.map id rewrite)) := by
  induction pieces generalizing index front with
  | nil => rfl
  | cons piece rest ih =>
      obtain ⟨literal, code⟩ := piece
      rw [Placeholders.masked, h.append_mark (marks.mark_ne_nil index)
        (fun c hc => marks.isMarkChar_of_mem hc), ih]
      rfl

theorem RewritesAround.alike {rewrite : List Char → List Char}
    (h : RewritesAround marks rewrite) (front : List Char)
    (pieces : List (List Char × List Char)) :
    Alike marks front pieces (rewrite front) (pieces.map (Prod.map id rewrite)) := by
  induction pieces generalizing front with
  | nil => exact (h.sameRuns front).atEnd
  | cons piece rest ih => exact .cons (h.sameRuns front) (ih piece.2)

theorem RewritesAround.comp {first second : List Char → List Char}
    (hfirst : RewritesAround marks first) (hsecond : RewritesAround marks second) :
    RewritesAround marks (second ∘ first) where
  nil := by rw [Function.comp, hfirst.nil, hsecond.nil]
  append_cons hc before after := by
    rw [Function.comp, hfirst.append_cons hc, hsecond.append_cons hc]
    rfl
  sameRuns text := (hfirst.sameRuns text).trans (hsecond.sameRuns (first text))

/-- Replacing a text without mark characters by another is such a rewriting. -/
theorem rewritesAround_replaceAll {pattern replacement : List Char} (hpattern : pattern ≠ [])
    (hreplacement : replacement ≠ []) (hunmarked : Unmarked marks pattern)
    (hunmarked' : Unmarked marks replacement) :
    RewritesAround marks (replaceAll pattern replacement) where
  nil := rfl
  append_cons hc before after := by
    refine replaceAll_append_cons_of_notMem hpattern (fun hmem => ?_) before after
    exact hunmarked _ hmem hc
  sameRuns text := by
    induction text using replaceAll_induction hpattern with
    | nil => exact .nil
    | occurrence rest ih =>
        rw [replaceAll_append hpattern]
        exact (SameRuns.of_unmarked hunmarked hunmarked' hpattern hreplacement).append ih
    | passed c rest hpassed ih =>
        rw [replaceAll_cons hpassed]
        exact ih.cons c

end Rewriting

end Placeholders

end AspRust.Foundation
