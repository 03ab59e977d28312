import Mathlib.Data.List.Basic

/-!
# Encodings that tell where they end

The encodings of several values are written one after another.  What was written can
be told from the whole when each encoding tells where it ends: two values whose
encodings begin one text are equal, and so is what follows them (`SelfDelimiting`).

Such encodings can be put together: one after another (`SelfDelimiting.pair`), with a
mark for whether there is one (`SelfDelimiting.option`), and as a list with something
behind it (`SelfDelimiting.listThen`).  A list has no end of its own: it can be told
from what follows when no element begins as what follows does.

A content of any form becomes self-delimiting behind its length
(`SelfDelimiting.behindLength`).
-/

namespace AspRust.Foundation

variable {α γ δ β : Type*}

/-- The encodings of the admitted values can be told from what follows them. -/
def SelfDelimiting (admitted : α → Prop) (encode : α → List β) : Prop :=
  ∀ ⦃a b : α⦄, admitted a → admitted b →
    ∀ ⦃x y : List β⦄, encode a ++ x = encode b ++ y → a = b ∧ x = y

namespace SelfDelimiting

variable {admitted : α → Prop} {encode : α → List β} {admitted' : γ → Prop}
  {encode' : γ → List β}

/-- With nothing behind them, the encodings tell the values apart. -/
theorem eq_of_encode_eq (h : SelfDelimiting admitted encode) {a b : α} (ha : admitted a)
    (hb : admitted b) (heq : encode a = encode b) : a = b := by
  refine (@h a b ha hb [] [] ?_).1
  rw [heq]

/-- Fewer values. -/
theorem mono (h : SelfDelimiting admitted encode) {fewer : α → Prop}
    (hfewer : ∀ a, fewer a → admitted a) : SelfDelimiting fewer encode := by
  intro a b ha hb x y heq
  exact h (hfewer a ha) (hfewer b hb) heq

/-- One value and then another. -/
theorem pair (h : SelfDelimiting admitted encode) (h' : SelfDelimiting admitted' encode') :
    SelfDelimiting (fun p : α × γ => admitted p.1 ∧ admitted' p.2)
      fun p => encode p.1 ++ encode' p.2 := by
  rintro ⟨a, c⟩ ⟨b, d⟩ ⟨ha, hc⟩ ⟨hb, hd⟩ x y heq
  simp only [List.append_assoc] at heq
  obtain ⟨rfl, hrest⟩ := h ha hb heq
  obtain ⟨rfl, hxy⟩ := h' hc hd hrest
  exact ⟨rfl, hxy⟩

/-- Another form of the values. -/
theorem comap (h : SelfDelimiting admitted encode) {form : δ → α}
    (hform : Function.Injective form) :
    SelfDelimiting (fun d => admitted (form d)) fun d => encode (form d) := by
  intro d e hd he x y heq
  obtain ⟨hsame, hxy⟩ := h hd he heq
  exact ⟨hform hsame, hxy⟩

/-- A value that may be missing, behind a mark that says whether it is there. -/
theorem option (h : SelfDelimiting admitted encode) {absent present : β}
    (hmarks : absent ≠ present) :
    SelfDelimiting (fun value : Option α => ∀ a ∈ value, admitted a)
      fun value => value.elim [absent] fun a => present :: encode a := by
  intro value other hvalue hother x y heq
  cases value with
  | none =>
      cases other with
      | none => exact ⟨rfl, (List.cons.inj heq).2⟩
      | some b => exact absurd (List.cons.inj heq).1 hmarks
  | some a =>
      cases other with
      | none => exact absurd (List.cons.inj heq).1.symm hmarks
      | some b =>
          obtain ⟨rfl, hxy⟩ := h (hvalue a rfl) (hother b rfl) (List.cons.inj heq).2
          exact ⟨rfl, hxy⟩

/-- A list, and behind it something that begins as no element does. -/
theorem listThen (h : SelfDelimiting admitted encode) (h' : SelfDelimiting admitted' encode')
    (hapart : ∀ ⦃a c⦄, admitted a → admitted' c →
      ∀ x y : List β, encode a ++ x ≠ encode' c ++ y) :
    SelfDelimiting (fun p : List α × γ => (∀ a ∈ p.1, admitted a) ∧ admitted' p.2)
      fun p => p.1.flatMap encode ++ encode' p.2 := by
  rintro ⟨as, c⟩ ⟨bs, d⟩ ⟨has, hc⟩ ⟨hbs, hd⟩ x y heq
  simp only [List.append_assoc] at heq has hbs hc hd
  induction as generalizing bs with
  | nil =>
      cases bs with
      | nil =>
          obtain ⟨rfl, hxy⟩ := h' hc hd heq
          exact ⟨rfl, hxy⟩
      | cons b bs =>
          rw [List.flatMap_nil, List.nil_append, List.flatMap_cons, List.append_assoc] at heq
          exact absurd heq.symm (hapart (hbs b List.mem_cons_self) hc _ _)
  | cons a as ih =>
      cases bs with
      | nil =>
          rw [List.flatMap_nil, List.nil_append, List.flatMap_cons, List.append_assoc] at heq
          exact absurd heq (hapart (has a List.mem_cons_self) hd _ _)
      | cons b bs =>
          rw [List.flatMap_cons, List.flatMap_cons, List.append_assoc, List.append_assoc] at heq
          obtain ⟨rfl, hrest⟩ := h (has a List.mem_cons_self) (hbs b List.mem_cons_self) heq
          obtain ⟨hsame, hxy⟩ := ih bs (fun e he => has e (List.mem_cons_of_mem _ he))
            (fun e he => hbs e (List.mem_cons_of_mem _ he)) hrest
          obtain ⟨rfl, rfl⟩ := Prod.mk.inj hsame
          exact ⟨rfl, hxy⟩

/-- A content behind its length, where the lengths are told apart in a header of one
width. -/
theorem behindLength {content : α → List β} (hcontent : Function.Injective content)
    {header : ℕ → List β} {width bound : ℕ} (hwidth : ∀ n, (header n).length = width)
    (hheader : ∀ ⦃n m⦄, n ≤ bound → m ≤ bound → header n = header m → n = m) :
    SelfDelimiting (fun a => (content a).length ≤ bound)
      fun a => header (content a).length ++ content a := by
  intro a b ha hb x y heq
  simp only [List.append_assoc] at heq
  obtain ⟨hlengths, hrest⟩ := List.append_inj heq (by rw [hwidth, hwidth])
  obtain ⟨hsame, hxy⟩ := List.append_inj hrest (hheader ha hb hlengths)
  exact ⟨hcontent hsame, hxy⟩

end SelfDelimiting

end AspRust.Foundation
