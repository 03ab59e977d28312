import Mathlib.Data.List.Basic

/-!
# First matches against declared values

Entries stand in several lists.  A reader goes through the lists in their order, takes the
first entry of a list that matches, and returns the value of this entry if it has one;
otherwise it goes on to the next list (`found?`).  The entries that were meant are told by
another predicate, and so are the values that are declared (`declared`).

A reader who looks for matches may go wrong in three ways, and in no other
(`found?_eq_head?_iff`):

* an entry that is meant does not match (`Missed`);
* an entry that is meant and matches stands behind another match (`Shadowed`);
* a match that is not meant has a value of its own (`Mistaken`).

None of these speaks of what is returned.  In the first two no list has a first match with
a value, so that nothing is found although something is declared.  The third is about the
first match with a value, and an entry that is not meant does no harm where its value is the
declared one.

### Use

`isMatch` is how the reader tells an entry and `meant` how it ought to be told; they need not be
related.  The theorem asks that at most one value is declared, since with two of them it would
not be said which one is right.
-/

namespace AspRust.Foundation

namespace FirstMatch

variable {E C : Type*} (isMatch meant : E → Prop) (value : E → Option C)
  (lists : List (List E))

/-- The entry is the first match of its list. -/
def IsFirst (list : List E) (entry : E) : Prop :=
  ∃ before after, list = before ++ entry :: after ∧ isMatch entry ∧
    ∀ earlier ∈ before, ¬ isMatch earlier

/-- The first match of the list, if there is one, has no value. -/
def Silent (list : List E) : Prop := ∀ entry, IsFirst isMatch list entry → value entry = none

/-- The value of the first match, in the first list whose first match has one. -/
def found? [DecidablePred isMatch] : Option C :=
  lists.findSome? fun list => (list.find? isMatch).bind value

/-- The values of the entries that are meant. -/
def declared [DecidablePred meant] : List C := (lists.flatten.filter meant).filterMap value

/-- No first match has a value, and an entry with a value that is meant does not match. -/
def Missed : Prop :=
  (∀ list ∈ lists, Silent isMatch value list) ∧
    ∃ list ∈ lists, ∃ entry ∈ list, meant entry ∧ value entry ≠ none ∧ ¬ isMatch entry

/-- No first match has a value, and an entry with a value that is meant stands behind
another match. -/
def Shadowed : Prop :=
  (∀ list ∈ lists, Silent isMatch value list) ∧
    ∃ list ∈ lists, ∃ before entry after, list = before ++ entry :: after ∧
      meant entry ∧ value entry ≠ none ∧ ∃ earlier ∈ before, isMatch earlier

/-- The first match with a value is not meant, and the value is not declared. -/
def Mistaken [DecidablePred meant] : Prop :=
  ∃ before list after, lists = before ++ list :: after ∧
    (∀ earlier ∈ before, Silent isMatch value earlier) ∧
    ∃ entry, IsFirst isMatch list entry ∧ ¬ meant entry ∧
      ∃ c, value entry = some c ∧ c ∉ declared meant value lists

variable {isMatch meant value lists}

theorem find?_eq_some_iff_isFirst [DecidablePred isMatch] {list : List E} {entry : E} :
    list.find? isMatch = some entry ↔ IsFirst isMatch list entry := by
  rw [List.find?_eq_some_iff_append]
  simp only [decide_eq_true_eq, Bool.not_eq_true', decide_eq_false_iff_not]
  constructor
  · rintro ⟨hmatch, before, after, hlist, hbefore⟩
    exact ⟨before, after, hlist, hmatch, hbefore⟩
  · rintro ⟨before, after, hlist, hmatch, hbefore⟩
    exact ⟨hmatch, before, after, hlist, hbefore⟩

theorem bind_find?_eq_none_iff [DecidablePred isMatch] {list : List E} :
    (list.find? isMatch).bind value = none ↔ Silent isMatch value list := by
  rw [Option.bind_eq_none_iff]
  exact forall_congr' fun entry => imp_congr_left find?_eq_some_iff_isFirst

/-- Nothing is found exactly where no first match has a value. -/
theorem found?_eq_none_iff [DecidablePred isMatch] :
    found? isMatch value lists = none ↔ ∀ list ∈ lists, Silent isMatch value list := by
  rw [found?, List.findSome?_eq_none_iff]
  exact forall₂_congr fun list _ => bind_find?_eq_none_iff

/-- What is found is the value of the first match in the first list that is not silent. -/
theorem found?_eq_some_iff [DecidablePred isMatch] {c : C} :
    found? isMatch value lists = some c ↔
      ∃ before list after, lists = before ++ list :: after ∧
        (∀ earlier ∈ before, Silent isMatch value earlier) ∧
        ∃ entry, IsFirst isMatch list entry ∧ value entry = some c := by
  rw [found?, List.findSome?_eq_some_iff]
  refine exists₃_congr fun before list after => and_congr_right fun _ => ?_
  rw [and_comm]
  refine and_congr (forall₂_congr fun earlier _ => bind_find?_eq_none_iff) ?_
  rw [Option.bind_eq_some_iff]
  exact exists_congr fun entry => and_congr_left fun _ => find?_eq_some_iff_isFirst

/-- A reader of two lists. -/
theorem found?_pair [DecidablePred isMatch] (first second : List E) :
    found? isMatch value [first, second] =
      ((first.find? isMatch).bind value).or ((second.find? isMatch).bind value) := by
  rw [found?, List.findSome?_cons, List.findSome?_cons, List.findSome?_nil]
  cases (first.find? isMatch).bind value with
  | some c => rfl
  | none => cases (second.find? isMatch).bind value <;> rfl

/-- The first match among entries that are made of other things. -/
theorem bind_find?_map [DecidablePred isMatch] {F : Type*} (entryOf : F → E) (list : List F) :
    ((list.map entryOf).find? isMatch).bind value =
      (list.find? fun made => isMatch (entryOf made)).bind fun made => value (entryOf made) := by
  rw [List.find?_map, Option.bind_map]
  rfl

theorem mem_declared_iff [DecidablePred meant] {c : C} :
    c ∈ declared meant value lists ↔
      ∃ list ∈ lists, ∃ entry ∈ list, meant entry ∧ value entry = some c := by
  simp only [declared, List.mem_filterMap, List.mem_filter, List.mem_flatten, decide_eq_true_eq]
  constructor
  · rintro ⟨entry, ⟨⟨list, hlist, hentry⟩, hmeant⟩, hvalue⟩
    exact ⟨list, hlist, entry, hentry, hmeant, hvalue⟩
  · rintro ⟨list, hlist, entry, hentry, hmeant, hvalue⟩
    exact ⟨entry, ⟨⟨list, hlist, hentry⟩, hmeant⟩, hvalue⟩

/-- An entry with a value that is meant declares something. -/
theorem head?_declared_ne_none [DecidablePred meant] {list : List E} {entry : E}
    (hlist : list ∈ lists) (hentry : entry ∈ list) (hmeant : meant entry)
    (hvalue : value entry ≠ none) : (declared meant value lists).head? ≠ none := by
  obtain ⟨c, hc⟩ := Option.ne_none_iff_exists'.mp hvalue
  have hmem : c ∈ declared meant value lists :=
    mem_declared_iff.mpr ⟨list, hlist, entry, hentry, hmeant, hc⟩
  rw [ne_eq, List.head?_eq_none_iff]
  exact List.ne_nil_of_mem hmem

/-- Where no first match has a value, what is meant is missed or stands behind a match. -/
theorem missed_or_shadowed [DecidablePred isMatch] {list : List E} {entry : E}
    (hsilent : ∀ list ∈ lists, Silent isMatch value list) (hlist : list ∈ lists)
    (hentry : entry ∈ list) (hmeant : meant entry) (hvalue : value entry ≠ none) :
    Missed isMatch meant value lists ∨ Shadowed isMatch meant value lists := by
  by_cases hmatch : isMatch entry
  · obtain ⟨before, after, rfl⟩ := List.append_of_mem hentry
    refine Or.inr ⟨hsilent, _, hlist, before, entry, after, rfl, hmeant, hvalue, ?_⟩
    by_contra hbefore
    push Not at hbefore
    exact hvalue (hsilent _ hlist entry ⟨before, after, rfl, hmatch, hbefore⟩)
  · exact Or.inl ⟨hsilent, list, hlist, entry, hentry, hmeant, hvalue, hmatch⟩

/-- **The ways to go wrong.**  Where at most one value is declared, it is what is found
exactly if nothing is missed, shadowed or mistaken. -/
theorem found?_eq_head?_iff [DecidablePred isMatch] [DecidablePred meant]
    (hlone : (declared meant value lists).length ≤ 1) :
    found? isMatch value lists = (declared meant value lists).head? ↔
      ¬ Missed isMatch meant value lists ∧ ¬ Shadowed isMatch meant value lists ∧
        ¬ Mistaken isMatch meant value lists := by
  constructor
  · intro hfound
    refine ⟨?_, ?_, ?_⟩
    · rintro ⟨hsilent, list, hlist, entry, hentry, hmeant, hvalue, -⟩
      refine head?_declared_ne_none hlist hentry hmeant hvalue ?_
      rw [← hfound, found?_eq_none_iff.mpr hsilent]
    · rintro ⟨hsilent, list, hlist, before, entry, after, rfl, hmeant, hvalue, -⟩
      refine head?_declared_ne_none hlist (by simp) hmeant hvalue ?_
      rw [← hfound, found?_eq_none_iff.mpr hsilent]
    · rintro ⟨before, list, after, hlists, hsilent, entry, hfirst, -, c, hvalue, hother⟩
      have hc : found? isMatch value lists = some c :=
        found?_eq_some_iff.mpr ⟨before, list, after, hlists, hsilent, entry, hfirst, hvalue⟩
      exact hother (List.mem_of_mem_head? (hfound ▸ hc))
  · rintro ⟨hmissed, hshadowed, hmistaken⟩
    cases hfound : found? isMatch value lists with
    | none =>
        have hsilent := found?_eq_none_iff.mp hfound
        symm
        rw [List.head?_eq_none_iff, List.eq_nil_iff_forall_not_mem]
        intro c hc
        obtain ⟨list, hlist, entry, hentry, hmeant, hvalue⟩ := mem_declared_iff.mp hc
        rcases missed_or_shadowed hsilent hlist hentry hmeant (by rw [hvalue]; simp) with h | h
        · exact hmissed h
        · exact hshadowed h
    | some c =>
        obtain ⟨before, list, after, hlists, hsilent, entry, hfirst, hvalue⟩ :=
          found?_eq_some_iff.mp hfound
        have hc : c ∈ declared meant value lists := by
          by_contra hother
          refine hmistaken ⟨before, list, after, hlists, hsilent, entry, hfirst, ?_, c, hvalue,
            hother⟩
          intro hmeant
          obtain ⟨front, back, rfl, -, -⟩ := hfirst
          exact hother (mem_declared_iff.mpr
            ⟨front ++ entry :: back, by rw [hlists]; simp, entry, by simp, hmeant, hvalue⟩)
        obtain ⟨only, honly⟩ : ∃ only, declared meant value lists = [only] := by
          refine List.length_eq_one_iff.mp (Nat.le_antisymm hlone ?_)
          exact List.length_pos_of_mem hc
        rw [honly] at hc ⊢
        rw [List.mem_singleton.mp hc, List.head?_cons]

end FirstMatch

end AspRust.Foundation
