import Mathlib.Data.List.Forall2
import Mathlib.Data.List.Lex
import Mathlib.Data.List.Pairwise

/-!
# Positions in a tree

A node of an ordered tree is found by the numbers of the children on the way down to it.
Positions are compared as lists of numbers, which puts them in the order in which the nodes
are written.

`Lists children marked tree positions` says that the positions are those of all marked nodes
of a tree, each once and in the order of the text.  A marked node with no children has the
position `[]` alone (`Lists.leaf`), and the positions of a tree are those of its children
one after the other (`Lists.node`).
-/

namespace AspRust.Foundation.TreePosition

variable {τ : Type*} (children : τ → List τ)

/-- The node at a position. -/
def node? : τ → List ℕ → Option τ
  | tree, [] => some tree
  | tree, index :: rest =>
      match (children tree)[index]? with
      | none => none
      | some child => node? child rest

variable {children} {marked : τ → Prop} {tree : τ}

theorem node?_cons_eq_some_iff {index : ℕ} {rest : List ℕ} {found : τ} :
    node? children tree (index :: rest) = some found ↔
      ∃ child, (children tree)[index]? = some child ∧ node? children child rest = some found := by
  rw [node?]
  cases (children tree)[index]? with
  | none => simp
  | some child => simp

variable (children marked) in
/-- The positions of the marked nodes, in the order of the text. -/
structure Lists (tree : τ) (positions : List (List ℕ)) : Prop where
  sorted : positions.Pairwise (· < ·)
  mem_iff : ∀ position, position ∈ positions ↔
    ∃ found, node? children tree position = some found ∧ marked found

theorem Lists.leaf (hchildren : children tree = []) (hmarked : marked tree) :
    Lists children marked tree [[]] := by
  refine ⟨List.pairwise_singleton _ _, fun position => ?_⟩
  cases position with
  | nil => simpa [node?] using hmarked
  | cons index rest => simp [node?, hchildren]

/-- The positions of the children from one number on, as positions of the tree. -/
def below : ℕ → List (List (List ℕ)) → List (List ℕ)
  | _, [] => []
  | index, positions :: rest => positions.map (index :: ·) ++ below (index + 1) rest

theorem mem_below {position : List ℕ} : ∀ {start : ℕ} {listings : List (List (List ℕ))},
    position ∈ below start listings ↔ ∃ offset rest positions,
      position = (start + offset) :: rest ∧ listings[offset]? = some positions ∧ rest ∈ positions
  | start, [] => by simp [below]
  | start, positions :: listings => by
      rw [below, List.mem_append, List.mem_map, mem_below]
      constructor
      · rintro (⟨rest, hrest, rfl⟩ | ⟨offset, rest, later, rfl, hlater, hrest⟩)
        · exact ⟨0, rest, positions, rfl, rfl, hrest⟩
        · refine ⟨offset + 1, rest, later, ?_, hlater, hrest⟩
          rw [Nat.add_assoc, Nat.add_comm 1]
      · rintro ⟨offset, rest, found, rfl, hfound, hrest⟩
        cases offset with
        | zero =>
            obtain rfl := Option.some.inj hfound
            exact Or.inl ⟨rest, hrest, rfl⟩
        | succ offset =>
            refine Or.inr ⟨offset, rest, found, ?_, hfound, hrest⟩
            rw [Nat.add_assoc, Nat.add_comm 1]

theorem pairwise_below : ∀ {start : ℕ} {listings : List (List (List ℕ))},
    (∀ positions ∈ listings, positions.Pairwise (· < ·)) →
      (below start listings).Pairwise (· < ·)
  | _, [], _ => List.Pairwise.nil
  | start, positions :: listings, hsorted => by
      rw [below, List.pairwise_append]
      refine ⟨?_, pairwise_below fun later hlater => hsorted later (List.mem_cons_of_mem _ hlater),
        ?_⟩
      · rw [List.pairwise_map]
        refine (hsorted positions List.mem_cons_self).imp fun hlt => ?_
        exact List.cons_lt_cons_iff.mpr (Or.inr ⟨rfl, hlt⟩)
      · -- the children behind have larger numbers
        intro first hfirst second hsecond
        obtain ⟨rest, -, rfl⟩ := List.mem_map.mp hfirst
        obtain ⟨offset, other, -, rfl, -, -⟩ := mem_below.mp hsecond
        exact List.cons_lt_cons_iff.mpr (Or.inl (by omega))

/-- Two lists that are related element by element have related elements at each place. -/
theorem forall₂_getElem? {α β : Type*} {related : α → β → Prop} {first : List α}
    {second : List β} (h : List.Forall₂ related first second) {index : ℕ} :
    (∀ {b}, second[index]? = some b → ∃ a, first[index]? = some a ∧ related a b) ∧
      ∀ {a}, first[index]? = some a → ∃ b, second[index]? = some b ∧ related a b := by
  have hlength := h.length_eq
  refine ⟨fun {b} hb => ?_, fun {a} ha => ?_⟩
  · obtain ⟨hindex, rfl⟩ := List.getElem?_eq_some_iff.mp hb
    have hother : index < first.length := by omega
    exact ⟨first[index], List.getElem?_eq_getElem hother, h.get hother hindex⟩
  · obtain ⟨hindex, rfl⟩ := List.getElem?_eq_some_iff.mp ha
    have hother : index < second.length := by omega
    exact ⟨second[index], List.getElem?_eq_getElem hother, h.get hindex hother⟩

/-- The marked nodes of a tree that is not marked itself are those of its children. -/
theorem Lists.node {listings : List (List (List ℕ))} (hmarked : ¬ marked tree)
    (h : List.Forall₂ (Lists children marked) (children tree) listings) :
    Lists children marked tree (below 0 listings) := by
  refine ⟨pairwise_below fun positions hmem => ?_, fun position => ?_⟩
  · obtain ⟨index, hindex⟩ := List.mem_iff_getElem?.mp hmem
    obtain ⟨child, -, hchild⟩ := (forall₂_getElem? h).1 hindex
    exact hchild.sorted
  · rw [mem_below]
    constructor
    · rintro ⟨index, rest, positions, rfl, hpositions, hrest⟩
      obtain ⟨child, hchild, hlists⟩ := (forall₂_getElem? h).1 hpositions
      obtain ⟨found, hfound, hmarkedFound⟩ := (hlists.mem_iff rest).mp hrest
      rw [Nat.zero_add]
      exact ⟨found, node?_cons_eq_some_iff.mpr ⟨child, hchild, hfound⟩, hmarkedFound⟩
    · rintro ⟨found, hfound, hmarkedFound⟩
      cases position with
      | nil =>
          obtain rfl := Option.some.inj hfound
          exact absurd hmarkedFound hmarked
      | cons index rest =>
          obtain ⟨child, hchild, hrest⟩ := node?_cons_eq_some_iff.mp hfound
          obtain ⟨positions, hpositions, hlists⟩ := (forall₂_getElem? h).2 hchild
          refine ⟨index, rest, positions, by rw [Nat.zero_add], hpositions, ?_⟩
          exact (hlists.mem_iff rest).mpr ⟨found, hrest, hmarkedFound⟩

end AspRust.Foundation.TreePosition
