import Mathlib.Algebra.BigOperators.Group.List.Basic
import Mathlib.Algebra.Ring.Nat
import Mathlib.Data.List.Basic
import Mathlib.Data.List.Induction

/-!
# Walks with a scope

A visitor goes through a tree in preorder.  At each node it enters a scope, records what it
sees, goes below the node or not, and leaves the scope.  What it has recorded in the end is a
fold over the places it has visited: `walk_eq` says so for any visitor that leaves every scope
as it was.  A place is a label below its ancestors, and the scope at a place is what its
ancestors make of the first scope, so nothing of the walk is left in the answer.

### Use

A visitor is given by what it does to its scope on the way in and out, by what it records and by
whether it goes on below.  `Restores` is the one thing to prove of it.  After `walk_eq` the
questions are about places and their ancestors, and the last section has them for the folds that
occur: sums, counts, maxima and searches.
-/

namespace AspRust.Foundation

universe u v w

/-- A tree of labels. -/
inductive LabelledTree (α : Type u) where
  | node (label : α) (children : List (LabelledTree α))

namespace LabelledTree

variable {α : Type u}

/-- A property of all children gives the property of a tree. -/
theorem inductionOn {motive : LabelledTree α → Prop} (tree : LabelledTree α)
    (node : ∀ label children, (∀ child ∈ children, motive child) →
      motive (.node label children)) : motive tree := by
  refine @LabelledTree.rec α motive (fun children => ∀ child ∈ children, motive child)
    node ?_ ?_ tree
  · exact fun child hchild => absurd hchild List.not_mem_nil
  · intro head rest hhead hrest child hchild
    rcases List.mem_cons.mp hchild with rfl | hmem
    · exact hhead
    · exact hrest child hmem

mutual

/-- The places of a tree in preorder: the labels above, from the root on, and the label. -/
def places : LabelledTree α → List (List α × α)
  | node label children => ([], label) :: (placesAll children).map fun place =>
      (label :: place.1, place.2)

def placesAll : List (LabelledTree α) → List (List α × α)
  | [] => []
  | tree :: rest => places tree ++ placesAll rest

end

theorem placesAll_eq_flatMap (trees : List (LabelledTree α)) :
    placesAll trees = trees.flatMap places := by
  induction trees with
  | nil => rfl
  | cons tree rest ih => rw [placesAll, ih, List.flatMap_cons]

/-- A label is found at the root or in a tree below it. -/
theorem exists_places_node_iff {wanted : α → Prop} {label : α} {children : List (LabelledTree α)} :
    (∃ place ∈ (node label children).places, wanted place.2) ↔
      wanted label ∨ ∃ tree ∈ children, ∃ place ∈ tree.places, wanted place.2 := by
  rw [places, List.exists_mem_cons_iff]
  refine or_congr Iff.rfl ?_
  simp only [placesAll_eq_flatMap, List.mem_map, List.mem_flatMap]
  constructor
  · rintro ⟨_, ⟨place, ⟨tree, htree, hplace⟩, rfl⟩, hwanted⟩
    exact ⟨tree, htree, place, hplace, hwanted⟩
  · rintro ⟨tree, htree, place, hplace, hwanted⟩
    exact ⟨_, ⟨place, ⟨tree, htree, hplace⟩, rfl⟩, hwanted⟩

end LabelledTree

/-- What is done at the nodes of a tree.  Recording sees the scope that was entered. -/
structure Visitor (α : Type u) (C : Type v) (A : Type w) where
  enter : α → C → C
  leave : α → C → C
  record : α → C → A → A
  descends : α → Bool

namespace Visitor

variable {α : Type u} {C : Type v} {A : Type w} (visitor : Visitor α C A)

mutual

def walk : LabelledTree α → C × A → C × A
  | .node label children, state =>
      let inner := visitor.enter label state.1
      let recorded := visitor.record label inner state.2
      let below :=
        if visitor.descends label then walkAll children (inner, recorded) else (inner, recorded)
      (visitor.leave label below.1, below.2)

def walkAll : List (LabelledTree α) → C × A → C × A
  | [], state => state
  | tree :: rest, state => walkAll rest (walk tree state)

end

/-- Every scope is left as it was. -/
def Restores : Prop := ∀ label scope, visitor.leave label (visitor.enter label scope) = scope

/-- The scope of a place, by the labels above it and its own. -/
def scopeAt (scope : C) (place : List α × α) : C :=
  (place.1 ++ [place.2]).foldl (fun scope label => visitor.enter label scope) scope

/-- The visitor goes below all labels above a place. -/
def reaches (place : List α × α) : Bool := place.1.all visitor.descends

/-- What is recorded at a list of places. -/
def recordAll (scope : C) (places : List (List α × α)) (recorded : A) : A :=
  places.foldl (fun recorded place =>
    visitor.record place.2 (visitor.scopeAt scope place) recorded) recorded

theorem recordAll_append (scope : C) (first second : List (List α × α)) (recorded : A) :
    visitor.recordAll scope (first ++ second) recorded =
      visitor.recordAll scope second (visitor.recordAll scope first recorded) :=
  List.foldl_append

/-- Places seen from a label above them. -/
theorem recordAll_map_cons (label : α) (scope : C) (places : List (List α × α)) (recorded : A) :
    visitor.recordAll scope (places.map fun place => (label :: place.1, place.2)) recorded =
      visitor.recordAll (visitor.enter label scope) places recorded := by
  unfold recordAll
  rw [List.foldl_map]
  rfl

/-- Of the places below a label those are reached that are reached from there, if the visitor
goes below the label. -/
theorem filter_reaches_map_cons (label : α) (places : List (List α × α)) :
    (places.map fun place => (label :: place.1, place.2)).filter visitor.reaches =
      if visitor.descends label then
        (places.filter visitor.reaches).map fun place => (label :: place.1, place.2)
      else [] := by
  rw [List.filter_map]
  cases hlabel : visitor.descends label with
  | true =>
      rw [if_pos rfl]
      congr 2
      funext place
      show (label :: place.1).all visitor.descends = place.1.all visitor.descends
      rw [List.all_cons, hlabel, Bool.true_and]
  | false =>
      rw [if_neg Bool.false_ne_true, List.map_eq_nil_iff, List.filter_eq_nil_iff]
      intro place _
      show ¬ (label :: place.1).all visitor.descends = true
      rw [List.all_cons, hlabel, Bool.false_and]
      exact Bool.false_ne_true

/-- **A walk is a fold over the places that are reached.** -/
theorem walk_eq (hrestores : visitor.Restores) (tree : LabelledTree α) (scope : C)
    (recorded : A) :
    visitor.walk tree (scope, recorded) =
      (scope, visitor.recordAll scope (tree.places.filter visitor.reaches) recorded) := by
  induction tree using LabelledTree.inductionOn generalizing scope recorded with
  | node label children ih =>
      have hall : ∀ recorded, visitor.walkAll children (visitor.enter label scope, recorded) =
          (visitor.enter label scope,
            visitor.recordAll (visitor.enter label scope)
              ((LabelledTree.placesAll children).filter visitor.reaches) recorded) := by
        clear recorded
        induction children with
        | nil => exact fun _ => rfl
        | cons child rest ihRest =>
            intro recorded
            rw [walkAll, ih child List.mem_cons_self, LabelledTree.placesAll, List.filter_append,
              recordAll_append]
            exact ihRest (fun other hother => ih other (List.mem_cons_of_mem _ hother)) _
      have hself : visitor.reaches ([], label) = true := rfl
      rw [walk, LabelledTree.places, List.filter_cons_of_pos hself, filter_reaches_map_cons]
      dsimp only
      cases hdescends : visitor.descends label with
      | true =>
          rw [if_pos rfl, if_pos rfl, hall]
          dsimp only
          rw [hrestores, ← List.singleton_append, recordAll_append, recordAll_map_cons]
          rfl
      | false =>
          rw [if_neg Bool.false_ne_true, if_neg Bool.false_ne_true]
          dsimp only
          rw [hrestores]
          rfl

/-- What a walk has recorded. -/
theorem walk_snd (hrestores : visitor.Restores) (tree : LabelledTree α) (scope : C)
    (recorded : A) :
    (visitor.walk tree (scope, recorded)).2 =
      visitor.recordAll scope (tree.places.filter visitor.reaches) recorded := by
  rw [walk_eq visitor hrestores]

/-- A walk over several trees, one after the other. -/
theorem walkAll_eq (hrestores : visitor.Restores) (trees : List (LabelledTree α)) (scope : C)
    (recorded : A) :
    visitor.walkAll trees (scope, recorded) =
      (scope, visitor.recordAll scope ((LabelledTree.placesAll trees).filter visitor.reaches)
        recorded) := by
  induction trees generalizing recorded with
  | nil => rfl
  | cons tree rest ih =>
      rw [walkAll, walk_eq visitor hrestores, ih, LabelledTree.placesAll, List.filter_append,
        recordAll_append]

/-- A visitor that stops only at labels it looks for, and at labels that bar the way, finds one
if there is one that no label above bars: the labels above the first one are not looked for. -/
theorem exists_reached_iff (wanted : α → Prop) (bars : α → Bool)
    (hbars : ∀ label, bars label = true → visitor.descends label = false)
    (hstops : ∀ label, visitor.descends label = false → bars label = false → wanted label)
    (trees : List (LabelledTree α)) :
    (∃ place ∈ (LabelledTree.placesAll trees).filter visitor.reaches, wanted place.2) ↔
      ∃ place ∈ LabelledTree.placesAll trees,
        (∀ label ∈ place.1, bars label = false) ∧ wanted place.2 := by
  constructor
  · rintro ⟨place, hplace, hwanted⟩
    obtain ⟨hmem, hreaches⟩ := List.mem_filter.mp hplace
    refine ⟨place, hmem, fun label hlabel => ?_, hwanted⟩
    cases hvalue : bars label with
    | false => rfl
    | true =>
        have hdescends := List.all_eq_true.mp hreaches label hlabel
        rw [hbars label hvalue] at hdescends
        exact hdescends.symm
  have htree : ∀ tree : LabelledTree α,
      (∃ place ∈ tree.places, (∀ label ∈ place.1, bars label = false) ∧ wanted place.2) →
      ∃ place ∈ tree.places, visitor.reaches place = true ∧ wanted place.2 := by
    intro tree
    induction tree using LabelledTree.inductionOn with
    | node label children ih =>
        rintro ⟨place, hplace, hfree, hwanted⟩
        rw [LabelledTree.places] at hplace ⊢
        by_cases hlabel : wanted label
        · exact ⟨_, List.mem_cons_self, rfl, hlabel⟩
        · rcases List.mem_cons.mp hplace with rfl | hbelow
          · exact absurd hwanted hlabel
          · obtain ⟨below, hmem, rfl⟩ := List.mem_map.mp hbelow
            rw [LabelledTree.placesAll_eq_flatMap] at hmem
            obtain ⟨child, hchild, hin⟩ := List.mem_flatMap.mp hmem
            obtain ⟨found, hfound, hreaches, hfoundWanted⟩ := ih child hchild
              ⟨below, hin, fun other hother => hfree other (List.mem_cons_of_mem _ hother), hwanted⟩
            refine ⟨(label :: found.1, found.2), List.mem_cons_of_mem _ (List.mem_map.mpr
              ⟨found, ?_, rfl⟩), ?_, hfoundWanted⟩
            · rw [LabelledTree.placesAll_eq_flatMap]
              exact List.mem_flatMap.mpr ⟨child, hchild, hfound⟩
            · have hdescends : visitor.descends label = true := by
                cases hvalue : visitor.descends label with
                | true => rfl
                | false => exact absurd (hstops label hvalue (hfree label List.mem_cons_self)) hlabel
              show (label :: found.1).all visitor.descends = true
              rw [List.all_cons, hdescends, Bool.true_and]
              exact hreaches
  rintro ⟨place, hplace, hfree, hwanted⟩
  rw [LabelledTree.placesAll_eq_flatMap] at hplace ⊢
  obtain ⟨tree, htreeMem, hin⟩ := List.mem_flatMap.mp hplace
  obtain ⟨found, hfound, hreaches, hfoundWanted⟩ := htree tree ⟨place, hin, hfree, hwanted⟩
  exact ⟨found, List.mem_filter.mpr ⟨List.mem_flatMap.mpr ⟨tree, htreeMem, hfound⟩, hreaches⟩,
    hfoundWanted⟩

/-- A visitor that goes below every label reaches all places. -/
theorem filter_reaches_of_descends (h : ∀ label, visitor.descends label = true)
    (places : List (List α × α)) : places.filter visitor.reaches = places := by
  rw [List.filter_eq_self]
  intro place _
  exact List.all_eq_true.mpr fun label _ => h label

end Visitor

/-! ## Sums and bounds

What the folds over places come to: a sum, a number of places, a greatest amount, or
whether there is a place at all. -/

section Folds

variable {ι : Type*}

/-- A counter is a sum. -/
theorem foldl_add_eq_sum (amount : ι → ℕ) (list : List ι) (start : ℕ) :
    list.foldl (fun total x => total + amount x) start = start + (list.map amount).sum := by
  induction list generalizing start with
  | nil => simp
  | cons head rest ih => rw [List.foldl_cons, ih, List.map_cons, List.sum_cons, Nat.add_assoc]

/-- A counter that goes up at some entries counts them. -/
theorem foldl_eq_countP {step : ℕ → ι → ℕ} (wanted : ι → Prop) [DecidablePred wanted]
    (hcounts : ∀ total x, wanted x → step total x = total + 1)
    (hskips : ∀ total x, ¬wanted x → step total x = total) (list : List ι) (start : ℕ) :
    list.foldl step start = start + list.countP fun x => decide (wanted x) := by
  induction list generalizing start with
  | nil => rfl
  | cons head rest ih =>
      rw [List.foldl_cons, ih, List.countP_cons]
      by_cases hhead : wanted head
      · rw [hcounts _ _ hhead, if_pos (decide_eq_true hhead), Nat.add_assoc, Nat.add_comm 1]
      · rw [hskips _ _ hhead, if_neg (by simpa using hhead), Nat.add_zero]

/-- A flag that is only ever raised. -/
theorem foldl_or_eq_true_iff (raises : ι → Bool) (list : List ι) (start : Bool) :
    list.foldl (fun raised x => raised || raises x) start = true ↔
      start = true ∨ ∃ x ∈ list, raises x = true := by
  induction list generalizing start with
  | nil => simp
  | cons head rest ih =>
      rw [List.foldl_cons, ih, Bool.or_eq_true, List.exists_mem_cons_iff, or_assoc]

/-- The greatest amount, or zero. -/
structure IsGreatest (amount : ι → ℕ) (list : List ι) (bound : ℕ) : Prop where
  le : ∀ x ∈ list, amount x ≤ bound
  attained : bound = 0 ∨ ∃ x ∈ list, amount x = bound

/-- A running maximum is the greatest amount. -/
theorem isGreatest_foldl_max (amount : ι → ℕ) (list : List ι) :
    IsGreatest amount list (list.foldl (fun bound x => max bound (amount x)) 0) := by
  induction list using List.reverseRecOn with
  | nil => exact ⟨fun _ h => absurd h List.not_mem_nil, Or.inl rfl⟩
  | append_singleton rest last ih =>
      rw [List.foldl_append, List.foldl_cons, List.foldl_nil]
      constructor
      · intro x hx
        rcases List.mem_append.mp hx with hrest | hlast
        · exact Nat.le_trans (ih.le x hrest) (Nat.le_max_left _ _)
        · rw [List.mem_singleton.mp hlast]
          exact Nat.le_max_right _ _
      · rcases Nat.le_total (amount last)
          (rest.foldl (fun bound x => max bound (amount x)) 0) with hle | hle
        · rw [Nat.max_eq_left hle]
          refine ih.attained.imp_right ?_
          rintro ⟨x, hx, hamount⟩
          exact ⟨x, List.mem_append_left _ hx, hamount⟩
        · rw [Nat.max_eq_right hle]
          exact Or.inr ⟨last, by simp, rfl⟩

/-- Whether the bound reaches a positive number shows at one entry. -/
theorem IsGreatest.le_iff {amount : ι → ℕ} {list : List ι} {bound least : ℕ}
    (h : IsGreatest amount list bound) (hpos : 0 < least) :
    least ≤ bound ↔ ∃ x ∈ list, least ≤ amount x := by
  constructor
  · intro hle
    rcases h.attained with rfl | ⟨x, hx, rfl⟩
    · exact absurd hpos (Nat.not_lt.mpr hle)
    · exact ⟨x, hx, hle⟩
  · rintro ⟨x, hx, hle⟩
    exact Nat.le_trans hle (h.le x hx)

end Folds

end AspRust.Foundation
