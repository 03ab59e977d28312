import AspRust.Foundation.DependencyOrder
import AspRust.Foundation.Outcome
import Mathlib.Data.Fintype.Card
import Mathlib.Logic.Function.Basic

/-!
# Cycle search with three marks

A depth-first search for a cycle keeps one of three marks for each node: not met, being
visited, and left.  Meeting a node that is being visited answers "cycle", and the
search stops with its marks as they are; meeting a node that was left answers nothing
new.  The marks are shared by the searches from all nodes.

Two facts carry the proof.  Every node being visited reaches the node that is visited
now (`Sees`), so meeting one closes a cycle.  And the nodes that were left lie on no
cycle and lead to such nodes only (`Cleared`), so leaving a node all of whose
successors were left keeps that.  Nodes being visited are the same before and after a
search that finds nothing, which is why the second fact can be used for the node itself.

### Use

A caller gives the successors as a function and the nodes as a list.  `searchAny_all_eq_ok` is
all that it needs: with one more than the number of nodes as fuel the search from all nodes
ends, and it answers whether some node reaches itself in one step or more.
-/

namespace AspRust.Foundation

namespace ColourSearch

open Relation

/-- The mark of a node. -/
inductive VisitState where
  | unvisited
  | visiting
  | visited
deriving DecidableEq, Repr

section Definitions

variable {N : Type} [DecidableEq N]

/-- The marks of all nodes. -/
abbrev Marks (N : Type) := N → VisitState

/-- Search from each node of a list until one of the searches finds a cycle. -/
def searchAny (visit : N → Marks N → Outcome (Bool × Marks N)) :
    List N → Marks N → Outcome (Bool × Marks N)
  | [], marks => .ok (false, marks)
  | node :: rest, marks => do
      let (found, marks) ← visit node marks
      if found then .ok (true, marks) else searchAny visit rest marks

/-- Search from one node.  A node that leads to a cycle keeps its mark. -/
def search (next : N → List N) : ℕ → N → Marks N → Outcome (Bool × Marks N)
  | 0, _, _ => .error .exhausted
  | fuel + 1, node, marks =>
      match marks node with
      | .visiting => .ok (true, marks)
      | .visited => .ok (false, marks)
      | .unvisited => do
          let (found, marks) ← searchAny (search next fuel) (next node)
            (Function.update marks node .visiting)
          if found then .ok (true, marks)
          else .ok (false, Function.update marks node .visited)

end Definitions

/-! ## What holds between two visits

`Step` is the relation of the successors.  What is known of the marks between two visits
is a pair of facts, and what a search may do to the marks is that it leaves nodes and
changes nothing else (`Passed`). -/

section Specification

variable {N : Type} (next : N → List N)

/-- One step of the graph. -/
def Step (first second : N) : Prop := second ∈ next first

/-- The nodes that were left lead to such nodes only, and lie on no cycle. -/
structure Cleared (marks : Marks N) : Prop where
  /-- The successors of a node that was left were left. -/
  closed : ∀ node, marks node = .visited → ∀ successor ∈ next node, marks successor = .visited
  /-- It lies on no cycle. -/
  acyclic : ∀ node, marks node = .visited → ¬ TransGen (Step next) node node

/-- Every node being visited reaches a node. -/
def Sees (marks : Marks N) (node : N) : Prop :=
  ∀ other, marks other = .visiting → TransGen (Step next) other node

/-- What a search that found nothing did to the marks. -/
structure Passed (before after : Marks N) : Prop where
  /-- The nodes that were left are still cleared. -/
  cleared : Cleared next after
  /-- The nodes being visited are the same. -/
  visiting : ∀ node, after node = .visiting ↔ before node = .visiting
  /-- Nodes stay left. -/
  visited : ∀ node, before node = .visited → after node = .visited

variable {next} {marks before after : Marks N} {node : N}

/-- A node reached from a node that was left was left. -/
theorem Cleared.visited_of_reflTransGen (h : Cleared next marks) {first second : N}
    (hfirst : marks first = .visited) (hpath : ReflTransGen (Step next) first second) :
    marks second = .visited := by
  induction hpath with
  | refl => exact hfirst
  | tail _ hstep ih => exact h.closed _ ih _ hstep

theorem Passed.refl (h : Cleared next marks) : Passed next marks marks where
  cleared := h
  visiting _ := Iff.rfl
  visited _ hnode := hnode

theorem Passed.trans {middle : Marks N} (h : Passed next before middle)
    (h' : Passed next middle after) : Passed next before after where
  cleared := h'.cleared
  visiting other := (h'.visiting other).trans (h.visiting other)
  visited other hother := h'.visited other (h.visited other hother)

/-- Nodes that are not met after a search were not met before it. -/
theorem Passed.unvisited (h : Passed next before after) {other : N}
    (hother : after other = .unvisited) : before other = .unvisited := by
  cases hbefore : before other with
  | unvisited => rfl
  | visiting =>
      rw [(h.visiting other).mpr hbefore] at hother
      cases hother
  | visited =>
      rw [h.visited other hbefore] at hother
      cases hother

theorem Sees.of_passed (hsees : Sees next before node) (h : Passed next before after) :
    Sees next after node :=
  fun other hother => hsees other ((h.visiting other).mp hother)

variable [DecidableEq N]

/-- Marking a node as being visited changes nothing about the nodes that were left. -/
theorem Cleared.enter (h : Cleared next marks) (hnode : marks node = .unvisited) :
    Cleared next (Function.update marks node .visiting) := by
  have hback : ∀ other, Function.update marks node .visiting other = .visited →
      marks other = .visited := by
    intro other hother
    by_cases heq : other = node
    · rw [heq, Function.update_self] at hother
      cases hother
    · rwa [Function.update_of_ne heq] at hother
  refine ⟨?_, fun other hother => h.acyclic other (hback other hother)⟩
  intro other hother successor hnext
  have hsuccessor := h.closed other (hback other hother) successor hnext
  have hne : successor ≠ node := by
    rintro rfl
    rw [hnode] at hsuccessor
    cases hsuccessor
  rwa [Function.update_of_ne hne]

/-- The successors of the node are seen from every node being visited. -/
theorem Sees.enter (h : Sees next marks node) {successor : N} (hnext : successor ∈ next node) :
    Sees next (Function.update marks node .visiting) successor := by
  intro other hother
  by_cases heq : other = node
  · exact heq ▸ .single hnext
  · rw [Function.update_of_ne heq] at hother
    exact (h other hother).tail hnext

/-- The node can be left when its successors were. -/
theorem Passed.leave (hnode : before node = .unvisited)
    (h : Passed next (Function.update before node .visiting) after)
    (hdone : ∀ successor ∈ next node, after successor = .visited) :
    Passed next before (Function.update after node .visited) := by
  have hstill : after node = .visiting := (h.visiting node).mpr (Function.update_self ..)
  -- a cycle through the node would have left it before
  have hacyclic : ¬ TransGen (Step next) node node := by
    intro hcycle
    obtain ⟨successor, hstep, hpath⟩ := TransGen.head'_iff.mp hcycle
    have hleft := h.cleared.visited_of_reflTransGen (hdone successor hstep) hpath
    rw [hstill] at hleft
    cases hleft
  refine ⟨⟨?_, ?_⟩, ?_, ?_⟩
  · intro other hother successor hnext
    have hsuccessor : after successor = .visited := by
      by_cases heq : other = node
      · exact hdone successor (heq ▸ hnext)
      · rw [Function.update_of_ne heq] at hother
        exact h.cleared.closed other hother successor hnext
    by_cases heq : successor = node
    · rw [heq, Function.update_self]
    · rwa [Function.update_of_ne heq]
  · intro other hother
    by_cases heq : other = node
    · rwa [heq]
    · rw [Function.update_of_ne heq] at hother
      exact h.cleared.acyclic other hother
  · intro other
    by_cases heq : other = node
    · rw [heq, Function.update_self, hnode]
      simp
    · rw [Function.update_of_ne heq, h.visiting other, Function.update_of_ne heq]
  · intro other hother
    by_cases heq : other = node
    · rw [heq, Function.update_self]
    · rw [Function.update_of_ne heq]
      refine h.visited other ?_
      rwa [Function.update_of_ne heq]

omit [DecidableEq N] in
variable (next) in
/-- What a search from some nodes answers. -/
structure Answers (nodes : List N) (before : Marks N) (answer : Bool) (after : Marks N) : Prop where
  /-- A found cycle is one. -/
  found : answer = true → ∃ node, TransGen (Step next) node node
  /-- Without one the nodes are left. -/
  missed : answer = false → Passed next before after ∧ ∀ node ∈ nodes, after node = .visited

omit [DecidableEq N] in
/-- A list of searches answers what its members answer. -/
theorem answers_searchAny {visit : N → Marks N → Outcome (Bool × Marks N)} {nodes : List N}
    (hvisit : ∀ node ∈ nodes, ∀ marks, Cleared next marks → Sees next marks node →
      ∀ found after, visit node marks = .ok (found, after) →
        Answers next [node] marks found after)
    (hcleared : Cleared next marks) (hsees : ∀ node ∈ nodes, Sees next marks node)
    {found : Bool} (h : searchAny visit nodes marks = .ok (found, after)) :
    Answers next nodes marks found after := by
  induction nodes generalizing marks with
  | nil =>
      obtain ⟨rfl, rfl⟩ := Prod.mk.inj (Except.ok.inj h)
      exact ⟨fun hfound => Bool.noConfusion hfound, fun _ => ⟨.refl hcleared, by simp⟩⟩
  | cons node rest ih =>
      rw [searchAny] at h
      obtain ⟨⟨first, middle⟩, hfirst, h⟩ := Except.bind_eq_ok.mp h
      have hanswer := hvisit node List.mem_cons_self marks hcleared
        (hsees node List.mem_cons_self) first middle hfirst
      cases first with
      | true =>
          obtain ⟨rfl, rfl⟩ := Prod.mk.inj (Except.ok.inj h)
          exact ⟨hanswer.found, fun hmissed => Bool.noConfusion hmissed⟩
      | false =>
          obtain ⟨hpassed, hleft⟩ := hanswer.missed rfl
          have hrest := ih (fun other hother => hvisit other (List.mem_cons_of_mem _ hother))
            hpassed.cleared
            (fun other hother => (hsees other (List.mem_cons_of_mem _ hother)).of_passed hpassed) h
          refine ⟨hrest.found, fun hmissed => ?_⟩
          obtain ⟨hpassed', hleft'⟩ := hrest.missed hmissed
          refine ⟨hpassed.trans hpassed', ?_⟩
          intro other hother
          rcases List.mem_cons.mp hother with rfl | hother
          · exact hpassed'.visited other (hleft other List.mem_cons_self)
          · exact hleft' other hother

/-- **What the search from one node answers.** -/
theorem answers_search {fuel : ℕ} (hcleared : Cleared next marks) (hsees : Sees next marks node)
    {found : Bool} (h : search next fuel node marks = .ok (found, after)) :
    Answers next [node] marks found after := by
  induction fuel generalizing node marks found after with
  | zero => cases h
  | succ fuel ih =>
      rw [search] at h
      cases hmark : marks node with
      | visiting =>
          rw [hmark] at h
          obtain ⟨rfl, rfl⟩ := Prod.mk.inj (Except.ok.inj h)
          exact ⟨fun _ => ⟨node, hsees node hmark⟩, fun hmissed => Bool.noConfusion hmissed⟩
      | visited =>
          rw [hmark] at h
          obtain ⟨rfl, rfl⟩ := Prod.mk.inj (Except.ok.inj h)
          refine ⟨fun hfound => Bool.noConfusion hfound, fun _ => ⟨.refl hcleared, ?_⟩⟩
          simpa using hmark
      | unvisited =>
          rw [hmark] at h
          obtain ⟨⟨inner, middle⟩, hinner, h⟩ := Except.bind_eq_ok.mp h
          have hanswer := answers_searchAny
            (fun successor _ marks hcleared hsees found after => ih hcleared hsees)
            (hcleared.enter hmark) (fun successor => hsees.enter) hinner
          cases inner with
          | true =>
              obtain ⟨rfl, rfl⟩ := Prod.mk.inj (Except.ok.inj h)
              exact ⟨hanswer.found, fun hmissed => Bool.noConfusion hmissed⟩
          | false =>
              obtain ⟨rfl, rfl⟩ := Prod.mk.inj (Except.ok.inj h)
              obtain ⟨hpassed, hdone⟩ := hanswer.missed rfl
              refine ⟨fun hfound => Bool.noConfusion hfound, fun _ => ⟨hpassed.leave hmark hdone, ?_⟩⟩
              intro other hother
              rw [List.mem_singleton.mp hother, Function.update_self]

end Specification

/-! ## The search ends

Every node that is entered was not met before, so the number of nodes that were not met
goes down with each descent. -/

section Termination

variable {N : Type} [DecidableEq N] [Fintype N] {next : N → List N} {marks after : Marks N}
  {node : N}

/-- The number of nodes that were not met. -/
def unmet (marks : Marks N) : ℕ := (Finset.univ.filter fun node => marks node = .unvisited).card

omit [DecidableEq N] in
theorem unmet_le (marks : Marks N) : unmet marks ≤ Fintype.card N :=
  Finset.card_le_univ _

/-- Entering a node uses it up. -/
theorem unmet_enter (hnode : marks node = .unvisited) :
    unmet (Function.update marks node .visiting) < unmet marks := by
  refine Finset.card_lt_card (Finset.ssubset_iff_subset_ne.mpr ⟨?_, ?_⟩)
  · intro other hother
    rw [Finset.mem_filter] at hother ⊢
    refine ⟨Finset.mem_univ other, ?_⟩
    by_cases heq : other = node
    · rwa [heq]
    · rw [Function.update_of_ne heq] at hother
      exact hother.2
  · intro heq
    have hmem : node ∈ Finset.univ.filter fun other => marks other = .unvisited :=
      Finset.mem_filter.mpr ⟨Finset.mem_univ node, hnode⟩
    rw [← heq, Finset.mem_filter, Function.update_self] at hmem
    cases hmem.2

/-- A search that ends leaves no more nodes unmet than there were. -/
def Shrinks (visit : N → Marks N → Outcome (Bool × Marks N)) : Prop :=
  ∀ node marks found after, visit node marks = .ok (found, after) →
    ∀ other, after other = .unvisited → marks other = .unvisited

omit [DecidableEq N] [Fintype N] in
theorem shrinks_searchAny {visit : N → Marks N → Outcome (Bool × Marks N)} (hvisit : Shrinks visit)
    {nodes : List N} {found : Bool} (h : searchAny visit nodes marks = .ok (found, after)) :
    ∀ other, after other = .unvisited → marks other = .unvisited := by
  induction nodes generalizing marks with
  | nil =>
      obtain ⟨-, rfl⟩ := Prod.mk.inj (Except.ok.inj h)
      exact fun _ hother => hother
  | cons node rest ih =>
      rw [searchAny] at h
      obtain ⟨⟨first, middle⟩, hfirst, h⟩ := Except.bind_eq_ok.mp h
      have hmiddle := hvisit node marks first middle hfirst
      cases first with
      | true =>
          obtain ⟨-, rfl⟩ := Prod.mk.inj (Except.ok.inj h)
          exact hmiddle
      | false => exact fun other hother => hmiddle other (ih h other hother)

omit [Fintype N] in
theorem shrinks_search (next : N → List N) (fuel : ℕ) : Shrinks (search next fuel) := by
  induction fuel with
  | zero => intro node marks found after h; cases h
  | succ fuel ih =>
      intro node marks found after h other hother
      rw [search] at h
      cases hmark : marks node with
      | visiting =>
          rw [hmark] at h
          obtain ⟨-, rfl⟩ := Prod.mk.inj (Except.ok.inj h)
          exact hother
      | visited =>
          rw [hmark] at h
          obtain ⟨-, rfl⟩ := Prod.mk.inj (Except.ok.inj h)
          exact hother
      | unvisited =>
          rw [hmark] at h
          obtain ⟨⟨inner, middle⟩, hinner, h⟩ := Except.bind_eq_ok.mp h
          have hmiddle := shrinks_searchAny ih hinner other
          by_cases heq : other = node
          · rwa [heq]
          · rw [Function.update_of_ne heq] at hmiddle
            refine hmiddle ?_
            cases inner with
            | true =>
                obtain ⟨-, rfl⟩ := Prod.mk.inj (Except.ok.inj h)
                exact hother
            | false =>
                obtain ⟨-, rfl⟩ := Prod.mk.inj (Except.ok.inj h)
                rwa [Function.update_of_ne heq] at hother

omit [DecidableEq N] in
theorem unmet_mono (h : ∀ other, after other = .unvisited → marks other = .unvisited) :
    unmet after ≤ unmet marks := by
  refine Finset.card_le_card fun other hother => ?_
  rw [Finset.mem_filter] at hother ⊢
  exact ⟨hother.1, h other hother.2⟩

omit [DecidableEq N] in
/-- A list of searches ends when each search does with the nodes that are left to meet. -/
theorem exists_searchAny_eq_ok {visit : N → Marks N → Outcome (Bool × Marks N)}
    (hshrinks : Shrinks visit) {bound : ℕ}
    (hvisit : ∀ node marks, unmet marks ≤ bound → ∃ answer, visit node marks = .ok answer)
    (nodes : List N) (hbound : unmet marks ≤ bound) :
    ∃ answer, searchAny visit nodes marks = .ok answer := by
  induction nodes generalizing marks with
  | nil => exact ⟨_, rfl⟩
  | cons node rest ih =>
      obtain ⟨⟨found, middle⟩, hfirst⟩ := hvisit node marks hbound
      rw [searchAny, hfirst]
      cases found with
      | true => exact ⟨_, rfl⟩
      | false =>
          have hmono := unmet_mono (hshrinks node marks false middle hfirst)
          exact ih (hmono.trans hbound)

theorem exists_search_eq_ok {fuel : ℕ} (hfuel : unmet marks < fuel) :
    ∃ answer, search next fuel node marks = .ok answer := by
  induction fuel generalizing node marks with
  | zero => exact absurd hfuel (Nat.not_lt_zero _)
  | succ fuel ih =>
      rw [search]
      cases hmark : marks node with
      | visiting => exact ⟨_, rfl⟩
      | visited => exact ⟨_, rfl⟩
      | unvisited =>
          have henter := unmet_enter hmark
          have hpositive : unmet (Function.update marks node .visiting) ≤ fuel - 1 := by omega
          obtain ⟨⟨inner, middle⟩, hinner⟩ := exists_searchAny_eq_ok (shrinks_search next fuel)
            (fun node marks hle => ih (by omega)) (next node) hpositive
          rw [hinner]
          cases inner <;> exact ⟨_, rfl⟩

/-- **The search finds a cycle exactly when there is one.**  Searching from all nodes, with
fuel for every node, ends; it answers whether some node reaches itself. -/
theorem searchAny_all_eq_ok (next : N → List N) {nodes : List N} (hall : ∀ node, node ∈ nodes) :
    ∃ found after, searchAny (search next (Fintype.card N + 1)) nodes (fun _ => .unvisited) =
        .ok (found, after) ∧
      (found = true ↔ ∃ node, TransGen (Step next) node node) := by
  obtain ⟨⟨found, after⟩, hresult⟩ := exists_searchAny_eq_ok
    (shrinks_search next (Fintype.card N + 1))
    (fun node marks hle => exists_search_eq_ok (Nat.lt_succ_of_le hle)) nodes
    (unmet_le fun _ => .unvisited)
  have hstart : Cleared next (fun _ => .unvisited) := by
    refine ⟨?_, ?_⟩ <;> intro node hnode <;> cases hnode
  have hanswer := answers_searchAny
    (fun node _ marks hcleared hsees found after => answers_search hcleared hsees)
    hstart (fun node _ other hother => by cases hother) hresult
  refine ⟨found, after, hresult, hanswer.found, ?_⟩
  rintro ⟨node, hcycle⟩
  cases found with
  | true => rfl
  | false =>
      obtain ⟨hpassed, hleft⟩ := hanswer.missed rfl
      exact absurd hcycle (hpassed.cleared.acyclic node (hleft node (hall node)))

end Termination

end ColourSearch

end AspRust.Foundation
