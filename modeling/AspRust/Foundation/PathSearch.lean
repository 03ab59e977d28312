import AspRust.Foundation.OrderedMap
import AspRust.Foundation.Outcome
import Mathlib.Data.Finset.Card
import Mathlib.Logic.Relation

/-!
# Depth-first search for one path

`search` looks for a path from a node to a goal along edges that have a source and a
target.  A node is entered once: the set of entered nodes is shared by all branches of
the search, and the first path found is the answer.

Two facts carry its use.  A path that is found is a route: it starts where the search
did, ends at the goal, and meets no node twice and no node that was entered before.  A
search without a result has entered a set of nodes that no edge leaves and from which
no edge leads to the goal, so the goal is out of reach (`search_eq_none`).

The recursion is given fuel.  Every level of it enters a new node, so one more than
the number of nodes not entered yet is enough (`exists_search_eq_ok`).

### What is load-bearing

The search shares its visited nodes among all branches, so it may come to a node that a failed
branch has seen.  `Settled` says what is known of the nodes that a search has entered: their
edges lead to entered nodes only, and none of them to the goal.  So giving up at a visited node
loses no route.
-/

namespace AspRust.Foundation

namespace PathSearch

variable {N E : Type} [LinearOrder N]

/-- The path found, if there is one, and the nodes entered so far. -/
abbrev Answer (N E : Type) [LinearOrder N] := Option (List E) × OrderedSet N

section Definitions

variable (outgoing : N → List E) (target : E → N) (goal : N)

/-- The first edge of a list that ends in the goal or from whose end the goal is
found. -/
def firstPath (visit : N → OrderedSet N → Outcome (Answer N E)) :
    List E → OrderedSet N → Outcome (Answer N E)
  | [], visited => .ok (none, visited)
  | edge :: rest, visited =>
      if target edge = goal then .ok (some [edge], visited)
      else do
        let (found, visited) ← visit (target edge) visited
        match found with
        | some tail => .ok (some (edge :: tail), visited)
        | none => firstPath visit rest visited

/-- Look for a path from a node to the goal; a node entered before is not entered
again. -/
def search : ℕ → N → OrderedSet N → Outcome (Answer N E)
  | 0, _, _ => .error .exhausted
  | fuel + 1, current, visited =>
      if current ∈ visited.keys then .ok (none, visited)
      else firstPath target goal (search fuel) (outgoing current) (visited.add current)

end Definitions

/-! ## Routes -/

/-- A path from a node to the goal that meets no node twice and none of a set of
nodes. -/
structure Route (source target : E → N) (start goal : N) (avoided : OrderedSet N)
    (path : List E) (stops : List N) : Prop where
  /-- The edges leave the start and then each stop. -/
  leaves : path.map source = start :: stops
  /-- They enter each stop and then the goal. -/
  enters : path.map target = stops ++ [goal]
  /-- No node is left twice. -/
  nodup : (start :: stops).Nodup
  /-- The goal is met at the end only. -/
  goal_last : goal ∉ start :: stops
  /-- No avoided node is met. -/
  avoids : ∀ n ∈ start :: stops, n ∉ avoided.keys

/-- An edge to the start of a route makes a longer one. -/
theorem Route.cons {source target : E → N} {start goal current : N}
    {avoided before : OrderedSet N} {path : List E} {stops : List N}
    (h : Route source target start goal avoided path stops) {edge : E}
    (hsource : source edge = current) (htarget : target edge = start)
    (hgoal : current ≠ goal) (hcurrent : current ∈ avoided.keys)
    (hfresh : current ∉ before.keys) (hbefore : ∀ n ∈ before.keys, n ∈ avoided.keys) :
    Route source target current goal before (edge :: path) (start :: stops) where
  leaves := by rw [List.map_cons, h.leaves, hsource]
  enters := by rw [List.map_cons, h.enters, htarget, List.cons_append]
  nodup := by
    refine List.nodup_cons.mpr ⟨fun hmem => ?_, h.nodup⟩
    exact h.avoids current hmem hcurrent
  goal_last := by
    intro hmem
    rcases List.mem_cons.mp hmem with heq | hmem
    · exact hgoal heq.symm
    · exact h.goal_last hmem
  avoids := by
    intro n hn hvisited
    rcases List.mem_cons.mp hn with rfl | hn
    · exact hfresh hvisited
    · exact h.avoids n hn (hbefore n hvisited)

/-- One edge to the goal is a route. -/
theorem Route.single {source target : E → N} {goal current : N} {before : OrderedSet N}
    {edge : E} (hsource : source edge = current) (htarget : target edge = goal)
    (hgoal : current ≠ goal) (hfresh : current ∉ before.keys) :
    Route source target current goal before [edge] [] where
  leaves := by simp [hsource]
  enters := by simp [htarget]
  nodup := List.nodup_singleton current
  goal_last := fun hmem => hgoal (List.mem_singleton.mp hmem).symm
  avoids := by
    intro n hn
    rwa [List.mem_singleton.mp hn]

/-! ## What a search answers -/

section Specification

variable (outgoing : N → List E) (source target : E → N) (goal : N)

/-- The nodes entered since `before` are left by edges to entered nodes only, and by
none to the goal. -/
def Settled (before after : OrderedSet N) : Prop :=
  ∀ n ∈ after.keys, n ∉ before.keys → ∀ edge ∈ outgoing n,
    target edge ≠ goal ∧ target edge ∈ after.keys

/-- What a search from a node answers. -/
structure Answers (current : N) (visited : OrderedSet N) (answer : Answer N E) : Prop where
  /-- Nodes stay entered. -/
  grows : ∀ n ∈ visited.keys, n ∈ answer.2.keys
  /-- The node is entered. -/
  enters : current ∈ answer.2.keys
  /-- A found path is a route from the node. -/
  found : ∀ path, answer.1 = some path →
    ∃ stops, Route source target current goal visited path stops
  /-- Without a path the new nodes are settled. -/
  missed : answer.1 = none → Settled outgoing target goal visited answer.2

/-- What the pass over the edges of a node answers. -/
structure AnswersEdges (current : N) (edges : List E) (before visited : OrderedSet N)
    (answer : Answer N E) : Prop where
  /-- Nodes stay entered. -/
  grows : ∀ n ∈ visited.keys, n ∈ answer.2.keys
  /-- A found path is a route from the node. -/
  found : ∀ path, answer.1 = some path →
    ∃ stops, Route source target current goal before path stops
  /-- Without a path the edges and the new nodes are settled. -/
  missed : answer.1 = none → Settled outgoing target goal visited answer.2 ∧
    ∀ edge ∈ edges, target edge ≠ goal ∧ target edge ∈ answer.2.keys

variable {outgoing source target goal} {current : N} {before visited : OrderedSet N}
  {visit : N → OrderedSet N → Outcome (Answer N E)} {answer : Answer N E}

theorem Settled.trans {first second third : OrderedSet N}
    (hfirst : Settled outgoing target goal first second)
    (hsecond : Settled outgoing target goal second third)
    (hgrows : ∀ n ∈ second.keys, n ∈ third.keys) :
    Settled outgoing target goal first third := by
  intro n hn hfresh edge hedge
  by_cases hmem : n ∈ second.keys
  · obtain ⟨hgoal, htarget⟩ := hfirst n hmem hfresh edge hedge
    exact ⟨hgoal, hgrows _ htarget⟩
  · exact hsecond n hn hmem edge hedge

/-- A pass over edges of a node answers as it should, when the searches it makes do. -/
theorem answersEdges_firstPath
    (hvisit : ∀ next seen result, next ≠ goal → visit next seen = .ok result →
      Answers outgoing source target goal next seen result)
    (hgoal : current ≠ goal) (hfresh : current ∉ before.keys) {edges : List E}
    (hsource : ∀ edge ∈ edges, source edge = current)
    (hcurrent : current ∈ visited.keys) (hbefore : ∀ n ∈ before.keys, n ∈ visited.keys)
    (h : firstPath target goal visit edges visited = .ok answer) :
    AnswersEdges outgoing source target goal current edges before visited answer := by
  induction edges generalizing visited with
  | nil =>
      obtain rfl : (none, visited) = answer := by simpa [firstPath] using h
      refine ⟨fun n hn => hn, by simp, fun _ => ⟨?_, by simp⟩⟩
      intro n hn hnew
      exact absurd hn hnew
  | cons edge rest ih =>
      have hedge : source edge = current := hsource edge List.mem_cons_self
      rw [firstPath] at h
      split at h
      · next htarget =>
          obtain rfl : (some [edge], visited) = answer := by simpa using h
          refine ⟨fun n hn => hn, ?_, by simp⟩
          intro path hpath
          obtain rfl : [edge] = path := by simpa using hpath
          exact ⟨[], Route.single hedge htarget hgoal hfresh⟩
      · next htarget =>
          obtain ⟨⟨found, seen⟩, hresult, h⟩ := Except.bind_eq_ok.mp h
          have hanswer := hvisit (target edge) visited (found, seen) htarget hresult
          cases found with
          | some tail =>
              obtain rfl : (some (edge :: tail), seen) = answer := by simpa using h
              refine ⟨hanswer.grows, ?_, by simp⟩
              intro path hpath
              obtain rfl : edge :: tail = path := by simpa using hpath
              obtain ⟨stops, hroute⟩ := hanswer.found tail rfl
              exact ⟨target edge :: stops,
                hroute.cons hedge rfl hgoal hcurrent hfresh hbefore⟩
          | none =>
              have hrest := ih (fun other hother => hsource other (List.mem_cons_of_mem _ hother))
                (hanswer.grows current hcurrent)
                (fun n hn => hanswer.grows n (hbefore n hn)) h
              refine ⟨fun n hn => hrest.grows n (hanswer.grows n hn), hrest.found, ?_⟩
              intro hnone
              obtain ⟨hsettled, hedges⟩ := hrest.missed hnone
              refine ⟨(hanswer.missed rfl).trans hsettled hrest.grows, ?_⟩
              intro other hother
              rcases List.mem_cons.mp hother with rfl | hother
              · exact ⟨htarget, hrest.grows _ hanswer.enters⟩
              · exact hedges other hother

/-- **A search answers with a route, or with a settled set of nodes.** -/
theorem answers_search (hsource : ∀ n, ∀ edge ∈ outgoing n, source edge = n) {fuel : ℕ}
    (hgoal : current ≠ goal)
    (h : search outgoing target goal fuel current visited = .ok answer) :
    Answers outgoing source target goal current visited answer := by
  induction fuel generalizing current visited answer with
  | zero => cases h
  | succ fuel ih =>
      rw [search] at h
      split at h
      · next hvisited =>
          obtain rfl : (none, visited) = answer := by simpa using h
          refine ⟨fun n hn => hn, hvisited, by simp, ?_⟩
          intro _ n hn hnew
          exact absurd hn hnew
      · next hfresh =>
          have hpass : AnswersEdges outgoing source target goal current (outgoing current)
              visited (visited.add current) answer :=
            answersEdges_firstPath (fun next seen result hnext hresult => ih hnext hresult)
              hgoal hfresh (hsource current) (OrderedSet.mem_keys_add.mpr (Or.inl rfl))
              (fun n hn => OrderedSet.mem_keys_add.mpr (Or.inr hn)) h
          refine ⟨fun n hn => hpass.grows n (OrderedSet.mem_keys_add.mpr (Or.inr hn)),
            hpass.grows current (OrderedSet.mem_keys_add.mpr (Or.inl rfl)), hpass.found, ?_⟩
          intro hnone n hn hnew edge hedge
          obtain ⟨hsettled, hedges⟩ := hpass.missed hnone
          -- the node itself is settled by the pass over its edges
          by_cases hself : n = current
          · exact hedges edge (hself ▸ hedge)
          · refine hsettled n hn (fun hmem => ?_) edge hedge
            rcases OrderedSet.mem_keys_add.mp hmem with heq | hmem
            · exact hself heq
            · exact hnew hmem

/-! ## Enough fuel -/

/-- The nodes of a set that were not entered yet. -/
def remaining (domain : Finset N) (visited : OrderedSet N) : Finset N :=
  domain \ visited.keys.toFinset

theorem remaining_card_le {domain : Finset N} {after : OrderedSet N}
    (h : ∀ n ∈ visited.keys, n ∈ after.keys) :
    (remaining domain after).card ≤ (remaining domain visited).card := by
  refine Finset.card_le_card fun n hn => ?_
  obtain ⟨hdomain, hafter⟩ := Finset.mem_sdiff.mp hn
  refine Finset.mem_sdiff.mpr ⟨hdomain, fun hvisited => hafter ?_⟩
  exact List.mem_toFinset.mpr (h n (List.mem_toFinset.mp hvisited))

theorem remaining_add_card_lt {domain : Finset N} (hdomain : current ∈ domain)
    (hfresh : current ∉ visited.keys) :
    (remaining domain (visited.add current)).card < (remaining domain visited).card := by
  refine Finset.card_lt_card ⟨fun n hn => ?_, fun hsubset => ?_⟩
  · obtain ⟨hmem, hafter⟩ := Finset.mem_sdiff.mp hn
    refine Finset.mem_sdiff.mpr ⟨hmem, fun hvisited => hafter ?_⟩
    rw [List.mem_toFinset] at hvisited ⊢
    exact OrderedSet.mem_keys_add.mpr (Or.inr hvisited)
  · have hmem : current ∈ remaining domain visited :=
      Finset.mem_sdiff.mpr ⟨hdomain, fun h => hfresh (List.mem_toFinset.mp h)⟩
    have hafter := (Finset.mem_sdiff.mp (hsubset hmem)).2
    exact hafter (List.mem_toFinset.mpr (OrderedSet.mem_keys_add.mpr (Or.inl rfl)))

/-- A pass over edges ends, when the searches it makes do. -/
theorem exists_firstPath_eq_ok {domain : Finset N} {bound : ℕ}
    (hvisit : ∀ next seen, next ∈ domain → (remaining domain seen).card ≤ bound →
      ∃ result, visit next seen = .ok result ∧ ∀ n ∈ seen.keys, n ∈ result.2.keys)
    {edges : List E} (hedges : ∀ edge ∈ edges, target edge ∈ domain)
    (hbound : (remaining domain visited).card ≤ bound) :
    ∃ result, firstPath target goal visit edges visited = .ok result ∧
      ∀ n ∈ visited.keys, n ∈ result.2.keys := by
  induction edges generalizing visited with
  | nil => exact ⟨(none, visited), rfl, fun n hn => hn⟩
  | cons edge rest ih =>
      rw [firstPath]
      split
      · exact ⟨_, rfl, fun n hn => hn⟩
      · obtain ⟨⟨found, seen⟩, hresult, hgrows⟩ :=
          hvisit (target edge) visited (hedges edge List.mem_cons_self) hbound
        cases found with
        | some tail =>
            exact ⟨(some (edge :: tail), seen), by rw [hresult]; rfl, hgrows⟩
        | none =>
            obtain ⟨result, hrest, hmore⟩ :=
              ih (fun other hother => hedges other (List.mem_cons_of_mem _ hother))
                ((remaining_card_le hgrows).trans hbound)
            refine ⟨result, ?_, fun n hn => hmore n (hgrows n hn)⟩
            rw [hresult]
            exact hrest

/-- **A search ends**, with more fuel than nodes not entered yet. -/
theorem exists_search_eq_ok {domain : Finset N}
    (hdomain : ∀ n, ∀ edge ∈ outgoing n, target edge ∈ domain) {fuel : ℕ}
    (hcurrent : current ∈ domain) (hfuel : (remaining domain visited).card < fuel) :
    ∃ result, search outgoing target goal fuel current visited = .ok result ∧
      ∀ n ∈ visited.keys, n ∈ result.2.keys := by
  induction fuel generalizing current visited with
  | zero => exact absurd hfuel (Nat.not_lt_zero _)
  | succ fuel ih =>
      rw [search]
      split
      · exact ⟨_, rfl, fun n hn => hn⟩
      · next hfresh =>
          have hfewer := remaining_add_card_lt hcurrent hfresh
          have hpass : ∃ result, firstPath target goal (search outgoing target goal fuel)
              (outgoing current) (visited.add current) = .ok result ∧
                ∀ n ∈ (visited.add current).keys, n ∈ result.2.keys :=
            exists_firstPath_eq_ok (fun next seen hnext hseen => ih hnext (by omega))
              (hdomain current) le_rfl
          obtain ⟨result, hresult, hgrows⟩ := hpass
          exact ⟨result, hresult,
            fun n hn => hgrows n (OrderedSet.mem_keys_add.mpr (Or.inr hn))⟩

/-! ## Searches from scratch -/

/-- A search from scratch ends, with more fuel than nodes listed. -/
theorem exists_search_empty_eq_ok {nodes : List N}
    (hnodes : ∀ n, ∀ edge ∈ outgoing n, target edge ∈ nodes) {fuel : ℕ}
    (hcurrent : current ∈ nodes) (hfuel : nodes.length < fuel) :
    ∃ result, search outgoing target goal fuel current ∅ = .ok result := by
  have hcard : (remaining nodes.toFinset ∅).card < fuel := by
    calc (remaining nodes.toFinset ∅).card
        ≤ nodes.toFinset.card := Finset.card_le_card Finset.sdiff_subset
      _ ≤ nodes.length := List.toFinset_card_le nodes
      _ < fuel := hfuel
  obtain ⟨result, hresult, -⟩ := exists_search_eq_ok
    (fun n edge hedge => List.mem_toFinset.mpr (hnodes n edge hedge))
    (List.mem_toFinset.mpr hcurrent) hcard
  exact ⟨result, hresult⟩

/-- An edge leads from one node to the next. -/
def Step (outgoing : N → List E) (target : E → N) (first second : N) : Prop :=
  ∃ edge ∈ outgoing first, target edge = second

/-- From a set of nodes that is settled from scratch, only its members are reached,
and never the goal. -/
theorem Settled.unreachable {after : OrderedSet N}
    (h : Settled outgoing target goal ∅ after) {first last : N} (hfirst : first ∈ after.keys)
    (hpath : Relation.TransGen (Step outgoing target) first last) :
    last ≠ goal ∧ last ∈ after.keys := by
  induction hpath with
  | single hstep =>
      obtain ⟨edge, hedge, rfl⟩ := hstep
      exact h _ hfirst (by simp) edge hedge
  | tail _ hstep ih =>
      obtain ⟨edge, hedge, rfl⟩ := hstep
      exact h _ ih.2 (by simp) edge hedge

/-- A search from scratch without a result shows that the goal is out of reach. -/
theorem search_eq_none (hsource : ∀ n, ∀ edge ∈ outgoing n, source edge = n) {fuel : ℕ}
    (hgoal : current ≠ goal) {after : OrderedSet N}
    (h : search outgoing target goal fuel current ∅ = .ok (none, after)) :
    ¬ Relation.TransGen (Step outgoing target) current goal := by
  intro hpath
  have hanswer := answers_search hsource hgoal h
  exact ((hanswer.missed rfl).unreachable hanswer.enters hpath).1 rfl

end Specification

end PathSearch

end AspRust.Foundation
