import AspRust.Foundation.PathSearch
import AspRust.Foundation.Separated
import Mathlib.Data.List.FinRange
import Mathlib.Data.List.Lex
import Mathlib.Data.List.Rotate
import Mathlib.Data.String.Basic

/-!
# Cycles of owner dependencies

The rule on owner dependency cycles looks, for every dependency, for a path from its
target back to its source, and reports the cycle that the path closes.  A cycle is
found once for each of its dependencies; a key made of the namespaces along the cycle,
read from the place where that text is least, keeps one report of it.

The search is the one of `Foundation.PathSearch`.  What is added here is the reading of
the key: two cycles have one key exactly when the one visits the namespaces of the
other, from another starting point (`dependencyCycleKey_eq_iff`).  That needs the text
to be unambiguous: namespaces without `/` and `->`, and not both the namespace
without a component and the one whose only component is empty.

### What is load-bearing

The key of a cycle is a text, and what it says is read back from the text.  That needs
separators that do not occur in namespaces; where they do, two cycles may share a key and one of
them is not reported.  Self loops are left out of the statement because the search looks for a
way back from the target, which a self loop has without a step.
-/

namespace AspRust.AgentPolicy

open AspRust.Foundation

/-- One dependency between two owners. -/
structure OwnerDependencyProofEdge where
  sourceNamespace : List String
  targetNamespace : List String
deriving DecidableEq, Repr

section Definitions

variable (dependencies : List OwnerDependencyProofEdge)

/-- The position of a dependency in the list. -/
abbrev DependencyIndex := Fin dependencies.length

variable {dependencies}

/-- The namespace a dependency starts in. -/
def sourceOf (index : DependencyIndex dependencies) : List String :=
  dependencies[index].sourceNamespace

/-- The namespace a dependency leads to. -/
def targetOf (index : DependencyIndex dependencies) : List String :=
  dependencies[index].targetNamespace

variable (dependencies)

/-- The dependencies of each namespace, in the order of the list. -/
def outgoingDependencies : OrderedMap (List String) (List (DependencyIndex dependencies)) :=
  (List.finRange dependencies.length).foldl
    (fun outgoing index =>
      outgoing.insert (sourceOf index) ((outgoing.get? (sourceOf index)).getD [] ++ [index]))
    ∅

/-- A path of dependencies from one namespace to another.  A namespace that is no
source has no dependencies to follow. -/
def dependencyPathToNamespace (fuel : ℕ) (currentNamespace targetNamespace : List String)
    (outgoing : OrderedMap (List String) (List (DependencyIndex dependencies)))
    (visited : OrderedSet (List String)) :
    Outcome (PathSearch.Answer (List String) (DependencyIndex dependencies)) :=
  PathSearch.search (fun namespaces => (outgoing.get? namespaces).getD []) targetOf
    targetNamespace fuel currentNamespace visited

variable {dependencies}

/-- The text of the namespaces along a cycle, from the place where it is least. -/
def dependencyCycleKey (cycle : List (DependencyIndex dependencies)) : String :=
  let nodes := cycle.map fun index => "/".intercalate (sourceOf index)
  ((List.range nodes.length).map fun index =>
    "->".intercalate (nodes.drop index ++ nodes.take index)).min?.getD ""

variable (dependencies)

/-- The cycle found from one dependency, kept if its key is new.  The search enters
each target namespace at most once, which bounds its fuel. -/
def collectCycle (state : OrderedSet String × List (List (DependencyIndex dependencies)))
    (index : DependencyIndex dependencies) :
    Outcome (OrderedSet String × List (List (DependencyIndex dependencies))) := do
  let (tail, _) ← dependencyPathToNamespace dependencies (dependencies.length + 1)
    (targetOf index) (sourceOf index) (outgoingDependencies dependencies) ∅
  match tail with
  | none => .ok state
  | some tail =>
      let cycle := index :: tail
      let key := dependencyCycleKey cycle
      .ok (if key ∈ state.1.keys then state else (state.1.add key, state.2 ++ [cycle]))

/-- The cycles of a list of dependencies, each as the positions of its dependencies. -/
def ownerDependencyCycleIndices : Outcome (List (List (DependencyIndex dependencies))) := do
  let state ← (List.finRange dependencies.length).foldlM (collectCycle dependencies) (∅, [])
  .ok state.2

end Definitions

/-! ## The graph of namespaces

The graph that the rule is about, with cycles in the sense of relations. -/

section Graph

variable (dependencies : List OwnerDependencyProofEdge)

/-- A dependency leads from one namespace to another. -/
def DependsOn (first second : List String) : Prop :=
  ∃ dependency ∈ dependencies,
    dependency.sourceNamespace = first ∧ dependency.targetNamespace = second

/-- The namespaces have a directed cycle. -/
def HasCycle : Prop := ∃ namespaces, Relation.TransGen (DependsOn dependencies) namespaces namespaces

/-- A dependency lies on a cycle when its source is reached again from its target. -/
def LiesOnCycle (dependency : OwnerDependencyProofEdge) : Prop :=
  Relation.ReflTransGen (DependsOn dependencies) dependency.targetNamespace
    dependency.sourceNamespace

variable {dependencies}

/-- Each dependency ends where the next one starts, and the last where the first does. -/
def ClosedChain (cycle : List (DependencyIndex dependencies)) : Prop :=
  cycle.map targetOf = (cycle.map sourceOf).rotate 1

end Graph

/-! ## One dependency

A path that the search finds from the target back to the source closes a cycle with the
dependency, which visits each namespace once; and it finds one if there is any. -/

section Search

variable {dependencies : List OwnerDependencyProofEdge}

/-- What the pass over some of the positions adds to the dependencies of each namespace. -/
private theorem mem_foldl_outgoing {namespaces : List String}
    {index : DependencyIndex dependencies} (indices : List (DependencyIndex dependencies))
    (outgoing : OrderedMap (List String) (List (DependencyIndex dependencies))) :
    index ∈ ((indices.foldl (fun outgoing index => outgoing.insert (sourceOf index)
        ((outgoing.get? (sourceOf index)).getD [] ++ [index])) outgoing).get? namespaces).getD [] ↔
      index ∈ (outgoing.get? namespaces).getD [] ∨
        index ∈ indices ∧ sourceOf index = namespaces := by
  induction indices generalizing outgoing with
  | nil => simp
  | cons head rest ih =>
      rw [List.foldl_cons, ih, OrderedMap.get?_insert, List.mem_cons]
      by_cases hsource : namespaces = sourceOf head
      · subst hsource
        rw [if_pos rfl, Option.getD_some, List.mem_append, List.mem_singleton]
        constructor
        · rintro ((hbefore | rfl) | ⟨hrest, heq⟩)
          · exact Or.inl hbefore
          · exact Or.inr ⟨Or.inl rfl, rfl⟩
          · exact Or.inr ⟨Or.inr hrest, heq⟩
        · rintro (hbefore | ⟨rfl | hrest, heq⟩)
          · exact Or.inl (Or.inl hbefore)
          · exact Or.inl (Or.inr rfl)
          · exact Or.inr ⟨hrest, heq⟩
      · rw [if_neg hsource]
        constructor
        · rintro (hbefore | ⟨hrest, heq⟩)
          · exact Or.inl hbefore
          · exact Or.inr ⟨Or.inr hrest, heq⟩
        · rintro (hbefore | ⟨rfl | hrest, heq⟩)
          · exact Or.inl hbefore
          · exact absurd heq.symm hsource
          · exact Or.inr ⟨hrest, heq⟩

/-- The dependencies of a namespace are those that start in it. -/
theorem mem_outgoingDependencies {namespaces : List String}
    {index : DependencyIndex dependencies} :
    index ∈ ((outgoingDependencies dependencies).get? namespaces).getD [] ↔
      sourceOf index = namespaces := by
  unfold outgoingDependencies
  rw [mem_foldl_outgoing]
  simp

/-- The search follows the dependencies. -/
theorem step_eq_dependsOn :
    PathSearch.Step
      (fun namespaces => ((outgoingDependencies dependencies).get? namespaces).getD []) targetOf =
      DependsOn dependencies := by
  funext first second
  refine propext ⟨?_, ?_⟩
  · rintro ⟨index, hindex, rfl⟩
    exact ⟨dependencies[index], List.getElem_mem _, mem_outgoingDependencies.mp hindex, rfl⟩
  · rintro ⟨dependency, hmem, rfl, rfl⟩
    obtain ⟨position, hposition, rfl⟩ := List.getElem_of_mem hmem
    exact ⟨⟨position, hposition⟩, mem_outgoingDependencies.mpr rfl, rfl⟩

/-- A cycle that starts with a dependency. -/
structure CycleFrom (index : DependencyIndex dependencies)
    (cycle : List (DependencyIndex dependencies)) : Prop where
  /-- The dependency comes first. -/
  first : cycle.head? = some index
  /-- The dependencies close up. -/
  closed : ClosedChain cycle
  /-- No namespace is visited twice. -/
  nodup : (cycle.map sourceOf).Nodup

/-- The search from one dependency ends.  It finds a cycle through the dependency, or
there is none. -/
theorem dependencyPathToNamespace_spec {index : DependencyIndex dependencies}
    (hloop : sourceOf index ≠ targetOf index) :
    ∃ tail visited, dependencyPathToNamespace dependencies (dependencies.length + 1)
        (targetOf index) (sourceOf index) (outgoingDependencies dependencies) ∅ =
        .ok (tail, visited) ∧
      (∀ path, tail = some path → CycleFrom index (index :: path)) ∧
      (tail = none → ¬ LiesOnCycle dependencies dependencies[index]) := by
  have hsource : ∀ namespaces,
      ∀ edge ∈ ((outgoingDependencies dependencies).get? namespaces).getD [],
        sourceOf edge = namespaces := fun _ _ hedge => mem_outgoingDependencies.mp hedge
  have hdomain : ∀ edge : DependencyIndex dependencies,
      targetOf edge ∈ dependencies.map (·.targetNamespace) := by
    intro edge
    exact List.mem_map.mpr ⟨dependencies[edge], List.getElem_mem _, rfl⟩
  obtain ⟨⟨tail, visited⟩, hresult⟩ := PathSearch.exists_search_empty_eq_ok
    (fun namespaces edge _ => hdomain edge) (hdomain index)
    (by rw [List.length_map]; exact Nat.lt_succ_self _)
  have hanswer := PathSearch.answers_search hsource hloop.symm hresult
  refine ⟨tail, visited, hresult, ?_, ?_⟩
  · rintro path rfl
    obtain ⟨stops, hroute⟩ := hanswer.found path rfl
    refine ⟨rfl, ?_, ?_⟩
    · rw [ClosedChain, List.map_cons, List.map_cons, hroute.leaves, hroute.enters,
        List.rotate_cons_succ, List.rotate_zero, List.cons_append]
    · rw [List.map_cons, hroute.leaves]
      exact List.nodup_cons.mpr ⟨hroute.goal_last, hroute.nodup⟩
  · rintro rfl hcycle
    have hnot := PathSearch.search_eq_none hsource hloop.symm hresult
    rw [step_eq_dependsOn] at hnot
    rcases Relation.reflTransGen_iff_eq_or_transGen.mp hcycle with heq | hpath
    · exact hloop heq
    · exact hnot hpath

/-- A closed chain is a cycle of the graph. -/
theorem CycleFrom.hasCycle {index : DependencyIndex dependencies}
    {cycle : List (DependencyIndex dependencies)} (h : CycleFrom index cycle) :
    HasCycle dependencies := by
  -- walking along the chain, with the namespace it ends in kept fixed
  have hwalk : ∀ (path : List (DependencyIndex dependencies)) start stops last,
      path.map sourceOf = start :: stops → path.map targetOf = stops ++ [last] →
        Relation.TransGen (DependsOn dependencies) start last := by
    intro path
    induction path with
    | nil => intro start stops last hsources; cases hsources
    | cons edge rest ih =>
        intro start stops last hsources htargets
        rw [List.map_cons, List.cons.injEq] at hsources
        obtain ⟨rfl, hsources⟩ := hsources
        have hedge : DependsOn dependencies (sourceOf edge) (targetOf edge) :=
          ⟨dependencies[edge], List.getElem_mem _, rfl, rfl⟩
        cases stops with
        | nil =>
            obtain ⟨rfl, -⟩ : targetOf edge = last ∧ rest = [] := by simpa using htargets
            exact .single hedge
        | cons next others =>
            rw [List.map_cons, List.cons_append, List.cons.injEq] at htargets
            obtain ⟨rfl, htargets⟩ := htargets
            exact .head hedge (ih _ _ _ hsources htargets)
  obtain ⟨hfirst, hclosed, -⟩ := h
  cases cycle with
  | nil => cases hfirst
  | cons edge rest =>
      refine ⟨sourceOf edge, hwalk (edge :: rest) _ (rest.map sourceOf) _ (List.map_cons ..) ?_⟩
      rw [hclosed, List.map_cons, List.rotate_cons_succ, List.rotate_zero]

end Search

/-! ## The key of a cycle

The key is read from the place where it is least among the rotations, so rotations have
one key.  In the other direction the namespaces are read back from the text of the key. -/

section Key

/-- Namespaces whose text can be read back. -/
structure Readable (namespaces : List String) : Prop where
  /-- No component holds a slash. -/
  no_slash : ∀ component ∈ namespaces, '/' ∉ component.toList
  /-- No component holds an arrow. -/
  no_arrow : ∀ component ∈ namespaces, ¬ ['-', '>'] <:+: component.toList

/-- The text of a namespace holds no arrow. -/
theorem Readable.not_infix_text {namespaces : List String} (h : Readable namespaces) :
    ¬ ['-', '>'] <:+: ("/".intercalate namespaces).toList := by
  rw [String.toList_intercalate]
  refine Separated.not_infix_intercalate (by decide) (by decide) ?_
  intro piece hpiece
  obtain ⟨component, hmem, rfl⟩ := List.mem_map.mp hpiece
  exact h.no_arrow component hmem

/-- The text of a namespace determines it, up to the two namespaces with empty text. -/
theorem Readable.text_inj {first second : List String} (hfirst : Readable first)
    (hsecond : Readable second)
    (hempty : ¬ (first = [] ∧ second = [""]) ∧ ¬ (first = [""] ∧ second = []))
    (h : "/".intercalate first = "/".intercalate second) : first = second := by
  have hfree : ∀ {namespaces : List String}, Readable namespaces →
      ∀ piece ∈ namespaces.map String.toList, ¬ "/".toList <:+: piece := by
    intro namespaces hnamespaces piece hpiece hinside
    obtain ⟨component, hmem, rfl⟩ := List.mem_map.mp hpiece
    exact hnamespaces.no_slash component hmem (hinside.subset (by decide))
  have htext : "/".toList.intercalate (first.map String.toList) =
      "/".toList.intercalate (second.map String.toList) := by
    rw [← String.toList_intercalate, ← String.toList_intercalate, h]
  have hsingle : ∀ {namespaces : List String}, "" = "/".intercalate namespaces →
      namespaces = [] ∨ namespaces = [""] := by
    intro namespaces hjoin
    rcases namespaces with _ | ⟨component, _ | ⟨next, rest⟩⟩
    · exact Or.inl rfl
    · rw [String.intercalate_singleton] at hjoin
      exact Or.inr (by rw [← hjoin])
    · have hlength := congrArg (fun text => text.toList.length) hjoin
      simp [String.intercalate_cons_cons] at hlength
  by_cases hnil : first = []
  · subst hnil
    rcases hsingle (by simpa using h) with rfl | rfl
    · rfl
    · exact absurd ⟨rfl, rfl⟩ hempty.1
  by_cases hnil' : second = []
  · subst hnil'
    rcases hsingle (by simpa using h.symm) with rfl | rfl
    · rfl
    · exact absurd ⟨rfl, rfl⟩ hempty.2
  · have hpieces := Separated.intercalate_inj (by simp [Separated.Distinctive]) (hfree hfirst) (hfree hsecond)
      (by simpa using hnil) (by simpa using hnil') htext
    exact List.map_injective_iff.mpr (fun _ _ => String.toList_injective) hpieces

/-- The texts among which the key is the least. -/
private def rotationTexts (nodes : List String) : List String :=
  (List.range nodes.length).map fun index =>
    "->".intercalate (nodes.drop index ++ nodes.take index)

private theorem mem_rotationTexts {nodes : List String} {text : String} :
    text ∈ rotationTexts nodes ↔
      ∃ rotation, rotation ~r nodes ∧ nodes ≠ [] ∧ text = "->".intercalate rotation := by
  rw [rotationTexts, List.mem_map]
  constructor
  · rintro ⟨index, hindex, rfl⟩
    have hlt := List.mem_range.mp hindex
    refine ⟨nodes.rotate index, List.IsRotated.forall nodes index, ?_, ?_⟩
    · exact List.ne_nil_of_length_pos (Nat.zero_lt_of_lt hlt)
    · rw [List.rotate_eq_drop_append_take hlt.le]
  · rintro ⟨rotation, hrotated, hne, rfl⟩
    obtain ⟨index, rfl⟩ := hrotated.symm
    have hlt := Nat.mod_lt index (List.length_pos_of_ne_nil hne)
    refine ⟨index % nodes.length, List.mem_range.mpr hlt, ?_⟩
    rw [← List.rotate_eq_drop_append_take hlt.le, List.rotate_mod]

private theorem dependencyCycleKey_eq {dependencies : List OwnerDependencyProofEdge}
    (cycle : List (DependencyIndex dependencies)) :
    dependencyCycleKey cycle =
      (rotationTexts ((cycle.map sourceOf).map "/".intercalate)).min?.getD "" := by
  rw [dependencyCycleKey, rotationTexts, List.map_map]
  rfl

/-- Lists with the same members have the same least member. -/
private theorem min?_congr {first second : List String}
    (h : ∀ text, text ∈ first ↔ text ∈ second) : first.min? = second.min? := by
  have hle : ∀ {a b : List String}, (∀ text, text ∈ a ↔ text ∈ b) →
      ∀ least, a.min? = some least → b.min? = some least := by
    intro a b hab least hleast
    obtain ⟨hmem, hbound⟩ := List.min?_eq_some_iff.mp hleast
    exact List.min?_eq_some_iff.mpr
      ⟨(hab least).mp hmem, fun text htext => hbound text ((hab text).mpr htext)⟩
  cases hfirst : first.min? with
  | some least => exact (hle h least hfirst).symm
  | none =>
      cases hsecond : second.min? with
      | none => rfl
      | some least =>
          rw [hle (fun text => (h text).symm) least hsecond] at hfirst
          cases hfirst

variable {dependencies : List OwnerDependencyProofEdge}
  {first second : List (DependencyIndex dependencies)}

/-- Cycles through the same namespaces, from different starting points, have one key. -/
theorem dependencyCycleKey_eq_of_isRotated (h : first.map sourceOf ~r second.map sourceOf) :
    dependencyCycleKey first = dependencyCycleKey second := by
  rw [dependencyCycleKey_eq, dependencyCycleKey_eq]
  have htexts := h.map "/".intercalate
  congr 1
  refine min?_congr fun text => ?_
  rw [mem_rotationTexts, mem_rotationTexts]
  constructor
  · rintro ⟨rotation, hrotation, hne, rfl⟩
    refine ⟨rotation, hrotation.trans htexts, fun hnil => hne ?_, rfl⟩
    rwa [hnil, List.isRotated_nil_iff] at htexts
  · rintro ⟨rotation, hrotation, hne, rfl⟩
    refine ⟨rotation, hrotation.trans htexts.symm, fun hnil => hne ?_, rfl⟩
    rwa [hnil, List.isRotated_nil_iff', eq_comm] at htexts

/-- The condition under which the key tells cycles apart: readable sources, and not
both of the two namespaces whose text is empty. -/
structure KeyReadable (dependencies : List OwnerDependencyProofEdge) : Prop where
  /-- The text of each source can be read back. -/
  readable : ∀ index : DependencyIndex dependencies, Readable (sourceOf index)
  /-- Only one namespace has the empty text. -/
  one_empty : ∀ index other : DependencyIndex dependencies,
    ¬ (sourceOf index = [] ∧ sourceOf other = [""])

/-- The least text belongs to a rotation. -/
private theorem exists_rotation_of_key {nodes : List String} (hne : nodes ≠ []) :
    ∃ rotation, rotation ~r nodes ∧
      (rotationTexts nodes).min?.getD "" = "->".intercalate rotation := by
  cases hmin : (rotationTexts nodes).min? with
  | none =>
      have hself : "->".intercalate nodes ∈ rotationTexts nodes :=
        mem_rotationTexts.mpr ⟨nodes, List.IsRotated.refl nodes, hne, rfl⟩
      rw [List.min?_eq_none_iff] at hmin
      rw [hmin] at hself
      cases hself
  | some least =>
      obtain ⟨rotation, hrotation, -, htext⟩ := mem_rotationTexts.mp (List.min?_mem hmin)
      exact ⟨rotation, hrotation, htext⟩

/-- Lists with the same images are equal, where the function tells their members
apart. -/
private theorem map_inj_of_mem {f : List String → String} {l l' : List (List String)}
    (hinj : ∀ a ∈ l, ∀ b ∈ l', f a = f b → a = b) (h : l.map f = l'.map f) : l = l' := by
  induction l generalizing l' with
  | nil => simpa [eq_comm] using h
  | cons a rest ih =>
      cases l' with
      | nil => cases h
      | cons b rest' =>
          rw [List.map_cons, List.map_cons, List.cons.injEq] at h
          rw [hinj a List.mem_cons_self b List.mem_cons_self h.1,
            ih (fun x hx y hy => hinj x (List.mem_cons_of_mem _ hx) y (List.mem_cons_of_mem _ hy))
              h.2]

/-- **Two cycles have one key exactly when they visit the same namespaces in the same
cyclic order.** -/
theorem dependencyCycleKey_eq_iff (hread : KeyReadable dependencies) (hfirst : first ≠ [])
    (hsecond : second ≠ []) :
    dependencyCycleKey first = dependencyCycleKey second ↔
      first.map sourceOf ~r second.map sourceOf := by
  refine ⟨fun h => ?_, dependencyCycleKey_eq_of_isRotated⟩
  have hnodes : (first.map sourceOf).map "/".intercalate ≠ [] := by simpa using hfirst
  have hnodes' : (second.map sourceOf).map "/".intercalate ≠ [] := by simpa using hsecond
  obtain ⟨rotation, hrotation, htext⟩ := exists_rotation_of_key hnodes
  obtain ⟨rotation', hrotation', htext'⟩ := exists_rotation_of_key hnodes'
  have hjoin : "->".toList.intercalate (rotation.map String.toList) =
      "->".toList.intercalate (rotation'.map String.toList) := by
    rw [dependencyCycleKey_eq, dependencyCycleKey_eq, htext, htext'] at h
    rw [← String.toList_intercalate, ← String.toList_intercalate, h]
  -- no piece of a rotation holds an arrow, so the pieces are read off the key
  have hfree : ∀ {cycle : List (DependencyIndex dependencies)} {nodes : List String},
      nodes ~r (cycle.map sourceOf).map "/".intercalate →
        ∀ piece ∈ nodes.map String.toList, ¬ "->".toList <:+: piece := by
    intro cycle nodes hrotated piece hpiece
    obtain ⟨text, htext, rfl⟩ := List.mem_map.mp hpiece
    obtain ⟨namespaces, hnamespaces, rfl⟩ := List.mem_map.mp (hrotated.mem_iff.mp htext)
    obtain ⟨index, -, rfl⟩ := List.mem_map.mp hnamespaces
    exact (hread.readable index).not_infix_text
  have hne : ∀ {nodes nodes' : List String}, nodes ~r nodes' → nodes' ≠ [] →
      nodes.map String.toList ≠ [] := by
    intro nodes nodes' hrotated hnonempty hnil
    rw [List.map_eq_nil_iff.mp hnil, List.isRotated_nil_iff'] at hrotated
    exact hnonempty hrotated.symm
  have hpieces := Separated.intercalate_inj (by simp [Separated.Distinctive])
    (hfree hrotation) (hfree hrotation') (hne hrotation hnodes) (hne hrotation' hnodes') hjoin
  have hsame : rotation = rotation' :=
    List.map_injective_iff.mpr (fun _ _ => String.toList_injective) hpieces
  subst hsame
  obtain ⟨turns, hturns⟩ := hrotation.symm.trans hrotation'
  refine ⟨turns, map_inj_of_mem ?_ ((List.map_rotate _ _ _).trans hturns)⟩
  intro namespaces hmem namespaces' hmem' heq
  obtain ⟨index, -, rfl⟩ := List.mem_map.mp (List.mem_rotate.mp hmem)
  obtain ⟨other, -, rfl⟩ := List.mem_map.mp hmem'
  refine (hread.readable index).text_inj (hread.readable other) ⟨hread.one_empty index other, ?_⟩ heq
  rintro ⟨hone, hnone⟩
  exact hread.one_empty other index ⟨hnone, hone⟩

end Key

/-! ## The cycles of a list of dependencies

The pass over the dependencies keeps a set of keys.  What it has collected after some of
them are cycles with different keys, one for the cycle of each dependency that lies on
one. -/

section Collect

variable {dependencies : List OwnerDependencyProofEdge}

/-- What holds after a pass over some of the positions. -/
structure Collected (done : List (DependencyIndex dependencies))
    (state : OrderedSet String × List (List (DependencyIndex dependencies))) : Prop where
  /-- The keys are those of the kept cycles. -/
  keys : ∀ key, key ∈ state.1.keys ↔ ∃ cycle ∈ state.2, dependencyCycleKey cycle = key
  /-- Each kept list is a cycle. -/
  cycles : ∀ cycle ∈ state.2, ∃ index, CycleFrom index cycle
  /-- No key is kept twice. -/
  distinct : state.2.Pairwise fun first second =>
    dependencyCycleKey first ≠ dependencyCycleKey second
  /-- A dependency on a cycle has a cycle of its own, whose key is kept. -/
  covered : ∀ index ∈ done, LiesOnCycle dependencies dependencies[index] →
    ∃ cycle, CycleFrom index cycle ∧ dependencyCycleKey cycle ∈ state.1.keys

/-- One more dependency is looked at. -/
theorem Collected.step {done : List (DependencyIndex dependencies)}
    {state : OrderedSet String × List (List (DependencyIndex dependencies))}
    (h : Collected done state) {index : DependencyIndex dependencies}
    (hloop : sourceOf index ≠ targetOf index) :
    ∃ next, collectCycle dependencies state index = .ok next ∧
      Collected (done ++ [index]) next := by
  obtain ⟨tail, visited, hresult, hfound, hmissed⟩ := dependencyPathToNamespace_spec hloop
  unfold collectCycle
  rw [hresult]
  cases tail with
  | none =>
      refine ⟨state, rfl, h.keys, h.cycles, h.distinct, ?_⟩
      intro other hother hcycle
      rcases List.mem_append.mp hother with hother | hother
      · exact h.covered other hother hcycle
      · obtain rfl := List.mem_singleton.mp hother
        exact absurd hcycle (hmissed rfl)
  | some path =>
      have hcycle := hfound path rfl
      by_cases hseen : dependencyCycleKey (index :: path) ∈ state.1.keys
      · refine ⟨state, by simp [bind, Except.bind, hseen], h.keys, h.cycles, h.distinct, ?_⟩
        intro other hother hlies
        rcases List.mem_append.mp hother with hother | hother
        · exact h.covered other hother hlies
        · obtain rfl := List.mem_singleton.mp hother
          exact ⟨_, hcycle, hseen⟩
      · refine ⟨(state.1.add (dependencyCycleKey (index :: path)), state.2 ++ [index :: path]),
          by simp [bind, Except.bind, hseen], ?_, ?_, ?_, ?_⟩
        · intro key
          rw [OrderedSet.mem_keys_add, h.keys key]
          simp only [List.mem_append, List.mem_singleton, or_and_right, exists_or,
            exists_eq_left, eq_comm (a := key)]
          exact or_comm
        · intro cycle hmem
          rcases List.mem_append.mp hmem with hmem | hmem
          · exact h.cycles cycle hmem
          · exact ⟨index, List.mem_singleton.mp hmem ▸ hcycle⟩
        · refine List.pairwise_append.mpr ⟨h.distinct, List.pairwise_singleton _ _, ?_⟩
          intro first hfirst second hsecond heq
          rw [List.mem_singleton.mp hsecond] at heq
          exact hseen ((h.keys _).mpr ⟨first, hfirst, heq⟩)
        · intro other hother hlies
          rcases List.mem_append.mp hother with hother | hother
          · obtain ⟨cycle, hother, hkey⟩ := h.covered other hother hlies
            exact ⟨cycle, hother, OrderedSet.mem_keys_add.mpr (Or.inr hkey)⟩
          · obtain rfl := List.mem_singleton.mp hother
            exact ⟨_, hcycle, OrderedSet.mem_keys_add.mpr (Or.inl rfl)⟩

/-- The whole pass. -/
theorem exists_collected (hloops : ∀ index : DependencyIndex dependencies,
    sourceOf index ≠ targetOf index) (rest : List (DependencyIndex dependencies))
    {done : List (DependencyIndex dependencies)}
    {state : OrderedSet String × List (List (DependencyIndex dependencies))}
    (h : Collected done state) :
    ∃ final, rest.foldlM (collectCycle dependencies) state = .ok final ∧
      Collected (done ++ rest) final := by
  induction rest generalizing done state with
  | nil => exact ⟨state, rfl, by simpa using h⟩
  | cons index rest ih =>
      obtain ⟨next, hnext, hcollected⟩ := h.step (hloops index)
      obtain ⟨final, hfinal, hdone⟩ := ih hcollected
      refine ⟨final, ?_, by simpa using hdone⟩
      rw [List.foldlM_cons, hnext]
      exact hfinal

/-- A dependency whose key is kept has its namespaces in the kept cycle. -/
theorem CycleFrom.exists_mem_of_isRotated {index : DependencyIndex dependencies}
    {cycle kept : List (DependencyIndex dependencies)} (h : CycleFrom index cycle)
    (hkept : ClosedChain kept) (hrotated : kept.map sourceOf ~r cycle.map sourceOf) :
    ∃ other ∈ kept, sourceOf other = sourceOf index ∧ targetOf other = targetOf index := by
  obtain ⟨turns, hturns⟩ := hrotated
  have hsources : (kept.rotate turns).map sourceOf = cycle.map sourceOf := by
    rw [List.map_rotate, hturns]
  have htargets : (kept.rotate turns).map targetOf = cycle.map targetOf := by
    calc (kept.rotate turns).map targetOf
        = ((kept.map sourceOf).rotate 1).rotate turns := by rw [List.map_rotate, hkept]
      _ = ((kept.map sourceOf).rotate turns).rotate 1 := by
          rw [List.rotate_rotate, List.rotate_rotate, Nat.add_comm]
      _ = cycle.map targetOf := by rw [hturns, h.closed]
  have hfirst := h.first
  cases cycle with
  | nil => cases hfirst
  | cons edge rest =>
      obtain rfl := Option.some.inj hfirst
      cases hkeptTurns : kept.rotate turns with
      | nil => rw [hkeptTurns] at hsources; cases hsources
      | cons other others =>
          rw [hkeptTurns, List.map_cons, List.map_cons, List.cons.injEq] at hsources htargets
          refine ⟨other, ?_, hsources.1, htargets.1⟩
          exact List.mem_rotate.mp (hkeptTurns ▸ List.mem_cons_self)

/-- What the reported cycles are to the graph of namespaces. -/
structure CycleReport (cycles : List (List (DependencyIndex dependencies))) : Prop where
  /-- A cycle is reported exactly when the graph has one. -/
  nonempty_iff : cycles ≠ [] ↔ HasCycle dependencies
  /-- Every report is a closed chain that visits no namespace twice. -/
  closed : ∀ cycle ∈ cycles,
    cycle ≠ [] ∧ ClosedChain cycle ∧ (cycle.map sourceOf).Nodup
  /-- No two reports visit the same cyclic sequence of namespaces. -/
  distinct : cycles.Pairwise fun first second =>
    ¬ first.map sourceOf ~r second.map sourceOf
  /-- Every dependency on a cycle has its two namespaces in a report. -/
  complete : ∀ dependency ∈ dependencies, LiesOnCycle dependencies dependency →
    ∃ cycle ∈ cycles, ∃ index ∈ cycle,
      sourceOf index = dependency.sourceNamespace ∧ targetOf index = dependency.targetNamespace

theorem CycleFrom.ne_nil {index : DependencyIndex dependencies}
    {cycle : List (DependencyIndex dependencies)} (h : CycleFrom index cycle) : cycle ≠ [] := by
  rintro rfl
  cases h.first

/-- A graph with a cycle has a dependency on one. -/
theorem HasCycle.exists_liesOnCycle (h : HasCycle dependencies) :
    ∃ index : DependencyIndex dependencies, LiesOnCycle dependencies dependencies[index] := by
  obtain ⟨namespaces, hcycle⟩ := h
  obtain ⟨next, ⟨dependency, hmem, hsource, htarget⟩, hback⟩ :=
    Relation.TransGen.head'_iff.mp hcycle
  obtain ⟨position, hposition, rfl⟩ := List.getElem_of_mem hmem
  refine ⟨⟨position, hposition⟩, ?_⟩
  show Relation.ReflTransGen _ dependencies[position].targetNamespace
    dependencies[position].sourceNamespace
  rw [hsource, htarget]
  exact hback

/-- The reports of a complete pass. -/
theorem Collected.cycleReport
    {state : OrderedSet String × List (List (DependencyIndex dependencies))}
    (h : Collected (List.finRange dependencies.length) state)
    (hread : KeyReadable dependencies) : CycleReport state.2 where
  nonempty_iff := by
    constructor
    · intro hne
      obtain ⟨cycle, hmem⟩ := List.exists_mem_of_ne_nil _ hne
      obtain ⟨index, hcycle⟩ := h.cycles cycle hmem
      exact hcycle.hasCycle
    · intro hcycle hnil
      obtain ⟨index, hlies⟩ := hcycle.exists_liesOnCycle
      obtain ⟨cycle, -, hkey⟩ := h.covered index (List.mem_finRange index) hlies
      obtain ⟨kept, hkept, -⟩ := (h.keys _).mp hkey
      rw [hnil] at hkept
      cases hkept
  closed := by
    intro cycle hmem
    obtain ⟨index, hcycle⟩ := h.cycles cycle hmem
    exact ⟨hcycle.ne_nil, hcycle.closed, hcycle.nodup⟩
  distinct := h.distinct.imp fun hne hrotated =>
    hne (dependencyCycleKey_eq_of_isRotated hrotated)
  complete := by
    intro dependency hmem hlies
    obtain ⟨position, hposition, rfl⟩ := List.getElem_of_mem hmem
    obtain ⟨cycle, hcycle, hkey⟩ :=
      h.covered ⟨position, hposition⟩ (List.mem_finRange _) hlies
    obtain ⟨kept, hkept, heq⟩ := (h.keys _).mp hkey
    obtain ⟨index, hindex⟩ := h.cycles kept hkept
    have hrotated := (dependencyCycleKey_eq_iff hread hindex.ne_nil hcycle.ne_nil).mp heq
    obtain ⟨other, hother, hsource, htarget⟩ :=
      hcycle.exists_mem_of_isRotated hindex.closed hrotated
    exact ⟨kept, hkept, other, hother, hsource, htarget⟩

end Collect

/-- **Cycle detection.**  For dependencies without self loops, whose source namespaces
hold neither `/` nor `->`, and among which not both the namespace without components and
the one whose only component is empty occur, the detection ends and its reports are
exactly the cycles, one for each cyclic sequence of namespaces.

A cycle is found once for each of its dependencies, and its key keeps one report of it.
The key joins the components of the namespaces by separators, hence the conditions on
the names. -/
theorem ownerDependencyCycleIndices_report (dependencies : List OwnerDependencyProofEdge)
    (hloops : ∀ dependency ∈ dependencies,
      dependency.sourceNamespace ≠ dependency.targetNamespace)
    (hreadable : ∀ dependency ∈ dependencies, Readable dependency.sourceNamespace)
    (hempty : ¬ ((∃ dependency ∈ dependencies, dependency.sourceNamespace = []) ∧
      ∃ dependency ∈ dependencies, dependency.sourceNamespace = [""])) :
    ∃ cycles, ownerDependencyCycleIndices dependencies = .ok cycles ∧ CycleReport cycles := by
  have hmem : ∀ index : DependencyIndex dependencies, dependencies[index] ∈ dependencies :=
    fun index => List.getElem_mem _
  have hread : KeyReadable dependencies := by
    refine ⟨fun index => hreadable _ (hmem index), ?_⟩
    rintro index other ⟨hnone, hone⟩
    exact hempty ⟨⟨_, hmem index, hnone⟩, ⟨_, hmem other, hone⟩⟩
  have hstart : Collected ([] : List (DependencyIndex dependencies)) (∅, []) :=
    ⟨by simp, by simp, List.Pairwise.nil, by simp⟩
  obtain ⟨final, hfinal, hcollected⟩ := exists_collected
    (fun index => hloops _ (hmem index)) (List.finRange dependencies.length) hstart
  refine ⟨final.2, ?_, ?_⟩
  · rw [ownerDependencyCycleIndices, hfinal]
    rfl
  · rw [List.nil_append] at hcollected
    exact hcollected.cycleReport hread

/-- Two owners that depend on each other, and a third one. -/
def mutualOwners : List OwnerDependencyProofEdge :=
  [⟨["a"], ["b"]⟩, ⟨["b"], ["a"]⟩, ⟨["b"], ["c"]⟩]

theorem mutualOwners_report :
    ∃ cycles, ownerDependencyCycleIndices mutualOwners = .ok cycles ∧ CycleReport cycles :=
  ownerDependencyCycleIndices_report mutualOwners (by decide)
    (by
      intro dependency hmem
      have hsource : ∀ dependency ∈ mutualOwners,
          (∀ component ∈ dependency.sourceNamespace, '/' ∉ component.toList) ∧
            ∀ component ∈ dependency.sourceNamespace,
              ¬ ['-', '>'] <:+: component.toList := by decide
      exact ⟨(hsource dependency hmem).1, (hsource dependency hmem).2⟩)
    (by decide)

/-- The namespace without components and the one whose only component is empty, each in
a cycle with `a`: the two cycles have one key. -/
def emptyNamespaces : List OwnerDependencyProofEdge :=
  [⟨[], ["a"]⟩, ⟨["a"], []⟩, ⟨[""], ["a"]⟩, ⟨["a"], [""]⟩]

theorem emptyNamespaces_no_report :
    (∀ dependency ∈ emptyNamespaces,
      dependency.sourceNamespace ≠ dependency.targetNamespace ∧
      (∀ component ∈ dependency.sourceNamespace ++ dependency.targetNamespace,
        '/' ∉ component.toList ∧ ¬ ['-', '>'] <:+: component.toList)) ∧
    ¬ ∃ cycles, ownerDependencyCycleIndices emptyNamespaces = .ok cycles ∧
      CycleReport cycles := by
  refine ⟨by decide, ?_⟩
  rintro ⟨cycles, hcycles, hreport⟩
  have hrun : ownerDependencyCycleIndices emptyNamespaces =
      .ok [[⟨0, by decide⟩, ⟨1, by decide⟩]] := by decide
  obtain rfl := Except.ok.inj (hcycles.symm.trans hrun)
  have hback : DependsOn emptyNamespaces ["a"] [""] := ⟨⟨["a"], [""]⟩, by decide, rfl, rfl⟩
  obtain ⟨cycle, hcycle, index, hindex, hsource, -⟩ :=
    hreport.complete ⟨[""], ["a"]⟩ (by decide) (.single hback)
  rw [List.mem_singleton.mp hcycle] at hindex
  have hothers : ∀ index ∈ [(⟨0, by decide⟩ : DependencyIndex emptyNamespaces), ⟨1, by decide⟩],
      sourceOf index ≠ [""] := by decide
  exact hothers index hindex hsource

end AspRust.AgentPolicy
