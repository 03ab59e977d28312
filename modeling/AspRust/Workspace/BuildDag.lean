import AspRust.Foundation.DependencyOrder
import AspRust.Foundation.OrderedMap
import AspRust.Foundation.Outcome
import AspRust.Foundation.Path
import Mathlib.Data.Finset.Card
import Mathlib.Data.Finset.Insert
import Mathlib.Data.List.FinRange

/-!
# The workspace Build DAG

The order in which a Cargo workspace's packages are checked is computed by a
depth-first search with three states.  A package is *visited* once it has been
pushed on the order, *visiting* while its dependencies are being walked, and
neither before that; meeting a visiting package is a cycle.

## The search as a bounded recursion

`visitDependencyGraphPackage` is indexed by fuel.  A nested call is made only
for a package that has just become visiting, and only for packages that are
keys of the dependency map, so the number of keys that are not visiting falls
by one with every level: one more than that number is enough fuel
(`visit_spec`), and `dependencyFirstPackageOrder` starts with one more than the
number of keys.

## What the search maintains

`SearchInvariant` is the whole of it: the order is dependency-first, it lists
exactly the visited packages, and no package is both visited and visiting.
The calls in progress are a chain of dependencies that ends at the package
being visited, so a visiting package that is met again depends on itself.
That is where both halves of the correctness statement come from — a cycle is
reported only on a cycle, and a finished order leaves no room for one.

## Iteration order

The source starts the search from the packages as it iterates over them.  The statement is for
every list of starting packages, so nothing depends on the iteration: which order comes out may,
that it is dependency-first and whether it exists do not.
-/

namespace AspRust.Workspace

open AspRust.Foundation Relation

/-- Direct local dependencies by package name. -/
abbrev DependenciesByName := OrderedMap String (List String)

/-- Package roots by package name. -/
abbrev PackageRootsByName := OrderedMap String Path

/-- One package atom of the Build DAG. -/
structure BuildDagPackage where
  packageName : String
  packageRoot : Path
  localDependencies : List String
  executionIndex : ℕ
deriving DecidableEq

/-- The mutable state of the search. -/
structure VisitState where
  visiting : Finset String
  visited : Finset String
  order : List String

/-- The error for a package that is met while it is being visited. -/
def cycleMessage (package : String) : String :=
  s!"Cargo local dependency graph contains a cycle through `{package}`"

/-- The error for a package that is no key of the dependency map. -/
def missingMessage (package : String) : String :=
  s!"Cargo dependency graph package is missing: `{package}`"

/-- Visit one package: its dependencies first, then the package itself. -/
def visitDependencyGraphPackage (dependenciesByName : DependenciesByName) :
    ℕ → String → VisitState → Outcome VisitState
  | 0, _, _ => .error .exhausted
  | fuel + 1, package, state =>
      if package ∈ state.visited then .ok state
      else if package ∈ state.visiting then
        .error (.returned (cycleMessage package))
      else
        match dependenciesByName.get? package with
        | none => .error (.returned (missingMessage package))
        | some dependencies => do
            let state ← dependencies.foldlM
              (fun state dependency =>
                visitDependencyGraphPackage dependenciesByName fuel dependency state)
              { state with visiting := insert package state.visiting }
            return {
              visiting := state.visiting.erase package
              visited := insert package state.visited
              order := state.order ++ [package] }

/-- Visit every package of the workspace in the given iteration order. -/
def dependencyFirstPackageOrder (workspacePackages : List String)
    (dependenciesByName : DependenciesByName) : Outcome (List String) := do
  let state ← workspacePackages.foldlM
    (fun state package =>
      visitDependencyGraphPackage dependenciesByName
        (dependenciesByName.keys.length + 1) package state)
    { visiting := ∅, visited := ∅, order := [] }
  return state.order

/-- One package of the DAG; both lookups are expected to succeed. -/
def materializePackage (rootByName : PackageRootsByName)
    (dependenciesByName : DependenciesByName) (executionIndex : ℕ)
    (packageName : String) : Outcome BuildDagPackage :=
  match rootByName.get? packageName with
  | none => .error (.panicked "Build DAG package root")
  | some packageRoot =>
      match dependenciesByName.get? packageName with
      | none => .error (.panicked "Build DAG package dependencies")
      | some localDependencies =>
          .ok { packageName, packageRoot, localDependencies, executionIndex }

/-- The packages of the DAG in execution order. -/
def materializeDependencyGraphPackages (order : List String)
    (rootByName : PackageRootsByName) (dependenciesByName : DependenciesByName) :
    Outcome (List BuildDagPackage) :=
  order.zipIdx.mapM fun entry =>
    materializePackage rootByName dependenciesByName entry.2 entry.1

/-- `package` has `dependency` among its direct local dependencies. -/
def DependsOn (dependenciesByName : DependenciesByName)
    (package dependency : String) : Prop :=
  ∃ dependencies, dependenciesByName.get? package = some dependencies ∧
    dependency ∈ dependencies

/-- Every dependency is itself a package of the map. -/
def Closed (dependenciesByName : DependenciesByName) : Prop :=
  ∀ package dependency, DependsOn dependenciesByName package dependency →
    dependency ∈ dependenciesByName.keys

theorem closed_iff {dependenciesByName : DependenciesByName} :
    Closed dependenciesByName ↔
      ∀ entry ∈ dependenciesByName.entries, ∀ dependency ∈ entry.2,
        dependency ∈ dependenciesByName.keys := by
  constructor
  · rintro h ⟨package, dependencies⟩ hentry dependency hmem
    exact h package dependency
      ⟨dependencies, OrderedMap.get?_eq_some_iff.mpr hentry, hmem⟩
  · rintro h package dependency ⟨dependencies, hget, hmem⟩
    exact h (package, dependencies) (OrderedMap.get?_eq_some_iff.mp hget) dependency hmem

/-! ## The search invariant

What holds between two steps, and what a completed visit leaves behind.  A visit is
described by its result: finished, a cycle, or a missing package. -/

/-- What holds between two steps of the search. -/
structure SearchInvariant (dependenciesByName : DependenciesByName)
    (state : VisitState) : Prop where
  /-- The order meets every package after its dependencies. -/
  ordered : DependencyFirst (DependsOn dependenciesByName) state.order
  /-- It lists exactly the visited packages. -/
  visited_iff : ∀ package, package ∈ state.visited ↔ package ∈ state.order
  /-- Nothing but packages of the map is listed. -/
  known : ∀ package ∈ state.order, package ∈ dependenciesByName.keys
  /-- A visited package is no longer being visited. -/
  disjoint : Disjoint state.visiting state.visited

/-- What a completed visit leaves behind: the packages in progress are the same
again, the order has only grown, and the visited package is in it. -/
structure Visits (dependenciesByName : DependenciesByName) (packages : List String)
    (before after : VisitState) : Prop where
  invariant : SearchInvariant dependenciesByName after
  visiting_eq : after.visiting = before.visiting
  order_prefix : before.order <+: after.order
  finished : ∀ package ∈ packages, package ∈ after.order

/-- The possible results of visiting packages from a state: they are visited, or
some package on a cycle is reported. -/
def VisitResult (dependenciesByName : DependenciesByName) (packages : List String)
    (before : VisitState) (result : Outcome VisitState) : Prop :=
  (∃ after, result = .ok after ∧ Visits dependenciesByName packages before after) ∨
  (∃ package, result = .error (.returned (cycleMessage package)) ∧
    TransGen (DependsOn dependenciesByName) package package)

variable {dependenciesByName : DependenciesByName}

theorem Visits.trans {first second : List String} {before middle after : VisitState}
    (h₁ : Visits dependenciesByName first before middle)
    (h₂ : Visits dependenciesByName second middle after) :
    Visits dependenciesByName (first ++ second) before after where
  invariant := h₂.invariant
  visiting_eq := h₂.visiting_eq.trans h₁.visiting_eq
  order_prefix := h₁.order_prefix.trans h₂.order_prefix
  finished package hpackage := by
    rcases List.mem_append.mp hpackage with hmem | hmem
    · exact h₂.order_prefix.subset (h₁.finished package hmem)
    · exact h₂.finished package hmem

/-- Visiting the packages of a list one after another, when a visit of each
gives a `VisitResult` from every state with the same packages in progress. -/
theorem foldlM_visitResult (visit : String → VisitState → Outcome VisitState)
    (packages : List String) {state : VisitState}
    (hinv : SearchInvariant dependenciesByName state)
    (hvisit : ∀ package ∈ packages, ∀ middle,
      SearchInvariant dependenciesByName middle → middle.visiting = state.visiting →
      VisitResult dependenciesByName [package] middle (visit package middle)) :
    VisitResult dependenciesByName packages state
      (packages.foldlM (fun state package => visit package state) state) := by
  induction packages generalizing state with
  | nil =>
      refine Or.inl ⟨state, rfl, hinv, rfl, List.prefix_rfl, ?_⟩
      intro package hpackage
      simp at hpackage
  | cons head rest ih =>
      rw [List.foldlM_cons]
      rcases hvisit head List.mem_cons_self state hinv rfl with
        ⟨middle, hmiddle, hvisits⟩ | ⟨package, herror, hcycle⟩
      · have hrest := ih hvisits.invariant (by
          intro package hpackage other hother hvisiting
          exact hvisit package (List.mem_cons_of_mem _ hpackage) other hother
            (hvisiting.trans hvisits.visiting_eq))
        rw [hmiddle]
        rcases hrest with ⟨after, hafter, hmore⟩ | hreport
        · exact Or.inl ⟨after, hafter, by simpa using hvisits.trans hmore⟩
        · exact Or.inr hreport
      · rw [herror]
        exact Or.inr ⟨package, rfl, hcycle⟩

/-- Pushing a package whose dependencies are all listed. -/
theorem Visits.finish {package : String} {dependencies : List String}
    {before after : VisitState}
    (hdeps : dependenciesByName.get? package = some dependencies)
    (hnotVisiting : package ∉ before.visiting)
    (hvisits : Visits dependenciesByName dependencies
      { before with visiting := insert package before.visiting } after) :
    Visits dependenciesByName [package] before
      { visiting := after.visiting.erase package
        visited := insert package after.visited
        order := after.order ++ [package] } := by
  have hvisiting : after.visiting = insert package before.visiting := hvisits.visiting_eq
  have hrestored : after.visiting.erase package = before.visiting := by
    rw [hvisiting, Finset.erase_insert hnotVisiting]
  -- the package is still visiting when its dependencies are done, so it is not listed
  have hnotVisited : package ∉ after.visited :=
    Finset.disjoint_left.mp hvisits.invariant.disjoint
      (by rw [hvisiting]; exact Finset.mem_insert_self _ _)
  have hfresh : package ∉ after.order := fun hmem =>
    hnotVisited ((hvisits.invariant.visited_iff package).mpr hmem)
  refine ⟨⟨?_, ?_, ?_, ?_⟩, hrestored, ?_, ?_⟩
  · refine hvisits.invariant.ordered.concat hfresh ?_
    rintro dependency ⟨listed, hlisted, hmem⟩
    rw [hdeps] at hlisted
    exact hvisits.finished dependency (Option.some.inj hlisted ▸ hmem)
  · intro other
    simp only [Finset.mem_insert, List.mem_append, List.mem_singleton,
      hvisits.invariant.visited_iff other]
    tauto
  · intro other hother
    rcases List.mem_append.mp hother with hmem | hmem
    · exact hvisits.invariant.known other hmem
    · rw [List.mem_singleton] at hmem
      subst hmem
      exact OrderedMap.mem_keys_iff.mpr ⟨dependencies, hdeps⟩
  · rw [Finset.disjoint_insert_right]
    refine ⟨Finset.notMem_erase package after.visiting, ?_⟩
    exact hvisits.invariant.disjoint.mono_left (Finset.erase_subset _ _)
  · exact hvisits.order_prefix.trans (List.prefix_append _ _)
  · intro other hother
    rw [List.mem_singleton] at hother
    exact List.mem_append_right _ (List.mem_singleton.mpr hother)

/-- Keys that are not being visited: what the fuel of a visit is measured by. -/
def idleKeys (dependenciesByName : DependenciesByName) (visiting : Finset String) :
    Finset String :=
  dependenciesByName.keys.toFinset \ visiting

theorem idleKeys_insert_card {package : String} {visiting : Finset String}
    (hkey : package ∈ dependenciesByName.keys) (hnot : package ∉ visiting) :
    (idleKeys dependenciesByName (insert package visiting)).card + 1 =
      (idleKeys dependenciesByName visiting).card := by
  have hmem : package ∈ idleKeys dependenciesByName visiting := by
    simp [idleKeys, hkey, hnot]
  have herase : idleKeys dependenciesByName (insert package visiting) =
      (idleKeys dependenciesByName visiting).erase package := by
    ext other
    simp only [idleKeys, Finset.mem_sdiff, Finset.mem_insert, Finset.mem_erase]
    tauto
  rw [herase]
  exact Finset.card_erase_add_one hmem

/-- **One visit.**  From a state in which every package in progress leads to
`package`, a visit with enough fuel either finishes the package or reports a
package that lies on a cycle. -/
theorem visit_spec (hclosed : Closed dependenciesByName) {fuel : ℕ} {package : String}
    {state : VisitState} (hkey : package ∈ dependenciesByName.keys)
    (hinv : SearchInvariant dependenciesByName state)
    (hchain : ∀ other ∈ state.visiting,
      TransGen (DependsOn dependenciesByName) other package)
    (hfuel : (idleKeys dependenciesByName state.visiting).card < fuel) :
    VisitResult dependenciesByName [package] state
      (visitDependencyGraphPackage dependenciesByName fuel package state) := by
  induction fuel generalizing package state with
  | zero => omega
  | succ fuel ih =>
      rw [visitDependencyGraphPackage]
      by_cases hvisited : package ∈ state.visited
      · rw [if_pos hvisited]
        refine Or.inl ⟨state, rfl, hinv, rfl, List.prefix_rfl, ?_⟩
        intro other hother
        rw [List.mem_singleton] at hother
        exact hother ▸ (hinv.visited_iff package).mp hvisited
      · rw [if_neg hvisited]
        by_cases hvisiting : package ∈ state.visiting
        · rw [if_pos hvisiting]
          exact Or.inr ⟨package, rfl, hchain package hvisiting⟩
        · rw [if_neg hvisiting]
          obtain ⟨dependencies, hdeps⟩ := OrderedMap.mem_keys_iff.mp hkey
          rw [hdeps]
          have hcard := idleKeys_insert_card hkey hvisiting
          have hstart : SearchInvariant dependenciesByName
              { state with visiting := insert package state.visiting } :=
            ⟨hinv.ordered, hinv.visited_iff, hinv.known,
              Finset.disjoint_insert_left.mpr ⟨hvisited, hinv.disjoint⟩⟩
          have hloop := foldlM_visitResult
            (visitDependencyGraphPackage dependenciesByName fuel) dependencies hstart (by
              intro dependency hdependency middle hmiddle hsame
              have hedge : DependsOn dependenciesByName package dependency :=
                ⟨dependencies, hdeps, hdependency⟩
              refine ih (hclosed package dependency hedge) hmiddle ?_ ?_
              · -- the chain of calls in progress gets one step longer
                intro other hother
                rw [hsame, Finset.mem_insert] at hother
                rcases hother with rfl | hother
                · exact TransGen.single hedge
                · exact (hchain other hother).tail hedge
              · rw [hsame]
                change (idleKeys dependenciesByName
                  (insert package state.visiting)).card < fuel
                omega)
          rcases hloop with ⟨after, hafter, hvisits⟩ | ⟨other, herror, hcycle⟩
          · refine Or.inl ⟨_, ?_, hvisits.finish hdeps hvisiting⟩
            simp only [hafter]
            rfl
          · refine Or.inr ⟨other, ?_, hcycle⟩
            simp only [herror]
            rfl

/-- The search over all packages of the workspace, whatever order they come in. -/
theorem dependencyFirstPackageOrder_spec (hclosed : Closed dependenciesByName)
    {workspacePackages : List String}
    (hpackages : ∀ package ∈ workspacePackages, package ∈ dependenciesByName.keys) :
    (∃ order, dependencyFirstPackageOrder workspacePackages dependenciesByName = .ok order ∧
      DependencyFirst (DependsOn dependenciesByName) order ∧
      (∀ package ∈ order, package ∈ dependenciesByName.keys) ∧
      ∀ package ∈ workspacePackages, package ∈ order) ∨
    (∃ package, dependencyFirstPackageOrder workspacePackages dependenciesByName =
        .error (.returned (cycleMessage package)) ∧
      TransGen (DependsOn dependenciesByName) package package) := by
  have hstart : SearchInvariant dependenciesByName ⟨∅, ∅, []⟩ :=
    ⟨DependencyFirst.nil, by simp, by simp, by simp⟩
  have hloop := foldlM_visitResult
    (visitDependencyGraphPackage dependenciesByName (dependenciesByName.keys.length + 1))
    workspacePackages hstart (by
      intro package hpackage middle hmiddle hsame
      refine visit_spec hclosed (hpackages package hpackage) hmiddle ?_ ?_
      · simp [hsame]
      · rw [hsame]
        have hcard : (idleKeys dependenciesByName ∅).card ≤ dependenciesByName.keys.length := by
          simpa [idleKeys] using dependenciesByName.keys.toFinset_card_le
        exact Nat.lt_succ_of_le hcard)
  rcases hloop with ⟨after, hafter, hvisits⟩ | ⟨package, herror, hcycle⟩
  · refine Or.inl ⟨after.order, ?_, hvisits.invariant.ordered, hvisits.invariant.known,
      hvisits.finished⟩
    rw [dependencyFirstPackageOrder, hafter]
    rfl
  · refine Or.inr ⟨package, ?_, hcycle⟩
    rw [dependencyFirstPackageOrder, herror]
    rfl

/-! ## Materialization

An order of names becomes a list of packages with their positions and the positions of
their dependencies.  That no lookup fails follows from the order. -/

/-- Materializing packages that both maps know, from any start index on. -/
theorem materialize_zipIdx {rootByName : PackageRootsByName} (order : List String)
    (hroots : ∀ package ∈ order, package ∈ rootByName.keys)
    (hdeps : ∀ package ∈ order, package ∈ dependenciesByName.keys) (start : ℕ) :
    ∃ packages,
      (order.zipIdx start).mapM (fun entry =>
        materializePackage rootByName dependenciesByName entry.2 entry.1) = .ok packages ∧
      packages.map BuildDagPackage.packageName = order ∧
      packages.map BuildDagPackage.executionIndex = List.range' start order.length ∧
      ∀ package ∈ packages,
        rootByName.get? package.packageName = some package.packageRoot ∧
        dependenciesByName.get? package.packageName = some package.localDependencies := by
  induction order generalizing start with
  | nil => exact ⟨[], rfl, rfl, rfl, by simp⟩
  | cons head rest ih =>
      obtain ⟨packages, hmap, hnames, hindices, hlookups⟩ :=
        ih (fun p hp => hroots p (List.mem_cons_of_mem _ hp))
          (fun p hp => hdeps p (List.mem_cons_of_mem _ hp)) (start + 1)
      obtain ⟨packageRoot, hroot⟩ :=
        OrderedMap.mem_keys_iff.mp (hroots head List.mem_cons_self)
      obtain ⟨localDependencies, hlocal⟩ :=
        OrderedMap.mem_keys_iff.mp (hdeps head List.mem_cons_self)
      refine ⟨⟨head, packageRoot, localDependencies, start⟩ :: packages, ?_, ?_, ?_, ?_⟩
      · rw [List.zipIdx_cons, List.mapM_cons, hmap]
        simp only [materializePackage, hroot, hlocal]
        rfl
      · simp [hnames]
      · simp [hindices, List.range'_succ]
      · intro package hpackage
        rcases List.mem_cons.mp hpackage with rfl | hpackage
        · exact ⟨hroot, hlocal⟩
        · exact hlookups package hpackage

/-- Everything a finished Build DAG promises about its order and packages. -/
structure IsBuildDag (rootByName : PackageRootsByName)
    (dependenciesByName : DependenciesByName) (order : List String)
    (packages : List BuildDagPackage) : Prop where
  /-- No package comes twice. -/
  nodup : order.Nodup
  /-- Exactly the packages of the map are ordered. -/
  perm : order.Perm dependenciesByName.keys
  /-- A dependency comes strictly before each package that depends on it. -/
  dependency_first : ∀ package dependency,
    DependsOn dependenciesByName package dependency →
      order.idxOf dependency < order.idxOf package
  /-- The packages are listed in execution order. -/
  names : packages.map BuildDagPackage.packageName = order
  /-- Each execution index is the position in the order. -/
  indices : ∀ (i : ℕ) (h : i < packages.length),
    packages[i].executionIndex = i ∧ order.idxOf packages[i].packageName = i
  /-- Roots and dependencies are the ones the maps hold. -/
  lookups : ∀ package ∈ packages,
    rootByName.get? package.packageName = some package.packageRoot ∧
    dependenciesByName.get? package.packageName = some package.localDependencies

/-- Ordering and materializing together: the packages of the DAG in order. -/
def orderAndMaterialize (workspacePackages : List String) (rootByName : PackageRootsByName)
    (dependenciesByName : DependenciesByName) :
    Outcome (List String × List BuildDagPackage) := do
  let order ← dependencyFirstPackageOrder workspacePackages dependenciesByName
  let packages ← materializeDependencyGraphPackages order rootByName dependenciesByName
  return (order, packages)

/-- A dependency-first list of all keys materializes to a Build DAG. -/
theorem isBuildDag_of_dependencyFirst {rootByName : PackageRootsByName}
    (hroots : rootByName.keys = dependenciesByName.keys) {order : List String}
    (hordered : DependencyFirst (DependsOn dependenciesByName) order)
    (hmem : ∀ package, package ∈ order ↔ package ∈ dependenciesByName.keys) :
    ∃ packages,
      materializeDependencyGraphPackages order rootByName dependenciesByName = .ok packages ∧
      IsBuildDag rootByName dependenciesByName order packages := by
  obtain ⟨packages, hmap, hnames, hindices, hlookups⟩ :=
    materialize_zipIdx order
      (fun p hp => hroots ▸ (hmem p).mp hp) (fun p hp => (hmem p).mp hp) 0
  refine ⟨packages, hmap, hordered.nodup, ?_, ?_, hnames, ?_, hlookups⟩
  · exact (List.perm_ext_iff_of_nodup hordered.nodup dependenciesByName.nodup_keys).mpr hmem
  · rintro package dependency hdepends
    have hkey : package ∈ dependenciesByName.keys :=
      OrderedMap.mem_keys_iff.mpr ⟨hdepends.choose, hdepends.choose_spec.1⟩
    exact (hordered.idxOf_lt ((hmem package).mpr hkey) hdepends).2
  · intro i hi
    have hlen : packages.length = order.length := by rw [← hnames, List.length_map]
    have hindex : packages[i].executionIndex = i := by
      have h := congrArg (fun l => l[i]?) hindices
      simpa [hi, hlen ▸ hi] using h
    have hname : packages[i].packageName = order[i] := by
      have h := congrArg (fun l => l[i]?) hnames
      simpa [hi, hlen ▸ hi] using h
    exact ⟨hindex, by rw [hname]; exact hordered.nodup.idxOf_getElem i (hlen ▸ hi)⟩

/-- Ordering and materializing gives a Build DAG, or reports a package on a cycle. -/
theorem orderAndMaterialize_spec {workspacePackages : List String}
    {rootByName : PackageRootsByName} (hclosed : Closed dependenciesByName)
    (hroots : rootByName.keys = dependenciesByName.keys)
    (hpackages : ∀ package, package ∈ workspacePackages ↔ package ∈ dependenciesByName.keys) :
    (∃ order packages, orderAndMaterialize workspacePackages rootByName dependenciesByName =
        .ok (order, packages) ∧ IsBuildDag rootByName dependenciesByName order packages ∧
      Acyclic (DependsOn dependenciesByName)) ∨
    (∃ package, orderAndMaterialize workspacePackages rootByName dependenciesByName =
        .error (.returned (cycleMessage package)) ∧
      TransGen (DependsOn dependenciesByName) package package) := by
  rcases dependencyFirstPackageOrder_spec hclosed (fun p hp => (hpackages p).mp hp) with
    ⟨order, horder, hordered, hknown, hall⟩ | ⟨package, herror, hcycle⟩
  · -- the search finished: the order itself shows that there is no cycle
    have hmem : ∀ package, package ∈ order ↔ package ∈ dependenciesByName.keys :=
      fun p => ⟨hknown p, fun hp => hall p ((hpackages p).mpr hp)⟩
    obtain ⟨packages, hmaterialize, hdag⟩ := isBuildDag_of_dependencyFirst hroots hordered hmem
    refine Or.inl ⟨order, packages, ?_, hdag, ?_⟩
    · rw [orderAndMaterialize, horder]
      simp only [bind, Except.bind, hmaterialize]
      rfl
    · exact hordered.acyclic fun a b hab => hall a ((hpackages a).mpr
        (OrderedMap.mem_keys_iff.mpr ⟨hab.choose, hab.choose_spec.1⟩))
  · refine Or.inr ⟨package, ?_, hcycle⟩
    rw [orderAndMaterialize, herror]
    rfl

/-- **The Build DAG is correct.**  For every map in which each dependency is
itself a package, and whatever order the packages are iterated in, ordering and
materializing succeeds exactly when the dependency graph has no cycle.  When it
succeeds, the result is a Build DAG; when it does not, the code has returned an
error naming a package on a cycle, so no lookup has failed on the way. -/
theorem buildDag_ok_iff_acyclic (workspacePackages : List String)
    (rootByName : PackageRootsByName) (dependenciesByName : DependenciesByName)
    (hclosed : Closed dependenciesByName)
    (hroots : rootByName.keys = dependenciesByName.keys)
    (hpackages : ∀ package, package ∈ workspacePackages ↔ package ∈ dependenciesByName.keys) :
    ((∃ dag, orderAndMaterialize workspacePackages rootByName dependenciesByName = .ok dag) ↔
      Acyclic (DependsOn dependenciesByName)) ∧
    (∀ order packages,
      orderAndMaterialize workspacePackages rootByName dependenciesByName =
          .ok (order, packages) →
        IsBuildDag rootByName dependenciesByName order packages) ∧
    (∀ fault,
      orderAndMaterialize workspacePackages rootByName dependenciesByName = .error fault →
        ∃ package, fault = .returned (cycleMessage package) ∧
          TransGen (DependsOn dependenciesByName) package package) := by
  rcases orderAndMaterialize_spec hclosed hroots hpackages with
    ⟨order, packages, hrun, hdag, hacyclic⟩ | ⟨package, hrun, hcycle⟩
  · refine ⟨⟨fun _ => hacyclic, fun _ => ⟨_, hrun⟩⟩, ?_, ?_⟩
    · intro order' packages' heq
      rw [hrun] at heq
      obtain ⟨rfl, rfl⟩ := Prod.mk.inj (Except.ok.inj heq)
      exact hdag
    · intro fault hfault
      rw [hrun] at hfault
      simp at hfault
  · refine ⟨⟨?_, ?_⟩, ?_, ?_⟩
    · rintro ⟨dag, hdag⟩
      rw [hrun] at hdag
      simp at hdag
    · intro hacyclic
      exact absurd hcycle (hacyclic package)
    · intro order packages heq
      rw [hrun] at heq
      simp at heq
    · intro fault hfault
      rw [hrun] at hfault
      exact ⟨package, (Except.error.inj hfault).symm, hcycle⟩

/-- A diamond: `app` needs `left` and `right`, and both need `core`. -/
def diamond : DependenciesByName where
  entries := [("app", ["left", "right"]), ("core", []), ("left", ["core"]), ("right", ["core"])]
  increasing := by decide

/-- Roots for the packages of the diamond. -/
def diamondRoots : PackageRootsByName where
  entries := [("app", [.normal "app"]), ("core", [.normal "core"]),
    ("left", [.normal "left"]), ("right", [.normal "right"])]
  increasing := by decide

/-- The shared dependency of a diamond is met twice and is no cycle. -/
theorem buildDag_diamond :
    dependencyFirstPackageOrder diamond.keys diamond = .ok ["core", "left", "right", "app"] ∧
      Acyclic (DependsOn diamond) := by
  refine ⟨by decide +kernel, ?_⟩
  refine (buildDag_ok_iff_acyclic diamond.keys diamondRoots diamond
    (closed_iff.mpr (by decide)) rfl (fun _ => Iff.rfl)).1.mp ?_
  refine ⟨(["core", "left", "right", "app"], [
    ⟨"core", [.normal "core"], [], 0⟩, ⟨"left", [.normal "left"], ["core"], 1⟩,
    ⟨"right", [.normal "right"], ["core"], 2⟩,
    ⟨"app", [.normal "app"], ["left", "right"], 3⟩]), by decide +kernel⟩

end AspRust.Workspace
