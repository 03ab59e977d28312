import AspRust.Resolution.ProjectResolution

/-!
# Every root and every dependency is accounted for

The loop of a resolution ends and admits the least set of roots that holds the admitted
seeds and is closed under admitted path dependencies (`exists_packageRoots`).  The
passes after it lose nothing: the admitted roots are split into packages and unresolved
entries, and the declared dependencies of the packages into internal edges and external
dependencies.  Both passes sort what they collect, so the results are compared up to a
permutation.

### What is load-bearing

Admission depends on the candidates and the exclude entries only, never on what was admitted
before, so the least closed set does not depend on the order in which the loop takes its
roots.  That order is visible in nothing: the graph is sorted at the end.

A dependency is accounted for by what is written in a manifest (`Declaration`), before it is
decided whether it becomes an edge.  So a declaration that is dropped would be missing from
both lists, and one that is counted twice would stand in one of them twice.
-/

namespace AspRust.Resolution

open AspRust.Foundation AspRust.Discovery

section Roots

variable {host : CargoHost} {workspace : Location} {input : ProjectResolutionInput}

/-- A root is admitted at its normalized place, where a candidate manifest stands and no
exclude entry matches. -/
theorem admitRoot_eq_some_iff {root place : Location} :
    admitRoot host workspace input root = some place ↔
      ∃ rest, root = workspace.append rest ∧
        place = workspace.append (normalizeRelativePath rest) ∧
        manifestOf (normalizeRelativePath rest) ∈ (candidatePaths input).keys ∧
        matchesText (rootFacts host workspace input).1.workspaceExcludes
          (normalizeRelativePath rest) = false := by
  rw [admitRoot, Option.map_eq_some_iff]
  constructor
  · rintro ⟨relative, hrelative, rfl⟩
    obtain ⟨rest, hroot, rfl, hcandidate, hexcluded⟩ :=
      admittedWorkspacePackageRoot_eq_some_iff.mp hrelative
    exact ⟨rest, hroot, rfl, hcandidate, hexcluded⟩
  · rintro ⟨rest, hroot, rfl, hcandidate, hexcluded⟩
    exact ⟨normalizeRelativePath rest, admittedWorkspacePackageRoot_eq_some_iff.mpr
      ⟨rest, hroot, rfl, hcandidate, hexcluded⟩, rfl⟩

/-- Only places with a candidate manifest are admitted. -/
theorem mem_manifestRoots_of_admitRoot {root place : Location}
    (h : admitRoot host workspace input root = some place) :
    place ∈ manifestRoots workspace input := by
  obtain ⟨rest, -, rfl, hcandidate, -⟩ := admitRoot_eq_some_iff.mp h
  refine List.mem_filterMap.mpr ⟨_, hcandidate, ?_⟩
  simp [manifestOf]

/-- Candidates are normalized. -/
theorem normalized_of_mem_candidatePaths {path : Path}
    (h : path ∈ (candidatePaths input).keys) : Normalized path := by
  rw [candidatePaths, OrderedSet.mem_ofList] at h
  obtain ⟨text, -, rfl⟩ := List.mem_map.mp h
  exact normalized_normalizeRelativePath _

/-- A workspace member is admitted where it stands. -/
theorem admitRoot_of_mem_memberRoots {root : Location}
    (h : root ∈ workspaceMemberRoots host workspace input) :
    admitRoot host workspace input root = some root := by
  obtain ⟨relative, hrelative, rfl⟩ := List.mem_map.mp h
  obtain ⟨_, -, rfl, hcandidate, -, hexcluded⟩ := mem_memberRootsFromCandidates.mp hrelative
  have hnormal := normalized_of_manifestOf (normalized_of_mem_candidatePaths hcandidate)
  exact admitRoot_eq_some_iff.mpr ⟨_, rfl, by rw [hnormal], by rwa [hnormal], by rwa [hnormal]⟩

theorem length_ofList_le {K : Type} [LinearOrder K] (elements : List K) :
    (OrderedSet.ofList elements).keys.length ≤ elements.length := by
  have hlength := OrderedSet.length_foldl_add_le elements ∅
  simpa [OrderedSet.ofList] using hlength

variable (host workspace input)

/-- **The loop ends with the least set of roots.** -/
theorem exists_packageRoots :
    ∃ roots, packageRoots host workspace input = .ok roots ∧
      ∀ root, root ∈ roots.keys ↔
        AdmissionWorklist.Admitted (admitRoot host workspace input)
          (dependencyRoots host workspace input) (seedRoots host workspace input) root := by
  have hfuel : (OrderedSet.ofList (seedRoots host workspace input)).keys.length +
      ((manifestRoots workspace input).map fun root =>
        (dependencyRoots host workspace input root).length).sum <
      loopBound host workspace input := by
    have hseeds := length_ofList_le (seedRoots host workspace input)
    unfold loopBound
    omega
  obtain ⟨roots, hroots, hadmitted⟩ := AdmissionWorklist.exists_drain_seeds_eq_ok
    (fun key element haccept => mem_manifestRoots_of_admitRoot haccept) hfuel
  refine ⟨roots, hroots, fun root => (hadmitted root).trans ?_⟩
  -- the seeds are the same, listed in another order
  have hseeds : ∀ key, key ∈ (OrderedSet.ofList (seedRoots host workspace input)).keys ↔
      key ∈ seedRoots host workspace input := fun key => OrderedSet.mem_ofList
  constructor
  · intro h
    refine h.mem_of_closedUnder ⟨?_, AdmissionWorklist.closedUnder_admitted.offers_mem⟩
    intro key hkey element haccept
    exact .seed ((hseeds key).mp hkey) haccept
  · intro h
    refine h.mem_of_closedUnder ⟨?_, AdmissionWorklist.closedUnder_admitted.offers_mem⟩
    intro key hkey element haccept
    exact .seed ((hseeds key).mpr hkey) haccept

end Roots

/-! ## Packages and unresolved entries

Each admitted root has a manifest among the candidates, and it is read as a package or
listed as unresolved.  Each declaration of a package is classified once.  What is lost
on the way is the order, since the results are sorted. -/

/-- A list of two kinds of things is its things of the one kind and of the other. -/
theorem perm_getLeft?_getRight? {α β : Type} (list : List (α ⊕ β)) :
    ((list.filterMap Sum.getLeft?).map Sum.inl ++ (list.filterMap Sum.getRight?).map Sum.inr).Perm
      list := by
  induction list with
  | nil => exact List.Perm.nil
  | cons head rest ih =>
      cases head with
      | inl a =>
          show (Sum.inl a :: ((rest.filterMap Sum.getLeft?).map Sum.inl ++
            (rest.filterMap Sum.getRight?).map Sum.inr)).Perm (Sum.inl a :: rest)
          exact ih.cons _
      | inr b =>
          show ((rest.filterMap Sum.getLeft?).map Sum.inl ++
            Sum.inr b :: (rest.filterMap Sum.getRight?).map Sum.inr).Perm (Sum.inr b :: rest)
          exact List.perm_middle.trans (ih.cons _)

section Accounting

variable (host : CargoHost) (workspace : Location) (input : ProjectResolutionInput)
  (roots : List Location)

/-- The manifest of an admitted root. -/
def rootManifest (root : Location) : Path := manifestOf (relativeTo workspace root).components

/-- What a root becomes stands at its manifest. -/
theorem resolveRoot_manifest (root : Location) :
    Sum.elim UnresolvedProjectReference.path (fun package => package.1.manifestPath)
      (resolveRoot host workspace input root) = rootManifest workspace root := by
  unfold resolveRoot
  cases (packageFacts host workspace input root).1.packageName <;> rfl

/-- Each root is the manifest of one package or of one unresolved entry. -/
theorem perm_rootManifests :
    ((sortedPackages host workspace input roots).map LanguagePackage.manifestPath ++
      (unresolvedOf host workspace input roots).map UnresolvedProjectReference.path).Perm
      (roots.map (rootManifest workspace)) := by
  have hsorted : ((sortedPackages host workspace input roots).map
      LanguagePackage.manifestPath).Perm
      ((resolvedPackages host workspace input roots).map fun package =>
        package.1.manifestPath) := by
    have hmap : (resolvedPackages host workspace input roots).map
        (fun package => package.1.manifestPath) =
        ((resolvedPackages host workspace input roots).map Prod.fst).map
          LanguagePackage.manifestPath := by
      rw [List.map_map]
      rfl
    rw [hmap]
    exact (List.perm_insertionSort _ _).map _
  have hsplit := (perm_getLeft?_getRight? (roots.map (resolveRoot host workspace input))).map
    (Sum.elim UnresolvedProjectReference.path fun package => package.1.manifestPath)
  rw [List.map_append, List.map_map, List.map_map, List.map_map, List.filterMap_map,
    List.filterMap_map] at hsplit
  have hroots : roots.map (Sum.elim UnresolvedProjectReference.path
      (fun package => package.1.manifestPath) ∘ resolveRoot host workspace input) =
      roots.map (rootManifest workspace) :=
    List.map_congr_left fun root _ => resolveRoot_manifest host workspace input root
  rw [hroots] at hsplit
  exact (hsorted.append_right _).trans (List.perm_append_comm.trans hsplit)

/-- The dependencies that the packages declare, with the package that declares them. -/
def declaredDependencies : List (LanguagePackage × CargoDependencyFacts) :=
  (resolvedPackages host workspace input roots).flatMap fun package =>
    package.2.map fun dependency => (package.1, dependency)

/-- An edge or an external dependency that stands for a declared dependency. -/
def StandsFor (declared : LanguagePackage × CargoDependencyFacts) :
    InternalDependencyEdge ⊕ ExternalDependency → Prop
  | .inl edge => edge.fromPackageId = declared.1.packageId ∧ edge.kind = declared.2.kind
  | .inr external => external.name = declared.2.packageName ∧
      external.kind = declared.2.kind ∧ external.requested = declared.2.versionReq

theorem classifyDependency_standsFor (package : LanguagePackage)
    (dependency : CargoDependencyFacts) :
    StandsFor (package, dependency)
      (classifyDependency host workspace input roots package.packageId dependency) := by
  unfold classifyDependency
  cases (packageIds host workspace input roots).get? dependency.packageName with
  | some toPackageId => exact ⟨rfl, rfl⟩
  | none => exact ⟨rfl, rfl, rfl⟩

theorem classifiedDependencies_eq :
    classifiedDependencies host workspace input roots =
      (declaredDependencies host workspace input roots).map fun declared =>
        classifyDependency host workspace input roots declared.1.packageId declared.2 := by
  rw [classifiedDependencies, declaredDependencies, List.map_flatMap]
  simp only [List.map_map]
  rfl

/-- Each declared dependency is one edge or one external dependency. -/
theorem exists_perm_declared :
    ∃ outcomes, List.Forall₂ StandsFor (declaredDependencies host workspace input roots) outcomes ∧
      ((internalDependencyEdges host workspace input roots).map Sum.inl ++
        (externalDependencies host workspace input roots).map Sum.inr).Perm outcomes := by
  refine ⟨classifiedDependencies host workspace input roots, ?_, ?_⟩
  · rw [classifiedDependencies_eq, List.forall₂_map_right_iff]
    exact List.forall₂_same.mpr fun declared _ =>
      classifyDependency_standsFor host workspace input roots declared.1 declared.2
  · have hedges := (List.perm_insertionSort (fun left right : InternalDependencyEdge =>
        toLex (left.fromPackageId, toLex (left.toPackageId, dependencyKind left.kind)) ≤
          toLex (right.fromPackageId, toLex (right.toPackageId, dependencyKind right.kind)))
        ((classifiedDependencies host workspace input roots).filterMap Sum.getLeft?)).map
      (Sum.inl : _ → InternalDependencyEdge ⊕ ExternalDependency)
    have hexternal := (List.perm_insertionSort (fun left right : ExternalDependency =>
        left.dependencyId ≤ right.dependencyId)
        ((classifiedDependencies host workspace input roots).filterMap Sum.getRight?)).map
      (Sum.inr : _ → InternalDependencyEdge ⊕ ExternalDependency)
    exact (hedges.append hexternal).trans (perm_getLeft?_getRight? _)

/-- What a graph shows for a list of admitted roots. -/
structure Accounted (graph : LanguagePackageGraph) : Prop where
  /-- The manifests of the packages and of the unresolved entries are those of the roots. -/
  roots_once : (graph.packages.map LanguagePackage.manifestPath ++
    graph.unresolved.map UnresolvedProjectReference.path).Perm
      (roots.map (rootManifest workspace))
  /-- No two roots have one manifest. -/
  manifests_nodup : (roots.map (rootManifest workspace)).Nodup
  /-- The edges and the external dependencies stand, one for one, for the declared
  dependencies of the packages. -/
  dependencies_once :
    ∃ outcomes, List.Forall₂ StandsFor (declaredDependencies host workspace input roots) outcomes ∧
      (graph.internalDependencyEdges.map Sum.inl ++
        graph.externalDependencies.map Sum.inr).Perm outcomes

end Accounting

section Resolution

variable (host : CargoHost) (workspace : Location) (input : ProjectResolutionInput)

/-- Admitted roots stand below the workspace. -/
theorem exists_append_of_admitted {root : Location}
    (h : AdmissionWorklist.Admitted (admitRoot host workspace input)
      (dependencyRoots host workspace input) (seedRoots host workspace input) root) :
    ∃ relative, Normalized relative ∧ root = workspace.append relative := by
  obtain ⟨key, -, haccept⟩ := h.exists_offered
  obtain ⟨rest, -, rfl, -, -⟩ := admitRoot_eq_some_iff.mp haccept
  exact ⟨_, normalized_normalizeRelativePath rest, rfl⟩

@[simp] theorem relativeTo_append (relative : Path) :
    relativeTo workspace (workspace.append relative) = ⟨false, relative⟩ := by
  simp [relativeTo]

/-- The graph of the admitted roots accounts for them and for what their packages declare. -/
theorem accounted_packageGraph {roots : OrderedSet Location}
    (hadmitted : ∀ root ∈ roots.keys, AdmissionWorklist.Admitted (admitRoot host workspace input)
      (dependencyRoots host workspace input) (seedRoots host workspace input) root) :
    Accounted host workspace input roots.keys (packageGraph host workspace input roots.keys) where
  roots_once := perm_rootManifests host workspace input roots.keys
  manifests_nodup := by
    refine roots.nodup_keys.map_on fun first hfirst second hsecond heq => ?_
    obtain ⟨relative, -, rfl⟩ :=
      exists_append_of_admitted host workspace input (hadmitted first hfirst)
    obtain ⟨relative', -, rfl⟩ :=
      exists_append_of_admitted host workspace input (hadmitted second hsecond)
    rw [rootManifest, rootManifest, relativeTo_append, relativeTo_append, manifestOf,
      manifestOf] at heq
    exact Location.append_inj.mpr (List.append_cancel_right heq)
  dependencies_once := exists_perm_declared host workspace input roots.keys

/-- The resolution at the admitted roots. -/
def resolutionOf (roots : OrderedSet Location) : ProjectResolution where
  candidateGenerationDigest := input.candidateGenerationDigest
  packageGraph := packageGraph host workspace input roots.keys
  sourceScopes := (packageGraph host workspace input roots.keys).packages.flatMap fun package =>
    package.targets.map (sourceScope host package)

/-- **The four ways a resolution ends**: there is no manifest among the candidates; there is
none of the workspace; that of the workspace leads to no package; or the loop is run, and ends. -/
theorem resolveCargoProjectResolution_cases :
    ((∀ path ∈ (candidatePaths input).keys, path.fileName? ≠ some "Cargo.toml") ∧
      resolveCargoProjectResolution host workspace input =
        .ok (.error (.notApplicable (manifestOf [])))) ∨
    ((∃ path ∈ (candidatePaths input).keys, path.fileName? = some "Cargo.toml") ∧
      manifestOf [] ∉ (candidatePaths input).keys ∧
      resolveCargoProjectResolution host workspace input =
        .ok (.error (.projectEntryMissing (manifestOf [])))) ∨
    (manifestOf [] ∈ (candidatePaths input).keys ∧ seedRoots host workspace input = [] ∧
      resolveCargoProjectResolution host workspace input =
        .ok (.error (.projectEntryInvalid (workspace.append (manifestOf []))))) ∨
    (manifestOf [] ∈ (candidatePaths input).keys ∧ seedRoots host workspace input ≠ [] ∧
      ∃ roots, packageRoots host workspace input = .ok roots ∧
        resolveCargoProjectResolution host workspace input =
          .ok (.ok (resolutionOf host workspace input roots))) := by
  obtain ⟨roots, hroots, -⟩ := exists_packageRoots host workspace input
  unfold resolveCargoProjectResolution
  by_cases hany : (candidatePaths input).keys.any fun path => path.fileName? = some "Cargo.toml"
  · rw [if_neg (not_not.mpr hany)]
    right
    by_cases hentry : manifestOf [] ∈ (candidatePaths input).keys
    · rw [if_neg (not_not.mpr hentry)]
      right
      by_cases hseeds : seedRoots host workspace input = []
      · rw [if_pos hseeds]
        exact Or.inl ⟨hentry, hseeds, rfl⟩
      · rw [if_neg hseeds, hroots]
        exact Or.inr ⟨hentry, hseeds, roots, rfl, rfl⟩
    · rw [if_pos hentry]
      exact Or.inl ⟨by simpa using hany, hentry, rfl⟩
  · rw [if_pos hany]
    exact Or.inl ⟨by simpa using hany, rfl⟩

end Resolution

end AspRust.Resolution
