import AspRust.Parser.ReasoningTree

/-!
# Imports and dependencies of a package

Two results about the pass over the use statements of a package.

The imports of a use statement are the leaves of its tree, and the summary of a module counts
each of them once: in the total, and under the kind of its root (`useTree_flattening`).

The dependencies of the package are collected twice under the same keys, in each module and
over all modules.  Since the namespaces of a dependency are read off its paths, key and line
determine it, and what is kept depends only on which dependencies occur
(`ownerDependencies_merge`).
-/

namespace AspRust.Parser

open AspRust.Discovery AspRust.Foundation

/-! ## Counts

Each import is counted in the total and under one kind of root, whatever else is
recorded of it, so the total is the sum over the kinds. -/

/-- The imports counted under the kind of their root. -/
def RustReasoningImportFacts.rootImports (summary : RustReasoningImportFacts) : ℕ :=
  summary.crateImports + summary.selfImports + summary.parentImports +
    summary.externalImports + summary.absoluteImports + summary.unknownImports

section Counts

variable (moduleFacts : RustReasoningModuleFacts) (known : OrderedMap (List String) Path)
variable (useStatement : RustUseStatementSyntax)

theorem recordImportRoot_counts (summary : RustReasoningImportFacts)
    (rootKind : RustUseImportRootKind) :
    (recordImportRoot summary rootKind).rootImports = summary.rootImports + 1 ∧
      (recordImportRoot summary rootKind).totalImports = summary.totalImports := by
  refine ⟨?_, by cases rootKind <;> rfl⟩
  unfold RustReasoningImportFacts.rootImports
  cases rootKind <;> (simp only [recordImportRoot]; omega)

/-- An import enters one of the counts of roots, and not the total. -/
theorem recordImportFact_counts (accumulators : RustReasoningImportAccumulators)
    (imported : RustUseImportSyntax) :
    (recordImportFact moduleFacts known useStatement accumulators imported).summary.rootImports =
        accumulators.summary.rootImports + 1 ∧
      (recordImportFact moduleFacts known useStatement accumulators imported).summary.totalImports =
        accumulators.summary.totalImports := by
  have hroot := recordImportRoot_counts accumulators.summary imported.rootKind
  unfold recordImportFact
  cases importDependency moduleFacts known useStatement imported with
  | none => exact hroot
  | some dependency => exact hroot

theorem foldl_recordImportFact_counts (imports : List RustUseImportSyntax)
    (accumulators : RustReasoningImportAccumulators) :
    let recorded := imports.foldl (recordImportFact moduleFacts known useStatement) accumulators
    recorded.summary.rootImports = accumulators.summary.rootImports + imports.length ∧
      recorded.summary.totalImports = accumulators.summary.totalImports := by
  induction imports generalizing accumulators with
  | nil => exact ⟨rfl, rfl⟩
  | cons imported rest ih =>
      obtain ⟨hroot, htotal⟩ :=
        recordImportFact_counts moduleFacts known useStatement accumulators imported
      obtain ⟨hrootRest, htotalRest⟩ :=
        ih (recordImportFact moduleFacts known useStatement accumulators imported)
      refine ⟨?_, htotalRest.trans htotal⟩
      rw [List.foldl_cons, hrootRest, hroot, List.length_cons]
      omega

/-- A statement enters both counts with all its imports. -/
theorem recordUseStatementImports_counts (accumulators : RustReasoningImportAccumulators) :
    let recorded := recordUseStatementImports moduleFacts known accumulators useStatement
    recorded.summary.rootImports =
        accumulators.summary.rootImports + useStatement.imports.length ∧
      recorded.summary.totalImports =
        accumulators.summary.totalImports + useStatement.imports.length :=
  foldl_recordImportFact_counts moduleFacts known useStatement useStatement.imports
    { accumulators with summary := countStatement accumulators.summary useStatement }

theorem foldl_recordUseStatementImports_counts (useStatements : List RustUseStatementSyntax)
    (accumulators : RustReasoningImportAccumulators) :
    let recorded := useStatements.foldl (recordUseStatementImports moduleFacts known) accumulators
    recorded.summary.rootImports = accumulators.summary.rootImports +
        (useStatements.flatMap RustUseStatementSyntax.imports).length ∧
      recorded.summary.totalImports = accumulators.summary.totalImports +
        (useStatements.flatMap RustUseStatementSyntax.imports).length := by
  induction useStatements generalizing accumulators with
  | nil => exact ⟨rfl, rfl⟩
  | cons first rest ih =>
      obtain ⟨hroot, htotal⟩ :=
        recordUseStatementImports_counts moduleFacts known first accumulators
      obtain ⟨hrootRest, htotalRest⟩ :=
        ih (recordUseStatementImports moduleFacts known accumulators first)
      rw [List.flatMap_cons, List.length_append]
      refine ⟨?_, ?_⟩
      · rw [List.foldl_cons, hrootRest, hroot, Nat.add_assoc]
      · rw [List.foldl_cons, htotalRest, htotal, Nat.add_assoc]

theorem importSummary_counts (useStatements : List RustUseStatementSyntax) :
    (importSummary moduleFacts known useStatements).rootImports =
        (useStatements.flatMap RustUseStatementSyntax.imports).length ∧
      (importSummary moduleFacts known useStatements).totalImports =
        (useStatements.flatMap RustUseStatementSyntax.imports).length := by
  obtain ⟨hroot, htotal⟩ :=
    foldl_recordUseStatementImports_counts moduleFacts known useStatements ⟨{}, ∅, ∅⟩
  exact ⟨hroot.trans (Nat.zero_add _), htotal.trans (Nat.zero_add _)⟩

end Counts

/-- **Flattening a use tree.**  A walk through a tree puts the stack back, and appends one import
for each leaf of the tree, in the order of the text, with all segments from the root.
So the imports of a statement are the leaves of its tree; a module counts each of them once in
the total, which is the sum of the counts of roots. -/
theorem useTree_flattening :
    (∀ (isAbsolute : Bool) (walk : UseTreeWalk) (tree : UseTree),
      (collectUseTreeImportsInto isAbsolute tree walk).leading = walk.leading ∧
        ∃ positions imports,
          (collectUseTreeImportsInto isAbsolute tree walk).imports = walk.imports ++ imports ∧
          TreePosition.Lists UseTree.children UseTree.IsLeaf tree positions ∧
          List.Forall₂ (UseTree.ImportAt isAbsolute walk.leading tree) positions imports) ∧
    (∀ (itemUse : ItemUse) (context : RustUseStatementContext),
      ∃ positions, TreePosition.Lists UseTree.children UseTree.IsLeaf itemUse.tree positions ∧
        List.Forall₂ (UseTree.ImportAt itemUse.leadingColon [] itemUse.tree) positions
          (rustUseStatementSyntax itemUse context).imports) ∧
    ∀ (moduleFacts : RustReasoningModuleFacts) (known : OrderedMap (List String) Path)
      (useStatements : List RustUseStatementSyntax),
      let summary := importSummary moduleFacts known useStatements
      summary.totalImports = (useStatements.flatMap RustUseStatementSyntax.imports).length ∧
        summary.totalImports = summary.crateImports + summary.selfImports +
          summary.parentImports + summary.externalImports + summary.absoluteImports +
          summary.unknownImports := by
  refine ⟨?_, ?_, ?_⟩
  · intro isAbsolute walk tree
    rw [collectUseTreeImportsInto_eq]
    obtain ⟨positions, hlists, himports⟩ := exists_leafPositions isAbsolute walk.leading tree
    exact ⟨rfl, positions, _, rfl, hlists, himports⟩
  · intro itemUse context
    have himports : (rustUseStatementSyntax itemUse context).imports =
        collectUseTreeImports itemUse.leadingColon [] itemUse.tree := useItemImports_eq itemUse
    rw [himports]
    exact exists_leafPositions itemUse.leadingColon [] itemUse.tree
  · intro moduleFacts known useStatements
    obtain ⟨hroot, htotal⟩ := importSummary_counts moduleFacts known useStatements
    exact ⟨htotal, htotal.trans hroot.symm⟩

/-! ## Dependencies

A dependency that occurs is determined by its key and its line, because its namespaces
are those of the paths in the key.  Keeping the least line of each key then gives a list
that depends on the occurrences only, and modules or statements in another order have
the same. -/

theorem mergeOwnerDependency_eq : mergeOwnerDependency =
    OrderedMap.collectLeast RustReasoningOwnerDependencyFacts.key
      RustReasoningOwnerDependencyFacts.line := by
  funext dependencies dependency
  unfold mergeOwnerDependency OrderedMap.collectLeast
  cases dependencies.get? dependency.key with
  | none => rfl
  | some existing => rfl

/-- Every dependency of an import of some use statements. -/
def ownerDependencyOccurrences (moduleFacts : RustReasoningModuleFacts)
    (known : OrderedMap (List String) Path) (useStatements : List RustUseStatementSyntax) :
    List RustReasoningOwnerDependencyFacts :=
  useStatements.flatMap fun useStatement =>
    useStatement.imports.filterMap (importDependency moduleFacts known useStatement)

section Collected

variable (moduleFacts : RustReasoningModuleFacts) (known : OrderedMap (List String) Path)

theorem foldl_recordImportFact_dependencies (useStatement : RustUseStatementSyntax)
    (imports : List RustUseImportSyntax) (accumulators : RustReasoningImportAccumulators) :
    (imports.foldl (recordImportFact moduleFacts known useStatement)
        accumulators).localOwnerDependencies =
      (imports.filterMap (importDependency moduleFacts known useStatement)).foldl
        mergeOwnerDependency accumulators.localOwnerDependencies := by
  induction imports generalizing accumulators with
  | nil => rfl
  | cons imported rest ih =>
      rw [List.foldl_cons, ih, List.filterMap_cons, recordImportFact]
      cases importDependency moduleFacts known useStatement imported with
      | none => rfl
      | some dependency => rfl

theorem foldl_recordUseStatementImports_dependencies
    (useStatements : List RustUseStatementSyntax)
    (accumulators : RustReasoningImportAccumulators) :
    (useStatements.foldl (recordUseStatementImports moduleFacts known)
        accumulators).localOwnerDependencies =
      (ownerDependencyOccurrences moduleFacts known useStatements).foldl
        mergeOwnerDependency accumulators.localOwnerDependencies := by
  induction useStatements generalizing accumulators with
  | nil => rfl
  | cons first rest ih =>
      have hsplit : ownerDependencyOccurrences moduleFacts known (first :: rest) =
          first.imports.filterMap (importDependency moduleFacts known first) ++
            ownerDependencyOccurrences moduleFacts known rest := List.flatMap_cons
      rw [List.foldl_cons, ih, hsplit, List.foldl_append]
      congr 1
      exact foldl_recordImportFact_dependencies moduleFacts known first first.imports _

/-- A module keeps, of the dependencies that occur in it, the first of each key. -/
theorem importSummary_dependencies (useStatements : List RustUseStatementSyntax) :
    (importSummary moduleFacts known useStatements).localOwnerDependencies =
      (OrderedMap.keepLeast RustReasoningOwnerDependencyFacts.key
        RustReasoningOwnerDependencyFacts.line
        (ownerDependencyOccurrences moduleFacts known useStatements)).values := by
  have hfold := foldl_recordUseStatementImports_dependencies moduleFacts known useStatements
    ⟨{}, ∅, ∅⟩
  rw [mergeOwnerDependency_eq] at hfold
  exact congrArg OrderedMap.values hfold

end Collected

/-- The namespaces of a dependency are those of its paths. -/
structure WellNamed (scope : AspRustScope) (dependency : RustReasoningOwnerDependencyFacts) :
    Prop where
  source : dependency.sourceNamespace =
    (rustSourcePathFacts scope dependency.sourcePath).namespaceComponents
  target : dependency.targetNamespace =
    (rustSourcePathFacts scope dependency.targetPath).namespaceComponents

/-- A dependency is determined by its key and its line. -/
theorem WellNamed.ext {scope : AspRustScope} {first second : RustReasoningOwnerDependencyFacts}
    (hfirst : WellNamed scope first) (hsecond : WellNamed scope second)
    (hkey : first.key = second.key) (hline : first.line = second.line) : first = second := by
  obtain ⟨hsource, htarget⟩ := hfirst
  obtain ⟨hsource', htarget'⟩ := hsecond
  obtain ⟨source, sourceNamespace, target, targetNamespace, root, line, test⟩ := first
  obtain ⟨source', sourceNamespace', target', targetNamespace', root', line', test'⟩ := second
  obtain ⟨rfl, rfl, rfl, rfl⟩ := RustReasoningOwnerDependencyKey.mk.inj hkey
  simp only at hsource htarget hsource' htarget' hline
  rw [hsource, htarget, hsource', htarget', hline]

theorem localOwnerDependency_eq_some {currentPath : Path}
    {sourceNamespace importNamespace : List String} {imported : RustUseImportSyntax} {line : ℕ}
    {isTestContext : Bool} {known : OrderedMap (List String) Path}
    {dependency : RustReasoningOwnerDependencyFacts}
    (h : localOwnerDependency currentPath sourceNamespace importNamespace imported line
      isTestContext known = some dependency) :
    dependency.sourcePath = currentPath ∧ dependency.sourceNamespace = sourceNamespace ∧
      known.get? dependency.targetNamespace = some dependency.targetPath := by
  unfold localOwnerDependency at h
  obtain ⟨candidate, -, h⟩ := Option.bind_eq_some_iff.mp h
  obtain ⟨targetNamespace, -, h⟩ := Option.bind_eq_some_iff.mp h
  split at h
  · cases h
  · obtain ⟨targetPath, htarget, h⟩ := Option.bind_eq_some_iff.mp h
    obtain rfl := Option.some.inj h
    exact ⟨rfl, rfl, htarget⟩

section Merge

variable (scope : AspRustScope) (sourceFiles : OrderedSet Path)

/-- The namespaces of known modules are those of their paths. -/
theorem get?_knownModuleNamespacePaths {base : List ParsedRustModuleSyntax}
    {components : List String} {path : Path}
    (h : (knownModuleNamespacePaths (base.map (preliminaryModule scope sourceFiles))).get?
      components = some path) :
    components = (rustSourcePathFacts scope path).namespaceComponents := by
  obtain hempty | ⟨moduleFacts, hmem, rfl, rfl⟩ := OrderedMap.exists_of_get?_insertAll _ _ h
  · cases hempty
  · obtain ⟨module, -, rfl⟩ := List.mem_map.mp (List.mem_of_mem_filter hmem)
    rfl

/-- Every dependency that occurs in a module of a package. -/
def moduleOccurrences (known : OrderedMap (List String) Path) (module : ParsedRustModuleSyntax) :
    List RustReasoningOwnerDependencyFacts :=
  ownerDependencyOccurrences (preliminaryModule scope sourceFiles module) known
    module.useStatements

theorem wellNamed_of_mem_moduleOccurrences {base : List ParsedRustModuleSyntax}
    {module : ParsedRustModuleSyntax} {dependency : RustReasoningOwnerDependencyFacts}
    (h : dependency ∈ moduleOccurrences scope sourceFiles
      (knownModuleNamespacePaths (base.map (preliminaryModule scope sourceFiles))) module) :
    WellNamed scope dependency := by
  obtain ⟨useStatement, -, hmem⟩ := List.mem_flatMap.mp h
  obtain ⟨imported, -, himported⟩ := List.mem_filterMap.mp hmem
  obtain ⟨hpath, hnamespace, htarget⟩ := localOwnerDependency_eq_some himported
  refine ⟨?_, get?_knownModuleNamespacePaths scope sourceFiles htarget⟩
  rw [hnamespace, hpath]
  rfl

/-- The dependencies of a package when the paths of namespaces are given. -/
def ownerDependenciesWith (known : OrderedMap (List String) Path)
    (modules : List ParsedRustModuleSyntax) : List RustReasoningOwnerDependencyFacts :=
  ownerDependencyFacts (modules.map (reasoningModule scope sourceFiles known))

/-- Other modules with the same use statements, both in any order. -/
def Reordered (modules others : List ParsedRustModuleSyntax) : Prop :=
  ∃ moved, modules.Perm moved ∧ List.Forall₂ (fun module other =>
    other.path = module.path ∧ module.useStatements.Perm other.useStatements) moved others

theorem mem_moduleOccurrences_of_perm {known : OrderedMap (List String) Path}
    {module other : ParsedRustModuleSyntax} (hpath : other.path = module.path)
    (hperm : module.useStatements.Perm other.useStatements)
    (dependency : RustReasoningOwnerDependencyFacts) :
    dependency ∈ moduleOccurrences scope sourceFiles known module ↔
      dependency ∈ moduleOccurrences scope sourceFiles known other := by
  have himport : importDependency (preliminaryModule scope sourceFiles module) known =
      importDependency (preliminaryModule scope sourceFiles other) known := by
    funext useStatement imported
    simp only [importDependency, preliminaryModule, hpath]
  unfold moduleOccurrences ownerDependencyOccurrences
  rw [himport]
  exact (hperm.flatMap_right _).mem_iff

variable {scope sourceFiles} in
theorem Reordered.mem_occurrences {known : OrderedMap (List String) Path}
    {modules others : List ParsedRustModuleSyntax} (h : Reordered modules others)
    (dependency : RustReasoningOwnerDependencyFacts) :
    dependency ∈ modules.flatMap (moduleOccurrences scope sourceFiles known) ↔
      dependency ∈ others.flatMap (moduleOccurrences scope sourceFiles known) := by
  obtain ⟨moved, hperm, hsame⟩ := h
  rw [(hperm.flatMap_right _).mem_iff]
  clear hperm
  induction hsame with
  | nil => rfl
  | cons hfirst hrest ih =>
      rw [List.flatMap_cons, List.flatMap_cons, List.mem_append, List.mem_append, ih,
        mem_moduleOccurrences_of_perm scope sourceFiles hfirst.1 hfirst.2]

/-- What the package keeps is, of the dependencies that occur in it, the first of each
key. -/
theorem ownerDependenciesWith_eq (base modules : List ParsedRustModuleSyntax) :
    let known := knownModuleNamespacePaths (base.map (preliminaryModule scope sourceFiles))
    let occurrences := modules.flatMap (moduleOccurrences scope sourceFiles known)
    OrderedMap.Determined RustReasoningOwnerDependencyFacts.key
        RustReasoningOwnerDependencyFacts.line occurrences ∧
      ownerDependenciesWith scope sourceFiles known modules =
        (OrderedMap.keepLeast RustReasoningOwnerDependencyFacts.key
          RustReasoningOwnerDependencyFacts.line occurrences).values.insertionSort
            dependencyLe := by
  intro known occurrences
  have hdetermined : OrderedMap.Determined RustReasoningOwnerDependencyFacts.key
      RustReasoningOwnerDependencyFacts.line occurrences := by
    intro first hfirst second hsecond
    obtain ⟨module, -, hfirst⟩ := List.mem_flatMap.mp hfirst
    obtain ⟨other, -, hsecond⟩ := List.mem_flatMap.mp hsecond
    exact (wellNamed_of_mem_moduleOccurrences scope sourceFiles hfirst).ext
      (wellNamed_of_mem_moduleOccurrences scope sourceFiles hsecond)
  refine ⟨hdetermined, ?_⟩
  have hmodules : (modules.map (reasoningModule scope sourceFiles known)).flatMap
      (fun module => module.importSummary.localOwnerDependencies) =
        modules.flatMap fun module => (OrderedMap.keepLeast RustReasoningOwnerDependencyFacts.key
          RustReasoningOwnerDependencyFacts.line
          (moduleOccurrences scope sourceFiles known module)).values := by
    rw [List.flatMap_map]
    refine List.flatMap_congr fun module _ => ?_
    exact importSummary_dependencies _ known module.useStatements
  rw [ownerDependenciesWith, ownerDependencyFacts, hmodules, mergeOwnerDependency_eq]
  congr 2
  exact OrderedMap.keepLeast_flatMap_values hdetermined

/-- **Merging the dependencies of owners.**  For the paths of the namespaces of any modules
there is exactly one dependency for each source, target, import root and test context that
occurs, and it is on the smallest line among its occurrences.  Neither the order of the
modules nor that of their use statements changes the list. -/
theorem ownerDependencies_merge (base modules : List ParsedRustModuleSyntax) :
    let known := knownModuleNamespacePaths (base.map (preliminaryModule scope sourceFiles))
    let occurrences := modules.flatMap (moduleOccurrences scope sourceFiles known)
    let dependencies := ownerDependenciesWith scope sourceFiles known modules
    (dependencies.map RustReasoningOwnerDependencyFacts.key).Nodup ∧
      (∀ key, key ∈ dependencies.map RustReasoningOwnerDependencyFacts.key ↔
        ∃ occurrence ∈ occurrences, occurrence.key = key) ∧
      (∀ dependency ∈ dependencies, dependency ∈ occurrences ∧
        ∀ occurrence ∈ occurrences, occurrence.key = dependency.key →
          dependency.line ≤ occurrence.line) ∧
      ∀ others, Reordered modules others →
        ownerDependenciesWith scope sourceFiles known others = dependencies := by
  intro known occurrences dependencies
  obtain ⟨hdetermined, hdependencies⟩ := ownerDependenciesWith_eq scope sourceFiles base modules
  change dependencies = _ at hdependencies
  have hperm : dependencies.Perm (OrderedMap.keepLeast RustReasoningOwnerDependencyFacts.key
      RustReasoningOwnerDependencyFacts.line occurrences).values := by
    rw [hdependencies]
    exact List.perm_insertionSort dependencyLe _
  have hkeys := hperm.map RustReasoningOwnerDependencyFacts.key
  rw [OrderedMap.map_values_keepLeast] at hkeys
  refine ⟨?_, fun key => ?_, fun dependency hmem => ?_, fun others hothers => ?_⟩
  · exact hkeys.nodup_iff.mpr (OrderedMap.nodup_keys _)
  · rw [hkeys.mem_iff]
    exact OrderedMap.mem_keys_keepLeast
  · obtain ⟨key, hkey⟩ := OrderedMap.mem_values_iff.mp (hperm.mem_iff.mp hmem)
    obtain ⟨hoccurs, rfl, hleast⟩ := OrderedMap.least_of_get?_keepLeast hkey
    exact ⟨hoccurs, hleast⟩
  · obtain ⟨-, hother⟩ := ownerDependenciesWith_eq scope sourceFiles base others
    rw [hother, hdependencies, OrderedMap.keepLeast_congr hdetermined hothers.mem_occurrences]

end Merge

end AspRust.Parser
