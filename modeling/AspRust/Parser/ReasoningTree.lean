import AspRust.Discovery.Config
import AspRust.Foundation.KeepLeast
import AspRust.Parser.ModuleTree
import AspRust.Parser.UseTree
import Mathlib.Data.List.Sort
import Mathlib.Data.Prod.Lex

/-!
# The reasoning tree

The parsed modules of a package are read into facts about the package as a whole: what each
module imports, which modules own a branch, and which module depends on which other one
through an import.

The imports of a module are counted in one pass over its use statements.  The same pass
collects the dependencies of the module, one for each target, import root and test context,
with the first line it is on; the dependencies of all modules are then collected once more
under the same keys.  `ownerDependencies_merge` says what comes out, and that the order of
modules and statements does not matter.

Whether a module belongs to the tests is not modelled: no fact that is modelled here reads
it.

### Design notes

Namespaces are lists of components, and the maps of the tree have them as keys in their order.
An import of a module is recorded with the line of its statement, and the merge keeps the least
line of a key, which is what makes it independent of the order of the modules
(`Foundation.KeepLeast`).
-/

namespace AspRust.Parser

open AspRust.Discovery AspRust.Foundation

/-! ## Source paths

What the path of a file says about the module in it: its namespace, repeated names in
it, and whether it is the entry of a binary. -/

/-- What the path of a module says about it. -/
structure RustSourcePathFacts where
  namespaceComponents : List String
  repeatedNamespaceSegments : OrderedSet String
  isSpecialEntrypoint : Bool
  isCrateFacade : Bool
  isInterfaceMod : Bool
  isBinaryEntrypoint : Bool
  isPackageEntrypoint : Bool

/-- The components of a path below the project root, without the names of crate roots and
directory modules; a path outside the root, or one that leaves nothing, has none. -/
def namespaceComponents (projectRoot path : Path) : Option (List String) := do
  let relative ← Path.stripPrefix? projectRoot path
  let parent ← Path.parent? relative
  let fileStem ← Path.fileStem? relative
  let components := parent.map Path.componentText ++
    if fileStem ∈ ["lib", "main", "mod"] then [] else [fileStem]
  if components = [] then none else some components

def repeatedSegments (components : List String) : OrderedSet String :=
  OrderedSet.ofList (components.filter fun component => 1 < components.count component)

def isBinaryEntrypoint (sourcePaths : List Path) (path : Path) : Bool :=
  sourcePaths.any fun sourceRoot =>
    path = sourceRoot ++ [.normal "main.rs"] ||
      match Path.stripPrefix? sourceRoot path with
      | some [first, _] => first = .normal "bin"
      | some [first, _, file] => first = .normal "bin" && file = .normal "main.rs"
      | _ => false

def rustSourcePathFacts (scope : AspRustScope) (path : Path) : RustSourcePathFacts :=
  let components := (namespaceComponents scope.projectRoot path).getD
    [(Path.fileStem? path).getD "unknown-source"]
  { namespaceComponents := components
    repeatedNamespaceSegments := repeatedSegments components
    isSpecialEntrypoint := isSpecialRustEntrypointPath path
    isCrateFacade := Path.fileName? path = some "lib.rs"
    isInterfaceMod := Path.fileName? path = some "mod.rs"
    isBinaryEntrypoint := isBinaryEntrypoint scope.sourcePaths path
    isPackageEntrypoint := path ∈ scope.packagePaths }

/-! ## Facts

The records that the rules and the planner read.  Counts are kept with them, since the
texts of findings show them. -/

/-- What a reader of a module sees of one of its items. -/
structure RustTopLevelItemVisibility where
  kind : String
  isPublic : Bool
  isPublicUse : Bool
deriving DecidableEq, Repr

/-- A parsed module with its use statements and the visibility of its items. -/
structure ParsedRustModuleSyntax extends ParsedRustModule where
  useStatements : List RustUseStatementSyntax
  itemVisibilities : List RustTopLevelItemVisibility

structure RustReasoningPublicApiFacts where
  publicItems : ℕ
  publicExports : ℕ
  publicFunctions : ℕ
deriving DecidableEq, Repr

structure RustReasoningDeepRelativeImportFacts where
  line : ℕ
  originalSegments : List String
  crateSegments : Option (List String)
  parentHops : ℕ
  visibility : RustUseVisibilityKind
  isReexport : Bool
  isTestContext : Bool
deriving DecidableEq, Repr

structure RustReasoningImportFacts where
  totalImports : ℕ := 0
  crateImports : ℕ := 0
  selfImports : ℕ := 0
  parentImports : ℕ := 0
  externalImports : ℕ := 0
  absoluteImports : ℕ := 0
  unknownImports : ℕ := 0
  globImports : ℕ := 0
  deepRelativeImports : ℕ := 0
  deepRelativeImportFacts : List RustReasoningDeepRelativeImportFacts := []
  preludeImports : ℕ := 0
  testContextImports : ℕ := 0
  productionExternalImports : List (List String) := []
  localOwnerImports : List (List String) := []
  localOwnerDependencies : List RustReasoningOwnerDependencyFacts := []
deriving DecidableEq, Repr

structure RustReasoningModuleFacts where
  path : Path
  sourcePath : RustSourcePathFacts
  importSummary : RustReasoningImportFacts
  publicApiSummary : RustReasoningPublicApiFacts
  isSourceModule : Bool
  isModuleTreeRoot : Bool
  declaredChildEdges : List RustModuleChildEdge

inductive RustReasoningOwnerBranchRole where
  | root
  | facade
  | interface
  | binary
  | packageEntrypoint
  | repeatedNamespace (segments : List String)
  | branch
deriving DecidableEq, Repr

structure RustReasoningOwnerBranchFacts where
  path : Path
  ownerNamespace : List String
  roles : List RustReasoningOwnerBranchRole
  importSummary : RustReasoningImportFacts
  declaredChildEdges : List RustModuleChildEdge

/-! ## Dependencies of owners

A dependency is filed under a key of its source, its target, the root of its import and
the test context.  Keys are compared by their fields in order, and two dependencies of
one key are merged to the one on the smaller line. -/

/-- The place of an import root in the order of import roots. -/
def RustUseImportRootKind.rank : RustUseImportRootKind → ℕ
  | .absolute => 0
  | .crate => 1
  | .selfScope => 2
  | .parent => 3
  | .external => 4
  | .unknown => 5

theorem RustUseImportRootKind.rank_injective : Function.Injective rank := by
  intro first second h
  cases first <;> cases second <;> first | rfl | cases h

/-- What is merged into one dependency. -/
structure RustReasoningOwnerDependencyKey where
  sourcePath : Path
  targetPath : Path
  viaRoot : RustUseImportRootKind
  isTestContext : Bool
deriving DecidableEq, Repr

namespace RustReasoningOwnerDependencyKey

/-- Keys are compared field by field. -/
def fields (key : RustReasoningOwnerDependencyKey) : Path ×ₗ Path ×ₗ ℕ ×ₗ Bool :=
  toLex (key.sourcePath, toLex (key.targetPath, toLex (key.viaRoot.rank, key.isTestContext)))

theorem fields_injective : Function.Injective fields := by
  intro first second h
  obtain ⟨hsource, hrest⟩ := Prod.mk.inj (toLex.injective h)
  obtain ⟨htarget, hrest⟩ := Prod.mk.inj (toLex.injective hrest)
  obtain ⟨hroot, htest⟩ := Prod.mk.inj (toLex.injective hrest)
  obtain ⟨source, target, root, test⟩ := first
  obtain rfl : source = second.sourcePath := hsource
  obtain rfl : target = second.targetPath := htarget
  obtain rfl : root = second.viaRoot := RustUseImportRootKind.rank_injective hroot
  obtain rfl : test = second.isTestContext := htest
  rfl

instance linearOrder : LinearOrder RustReasoningOwnerDependencyKey :=
  LinearOrder.lift' fields fields_injective

end RustReasoningOwnerDependencyKey

def RustReasoningOwnerDependencyFacts.key (dependency : RustReasoningOwnerDependencyFacts) :
    RustReasoningOwnerDependencyKey where
  sourcePath := dependency.sourcePath
  targetPath := dependency.targetPath
  viaRoot := dependency.viaRoot
  isTestContext := dependency.isTestContext

abbrev OwnerDependencies :=
  OrderedMap RustReasoningOwnerDependencyKey RustReasoningOwnerDependencyFacts

/-- Of two dependencies with one key the one on the earlier line stays. -/
def mergeOwnerDependency (dependencies : OwnerDependencies)
    (dependency : RustReasoningOwnerDependencyFacts) : OwnerDependencies :=
  match dependencies.get? dependency.key with
  | some existing =>
      if dependency.line < existing.line then dependencies.insert dependency.key dependency
      else dependencies
  | none => dependencies.insert dependency.key dependency

/-! ## Imports of a module

One pass over the use statements of a module, with accumulators for everything that is
counted or collected. -/

structure RustReasoningImportAccumulators where
  summary : RustReasoningImportFacts
  localOwnerImports : OrderedSet (List String)
  localOwnerDependencies : OwnerDependencies

def useStatementNamespace (moduleNamespace enclosingModules : List String) : List String :=
  moduleNamespace ++ enclosingModules

def recordImportRoot (summary : RustReasoningImportFacts) :
    RustUseImportRootKind → RustReasoningImportFacts
  | .absolute => { summary with absoluteImports := summary.absoluteImports + 1 }
  | .crate => { summary with crateImports := summary.crateImports + 1 }
  | .selfScope => { summary with selfImports := summary.selfImports + 1 }
  | .parent => { summary with parentImports := summary.parentImports + 1 }
  | .external => { summary with externalImports := summary.externalImports + 1 }
  | .unknown => { summary with unknownImports := summary.unknownImports + 1 }

def recordImportShape (summary : RustReasoningImportFacts) (imported : RustUseImportSyntax) :
    RustReasoningImportFacts :=
  { summary with
    globImports := summary.globImports + if imported.isGlob then 1 else 0
    preludeImports := summary.preludeImports + if imported.isPreludeImport then 1 else 0 }

def deepRelativeImportFact (currentNamespace : List String)
    (imported : RustUseDeepRelativeImportSyntax) (isTestContext : Bool) :
    RustReasoningDeepRelativeImportFacts where
  line := imported.line
  originalSegments := imported.prefixSegments
  crateSegments :=
    crateRelativeParentSegments currentNamespace imported.prefixSegments imported.parentHops
  parentHops := imported.parentHops
  visibility := imported.visibility
  isReexport := imported.isReexport
  isTestContext := isTestContext

/-- A deep relative import of a declaration has two leading `super` or more, and the tree
records the path that is suggested for it. -/
theorem crateSegments_deepRelativeImportFact {itemUse : ItemUse}
    {context : RustUseStatementContext} {imported : RustUseDeepRelativeImportSyntax}
    (hmem : imported ∈ (rustUseStatementSyntax itemUse context).deepRelativeImports)
    (currentNamespace : List String) (isTestContext : Bool) :
    2 ≤ parentHops imported.prefixSegments ∧
      ∃ exposedName isGlob,
        (deepRelativeImportFact currentNamespace imported isTestContext).crateSegments =
          crateRelativeDeepRelativeImportSegments currentNamespace
            (importSyntax imported.prefixSegments exposedName false isGlob) := by
  obtain ⟨written, hwritten, rfl⟩ := List.mem_map.mp hmem
  obtain ⟨hleaf, hdeep⟩ := List.mem_filter.mp hwritten
  rw [useItemImports_eq] at hleaf
  obtain ⟨exposedName, isGlob, hsyntax, hhops⟩ := parentHops_of_isDeepRelativeImport hleaf hdeep
  refine ⟨hhops, exposedName, isGlob, ?_⟩
  show crateRelativeDeepRelativeImportSegments currentNamespace written = _
  exact congrArg _ hsyntax

def recordDeepRelativeImportFacts (summary : RustReasoningImportFacts)
    (importNamespace : List String) (useStatement : RustUseStatementSyntax) :
    RustReasoningImportFacts :=
  { summary with
    deepRelativeImports := summary.deepRelativeImports + useStatement.deepRelativeImports.length
    deepRelativeImportFacts := summary.deepRelativeImportFacts ++
      useStatement.deepRelativeImports.map fun imported =>
        deepRelativeImportFact importNamespace imported useStatement.context.isInsideCfgTestModule }

section Imports

variable (moduleFacts : RustReasoningModuleFacts) (known : OrderedMap (List String) Path)

/-- The dependency of one import of a statement. -/
def importDependency (useStatement : RustUseStatementSyntax) (imported : RustUseImportSyntax) :
    Option RustReasoningOwnerDependencyFacts :=
  localOwnerDependency moduleFacts.path moduleFacts.sourcePath.namespaceComponents
    (useStatementNamespace moduleFacts.sourcePath.namespaceComponents
      useStatement.context.enclosingModules)
    imported useStatement.line useStatement.context.isInsideCfgTestModule known

def recordImportFact (useStatement : RustUseStatementSyntax)
    (accumulators : RustReasoningImportAccumulators) (imported : RustUseImportSyntax) :
    RustReasoningImportAccumulators :=
  let summary := recordImportShape (recordImportRoot accumulators.summary imported.rootKind) imported
  match importDependency moduleFacts known useStatement imported with
  | some dependency =>
      { summary := summary
        localOwnerImports := accumulators.localOwnerImports.add dependency.targetNamespace
        localOwnerDependencies :=
          mergeOwnerDependency accumulators.localOwnerDependencies dependency }
  | none => { accumulators with summary := summary }

/-- The imports of a statement enter the total before they are looked at one by one. -/
def countStatement (summary : RustReasoningImportFacts) (useStatement : RustUseStatementSyntax) :
    RustReasoningImportFacts :=
  { summary with
    totalImports := summary.totalImports + useStatement.imports.length
    testContextImports := summary.testContextImports +
      if useStatement.context.isInsideCfgTestModule then useStatement.imports.length else 0 }

def recordUseStatementImports (accumulators : RustReasoningImportAccumulators)
    (useStatement : RustUseStatementSyntax) : RustReasoningImportAccumulators :=
  let importNamespace := useStatementNamespace moduleFacts.sourcePath.namespaceComponents
    useStatement.context.enclosingModules
  let counted := { accumulators with summary := countStatement accumulators.summary useStatement }
  let recorded := useStatement.imports.foldl (recordImportFact moduleFacts known useStatement) counted
  { recorded with
    summary := recordDeepRelativeImportFacts recorded.summary importNamespace useStatement }

/-- The paths to other crates that are not written in a test module. -/
def productionExternalImports (useStatements : List RustUseStatementSyntax) :
    OrderedSet (List String) :=
  OrderedSet.ofList ((useStatements.filter fun useStatement =>
      !useStatement.context.isInsideCfgTestModule).flatMap fun useStatement =>
    (useStatement.imports.filter fun imported =>
      imported.rootKind = .external || imported.rootKind = .absolute).map
        RustUseImportSyntax.segments)

def importSummary (useStatements : List RustUseStatementSyntax) : RustReasoningImportFacts :=
  let accumulators := useStatements.foldl (recordUseStatementImports moduleFacts known) ⟨{}, ∅, ∅⟩
  { accumulators.summary with
    productionExternalImports := (productionExternalImports useStatements).keys
    localOwnerImports := accumulators.localOwnerImports.keys
    localOwnerDependencies := accumulators.localOwnerDependencies.values }

end Imports

/-! ## The tree

The tree of a package is made in two rounds: the modules by themselves, and then, with
all namespaces known, what each depends on and which of them own a branch. -/

def publicApiSummary (module : ParsedRustModuleSyntax) : RustReasoningPublicApiFacts where
  publicItems := module.itemVisibilities.countP fun item => item.isPublic && item.kind ≠ "mod"
  publicExports := module.itemVisibilities.countP (·.isPublicUse)
  publicFunctions := module.itemVisibilities.countP fun item => item.isPublic && item.kind = "fn"

/-- The facts of a module before its imports are looked up. -/
def preliminaryModule (scope : AspRustScope) (sourceFiles : OrderedSet Path)
    (module : ParsedRustModuleSyntax) : RustReasoningModuleFacts :=
  let isSourceModule : Bool := module.path ∈ sourceFiles.keys
  { path := module.path
    sourcePath := rustSourcePathFacts scope module.path
    importSummary := {}
    publicApiSummary := publicApiSummary module
    isSourceModule := isSourceModule
    isModuleTreeRoot := isSourceModule && isModuleTreeRoot scope.sourcePaths module.path
    declaredChildEdges :=
      if isSourceModule then externalChildModuleEdges module.toParsedRustModule sourceFiles
      else [] }

/-- The path of each namespace; of two modules with one namespace the later one counts. -/
def knownModuleNamespacePaths (modules : List RustReasoningModuleFacts) :
    OrderedMap (List String) Path :=
  OrderedMap.insertAll (fun module => module.sourcePath.namespaceComponents)
    RustReasoningModuleFacts.path
    (modules.filter fun module =>
      module.isSourceModule && module.sourcePath.namespaceComponents ≠ []) ∅

/-- The facts of a module, with its imports looked up among the known namespaces. -/
def reasoningModule (scope : AspRustScope) (sourceFiles : OrderedSet Path)
    (known : OrderedMap (List String) Path) (module : ParsedRustModuleSyntax) :
    RustReasoningModuleFacts :=
  let moduleFacts := preliminaryModule scope sourceFiles module
  { moduleFacts with importSummary := importSummary moduleFacts known module.useStatements }

def ownerBranchRoles (module : RustReasoningModuleFacts) : List RustReasoningOwnerBranchRole :=
  let roles :=
    (if module.isModuleTreeRoot then [RustReasoningOwnerBranchRole.root] else []) ++
    (if module.sourcePath.isCrateFacade then [.facade] else []) ++
    (if module.sourcePath.isInterfaceMod then [.interface] else []) ++
    (if module.sourcePath.isBinaryEntrypoint then [.binary] else []) ++
    (if module.sourcePath.isPackageEntrypoint then [.packageEntrypoint] else []) ++
    (if module.sourcePath.repeatedNamespaceSegments.keys = [] then []
      else [.repeatedNamespace module.sourcePath.repeatedNamespaceSegments.keys])
  if roles = [] then [.branch] else roles

/-- Modules that own what is below them. -/
def ownsBranch (module : RustReasoningModuleFacts) : Bool :=
  module.isModuleTreeRoot || !module.declaredChildEdges.isEmpty ||
    module.sourcePath.isSpecialEntrypoint ||
    !module.sourcePath.repeatedNamespaceSegments.keys.isEmpty

def ownerBranch (module : RustReasoningModuleFacts) : RustReasoningOwnerBranchFacts where
  path := module.path
  ownerNamespace := module.sourcePath.namespaceComponents
  roles := ownerBranchRoles module
  importSummary := module.importSummary
  declaredChildEdges := module.declaredChildEdges

/-- Roots come first, and then the path decides. -/
def branchLe (left right : RustReasoningOwnerBranchFacts) : Prop :=
  let leftRoot : Bool := RustReasoningOwnerBranchRole.root ∈ left.roles
  let rightRoot : Bool := RustReasoningOwnerBranchRole.root ∈ right.roles
  rightRoot < leftRoot ∨ rightRoot = leftRoot ∧ left.path ≤ right.path

instance branchLe.decidableRel : DecidableRel branchLe := fun _ _ =>
  inferInstanceAs (Decidable (_ ∨ _ ∧ _))

def ownerBranchFacts (modules : List RustReasoningModuleFacts) :
    List RustReasoningOwnerBranchFacts :=
  ((modules.filter fun module => module.isSourceModule && ownsBranch module).map
    ownerBranch).insertionSort branchLe

/-- Short namespaces come first, then the paths decide. -/
def dependencyLe (left right : RustReasoningOwnerDependencyFacts) : Prop :=
  toLex (left.sourceNamespace.length, toLex (left.sourcePath, left.targetPath)) ≤
    toLex (right.sourceNamespace.length, toLex (right.sourcePath, right.targetPath))

instance dependencyLe.decidableRel : DecidableRel dependencyLe := fun _ _ =>
  inferInstanceAs (Decidable (toLex _ ≤ toLex _))

def ownerDependencyFacts (modules : List RustReasoningModuleFacts) :
    List RustReasoningOwnerDependencyFacts :=
  ((modules.flatMap fun module => module.importSummary.localOwnerDependencies).foldl
    mergeOwnerDependency ∅).values.insertionSort dependencyLe

structure RustReasoningTreeFacts where
  packageRoot : Path
  modules : List RustReasoningModuleFacts
  ownerBranches : List RustReasoningOwnerBranchFacts
  ownerDependencies : List RustReasoningOwnerDependencyFacts

def rustReasoningTreeFacts (scope : AspRustScope) (modules : List ParsedRustModuleSyntax) :
    RustReasoningTreeFacts :=
  let sourceFiles := sourceFilesOf scope.sourcePaths (modules.map (·.toParsedRustModule))
  let known := knownModuleNamespacePaths (modules.map (preliminaryModule scope sourceFiles))
  let moduleFacts := modules.map (reasoningModule scope sourceFiles known)
  { packageRoot := scope.projectRoot
    modules := moduleFacts
    ownerBranches := ownerBranchFacts moduleFacts
    ownerDependencies := ownerDependencyFacts moduleFacts }

end AspRust.Parser
