import AspRust.Foundation.KeepFirst
import AspRust.Foundation.OsPath
import AspRust.Parser.ModuleTree
import AspRust.Verification.Model

/-!
# Looking up the owner of a hint

A hint names its owner by a path: an absolute one, one below the project, or one below the
package.  The source modules of a package are indexed under all three; where two modules
have the same path the first one counts.

Paths are compared by their components, so a project whose root is written `.` has modules
whose paths start with this component, and neither `src/api.rs` nor `./src/api.rs` is an
absolute path there.  The lookup is over any type of modules that have such paths.  Of the
facts about modules only those are kept that the planner reads.

### What is load-bearing

The order of the three lookups is that of the source: an absolute path is asked for as it
is and under nothing else; another one below the project first, then below the package.  A
module that has no path below the project is not indexed there, and stripping a root is by
components as they are written, so `.` is not stripped from `crates/api/src/api.rs`.
-/

namespace AspRust.Verification

open AspRust.Foundation AspRust.Parser

/-- A dependency of one owner on another. -/
structure RustReasoningOwnerDependencyFacts where
  isTestContext : Bool
deriving DecidableEq, Repr

/-- What a module imports. -/
structure RustReasoningImportFacts where
  externalImports : ℕ
  localOwnerDependencies : List RustReasoningOwnerDependencyFacts
deriving DecidableEq, Repr

/-- A module the parser knows. -/
structure RustReasoningModuleFacts where
  path : Path
  namespaceComponents : List String
  importSummary : RustReasoningImportFacts
  isSourceModule : Bool
deriving DecidableEq

inductive RustReasoningOwnerBranchRole where
  | root
  | facade
  | interface
  | binary
  | packageEntrypoint
  | repeatedNamespace (components : List String)
  | branch
deriving DecidableEq, Repr

/-- A module that others hang from. -/
structure RustReasoningOwnerBranchFacts where
  path : Path
  ownerNamespace : List String
  roles : List RustReasoningOwnerBranchRole
  importSummary : RustReasoningImportFacts
  declaredChildEdges : List RustModuleChildEdge
deriving DecidableEq

/-- What the parser found out about one package. -/
structure RustReasoningTreeFacts where
  packageRoot : Path
  modules : List RustReasoningModuleFacts
  ownerBranches : List RustReasoningOwnerBranchFacts
deriving DecidableEq

/-- The path of a hint. -/
def RustVerificationProfileHint.osPath (hint : RustVerificationProfileHint) : OsPath :=
  OsPath.ofText hint.ownerPath

/-- The path of a baseline. -/
def RustVerificationApiPathBaseline.osPath (baseline : RustVerificationApiPathBaseline) : OsPath :=
  OsPath.ofText baseline.ownerPath

/-- The source modules of a package under their paths. -/
structure RustVerificationModuleLookup (M : Type*) where
  absolute : OrderedMap OsPath M
  projectRelative : OrderedMap OsPath M
  packageRelative : OrderedMap OsPath M

namespace RustVerificationModuleLookup

variable {M : Type*}

/-- Index a list of modules. -/
def new (pathOf : M → OsPath) (projectRoot packageRoot : OsPath) (modules : List M) :
    RustVerificationModuleLookup M where
  absolute := OrderedMap.keepFirst (fun module => some (pathOf module)) modules
  projectRelative := OrderedMap.keepFirst
    (fun module => OsPath.stripPrefix? projectRoot (pathOf module)) modules
  packageRelative := OrderedMap.keepFirst
    (fun module => OsPath.stripPrefix? packageRoot (pathOf module)) modules

/-- The module that a configured path names. -/
def getConfigPath (lookup : RustVerificationModuleLookup M) (ownerPath : OsPath) : Option M :=
  if ownerPath.isAbsolute then lookup.absolute.get? ownerPath
  else (lookup.projectRelative.get? ownerPath).or (lookup.packageRelative.get? ownerPath)

end RustVerificationModuleLookup

end AspRust.Verification
