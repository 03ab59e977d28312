import AspRust.Foundation.LayeredLookup
import AspRust.Foundation.OsPath
import AspRust.Verification.Profile
import AspRust.Verification.ProfileGroups

/-!
# The profile index

The index says which owners of a project ought to have a profile.  For each group of modules
the signals of its members are added up, and responsibilities are suggested from them.  An
owner for which something is suggested is a candidate: its profile is missing, it drifts from
the suggestion, or it is configured.

A hint is looked up under the absolute path of the owner, then under its path below the
project and then under that below the package; of two hints with one path the first counts.
`active_profile_hints` recommends a hint for each candidate that needs action.

### Design notes

The signals of a group are added up module by module.  Responsibilities are a set and
evidence is a list, so the order matters only for the texts; both are kept.

A candidate has the state, the suggestion and what is configured.  It requires action unless
it is configured, which is the case when the responsibilities of the hint hold all that is
suggested.
-/

namespace AspRust.Verification

open AspRust.Foundation

/-! ## Dependencies

An import may be that of a dependency of the manifest, under its own name or under the
one it is renamed to.  The responsibilities that are configured for the dependency are
then those of the import. -/

inductive CargoDependencyKind where
  | normal
  | dev
  | build
deriving DecidableEq, Repr

structure CargoDependencyFacts where
  dependencyKey : String
  importName : String
  packageName : String
  kind : CargoDependencyKind
  target : Option String
  optional : Bool
  features : List String
deriving DecidableEq, Repr

structure DependencySignalLookup where
  cargoByImportName : OrderedMap String CargoDependencyFacts
  responsibilitiesByDependency : OrderedMap String (OrderedSet RustOwnerResponsibility)

namespace DependencySignalLookup

/-- The responsibilities of all signals for one dependency are put together. -/
def addSignal (responsibilities : OrderedMap String (OrderedSet RustOwnerResponsibility))
    (signal : RustVerificationDependencySignal) :
    OrderedMap String (OrderedSet RustOwnerResponsibility) :=
  responsibilities.insert signal.dependency (signal.responsibilities.keys.foldl OrderedSet.add
    ((responsibilities.get? signal.dependency).getD ∅))

def new (cargoDependencies : List CargoDependencyFacts)
    (dependencySignals : List RustVerificationDependencySignal) : DependencySignalLookup where
  cargoByImportName := OrderedMap.insertAll CargoDependencyFacts.importName id cargoDependencies ∅
  responsibilitiesByDependency := dependencySignals.foldl addSignal ∅

def matchingCargoDependency (lookup : DependencySignalLookup) (segments : List String) :
    Option CargoDependencyFacts :=
  segments.head?.bind lookup.cargoByImportName.get?

def configuredDependencyResponsibilities (lookup : DependencySignalLookup)
    (dependency : CargoDependencyFacts) : OrderedSet RustOwnerResponsibility :=
  OrderedSet.ofList
    ([dependency.dependencyKey, dependency.importName, dependency.packageName].flatMap fun key =>
      ((lookup.responsibilitiesByDependency.get? key).getD ∅).keys)

end DependencySignalLookup

/-! ## Signals

What a module shows of its responsibilities, with the imports that show it, and the sum
over the modules of a group. -/

structure ProfileSignals where
  ownerModules : ℕ := 0
  publicItems : ℕ := 0
  publicExports : ℕ := 0
  publicFunctions : ℕ := 0
  ownerDeps : ℕ := 0
  childModules : ℕ := 0
  dependencyRoots : OrderedSet String := ∅
  configuredDependencyRoots : OrderedSet String := ∅
  unconfiguredDependencyRoots : OrderedSet String := ∅
  externalRoots : OrderedSet String := ∅
  networkRoots : OrderedSet String := ∅
  persistenceRoots : OrderedSet String := ∅
  securityRoots : OrderedSet String := ∅
  performanceRoots : OrderedSet String := ∅

/-- Imports of the standard library that say something by themselves. -/
def standardImportResponsibilities (segments : List String) : List RustOwnerResponsibility :=
  if segments.take 2 = ["std", "fs"] then [.externalDependency, .persistence] else []

def compactImportLabel (segments : List String) : String := "::".intercalate (segments.take 2)

def dependencyQualifiers (dependency : CargoDependencyFacts) : List String :=
  (match dependency.kind with
    | .normal => []
    | .dev => ["dev"]
    | .build => ["build"]) ++
  (dependency.target.toList.map fun target => "target=" ++ target) ++
  (if dependency.optional then ["optional"] else []) ++
  (if dependency.features = [] then []
    else ["features=" ++ "+".intercalate dependency.features])

def compactDependencyLabel (dependency : CargoDependencyFacts) : String :=
  let base :=
    if dependency.importName = dependency.packageName then dependency.importName
    else dependency.importName ++ "->" ++ dependency.packageName
  let qualifiers := dependencyQualifiers dependency
  if qualifiers = [] then base else base ++ "(" ++ ",".intercalate qualifiers ++ ")"

def addImportResponsibility (label : String) (signals : ProfileSignals) :
    RustOwnerResponsibility → ProfileSignals
  | .externalDependency => { signals with externalRoots := signals.externalRoots.add label }
  | .persistence => { signals with persistenceRoots := signals.persistenceRoots.add label }
  | .securityBoundary => { signals with securityRoots := signals.securityRoots.add label }
  | .latencySensitive => { signals with performanceRoots := signals.performanceRoots.add label }
  | .availabilityCritical => { signals with networkRoots := signals.networkRoots.add label }
  | .publicApi | .pureDomainLogic => signals

/-- The dependency that an import matches enters the roots under its own label. -/
def addDependencyRoot (lookup : DependencySignalLookup) (signals : ProfileSignals)
    (dependency : CargoDependencyFacts) : ProfileSignals :=
  let label := compactDependencyLabel dependency
  let rooted := { signals with dependencyRoots := signals.dependencyRoots.add label }
  if (lookup.configuredDependencyResponsibilities dependency).keys = [] then
    { rooted with
      unconfiguredDependencyRoots := signals.unconfiguredDependencyRoots.add label }
  else
    { rooted with configuredDependencyRoots := signals.configuredDependencyRoots.add label }

def addImportSignal (lookup : DependencySignalLookup) (signals : ProfileSignals)
    (segments : List String) : ProfileSignals :=
  if segments = [] then signals
  else
    let label := compactImportLabel segments
    let dependency := lookup.matchingCargoDependency segments
    let rooted := dependency.toList.foldl (addDependencyRoot lookup) signals
    let responsibilities : OrderedSet RustOwnerResponsibility := OrderedSet.ofList
      (standardImportResponsibilities segments ++ dependency.toList.flatMap fun found =>
        (lookup.configuredDependencyResponsibilities found).keys)
    responsibilities.keys.foldl (addImportResponsibility label) rooted

section Collect

variable {P : Type*}

def mergeProfileSignals (lookup : DependencySignalLookup) (signals : ProfileSignals)
    (module : ProfileModuleFacts P) : ProfileSignals :=
  module.productionExternalImports.foldl (addImportSignal lookup)
    { signals with
      ownerDeps := signals.ownerDeps +
        module.localOwnerDependencies.countP fun dependency => !dependency.isTestContext
      publicItems := signals.publicItems + module.publicApiSummary.publicItems
      publicExports := signals.publicExports + module.publicApiSummary.publicExports
      publicFunctions := signals.publicFunctions + module.publicApiSummary.publicFunctions }

def aggregateProfileSignals (lookup : DependencySignalLookup)
    (modules : List (ProfileModuleFacts P)) (branch : Option (ProfileBranchFacts P)) :
    ProfileSignals :=
  modules.foldl (mergeProfileSignals lookup)
    { ownerModules := modules.length
      childModules := (branch.map ProfileBranchFacts.declaredChildEdges).getD 0 }

/-! ## Suggestions

What the signals of a group and the place of its owner suggest.  A facade of the crate
root and a public surface count by themselves. -/

def isCrateRootFacade (module : ProfileModuleFacts P) : Bool :=
  module.isModuleTreeRoot && module.isCrateFacade

def branchIsPublicSurface (branch : ProfileBranchFacts P) : Bool :=
  Parser.RustReasoningOwnerBranchRole.root ∉ branch.roles &&
    branch.roles.any fun role =>
      role = .facade || role = .interface || role = .binary || role = .packageEntrypoint

def suggestedResponsibilities (module : ProfileModuleFacts P)
    (branch : Option (ProfileBranchFacts P)) (signals : ProfileSignals) :
    OrderedSet RustOwnerResponsibility :=
  OrderedSet.ofList
    ((if 0 < signals.publicFunctions || 0 < signals.publicItems ||
          (0 < signals.publicExports && !isCrateRootFacade module) ||
          branch.any branchIsPublicSurface then [.publicApi] else []) ++
      (if signals.externalRoots.keys ≠ [] || signals.networkRoots.keys ≠ [] ||
          signals.persistenceRoots.keys ≠ [] || 3 ≤ signals.ownerDeps then [.externalDependency]
        else []) ++
      (if signals.persistenceRoots.keys ≠ [] then [.persistence] else []) ++
      (if signals.securityRoots.keys ≠ [] then [.securityBoundary] else []) ++
      (if signals.performanceRoots.keys ≠ [] then [.latencySensitive] else []) ++
      (if signals.networkRoots.keys ≠ [] then [.availabilityCritical] else []))

end Collect

def pushUsizeEvidence (label : String) (value : ℕ) : List RustVerificationEvidence :=
  if 0 < value then [⟨label, toString value⟩] else []

def pushSetEvidence (label : String) (values : OrderedSet String) :
    List RustVerificationEvidence :=
  if values.keys = [] then [] else [⟨label, ",".intercalate values.keys⟩]

def profileSignalEvidence (signals : ProfileSignals) : List RustVerificationEvidence :=
  (if 1 < signals.ownerModules then pushUsizeEvidence "owner_modules" signals.ownerModules
    else []) ++
  pushUsizeEvidence "public_items" signals.publicItems ++
  pushUsizeEvidence "public_exports" signals.publicExports ++
  pushUsizeEvidence "public_fns" signals.publicFunctions ++
  pushUsizeEvidence "owner_deps" signals.ownerDeps ++
  pushUsizeEvidence "child_modules" signals.childModules ++
  pushSetEvidence "dependency_roots" signals.dependencyRoots ++
  pushSetEvidence "configured_dependency_roots" signals.configuredDependencyRoots ++
  pushSetEvidence "unconfigured_dependency_roots" signals.unconfiguredDependencyRoots ++
  pushSetEvidence "external_roots" signals.externalRoots ++
  pushSetEvidence "network_roots" signals.networkRoots ++
  pushSetEvidence "persistence_roots" signals.persistenceRoots ++
  pushSetEvidence "security_roots" signals.securityRoots ++
  pushSetEvidence "performance_roots" signals.performanceRoots

/-! ## Hints

Hints are looked up by the path of the owner, in three spellings, and of several hints
of one path the first counts. -/

/-- The first hint of each path, absolute ones apart from others. -/
structure ProfileHintLookup where
  absolute : OrderedMap OsPath RustVerificationProfileHint
  relative : OrderedMap OsPath RustVerificationProfileHint

namespace ProfileHintLookup

def new (hints : List RustVerificationProfileHint) : ProfileHintLookup where
  absolute := OrderedMap.keepFirst
    (fun hint => if hint.osPath.isAbsolute then some hint.osPath else none) hints
  relative := OrderedMap.keepFirst
    (fun hint => if hint.osPath.isAbsolute then none else some hint.osPath) hints

def get (lookup : ProfileHintLookup) (projectRoot packageRoot ownerPath : OsPath) :
    Option RustVerificationProfileHint :=
  (lookup.absolute.get? ownerPath).or
    (((OsPath.stripPrefix? projectRoot ownerPath).bind lookup.relative.get?).or
      ((OsPath.stripPrefix? packageRoot ownerPath).bind lookup.relative.get?))

end ProfileHintLookup

def recommendedHintPath (projectRoot packageRoot ownerPath : OsPath) : OsPath :=
  ((OsPath.stripPrefix? projectRoot ownerPath).or
    (OsPath.stripPrefix? packageRoot ownerPath)).getD ownerPath

/-! ## Candidates

A suggestion becomes a candidate with the hint that is found for its owner, if there is
one.  The index has the candidates of all packages, sorted. -/

inductive RustVerificationProfileCandidateState where
  | missingProfile
  | profileDrift
  | configured
deriving DecidableEq, Repr

def RustVerificationProfileCandidateState.requiresAction :
    RustVerificationProfileCandidateState → Bool
  | .missingProfile | .profileDrift => true
  | .configured => false

/-- What is suggested for an owner, whatever hints there are. -/
structure ProfileSuggestion where
  packageRoot : OsPath
  ownerPath : OsPath
  hintPath : OsPath
  ownerNamespace : List String
  suggestedTaskKinds : OrderedSet RustVerificationTaskKind
  suggestedResponsibilities : OrderedSet RustOwnerResponsibility
  evidence : List RustVerificationEvidence

structure RustVerificationProfileCandidate extends ProfileSuggestion where
  state : RustVerificationProfileCandidateState
  configuredResponsibilities : OrderedSet RustOwnerResponsibility

def RustVerificationProfileCandidate.requiresAction
    (candidate : RustVerificationProfileCandidate) : Bool :=
  candidate.state.requiresAction

/-- A hint with the recommended path and nothing but responsibilities. -/
def RustVerificationProfileCandidate.toProfileHint
    (candidate : RustVerificationProfileCandidate) : RustVerificationProfileHint where
  ownerPath := candidate.hintPath.text
  responsibilities := OrderedSet.ofList candidate.suggestedResponsibilities.keys
  taskKinds := none
  taskContractOverrides := ∅
  stabilityPicture := none
  rationale := none

/-- Every responsibility of one set is in the other. -/
def isSubset (first second : OrderedSet RustOwnerResponsibility) : Bool :=
  first.keys.all fun responsibility => responsibility ∈ second.keys

def profileCandidateState (hint : Option RustVerificationProfileHint)
    (suggested : OrderedSet RustOwnerResponsibility) : RustVerificationProfileCandidateState :=
  match hint with
  | none => .missingProfile
  | some hint =>
      if isSubset suggested hint.responsibilities then .configured else .profileDrift

/-- A package that has been analysed. -/
structure RustVerificationPackageAnalysis where
  packageRoot : OsPath
  modules : List (ProfileModuleFacts OsPath)
  ownerBranches : List (ProfileBranchFacts OsPath)
  cargoDependencies : List CargoDependencyFacts

section Index

variable (projectRoot : OsPath) (packages : List RustVerificationPackageAnalysis)
  (policy : RustVerificationPolicy)

/-- What is suggested for a group, if anything is. -/
def groupSuggestion (package : RustVerificationPackageAnalysis) (group : ProfileGroup OsPath) :
    Option ProfileSuggestion :=
  let lookup := DependencySignalLookup.new package.cargoDependencies policy.dependencySignals
  let signals := aggregateProfileSignals lookup group.members group.branch
  let responsibilities := suggestedResponsibilities group.module group.branch signals
  if responsibilities.keys = [] then none
  else some
    { packageRoot := package.packageRoot
      ownerPath := group.module.path
      hintPath := recommendedHintPath projectRoot package.packageRoot group.module.path
      ownerNamespace := group.module.namespaceComponents
      suggestedTaskKinds := taskKindsForResponsibilities responsibilities policy
      suggestedResponsibilities := responsibilities
      evidence := profileSignalEvidence signals }

/-- The candidate of a suggestion under some hints. -/
def profileCandidate (hints : List RustVerificationProfileHint) (suggestion : ProfileSuggestion) :
    RustVerificationProfileCandidate :=
  let hint := (ProfileHintLookup.new hints).get projectRoot suggestion.packageRoot
    suggestion.ownerPath
  { toProfileSuggestion := suggestion
    state := profileCandidateState hint suggestion.suggestedResponsibilities
    configuredResponsibilities := (hint.map (·.responsibilities)).getD ∅ }

def packageSuggestions (package : RustVerificationPackageAnalysis) : List ProfileSuggestion :=
  (profileGroups package.modules package.ownerBranches).filterMap
    (groupSuggestion projectRoot policy package)

def collectPackageCandidates (package : RustVerificationPackageAnalysis) :
    List RustVerificationProfileCandidate :=
  (packageSuggestions projectRoot policy package).map
    (profileCandidate projectRoot policy.profileHints)

structure RustVerificationProfileIndex where
  projectRoot : OsPath
  candidates : List RustVerificationProfileCandidate
  configuredProfileHintCount : ℕ

/-- Candidates are ordered by package, and then by owner. -/
def suggestionLe (left right : ProfileSuggestion) : Prop :=
  toLex (left.packageRoot, left.ownerPath) ≤ toLex (right.packageRoot, right.ownerPath)

instance suggestionLe.decidableRel : DecidableRel suggestionLe := fun _ _ =>
  inferInstanceAs (Decidable (toLex _ ≤ toLex _))

def buildRustVerificationProfileIndex : RustVerificationProfileIndex where
  projectRoot := projectRoot
  candidates := (packages.flatMap (collectPackageCandidates projectRoot policy)).insertionSort
    fun left right => suggestionLe left.toProfileSuggestion right.toProfileSuggestion
  configuredProfileHintCount := policy.profileHints.length

end Index

namespace RustVerificationProfileIndex

def activeCandidates (index : RustVerificationProfileIndex) :
    List RustVerificationProfileCandidate :=
  index.candidates.filter (·.requiresAction)

def isClear (index : RustVerificationProfileIndex) : Bool := index.activeCandidates = []

def needsProfileConfiguration (index : RustVerificationProfileIndex) : Bool :=
  index.configuredProfileHintCount = 0 && !index.isClear

def activeProfileHints (index : RustVerificationProfileIndex) :
    List RustVerificationProfileHint :=
  index.activeCandidates.map RustVerificationProfileCandidate.toProfileHint

end RustVerificationProfileIndex

end AspRust.Verification
