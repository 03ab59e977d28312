import AspRust.Analysis.FileQuery

/-!
# Project policy rules

The rules of the project policy pack that consult the file system: the layout of
the tests directory, the declared scopes, test mounts, test targets, the gate of
the package and its benchmarks.  Each is a program over the questions of
`FileQuery`, asked where the rule asks them; a condition that is not evaluated
asks nothing.

The rules that only look at parsed modules are parameters of the packs
(`PureRules`), as is the parser itself: a parsed module is a function of the path
and the text of its file.  Some of these rules start from the reasoning tree of
the package.  The tree is made of the modules and of the manifest, which is read
again each time a tree is built (`reasoningTreeManifest`), so these rules are
given the manifest that was read for them.

### Design notes

A rule that takes a file from a list and asks about it stops at the first answer that
decides, and a condition with `&&` asks its second half only if the first holds.  The
combinators `filterAsk`, `findAsk?` and `anyAsk` keep that order; so the questions of a
program are the lookups of the source, one for one.

The rules of the catalog are written out with their texts, labels and severities.  A finding
is made from a rule and a place, so two findings of one rule differ in their place and
summary only.
-/

namespace AspRust.Analysis

open AspRust.Foundation AspRust.Discovery AspRust.Verification

/-! ## Parsed modules

What the rules look at in a parsed file.  The parser is a parameter; a file that cannot
be read or parsed is an invalid module, as in the source. -/

/-- A module declaration. -/
structure RustModuleDeclarationSyntax where
  line : ℕ
  ident : String
  pathAttr : Option String
  resolvedPathAttr : Option Path
  isInline : Bool
deriving DecidableEq, Repr

/-- An item of a file, as far as the rules here look at it. -/
structure RustTopLevelItemSyntax where
  line : ℕ
  kind : String
  isUse : Bool
  isMacro : Bool
  module : Option RustModuleDeclarationSyntax
deriving DecidableEq, Repr

/-- The syntax facts the rules here look at. -/
structure RustNativeSyntaxFacts where
  topLevelItems : List RustTopLevelItemSyntax := []
  cfgTestModules : List RustModuleDeclarationSyntax := []
  /-- The names of invoked macros. -/
  macroInvocations : List String := []
  /-- The names of called functions. -/
  functionCalls : List String := []
deriving DecidableEq, Repr

/-- A parsed file. -/
structure ParsedRustModule where
  report : RustModuleReport
  source : String
  syntaxFacts : RustNativeSyntaxFacts
deriving DecidableEq, Repr

/-- The Rust parser: the facts of a text at a path, or the syntax error. -/
abbrev SyntaxReader := Path → String → Except String RustNativeSyntaxFacts

def parseRustSource (nativeSyntax : SyntaxReader) (path : Path) (source : String) :
    ParsedRustModule :=
  match nativeSyntax path source with
  | .ok syntaxFacts => ⟨⟨path, true, none⟩, source, syntaxFacts⟩
  | .error error => ⟨⟨path, false, some error⟩, source, {}⟩

/-- Parse a file; one that cannot be read is an invalid module. -/
def parseRustFile (nativeSyntax : SyntaxReader) (path : Path) : FileProgram ParsedRustModule := do
  match ← ask (.readToString path) with
  | .ok source => return parseRustSource nativeSyntax path source
  | .error error =>
      return ⟨⟨path, false, some ("failed to read Rust source: " ++ error)⟩, "", {}⟩

/-- A line of a source text; lines count from one. -/
def sourceLine (source : String) (line : ℕ) : Option String :=
  ((lines source.toList)[line - 1]?).map String.ofList

/-- A path text with forward slashes. -/
def displayPathText (text : String) : String := String.ofList (replaceChar '\\' '/' text.toList)

def displayPath (path : Path) : String := displayPathText path.display

/-- A path as it is shown: relative to the project, when it lies in it. -/
def displayProjectPath (projectRoot path : Path) : String :=
  match Path.stripPrefix? projectRoot path with
  | some relative => displayPathText relative.text
  | none => displayPath path

/-! ## Rule catalog -/

/-- A rule of the pack. -/
def projectRule (ruleId title requirement : String) : AspRustRule where
  ruleId := ruleId
  packId := "rust.project_policy"
  severity := .warning
  title := title
  requirement := requirement
  labels := ((∅ : OrderedMap String String).insert "language" "rust").insert "domain"
    "project-policy"

def rustProjR001 : AspRustRule := projectRule "RUST-AGENT-PROJECT-001"
  "Root test file lacks explicit harness role"
  "Move root-level test files under tests/unit or tests/integration and declare nonstandard isolated targets directly in Cargo.toml."

def rustProjR002 : AspRustRule := projectRule "RUST-AGENT-PROJECT-002"
  "Unexpected tests directory"
  "Keep only standard suite directories directly under tests; project-local layout exceptions are not accepted."

def rustProjR003 : AspRustRule := projectRule "RUST-AGENT-PROJECT-003"
  "Inline source test module"
  "Keep test bodies out of src files; mount source-backed unit tests from tests/unit with #[path]."

def rustProjR004 : AspRustRule := projectRule "RUST-AGENT-PROJECT-004"
  "External test mount is missing or misplaced"
  "External source-backed tests must resolve to existing files under tests/unit."

def rustProjR006 : AspRustRule := projectRule "RUST-AGENT-PROJECT-006"
  "ASP Rust must stay in the test dependency graph"
  "Policy providers belong under dev-dependencies so ordinary builds and downstream package consumers do not compile ASP Rust."

def rustProjR007 : AspRustRule := projectRule "RUST-AGENT-PROJECT-007"
  "Root test target contains implementation"
  "Keep root Cargo test targets as thin aggregates with external module mounts only."

def rustProjR008 : AspRustRule := projectRule "RUST-AGENT-PROJECT-008"
  "Root test module mount is implicit or misplaced"
  "Root Cargo test targets must mount external modules with explicit #[path] attributes pointing under an allowed tests suite directory."

def rustProjR009 : AspRustRule := projectRule "RUST-AGENT-PROJECT-009"
  "Build-script ASP Rust gate should migrate"
  "ASP Rust policy should execute from cargo test rather than build.rs."

def rustProjR010 : AspRustRule := projectRule "RUST-AGENT-PROJECT-010"
  "Performance verification skill lacks Cargo bench target"
  "When a Rust-native performance skill is configured, expose a runnable harness=false [[bench]] target and benchmark framework dev-dependency; keep build.rs as a structural gate and record benchmark runs through performance receipts."

def rustProjR012 : AspRustRule := projectRule "RUST-AGENT-PROJECT-012"
  "ASP Rust cargo-test policy gate is incomplete"
  "ASP Rust-enabled packages must mount a cargo-test policy gate backed by a direct provider or workspace Build Support dev-dependency."

def rustProjR013 : AspRustRule := projectRule "RUST-AGENT-PROJECT-013"
  "Custom harness scope path lacks explanation"
  "Custom source or test scope paths must be added with an explicit explanation so agents cannot shrink the harness to avoid existing policy debt."

def rustProjR014 : AspRustRule := projectRule "RUST-AGENT-PROJECT-014"
  "Cargo-backed harness scope reduction lacks explanation"
  "Cargo-backed source or test scopes that exist in the package must stay covered or be removed with an explicit explanation so agents cannot skip existing source or test debt."

def rustProjR017 : AspRustRule := projectRule "RUST-AGENT-PROJECT-017"
  "Advice allowance explanation is too weak"
  "Advice allowances must state scope, owner, finding category, why the code is safe now, and the cleanup trigger so agents cannot use explanations as blanket waivers."

def rustProjR023 : AspRustRule := projectRule "RUST-AGENT-PROJECT-MANIFEST-023"
  "Cargo package edition is stale"
  "Agent-authored Rust packages should target edition 2024 by default; older editions need an explicit compatibility reason and migration plan."

/-! ## The tests directory

The layout of the directory is asked for by its names, and each name is looked at by
kind.  The targets of tests are files in it and files that the manifest names. -/

def allowedTestDirs : List String :=
  ["common", "fixtures", "integration", "performance", "scenarios", "snapshots", "support", "unit"]

def allowedTestRootFiles : List String :=
  ["integration_test.rs", "lib.rs", "mod.rs", "performance_test.rs", "asp-rust-gate.rs",
    "scenarios_test.rs", "unit_test.rs", "xiuxian-testing-gate.rs"]

/-- The finding about one entry of the tests directory, if there is one. -/
def testEntryFinding (testsDir : Path) (name : String) : FileProgram (Option AspRustFinding) := do
  let path := testsDir ++ [.normal name]
  if ← ask (.isDir path) then
    if name ∈ allowedTestDirs then return none
    return some (.fromRule rustProjR002
      ("tests/" ++ name ++ " is not a standard ASP Rust suite directory.")
      (fileLocation path) none "move or explicitly justify this tests directory")
  if !isRustFile path || name ∈ allowedTestRootFiles then return none
  return some (.fromRule rustProjR001
    ("tests/" ++ name ++ " is a root-level test file without an explicit harness role.")
    (fileLocation path) none "move this file under tests/unit or tests/integration")

def testLayoutFindings (projectRoot : Path) : FileProgram (List AspRustFinding) := do
  let testsDir := Path.join projectRoot "tests"
  match ← ask (.entryNames testsDir) with
  | none => return []
  | some names => return (← names.mapM (testEntryFinding testsDir)).filterMap id

/-- The files of the test targets: those in the tests directory, and those the
manifest declares. -/
def collectTestTargetFiles (projectRoot : Path) (manifest : CargoManifestFacts) :
    FileProgram (List Path) := do
  let testsDir := Path.join projectRoot "tests"
  let names := (← ask (.entryNames testsDir)).getD []
  let files ← filterAsk
    (fun path => do return (← ask (.isFile path)) && isRustFile path)
    (names.map fun name => testsDir ++ [.normal name])
  return (OrderedSet.ofList (files ++ manifest.testTargetFiles)).keys

def parseCargoTestTargets (nativeSyntax : SyntaxReader) (projectRoot : Path)
    (manifest : CargoManifestFacts) : FileProgram (List ParsedRustModule) := do
  (← collectTestTargetFiles projectRoot manifest).mapM (parseRustFile nativeSyntax)

/-! ## Manifest -/

/-- The finding about an edition that is not current. -/
def manifestFindings (projectRoot : Path) (manifest : CargoManifestFacts) :
    List AspRustFinding :=
  match manifest.packageEdition with
  | none => []
  | some edition =>
      if !manifest.hasPackage || edition = "2024" then []
      else
        [.fromRule rustProjR023
          ("Cargo.toml declares Rust edition " ++ edition ++
            "; current agent-authored packages should use edition 2024.")
          (fileLocation (Path.join projectRoot "Cargo.toml"))
          (some ("edition = \"" ++ edition ++ "\""))
          "set package edition to \"2024\" or document a bounded compatibility reason and migration plan"]

/-! ## Declared scopes

A scope that is declared in the configuration needs an explanation where it leaves the
default.  The rules ask whether the declared paths are there. -/

def normalizeScopePath (path : String) : String :=
  String.ofList (replaceChar '\\' '/' (trimMatches '/' (trim path.toList)))

/-- There is no explanation, or it is blank. -/
def explanationIsMissing (path : String) (explanations : OrderedMap String String) : Bool :=
  (explanations.get? path).all fun explanation => trim explanation.toList = []

/-- A scope path that is not the default one needs an explanation. -/
def customPathLacksExplanation (defaultPath : String) (explanations : OrderedMap String String)
    (path : String) : Bool :=
  let normalized := normalizeScopePath path
  normalized ≠ "" && normalized ≠ defaultPath && explanationIsMissing normalized explanations

def customScopePathFinding (projectRoot : Path) (scopeKind path : String) :
    FileProgram AspRustFinding := do
  let absolutePath := Path.join projectRoot (normalizeScopePath path)
  let found ← ask (.pathExists absolutePath)
  return .fromRule rustProjR013
    ("Config adds custom " ++ scopeKind ++ " scope path `" ++
      displayProjectPath projectRoot absolutePath ++ "` without a non-empty explanation.")
    (fileLocation (if found then absolutePath else projectRoot)) none
    "use with_source_path(path, explanation) or with_test_path(path, explanation) so the Agent explains why this scope is necessary"

def defaultScopeReductionFinding (projectRoot path : Path) (scopeKind fix : String) :
    AspRustFinding :=
  .fromRule rustProjR014
    ("Config excludes Cargo-backed " ++ scopeKind ++ " scope path `" ++
      displayProjectPath projectRoot path ++ "` without a non-empty explanation.")
    (fileLocation path) none
    ("use " ++ fix ++ " so the Agent explains why this Cargo-backed scope is reduced")

/-- The finding about a source directory that is there but not scanned. -/
def sourceReductionFindings (projectRoot : Path) (config : AspRustConfig) :
    FileProgram (List AspRustFinding) := do
  let path := Path.join projectRoot "src"
  if (← ask (.pathExists path)) && "src" ∉ config.sourceDirNames.map normalizeScopePath &&
      explanationIsMissing "src" config.sourcePathExclusionExplanations then
    return [defaultScopeReductionFinding projectRoot path "source"
      "with_source_path_excluded(path, explanation)"]
  return []

/-- The finding about tests that are there but not scanned. -/
def testReductionFindings (projectRoot : Path) (config : AspRustConfig)
    (manifest : CargoManifestFacts) : FileProgram (List AspRustFinding) := do
  let path := Path.join projectRoot "tests"
  let targets ← filterAsk (fun path => ask (.pathExists path)) manifest.testTargetFiles
  let found ← ask (.pathExists path)
  let missing := explanationIsMissing "tests" config.testPathExclusionExplanations
  if !config.includeTests then
    if (found || targets ≠ []) && missing then
      return [defaultScopeReductionFinding projectRoot
        (if found then path else targets.headD path) "test" "with_tests_excluded(explanation)"]
    return []
  if found && "tests" ∉ config.testDirNames.map normalizeScopePath && missing then
    return [defaultScopeReductionFinding projectRoot path "test"
      "with_test_path_excluded(path, explanation)"]
  return []

def sourceScopeFindings (projectRoot : Path) (config : AspRustConfig)
    (manifest : CargoManifestFacts) : FileProgram (List AspRustFinding) := do
  let sources ← (config.sourceDirNames.filter
    (customPathLacksExplanation "src" config.sourcePathExplanations)).mapM
      (customScopePathFinding projectRoot "source")
  let tests ← (config.testDirNames.filter
    (customPathLacksExplanation "tests" config.testPathExplanations)).mapM
      (customScopePathFinding projectRoot "test")
  return sources ++ tests ++ (← sourceReductionFindings projectRoot config) ++
    (← testReductionFindings projectRoot config manifest)

/-! ## Test mounts in sources

A source may mount a test module that lies elsewhere, and the rule asks whether the
mounted file is there. -/

def isUnderAnyDir (path : Path) (dirs : List Path) : Bool := dirs.any fun dir => dir.isPrefixOf path

/-- The finding about one `cfg(test)` module of a source file, if there is one. -/
def sourceTestMountFinding (projectRoot : Path) (module : ParsedRustModule)
    (itemMod : RustModuleDeclarationSyntax) : FileProgram (Option AspRustFinding) := do
  let shown := displayPath module.report.path
  let location := pathLineLocation module.report.path itemMod.line
  let line := sourceLine module.source itemMod.line
  if itemMod.isInline then
    return some (.fromRule rustProjR003
      (shown ++ " contains inline #[cfg(test)] module `" ++ itemMod.ident ++ "`.")
      location line "move this test module to tests/unit and mount it with #[path]")
  match itemMod.pathAttr, itemMod.resolvedPathAttr with
  | none, _ =>
      return some (.fromRule rustProjR003
        (shown ++ " declares cfg(test) module `" ++ itemMod.ident ++
          "` without an external #[path].")
        location line "add a #[path = \"...\"] mount into tests/unit")
  | some _, none => return none
  | some pathValue, some resolved =>
      let found ← ask (.pathExists resolved)
      let placed := (Path.stripPrefix? projectRoot resolved).any fun relative =>
        (Path.parse "tests/unit").isPrefixOf relative
      if found && placed then return none
      return some (.fromRule rustProjR004
        (shown ++ " mounts `" ++ pathValue ++
          "`, but the resolved path should exist under tests/unit.")
        location line "point this external test mount at an existing tests/unit file")

def sourceTestMountFindings (scope : AspRustScope) (modules : List ParsedRustModule) :
    FileProgram (List AspRustFinding) := do
  let findings ← (modules.filter fun module =>
    isUnderAnyDir module.report.path scope.sourcePaths).mapM fun module =>
      module.syntaxFacts.cfgTestModules.mapM (sourceTestMountFinding scope.projectRoot module)
  return findings.flatMap fun found => found.filterMap id

/-! ## Test targets

A root test target is to be an aggregate of mounts.  Whether a mount leads to a suite is
told by its path, and in nested crates by the manifest of the crate. -/

/-- A path that starts with `tests` and an allowed suite directory. -/
def isAllowedRootTestSuitePath : Path → Bool
  | .normal first :: .normal suite :: _ => first = "tests" && suite ∈ allowedTestDirs
  | _ => false

/-- The directories above a path, the nearest first. -/
def properAncestors (path : Path) : List Path := path.inits.dropLast.reverse

/-- The path relative to the nearest crate root above it, if it lies in the tests
of that crate.  `base` is what the ancestors are relative to. -/
def crateLocalTestSuitePath (base : Path) (ancestors : List Path) (path : Path) :
    FileProgram (Option Path) := do
  let crateRoot ← findAsk?
    (fun ancestor => ask (.isFile (Path.join (base ++ ancestor) "Cargo.toml"))) ancestors
  return (crateRoot.bind fun crateRoot => Path.stripPrefix? crateRoot path).filter
    fun relative => [.normal "tests"].isPrefixOf relative

/-- A test path is allowed when it lies in a suite of its crate or of the project.
A path outside the project is looked up from the root of the file system, and is
never in a suite of the project. -/
def isAllowedTestSuitePath (projectRoot candidate : Path) : FileProgram Bool := do
  match Path.stripPrefix? projectRoot candidate with
  | some relative =>
      match ← crateLocalTestSuitePath projectRoot
          ((properAncestors relative).filter (· ≠ [])) relative with
      | some crateLocal => return isAllowedRootTestSuitePath crateLocal
      | none => return isAllowedRootTestSuitePath relative
  | none =>
      match ← crateLocalTestSuitePath [] (properAncestors candidate) candidate with
      | some crateLocal => return isAllowedRootTestSuitePath crateLocal
      | none => return false

def isAllowedResolvedTestSuitePath (projectRoot candidate : Path) : FileProgram Bool := do
  if ← ask (.pathExists candidate) then isAllowedTestSuitePath projectRoot candidate
  else return false

def isTestTargetAggregateItemSyntax (item : RustTopLevelItemSyntax) : Bool :=
  item.isMacro || item.isUse || item.module.any fun module => !module.isInline

/-- The findings about implementation items in a test target. -/
def testTargetAggregateFindings (projectRoot : Path) (target : ParsedRustModule) :
    FileProgram (List AspRustFinding) := do
  if ← isAllowedTestSuitePath projectRoot target.report.path then return []
  return (target.syntaxFacts.topLevelItems.filter fun item =>
    !isTestTargetAggregateItemSyntax item).map fun item =>
      .fromRule rustProjR007
        (displayProjectPath projectRoot target.report.path ++
          " contains top-level implementation item `" ++ item.kind ++ "`.")
        (pathLineLocation target.report.path item.line)
        (sourceLine target.source item.line)
        "move test implementation into a suite module and mount it from the root target"

/-- The finding about one module a test target mounts, if there is one. -/
def testTargetModuleMountFinding (projectRoot : Path) (target : ParsedRustModule)
    (itemMod : RustModuleDeclarationSyntax) : FileProgram (Option AspRustFinding) := do
  let shown := displayProjectPath projectRoot target.report.path
  let location := pathLineLocation target.report.path itemMod.line
  let line := sourceLine target.source itemMod.line
  match itemMod.pathAttr, itemMod.resolvedPathAttr with
  | none, _ =>
      return some (.fromRule rustProjR008
        (shown ++ " declares root module `" ++ itemMod.ident ++ "` without an explicit #[path].")
        location line "mount this root test module with #[path = \"suite/file.rs\"]")
  | some _, none => return none
  | some pathValue, some resolved =>
      if ← isAllowedResolvedTestSuitePath projectRoot resolved then return none
      match target.report.path.parent? with
      | some parent =>
          if ← isAllowedResolvedTestSuitePath projectRoot (Path.join parent pathValue) then
            return none
      | none => pure ()
      return some (.fromRule rustProjR008
        (shown ++ " mounts `" ++ pathValue ++
          "`, but root test modules must resolve under an allowed tests suite directory.")
        location line
        "point this root test module at tests/unit, tests/integration, or another standard suite")

def testTargetModuleMountFindings (projectRoot : Path) (target : ParsedRustModule) :
    FileProgram (List AspRustFinding) := do
  if ← isAllowedTestSuitePath projectRoot target.report.path then return []
  let mounts := (target.syntaxFacts.topLevelItems.filterMap fun item => item.module).filter
    fun module => !module.isInline
  return (← mounts.mapM (testTargetModuleMountFinding projectRoot target)).filterMap id

/-! ## Advice explanations -/

/-- The parts an advice explanation must name. -/
def adviceExplanationIsStructured (explanation : String) : Bool :=
  ["scope=", "owner=", "finding_category=", "why_safe_now=", "cleanup_trigger="].all fun marker =>
    containsSlice marker.toList (explanation.toList.map Char.toLower)

def weakAdviceExplanationFindings (projectRoot : Path) (config : AspRustConfig) :
    FileProgram (List AspRustFinding) := do
  let weak := ([("agent_advice_allow_explanation", config.agentAdviceAllowExplanation),
    ("cargo_check_advice_allow_explanation", config.cargoCheckAdviceAllowExplanation),
    ("cargo_test_advice_allow_explanation", config.cargoTestAdviceAllowExplanation)].filter
      fun field => field.2.any fun explanation => !adviceExplanationIsStructured explanation)
  weak.mapM fun field => do
    let buildScript := Path.join projectRoot "build.rs"
    let found ← ask (.pathExists buildScript)
    return .fromRule rustProjR017
      (field.1 ++ " is configured without a structured allowance contract.")
      (fileLocation (if found then buildScript else Path.join projectRoot "Cargo.toml")) none
      "rewrite the explanation with scope=..., owner=..., finding_category=..., why_safe_now=..., and cleanup_trigger=..."

/-! ## The gate of the package

A package is to have its gate in its tests, found in the syntax of the parsed targets by
the names of calls and macros. -/

def textContains (pattern text : String) : Bool := containsSlice pattern.toList text.toList

/-- A name of the gate macros of the harness itself. -/
def isDirectGateName (name : String) : Bool :=
  name = "asp_rust_gate" || name = "asp_rust_cargo_test_gate"

/-- A function or macro that wraps the gate, by its name. -/
def isWorkspaceDevGateWrapper (name : String) : Bool :=
  !isDirectGateName name && (textContains "asp" name || textContains "harness" name) &&
    (textContains "gate" name || textContains "policy" name)

def endsWithGate (name : String) : Bool := "_gate".toList.reverse.isPrefixOf name.toList.reverse

def isWorkspaceDevGateWrapperFunction (name : String) : Bool :=
  isWorkspaceDevGateWrapper name &&
    ("assert_".toList.isPrefixOf name.toList || endsWithGate name) &&
    textContains "_from_env" name

def isWorkspaceDevGateWrapperMacro (name : String) : Bool :=
  isWorkspaceDevGateWrapper name && endsWithGate name

def legacyBuildPolicyFunctions : List String :=
  ["assert_asp_rust_build_clean", "assert_asp_rust_build_clean_with_config",
    "assert_asp_rust_build_clean_from_env", "assert_asp_rust_build_clean_from_env_with_config",
    "assert_asp_rust_cargo_check_clean", "assert_asp_rust_cargo_check_clean_with_config",
    "assert_asp_rust_cargo_check_clean_from_env",
    "assert_asp_rust_cargo_check_clean_from_env_with_config",
    "assert_asp_rust_downstream_policy", "assert_asp_rust_downstream_policy_from_env",
    "assert_asp_rust_downstream_policy_with_authority"]

def moduleContainsDevGateCall (module : ParsedRustModule) : Bool :=
  module.syntaxFacts.functionCalls.any fun name =>
    name ∈ legacyBuildPolicyFunctions || isWorkspaceDevGateWrapperFunction name

def moduleContainsCargoTestGate (module : ParsedRustModule) : Bool :=
  module.syntaxFacts.macroInvocations.any isDirectGateName

def moduleContainsWorkspaceTestGateWrapper (module : ParsedRustModule) : Bool :=
  (module.syntaxFacts.functionCalls.any isWorkspaceDevGateWrapperFunction) ||
    module.syntaxFacts.macroInvocations.any isWorkspaceDevGateWrapperMacro

/-- Two paths are equal, or lead to the same place. -/
def samePath (left right : Path) : FileProgram Bool := do
  if left = right then return true
  let left ← ask (.canonicalize left)
  let right ← ask (.canonicalize right)
  return left.isSome && left = right

def cargoTestGateFindings (projectRoot : Path) (manifest : CargoManifestFacts)
    (modules targets : List ParsedRustModule) : FileProgram (List AspRustFinding) := do
  let buildScriptPath := Path.join projectRoot "build.rs"
  let cargoToml := Path.join projectRoot "Cargo.toml"
  let buildScript ← findAsk? (fun module => samePath module.report.path buildScriptPath) modules
  let hasDevGateCall := buildScript.any moduleContainsDevGateCall
  let hasDirectCargoTestGate := (modules ++ targets).any moduleContainsCargoTestGate
  let hasBuildSupportTestGate := targets.any moduleContainsWorkspaceTestGateWrapper
  let hasCargoTestGate := hasDirectCargoTestGate || hasBuildSupportTestGate
  let harnessEnabled := manifest.referencesHarnessDevDependency ||
    manifest.referencesHarnessBuildDependency ||
    manifest.referencesHarnessNonOptionalNormalDependency || hasDevGateCall || hasCargoTestGate
  if !harnessEnabled then return []
  let outside := manifest.referencesHarnessBuildDependency ||
    (manifest.referencesHarnessNonOptionalNormalDependency && !manifest.isBuildSupportPackage)
  let incomplete := !manifest.isBuildSupportPackage &&
    ((!manifest.referencesHarnessDevDependency && !manifest.isAspRustPackage &&
      !hasBuildSupportTestGate) || !hasCargoTestGate)
  return (if outside then
      [.fromRule rustProjR006
        (displayProjectPath projectRoot cargoToml ++
          " activates ASP Rust outside the test dependency graph.")
        (fileLocation cargoToml) none
        "move asp-rust to [dev-dependencies] so ordinary builds and downstream package consumers do not compile the policy provider"]
    else []) ++
    (if hasDevGateCall then
      [.fromRule rustProjR009
        (displayProjectPath projectRoot buildScriptPath ++
          " activates ASP Rust while Cargo is building the package.")
        (fileLocation buildScriptPath) none
        "remove the ASP Rust call from build.rs and mount asp_rust_cargo_test_gate! from a cargo-test target"]
    else []) ++
    (if incomplete then
      [.fromRule rustProjR012
        (displayProjectPath projectRoot cargoToml ++
          " does not have a complete cargo-test ASP Rust policy gate.")
        (fileLocation cargoToml) none
        "declare asp-rust or the workspace Build Support crate under [dev-dependencies], then mount its policy macro in a cargo-test target"]
    else [])

/-! ## Benchmarks

Active adapters for performance need a benchmark that uses them.  The texts of the
benchmarks are read for that, until one is found. -/

/-- The configured performance adapter, when it is one of the Rust-native ones. -/
def activeRustNativePerformanceAdapters (config : AspRustConfig) : List String :=
  if .performance ∈ config.verificationPolicy.disabledTaskKinds.keys then []
  else
    ((((config.verificationPolicy.skillBindings.get? .performance).filter
      RustVerificationSkillBinding.isConfigured).bind RustVerificationSkillBinding.adapter).filter
        (· ∈ ["criterion", "divan", "iai-callgrind", "iai_callgrind"])).toList

def adapterPackageName (adapter : String) : String :=
  if adapter = "criterion" then "criterion"
  else if adapter = "divan" then "divan"
  else if adapter = "iai-callgrind" ∨ adapter = "iai_callgrind" then "iai-callgrind"
  else ""

/-- The text of a benchmark uses the framework of an adapter. -/
def sourceUsesAdapter (adapter source : String) : Bool :=
  if adapter = "criterion" then
    (textContains "criterion_group!" source && textContains "criterion_main!" source) ||
      (textContains "Criterion::" source && textContains ".final_summary()" source &&
        (textContains ".bench_function(" source || textContains ".benchmark_group(" source))
  else if adapter = "divan" then
    textContains "divan::main" source || textContains "#[divan::bench]" source
  else if adapter = "iai-callgrind" ∨ adapter = "iai_callgrind" then
    textContains "iai_callgrind::" source || textContains "library_benchmark_group!" source ||
      textContains "main!(" source
  else false

def benchTargetUsesAdapter (target : CargoBenchTargetFacts) (adapter : String) :
    FileProgram Bool := do
  match ← ask (.readToString target.path) with
  | .ok source => return sourceUsesAdapter adapter source
  | .error _ => return false

def targetMatchesRustNativePerformance (adapters : List String)
    (dependencies : List CargoDependencyFacts) (target : CargoBenchTargetFacts) :
    FileProgram Bool := do
  if target.harness then return false
  if ← ask (.pathExists target.path) then
    anyAsk (benchTargetUsesAdapter target) (adapters.filter fun adapter =>
      dependencies.any fun dependency =>
        dependency.kind ≠ .build && dependency.packageName = adapterPackageName adapter)
  else return false

def workspacePerformanceVerificationFindings (workspaceRoot : Path)
    (packageScopes : List AspRustScope) (config : AspRustConfig) :
    FileProgram (List AspRustFinding) := do
  let adapters := activeRustNativePerformanceAdapters config
  if adapters = [] then return []
  let hasBench ← anyAsk (fun scope => do
    let manifest ← ask (.cargoManifest scope.projectRoot)
    let dependencies ← ask (.cargoDependencies scope.projectRoot)
    anyAsk (targetMatchesRustNativePerformance adapters dependencies) manifest.benchTargets)
    packageScopes
  if hasBench then return []
  let cargoToml := Path.join workspaceRoot "Cargo.toml"
  return [.fromRule rustProjR010
    (displayProjectPath workspaceRoot cargoToml ++
      " configures a Rust-native performance verification skill, but Cargo.toml does not expose a runnable Criterion, Divan, or iai-callgrind harness=false [[bench]] target.")
    (fileLocation cargoToml) none
    "add a Criterion, Divan, or iai-callgrind [[bench]] target, declare the matching benchmark framework dependency, and keep the verification contract command pointed at it"]

/-! ## The pack

The rules in the order of the source.  Those that ask nothing are the fields of
`PureRules`. -/

/-- The rules that ask nothing themselves, and the parser.  Those that start from the
reasoning tree take the manifest it was built with. -/
structure PureRules where
  nativeSyntax : SyntaxReader
  /-- Syntax errors. -/
  syntaxPack : List ParsedRustModule → List AspRustFinding
  /-- The modularity pack. -/
  modularityPack :
    AspRustScope → CargoManifestFacts → List ParsedRustModule → List AspRustFinding
  /-- The agent policy pack. -/
  agentPolicyPack :
    AspRustScope → CargoManifestFacts → List ParsedRustModule → List AspRustFinding
  /-- Oversized test files. -/
  testBloatFindings :
    AspRustScope → CargoManifestFacts → List ParsedRustModule → List AspRustFinding
  /-- Gate macros without configuration or explanation. -/
  verificationIntegrationFindings :
    AspRustScope → CargoManifestFacts → AspRustConfig → List ParsedRustModule →
      List AspRustFinding
  /-- Waiver and wrapper surfaces. -/
  moduleQualityFindings : Path → List ParsedRustModule → List AspRustFinding

/-- What is read for the reasoning tree of a package: its manifest. -/
def reasoningTreeManifest (scope : AspRustScope) : FileProgram CargoManifestFacts :=
  ask (.cargoManifest scope.projectRoot)

/-- The project policy pack on a package. -/
def evaluateProjectPolicy (rules : PureRules) (scope : AspRustScope)
    (modules : List ParsedRustModule) (config : AspRustConfig) :
    FileProgram (List AspRustFinding) := do
  let projectRoot := scope.projectRoot
  let manifest ← ask (.cargoManifest projectRoot)
  let targets ← parseCargoTestTargets rules.nativeSyntax projectRoot manifest
  let treeManifest ← reasoningTreeManifest scope
  let layout ← testLayoutFindings projectRoot
  let scopes ← sourceScopeFindings projectRoot config manifest
  let mounts ← sourceTestMountFindings scope modules
  let aggregates ← targets.mapM (testTargetAggregateFindings projectRoot)
  let targetMounts ← targets.mapM (testTargetModuleMountFindings projectRoot)
  let weak ← weakAdviceExplanationFindings projectRoot config
  let gate ← cargoTestGateFindings projectRoot manifest modules targets
  return layout ++ manifestFindings projectRoot manifest ++ scopes ++ mounts ++
    rules.testBloatFindings scope treeManifest modules ++ aggregates.flatten ++ targetMounts.flatten ++
    rules.verificationIntegrationFindings scope treeManifest config modules ++
    (weak ++ rules.moduleQualityFindings projectRoot modules) ++ gate

end AspRust.Analysis
