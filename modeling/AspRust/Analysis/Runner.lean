import AspRust.Analysis.ProjectPolicy

/-!
# A package run

One discovery and parse pass over a package, the report of the rule packs on it,
and the verification plan.  The run is a program over the questions of
`FileQuery`; `scopeProgram_run` and `parsePackagePaths_paths` say what its first
part computes in a file system, in terms of the functions that the snapshot of
the gate uses too.

### What is load-bearing

The verification plan is the last part of a run and reads the manifest again for the tree it
starts from.  So the planner is a parameter that is given a manifest and the parsed modules,
and the run asks for that manifest in front of it: the verdict of a run depends on what
it asked, and on nothing that a parameter could look up by itself.
-/

namespace AspRust.Analysis

open AspRust.Foundation AspRust.Discovery AspRust.Verification

/-- A package with its parsed modules. -/
structure AspRustAnalysis where
  projectRoot : Path
  scope : AspRustScope
  parsedModules : List ParsedRustModule

/-- The parts of a run that do not ask the file system. -/
structure AnalysisHost extends PureRules where
  /-- Invariant candidates of the findings. -/
  invariantCandidatesFromFindings : List AspRustFinding → List RustInvariantCandidate
  /-- The verification planner, on the reasoning tree of the package with its manifest. -/
  planRustVerification :
    AspRustAnalysis → CargoManifestFacts → RustVerificationPolicy → RustVerificationPlan

/-! ## Discovery and parsing

The scope of a package, the files that discovery finds in it, and the parsed modules. -/

/-- The paths that exist, as a sorted set. -/
def existingPathsProgram (paths : List Path) : FileProgram (List Path) := do
  return (OrderedSet.ofList (← filterAsk (fun path => ask (.pathExists path)) paths)).keys

/-- The scope of a package run (`asp_rust_scope`). -/
def scopeProgram (projectRoot : Path) (config : AspRustConfig) : FileProgram AspRustScope := do
  let manifest ← ask (.cargoManifest projectRoot)
  let sourcePaths ← existingPathsProgram (config.sourceDirNames.map (Path.join projectRoot) ++
    [Path.join projectRoot "src"] ++ manifest.sourceTargetFiles.filterMap Path.parent?)
  let testPaths ←
    if config.includeTests then
      existingPathsProgram (config.testDirNames.map (Path.join projectRoot) ++
        [Path.join projectRoot "tests"] ++ manifest.testTargetFiles.filterMap Path.parent?)
    else pure []
  let packagePaths ← existingPathsProgram
    (["build.rs", "examples", "benches"].map (Path.join projectRoot) ++
      manifest.exampleTargets.map CargoExampleTargetFacts.path ++
      manifest.benchTargets.map CargoBenchTargetFacts.path)
  return ⟨projectRoot, sourcePaths, testPaths, packagePaths, [projectRoot]⟩

/-- The files of a package, parsed. -/
def parsePackagePaths (nativeSyntax : SyntaxReader) (paths : List Path) (packageRoot : Path)
    (config : AspRustConfig) : FileProgram (List ParsedRustModule) := do
  let excluded ← ask (.exclusionRoots packageRoot config.ignoredDirNames
    config.includeHiddenDirNames)
  let files ← ask (.rustFiles
    ⟨excluded, config.ignoredDirNames, config.includeHiddenDirNames⟩ paths)
  files.mapM (parseRustFile nativeSyntax)

def analyzeSingleProject (rules : PureRules) (projectRoot : Path) (config : AspRustConfig) :
    FileProgram AspRustAnalysis := do
  let scope ← scopeProgram projectRoot config
  let parsedModules ← parsePackagePaths rules.nativeSyntax scope.monitoredPaths projectRoot config
  return ⟨projectRoot, scope, parsedModules⟩

/-! ## The report

The rule packs on the analysed package, and the verdict of a run: the report and the
plan. -/

/-- The default rule packs on a package. -/
def evaluateDefaultRulePacksWithConfig (rules : PureRules) (scope : AspRustScope)
    (modules : List ParsedRustModule) (config : AspRustConfig) :
    FileProgram (List AspRustFinding) := do
  let project ← evaluateProjectPolicy rules scope modules config
  let modularity ← reasoningTreeManifest scope
  let agentPolicy ← reasoningTreeManifest scope
  return applyPolicyConfig config (rules.syntaxPack modules ++ project ++
    rules.modularityPack scope modularity modules ++
    rules.agentPolicyPack scope agentPolicy modules)

def evaluateWorkspaceRulePacksWithConfig (workspaceRoot : Path)
    (packageScopes : List AspRustScope) (config : AspRustConfig) :
    FileProgram (List AspRustFinding) := do
  return applyPolicyConfig config
    (← workspacePerformanceVerificationFindings workspaceRoot packageScopes config)

/-- The report of an analysed package. -/
def AspRustAnalysis.toReport (host : AnalysisHost) (analysis : AspRustAnalysis)
    (config : AspRustConfig) : FileProgram AspRustReport := do
  let own ← evaluateDefaultRulePacksWithConfig host.toPureRules analysis.scope
    analysis.parsedModules config
  let workspace ← evaluateWorkspaceRulePacksWithConfig analysis.projectRoot [analysis.scope]
    config
  let findings := own ++ workspace
  return {
    modules := analysis.parsedModules.map ParsedRustModule.report
    findings := findings
    invariantCandidates := host.invariantCandidatesFromFindings findings
    rootPaths := analysis.scope.monitoredPaths
    blockingSeverities := config.blockingSeverities
    projectResolution := some analysis.scope
    workspaceMemberScopes := [] }

/-- Discovery, rules and report of a package. -/
def packageReport (host : AnalysisHost) (projectRoot : Path) (config : AspRustConfig) :
    FileProgram AspRustReport := do
  (← analyzeSingleProject host.toPureRules projectRoot config).toReport host config

/-- The analysis of a package root, which must be there and be a package. -/
def analyzeRustProjectOnce (rules : PureRules) (projectRoot : Path) (config : AspRustConfig) :
    FileProgram (Except String AspRustAnalysis) := do
  if !(← ask (.pathExists projectRoot)) then
    return .error ("project root does not exist: " ++ projectRoot.display)
  match ← ask (.requiredCargoManifest projectRoot) with
  | .error error => return .error error
  | .ok manifest =>
      if !manifest.hasPackage then
        return .error ("Cargo graph anchor is a virtual workspace, not a package: " ++
          (Path.join projectRoot "Cargo.toml").display)
      return .ok (← analyzeSingleProject rules projectRoot config)

/-- What a gate run takes from the analysis: the report and the plan. -/
def packageVerdict (host : AnalysisHost) (projectRoot : Path) (config : AspRustConfig) :
    FileProgram (Except String (AspRustReport × RustVerificationPlan)) := do
  match ← analyzeRustProjectOnce host.toPureRules projectRoot config with
  | .error error => return .error error
  | .ok analysis =>
      let report ← analysis.toReport host config
      let treeManifest ← reasoningTreeManifest analysis.scope
      return .ok (report,
        host.planRustVerification analysis treeManifest config.verificationPolicy)

/-! ## What the first questions give

In a file system the first part of a run computes what the functions of `Discovery`
compute there. -/

section Runs

variable {fromPath : ManifestReader} {fs : FileSystem}

theorem filterAsk_run {α : Type} (world : Answers FileQuery) (test : α → FileProgram Bool)
    (list : List α) :
    (filterAsk test list).run world = list.filter fun element => (test element).run world := by
  induction list with
  | nil => rfl
  | cons head rest ih =>
      rw [filterAsk, Program.run_bind, Program.run_bind, ih, List.filter_cons]
      rfl

theorem existingPathsProgram_run (paths : List Path) :
    (existingPathsProgram paths).run (answers fromPath fs) = (existingPaths fs paths).keys := by
  rw [existingPathsProgram, Program.run_bind, filterAsk_run]
  rfl

/-- The scope the analysis uses is the scope of the file system. -/
theorem scopeProgram_run (projectRoot : Path) (config : AspRustConfig) :
    (scopeProgram projectRoot config).run (answers fromPath fs) =
      aspRustScope fromPath fs projectRoot config := by
  unfold scopeProgram aspRustScope
  simp only [Program.run_bind, Program.run_question, existingPathsProgram_run]
  by_cases htests : config.includeTests = true
  · rw [if_pos htests, if_pos htests, Program.run_bind, Program.run_bind,
      existingPathsProgram_run, existingPathsProgram_run]
    rfl
  · rw [if_neg htests, if_neg htests, Program.run_bind, Program.run_bind,
      existingPathsProgram_run]
    rfl

theorem parseRustFile_path (nativeSyntax : SyntaxReader) (path : Path)
    (world : Answers FileQuery) :
    ((parseRustFile nativeSyntax path).run world).report.path = path := by
  rw [parseRustFile, Program.run_bind]
  cases (ask (.readToString path)).run world with
  | error error => rfl
  | ok source =>
      dsimp only [Program.run_pure, parseRustSource]
      cases nativeSyntax path source <;> rfl

/-- The modules parsed below some paths are the files discovery finds there. -/
theorem parsePackagePaths_paths (nativeSyntax : SyntaxReader) (paths : List Path)
    (packageRoot : Path) (config : AspRustConfig) :
    ((parsePackagePaths nativeSyntax paths packageRoot config).run
        (answers fromPath fs)).map (fun module => module.report.path) =
      discoverRustPackageFiles (packageWalkFilter fromPath fs packageRoot config) fs paths := by
  unfold parsePackagePaths
  simp only [Program.run_bind, Program.run_question, Program.run_mapM]
  rw [List.map_map]
  exact (List.map_congr_left fun path _ => parseRustFile_path _ path _).trans (List.map_id _)

/-- The modules of a package run are the files discovery finds. -/
theorem analyzeSingleProject_paths (rules : PureRules) (projectRoot : Path)
    (config : AspRustConfig) :
    ((analyzeSingleProject rules projectRoot config).run
        (answers fromPath fs)).parsedModules.map (fun module => module.report.path) =
      discoverRustPackageFiles (packageWalkFilter fromPath fs projectRoot config) fs
        (aspRustScope fromPath fs projectRoot config).monitoredPaths := by
  unfold analyzeSingleProject
  simp only [Program.run_bind, scopeProgram_run]
  exact parsePackagePaths_paths _ _ _ _

/-- **The analysis of a package root, taken apart**: the root is there, its manifest is that
of a package, and the analysis is that of the package. -/
theorem analyzeRustProjectOnce_eq_ok {rules : PureRules} {projectRoot : Path}
    {config : AspRustConfig} {analysis : AspRustAnalysis} {world : Answers FileQuery}
    (h : (analyzeRustProjectOnce rules projectRoot config).run world = .ok analysis) :
    world _ (.pathExists projectRoot) = true ∧
      (∃ manifest, world _ (.requiredCargoManifest projectRoot) = .ok manifest ∧
        manifest.hasPackage = true) ∧
      analysis = (analyzeSingleProject rules projectRoot config).run world := by
  unfold analyzeRustProjectOnce at h
  rw [Program.run_bind] at h
  split at h
  · cases h
  · next hroot =>
      rw [Program.run_bind] at h
      split at h
      · cases h
      · next manifest hmanifest =>
          split at h
          · cases h
          · next hpackage =>
              rw [Program.run_bind] at h
              exact ⟨by simpa using hroot, ⟨manifest, hmanifest, by simpa using hpackage⟩,
                (Except.ok.inj h).symm⟩

/-- A verdict is one on an analysis of a package root. -/
theorem exists_analysis_of_verdict {host : AnalysisHost} {projectRoot : Path}
    {config : AspRustConfig} {world : Answers FileQuery}
    {verdict : AspRustReport × RustVerificationPlan}
    (h : (packageVerdict host projectRoot config).run world = .ok verdict) :
    ∃ analysis, (analyzeRustProjectOnce host.toPureRules projectRoot config).run world =
        .ok analysis ∧ (analysis.toReport host config).run world = verdict.1 := by
  unfold packageVerdict at h
  rw [Program.run_bind] at h
  split at h
  · cases h
  · next analysis hanalysis =>
      rw [Program.run_bind] at h
      exact ⟨analysis, hanalysis, congrArg Prod.fst (Except.ok.inj h)⟩

/-- What is judged is there, and is a package. -/
theorem isPackage_of_verdict {host : AnalysisHost} {projectRoot : Path} {config : AspRustConfig}
    {verdict : AspRustReport × RustVerificationPlan}
    (h : (packageVerdict host projectRoot config).run (answers fromPath fs) = .ok verdict) :
    fs.pathExists projectRoot = true ∧
      (parseCargoManifest fromPath fs projectRoot).hasPackage = true := by
  obtain ⟨analysis, hanalysis, -⟩ := exists_analysis_of_verdict h
  obtain ⟨hroot, ⟨manifest, hmanifest, hpackage⟩, -⟩ := analyzeRustProjectOnce_eq_ok hanalysis
  refine ⟨hroot, ?_⟩
  rwa [parseCargoManifest_of_required hmanifest]

/-- The modules that a verdict reports are the files discovery finds. -/
theorem packageVerdict_paths {host : AnalysisHost} {projectRoot : Path} {config : AspRustConfig}
    {report : AspRustReport} {plan : RustVerificationPlan}
    (h : (packageVerdict host projectRoot config).run (answers fromPath fs) =
      .ok (report, plan)) :
    report.modules.map (fun module => module.path) =
      discoverRustPackageFiles (packageWalkFilter fromPath fs projectRoot config) fs
        (aspRustScope fromPath fs projectRoot config).monitoredPaths := by
  obtain ⟨analysis, hanalysis, hreport⟩ := exists_analysis_of_verdict h
  obtain ⟨-, -, hsingle⟩ := analyzeRustProjectOnce_eq_ok hanalysis
  rw [← analyzeSingleProject_paths host.toPureRules projectRoot config, ← hsingle]
  dsimp only at hreport
  rw [← hreport]
  unfold AspRustAnalysis.toReport
  rw [Program.run_bind, Program.run_bind]
  change List.map _ (List.map _ _) = _
  rw [List.map_map]
  rfl

end Runs

end AspRust.Analysis
