import AspRust.DevGate.Transparency
import AspRust.Foundation.Utf8
import AspRust.Workspace.Legality

/-!
# The gate of a workspace

The gate of a workspace runs the gate of each package of the Build DAG, in the
order of the graph, with a policy that is made from the policy of the workspace.
A package has a cache directory of its own in the state home, named by a digest
of its root.

`memberOutcome` is what a member is for: the outcome of the gate of the package
with an empty cache, within the package.  The loop with its caches is compared
with it by an induction that carries the history of all runs in the state home:
seen from one directory it is a history of that directory
(`HomeHistory.directory`), so what is known of one cache applies to each.

## What is asked of the history

A cache directory is named by half of a digest, so that two projects can share
one, and a record says less than the gate looks at.  `Undisturbed` names what a
run needs of the earlier ones in its directory: no content changed behind its
length and time, they are runs of this project, and those that were told the same
agree with it on what a snapshot leaves open.  Runs in other directories are free,
and so are runs with other key inputs.  Within a workspace run the condition is
asked of each package after those before it (`AllUndisturbed`): the loop itself
adds to the history.

## Layout

* Policies, the state home and the run, as the source has them.
* Histories of the home, and one of its directories.
* The loop over the packages against `memberOutcome`.
* Two packages, one of which needs the other: a home in which both have run, and a run of
  the workspace in that home.
-/

namespace AspRust.DevGate

open AspRust.Foundation AspRust.Discovery AspRust.Verification AspRust.Analysis
open AspRust.Workspace

/-! ## Policies

The policy of a member is that of the workspace with the label and the configuration of
the member. -/

/-- The policy baseline that the packages of a workspace share. -/
structure AspRustWorkspacePolicy where
  workspaceLabel : String
  config : AspRustConfig
  dependencyBaseline : Option AspRustDependencyBaseline := none

namespace AspRustWorkspacePolicy

variable (policy : AspRustWorkspacePolicy)

def memberGateLabel (crateLabel : String) : String := policy.workspaceLabel ++ "::" ++ crateLabel

/-- The policy of a member, with a configuration made from the shared one. -/
def memberCrateWithConfig (crateLabel : String) (configure : AspRustConfig → AspRustConfig) :
    AspRustDownstreamPolicy where
  gateLabel := policy.memberGateLabel crateLabel
  config := configure policy.config
  dependencyBaseline := policy.dependencyBaseline

end AspRustWorkspacePolicy

/-! ## The state home

A state home maps directories to caches.  The directory of a project is its name and
half of a digest of its root, so two projects can share one. -/

/-- The cache directories, by their paths. -/
abbrev CacheHome := Path → CacheDirectory

/-- No cache has been written. -/
def emptyHome : CacheHome := fun _ _ => none

/-- The name of the cache directory of a project: half of the digest. -/
def projectIdentityStem (projectIdentity : List Char) : List Char := projectIdentity.take 32

def projectCacheRoot (base : Path) (projectIdentity : List Char) : Path :=
  ["rph", "bg", "v1", String.ofList (projectIdentityStem projectIdentity)].foldl Path.join base

/-- The cache directory of a project, when its root is there and there is a state
home. -/
def devGateCacheRoot (sha256 : Sha256) (fs : FileSystem) (projectRoot : Path)
    (stateHome : Option Path) : Option Path := do
  let canonicalRoot ← fs.canonicalize projectRoot
  let projectIdentity := cacheDigestHex sha256 (textBytes "asp-rust.dev-gate-cache.project.v1")
    (utf8 canonicalRoot.display.toList)
  let base := Path.join (Path.join (← stateHome) "runtime") "dev-gates"
  return projectCacheRoot base projectIdentity

section Home

variable (host : GateHost) (stateHome : Option Path)

/-- The cache directory of a run. -/
def GateRun.cacheRoot? (run : GateRun) : Option Path :=
  devGateCacheRoot host.sha256 run.fs run.request.projectRoot stateHome

/-- A run of the gate with the cache of its project. -/
def runWithHome (faults : RunFaults) (process : PublishingProcess) (run : GateRun)
    (home : CacheHome) : CacheHome × Outcome AspRustReport :=
  match run.cacheRoot? host stateHome with
  | none =>
      (home, (runAspRustDownstreamPolicy host faults process run.fs run.request none).2)
  | some root =>
      let result := runAspRustDownstreamPolicy host faults process run.fs run.request
        (some (home root))
      (Function.update home root (result.1.getD (home root)), result.2)

/-- The run for a member of a workspace: its report may be rejected later, and
does not end it. -/
def evaluationRun (fs : FileSystem) (projectRoot : Path) (policy : AspRustDownstreamPolicy) :
    GateRun where
  fs := fs
  request :=
    { projectRoot := projectRoot
      policy := policy
      policyAuthorityDigest := "blake3-256:workspace-policy-authority"
      assertReport := false }

/-- Evaluate one package without ending on its findings. -/
def evaluateAspRustDownstreamPolicy (faults : RunFaults) (process : PublishingProcess)
    (fs : FileSystem) (projectRoot : Path) (policy : AspRustDownstreamPolicy)
    (home : CacheHome) : CacheHome × Outcome AspRustReport :=
  runWithHome host stateHome faults process (evaluationRun fs projectRoot policy) home

end Home

/-! ## The run

The loop over the packages, with the failures that it passes on and the check that the
paths of a report stay below its package. -/

/-- The report of one package in a workspace run. -/
structure AspRustWorkspaceMemberRunReport where
  crateLabel : String
  projectRoot : Path
  report : AspRustReport

/-- The report of a workspace run. -/
structure AspRustWorkspaceRunReport where
  workspaceRoot : Path
  buildDag : AspRustWorkspaceBuildDag
  members : List AspRustWorkspaceMemberRunReport

/-- A closure of the caller that makes the configuration of a package, with the
state that it keeps between calls. -/
abbrev ConfigureMember (Local : Type) := String → AspRustConfig → Local → AspRustConfig × Local

section Run

variable {Local : Type} (host : GateHost) (stateHome : Option Path) (faults : RunFaults)
variable (processOf : BuildDagPackage → PublishingProcess) (fs : FileSystem)
variable (policy : AspRustWorkspacePolicy) (configureMember : ConfigureMember Local)

/-- The policy of a package. -/
def memberPolicy (package : BuildDagPackage) (kept : Local) : AspRustDownstreamPolicy :=
  policy.memberCrateWithConfig package.packageName fun config =>
    (configureMember package.packageName config kept).1

/-- What the closure keeps after a package. -/
def keptAfter (package : BuildDagPackage) (kept : Local) : Local :=
  (configureMember package.packageName policy.config kept).2

/-- The report stays within the package. -/
def staysWithin (package : BuildDagPackage) (report : AspRustReport) : Bool :=
  report.rootPaths.all package.packageRoot.isPrefixOf

/-- The entry of a package that was evaluated. -/
def memberReport (package : BuildDagPackage) (report : AspRustReport) :
    AspRustWorkspaceMemberRunReport :=
  ⟨package.packageName, package.packageRoot, report⟩

def escapeMessage (package : BuildDagPackage) : String :=
  "workspace member gate escaped package atom " ++ package.packageRoot.display

/-- The packages in turn, until one panics. -/
def evaluateMembers : List BuildDagPackage → CacheHome → Local →
    CacheHome × Outcome (List AspRustWorkspaceMemberRunReport)
  | [], home, _ => (home, .ok [])
  | package :: rest, home, kept =>
      match evaluateAspRustDownstreamPolicy host stateHome faults (processOf package) fs
          package.packageRoot (memberPolicy policy configureMember package kept) home with
      | (home, .error fault) => (home, .error fault)
      | (home, .ok report) =>
          if staysWithin package report then
            let (home, members) := evaluateMembers rest home
              (keptAfter policy configureMember package kept)
            (home, members.map (memberReport package report :: ·))
          else (home, .error (.panicked (escapeMessage package)))

/-- Evaluate a Build DAG without rejecting its findings. -/
def evaluateAspRustWorkspaceBuildDagPolicyWith (buildDag : AspRustWorkspaceBuildDag)
    (home : CacheHome) (kept : Local) : CacheHome × Outcome AspRustWorkspaceRunReport :=
  let (home, members) := evaluateMembers host stateHome faults processOf fs policy
    configureMember buildDag.packages home kept
  (home, members.map fun members => ⟨buildDag.workspaceRoot, buildDag, members⟩)

/-- The text for a member that is not clean. -/
def rejectionText (workspaceLabel : String) (member : AspRustWorkspaceMemberRunReport) : String :=
  "[" ++ workspaceLabel ++ "::" ++ member.crateLabel ++ "]\n" ++ host.renderAspRust member.report

/-- Every member is clean. -/
def assertWorkspaceReportClean (report : AspRustWorkspaceRunReport) (workspaceLabel : String) :
    Outcome Unit :=
  let rejections := (report.members.filter fun member => !member.report.isClean).map
    (rejectionText host workspaceLabel)
  if rejections = [] then return ()
  else throw (.panicked ("ASP Rust workspace policy rejected " ++ toString rejections.length ++
    " of " ++ toString report.members.length ++ " package atoms:\n" ++
    "\n\n".intercalate rejections))

/-- Evaluate a Cargo workspace. -/
def evaluateAspRustWorkspacePolicyWith (globs : GlobLibrary) (workspaceRoot : Path)
    (home : CacheHome) (kept : Local) : CacheHome × Outcome AspRustWorkspaceRunReport :=
  match aspRustWorkspaceBuildDag host.manifestFromPath fs globs workspaceRoot policy.config with
  | .error (.returned error) =>
      (home, .error (.panicked ("ASP Rust workspace dependency graph: " ++ error)))
  | .error fault => (home, .error fault)
  | .ok buildDag => evaluateAspRustWorkspaceBuildDagPolicyWith host stateHome faults processOf fs
      policy configureMember buildDag home kept

/-- Assert a Cargo workspace. -/
def assertAspRustWorkspacePolicyWith (globs : GlobLibrary) (workspaceRoot : Path)
    (home : CacheHome) (kept : Local) : CacheHome × Outcome AspRustWorkspaceRunReport :=
  match evaluateAspRustWorkspacePolicyWith host stateHome faults processOf fs policy
      configureMember globs workspaceRoot home kept with
  | (home, .error fault) => (home, .error fault)
  | (home, .ok report) =>
      (home, (assertWorkspaceReportClean host report policy.workspaceLabel).map fun _ => report)

end Run

/-! ## Histories of the home

The runs in a home, whichever project they are of.  A run changes the cache of its own
directory only, so what happened in one directory is a history of gate runs on one
cache, to which the results about a cache apply. -/

/-- What package runs leave in the state home, starting from an empty one, with
the runs, the latest first.  Each run uses the cache of its project; projects,
policies and files change freely from one run to the next. -/
inductive HomeHistory (host : GateHost) (stateHome : Option Path) :
    List GateRun → CacheHome → Prop where
  | start : HomeHistory host stateHome [] emptyHome
  | run {log : List GateRun} {home : CacheHome} (before : HomeHistory host stateHome log home)
      (process : PublishingProcess) (run : GateRun) :
      HomeHistory host stateHome (run :: log)
        (runWithHome host stateHome noRunFaults process run home).1

/-- The runs that used a directory. -/
def runsIn (host : GateHost) (stateHome : Option Path) (root : Path) (log : List GateRun) :
    List GateRun :=
  log.filter fun run => run.cacheRoot? host stateHome = some root

section Histories

variable {host : GateHost} {stateHome : Option Path} {log : List GateRun} {home : CacheHome}

/-- **One directory of the home** has the history of the runs that used it. -/
theorem HomeHistory.directory (h : HomeHistory host stateHome log home) (root : Path) :
    GateHistory host (runsIn host stateHome root log) (home root) := by
  induction h with
  | start => exact .start
  | @run log home before process run ih =>
      cases hused : run.cacheRoot? host stateHome with
      | none =>
          rw [runsIn, List.filter_cons_of_neg (by simp [hused]), runWithHome, hused]
          exact ih
      | some used =>
          rw [runWithHome, hused]
          dsimp only
          by_cases hroot : used = root
          · subst hroot
            rw [runsIn, List.filter_cons_of_pos (by simp [hused]), Function.update_self]
            exact ih.run process run
          · rw [runsIn, List.filter_cons_of_neg (by simpa [hused] using hroot),
              Function.update_of_ne (Ne.symm hroot)]
            exact ih

/-- The outcome of a run, when nothing was cached. -/
def freshOutcome (host : GateHost) (stateHome : Option Path) (run : GateRun) :
    Outcome AspRustReport :=
  (runWithHome host stateHome noRunFaults ⟨0, 0⟩ run emptyHome).2

/-- With a cache directory, a run of which nothing was cached is a run in an empty one. -/
theorem freshOutcome_eq_tidyRun {run : GateRun} {root : Path}
    (hused : run.cacheRoot? host stateHome = some root) :
    freshOutcome host stateHome run = (tidyRun host run fun _ => none).2 := by
  unfold freshOutcome runWithHome
  rw [hused]
  dsimp only
  rw [show emptyHome root = fun _ => none from rfl,
    runAspRustDownstreamPolicy_of_invariant run ⟨0, 0⟩ (cacheInvariant_empty host)
      (unambiguous_of_eq run.moment (by simp))]

/-- What a run finds in its cache is right for it: in the runs that used its
directory, length and time determine the content of a path; they are runs of its
project; and those that were told the same are compatible with it. -/
structure Undisturbed (host : GateHost) (stateHome : Option Path) (log : List GateRun)
    (now : GateRun) : Prop where
  unambiguous : ∀ root, now.cacheRoot? host stateHome = some root →
    Unambiguous host.toSnapshotHost
      (now.moment :: (runsIn host stateHome root log).map GateRun.moment)
  sameRoot : ∀ root, now.cacheRoot? host stateHome = some root →
    ∀ earlier ∈ runsIn host stateHome root log,
      earlier.request.projectRoot = now.request.projectRoot
  compatible : ∀ root, now.cacheRoot? host stateHome = some root →
    ∀ earlier ∈ runsIn host stateHome root log, SameKeyInputs host earlier now →
      Compatible host earlier now

/-- A run is not disturbed by itself. -/
theorem undisturbed_of_same {now : GateRun}
    (h : ∀ earlier ∈ log, earlier.cacheRoot? host stateHome = now.cacheRoot? host stateHome →
      earlier = now) : Undisturbed host stateHome log now := by
  have hsame : ∀ root, now.cacheRoot? host stateHome = some root →
      ∀ earlier ∈ runsIn host stateHome root log, earlier = now := by
    intro root hused earlier hearlier
    obtain ⟨hmem, hroot⟩ := List.mem_filter.mp hearlier
    exact h earlier hmem ((of_decide_eq_true hroot).trans hused.symm)
  refine ⟨fun root hused => ?_, fun root hused earlier hearlier => ?_,
    fun root hused earlier hearlier _ => ?_⟩
  · refine unambiguous_of_eq now.moment fun moment hmoment => ?_
    rcases List.mem_cons.mp hmoment with rfl | hmoment
    · rfl
    · obtain ⟨earlier, hearlier, rfl⟩ := List.mem_map.mp hmoment
      rw [hsame root hused earlier hearlier]
  · rw [hsame root hused earlier hearlier]
  · rw [hsame root hused earlier hearlier]
    exact .refl now

/-- Without a cache, nothing is published, and the process does not matter. -/
theorem runAspRustDownstreamPolicy_none (run : GateRun) (process other : PublishingProcess) :
    runAspRustDownstreamPolicy host noRunFaults process run.fs run.request none =
      runAspRustDownstreamPolicy host noRunFaults other run.fs run.request none := by
  unfold runAspRustDownstreamPolicy snapshotDevGateInputsWithCache
  rw [Option.bind_none, Option.getD_none]
  dsimp only
  cases computeSnapshot host.toSnapshotHost run.fs run.request.projectRoot run.request.config {}
    with
  | error error => rfl
  | ok computed => rfl

/-- **A run of the home** ends as it does when nothing was cached. -/
theorem runWithHome_outcome (hhistory : HomeHistory host stateHome log home) {now : GateRun}
    (hnow : Undisturbed host stateHome log now) (process : PublishingProcess) :
    (runWithHome host stateHome noRunFaults process now home).2 =
      freshOutcome host stateHome now := by
  cases hused : now.cacheRoot? host stateHome with
  | none =>
      unfold freshOutcome runWithHome
      rw [hused]
      show (runAspRustDownstreamPolicy host noRunFaults process now.fs now.request none).2 = _
      rw [runAspRustDownstreamPolicy_none now process ⟨0, 0⟩]
  | some root =>
      have hunambiguous := hnow.unambiguous root hused
      have hinvariant := (hhistory.directory root).invariant
        (hunambiguous.mono (List.subset_cons_self _ _))
      rw [freshOutcome_eq_tidyRun hused, runWithHome, hused]
      dsimp only
      rw [runAspRustDownstreamPolicy_of_invariant now process hinvariant hunambiguous]
      exact tidyRun_outcome (hnow.sameRoot root hused)
        (findsCompatible_of_sameKeyInputs hinvariant (hnow.compatible root hused))

/-- A record-free run that passes evaluates its package. -/
theorem evaluatePackage_of_coldRun {run : GateRun} {snapshot : AspRustDevGateSnapshot}
    {cacheKey : String} {directory : CacheDirectory} {report : AspRustReport}
    (h : (coldRun host run snapshot cacheKey directory).2 = .ok report) :
    ∃ plan, evaluatePackage host run.request run.fs = .ok (report, plan) := by
  unfold coldRun at h
  cases hverdict : evaluatePackage host run.request run.fs with
  | error fault => simp [hverdict, throw, throwThe, MonadExceptOf.throw] at h
  | ok verdict =>
      rw [hverdict] at h
      dsimp only at h
      split at h
      · simp [throw, throwThe, MonadExceptOf.throw] at h
      · split at h
        · simp [throw, throwThe, MonadExceptOf.throw] at h
        · obtain rfl := Except.ok.inj h
          exact ⟨verdict.2, rfl⟩

/-- A run without a cache that passes evaluates its package. -/
theorem evaluatePackage_of_uncached {run : GateRun} {process : PublishingProcess}
    {report : AspRustReport}
    (h : (runAspRustDownstreamPolicy host noRunFaults process run.fs run.request none).2 =
      .ok report) :
    ∃ plan, evaluatePackage host run.request run.fs = .ok (report, plan) := by
  unfold runAspRustDownstreamPolicy snapshotDevGateInputsWithCache at h
  rw [Option.bind_none, Option.getD_none] at h
  dsimp only at h
  cases hcompute : computeSnapshot host.toSnapshotHost run.fs run.request.projectRoot
      run.request.config {} with
  | error error => simp [hcompute, throw, throwThe, MonadExceptOf.throw] at h
  | ok computed =>
      rw [hcompute] at h
      dsimp only at h
      split at h
      · simp [throw, throwThe, MonadExceptOf.throw] at h
      · dsimp only [Option.bind_none] at h
        split at h
        · simp [throw, throwThe, MonadExceptOf.throw] at h
        · next verdict hverdict =>
            obtain rfl := Except.ok.inj h
            exact ⟨verdict.2, hverdict⟩

/-- **A fresh report is an analysis**: it is what the rules say of the package now,
with a plan that the gate accepts. -/
theorem verdict_of_freshOutcome {run : GateRun} {report : AspRustReport}
    (h : freshOutcome host stateHome run = .ok report) :
    ∃ plan, requestVerdict host run.request run.fs = .ok (report, plan) ∧
      gateChecks host run.request run.fs report plan = .ok () := by
  have hevaluated : ∃ plan, evaluatePackage host run.request run.fs = .ok (report, plan) := by
    cases hused : run.cacheRoot? host stateHome with
    | none =>
        rw [freshOutcome, runWithHome, hused] at h
        exact evaluatePackage_of_uncached h
    | some root =>
        rw [freshOutcome_eq_tidyRun hused] at h
        unfold tidyRun at h
        split at h
        · simp [throw, throwThe, MonadExceptOf.throw] at h
        · split at h
          · simp [throw, throwThe, MonadExceptOf.throw] at h
          · dsimp only at h
            split at h
            · simp [throw, throwThe, MonadExceptOf.throw] at h
            · rw [show loadDevGateCache host.toCacheHost (fun _ => none) _ = none from rfl] at h
              exact evaluatePackage_of_coldRun h
  obtain ⟨plan, hplan⟩ := hevaluated
  have hverdict := verdict_of_evaluatePackage hplan
  rw [evaluatePackage_of_verdict hverdict] at hplan
  obtain ⟨⟨⟩, hchecks, -⟩ := Except.map_eq_ok.mp hplan
  exact ⟨plan, hverdict, hchecks⟩

end Histories

/-! ## The loop

The loop is compared with a list: the outcome of each package as if nothing had been
cached, up to the first that fails.  The induction carries the history, since each
package adds its run to it. -/

section Members

variable {Local : Type} {host : GateHost} {stateHome : Option Path}
variable {log : List GateRun} {home : CacheHome}
variable (fs : FileSystem) (policy : AspRustWorkspacePolicy)
variable (configureMember : ConfigureMember Local)

/-- The packages with their runs, in order. -/
def memberRuns : List BuildDagPackage → Local → List (BuildDagPackage × GateRun)
  | [], _ => []
  | package :: rest, kept =>
      (package, evaluationRun fs package.packageRoot
        (memberPolicy policy configureMember package kept)) ::
        memberRuns rest (keptAfter policy configureMember package kept)

/-- What a package of a workspace comes to, when nothing was cached. -/
def memberOutcome (host : GateHost) (stateHome : Option Path)
    (entry : BuildDagPackage × GateRun) : Outcome AspRustWorkspaceMemberRunReport := do
  let report ← freshOutcome host stateHome entry.2
  if staysWithin entry.1 report then return memberReport entry.1 report
  else throw (.panicked (escapeMessage entry.1))

/-- None of the runs is disturbed by those before it. -/
def AllUndisturbed (host : GateHost) (stateHome : Option Path) :
    List GateRun → List GateRun → Prop
  | _, [] => True
  | log, run :: rest =>
      Undisturbed host stateHome log run ∧ AllUndisturbed host stateHome (run :: log) rest

variable {fs policy configureMember}

/-- **The loop is its members.**  The packages of a workspace come to what each
comes to when nothing was cached, up to the first that panics. -/
theorem evaluateMembers_outcome (processOf : BuildDagPackage → PublishingProcess)
    {packages : List BuildDagPackage} {kept : Local}
    (hhistory : HomeHistory host stateHome log home)
    (hundisturbed : AllUndisturbed host stateHome log
      ((memberRuns fs policy configureMember packages kept).map Prod.snd)) :
    (evaluateMembers host stateHome noRunFaults processOf fs policy configureMember packages home
        kept).2 =
      (memberRuns fs policy configureMember packages kept).mapM (memberOutcome host stateHome) := by
  induction packages generalizing log home kept with
  | nil => rfl
  | cons package rest ih =>
      obtain ⟨hfirst, hrest⟩ := hundisturbed
      have houtcome := runWithHome_outcome hhistory hfirst (processOf package)
      have hafter := ih (hhistory.run (processOf package) _) hrest
      rw [memberRuns, List.mapM_cons, evaluateMembers, evaluateAspRustDownstreamPolicy,
        memberOutcome, ← houtcome]
      generalize runWithHome host stateHome noRunFaults (processOf package)
        (evaluationRun fs package.packageRoot
          (memberPolicy policy configureMember package kept)) home = result at hafter ⊢
      obtain ⟨after, report | report⟩ := result
      · rfl
      · dsimp only [bind, Except.bind]
        split
        · dsimp only [pure, Except.pure]
          rw [hafter]
          cases List.mapM (memberOutcome host stateHome) (memberRuns fs policy configureMember rest
              (keptAfter policy configureMember package kept)) with
          | error fault => rfl
          | ok members => rfl
        · rfl

/-- A workspace run is a history of package runs. -/
theorem HomeHistory.evaluateMembers (processOf : BuildDagPackage → PublishingProcess)
    {packages : List BuildDagPackage} {kept : Local}
    (hhistory : HomeHistory host stateHome log home) :
    ∃ ran, ran <+: (memberRuns fs policy configureMember packages kept).map Prod.snd ∧
      HomeHistory host stateHome (ran.reverse ++ log)
        (evaluateMembers host stateHome noRunFaults processOf fs policy configureMember packages
          home kept).1 := by
  induction packages generalizing log home kept with
  | nil => exact ⟨[], List.nil_prefix, hhistory⟩
  | cons package rest ih =>
      have hafter := hhistory.run (processOf package) (evaluationRun fs package.packageRoot
        (memberPolicy policy configureMember package kept))
      obtain ⟨ran, hran, hrest⟩ := @ih _ _ (keptAfter policy configureMember package kept) hafter
      rw [memberRuns, List.map_cons, DevGate.evaluateMembers, evaluateAspRustDownstreamPolicy]
      generalize evaluationRun fs package.packageRoot
        (memberPolicy policy configureMember package kept) = run at hafter hrest ⊢
      generalize runWithHome host stateHome noRunFaults (processOf package) run home = result
        at hafter hrest ⊢
      obtain ⟨after, report | report⟩ := result
      · exact ⟨[run], by simp, hafter⟩
      · dsimp only
        split
        · exact ⟨run :: ran, by simpa using hran, by simpa using hrest⟩
        · exact ⟨[run], by simp, hafter⟩

/-- A package that passes the gate of its workspace. -/
structure MemberPasses (host : GateHost) (stateHome : Option Path)
    (entry : BuildDagPackage × GateRun) (member : AspRustWorkspaceMemberRunReport) : Prop where
  label : member.crateLabel = entry.1.packageName
  root : member.projectRoot = entry.1.packageRoot
  fresh : freshOutcome host stateHome entry.2 = .ok member.report
  within : ∀ path ∈ member.report.rootPaths, ∃ relative, path = entry.1.packageRoot ++ relative
  clean : member.report.isClean = true

theorem staysWithin_iff {package : BuildDagPackage} {report : AspRustReport} :
    staysWithin package report = true ↔
      ∀ path ∈ report.rootPaths, ∃ relative, path = package.packageRoot ++ relative := by
  simp only [staysWithin, List.all_eq_true, List.isPrefixOf_iff_prefix]
  exact forall₂_congr fun path _ => exists_congr fun relative => eq_comm

theorem memberOutcome_eq_ok {entry : BuildDagPackage × GateRun}
    {member : AspRustWorkspaceMemberRunReport} :
    memberOutcome host stateHome entry = .ok member ↔
      member = memberReport entry.1 member.report ∧
        freshOutcome host stateHome entry.2 = .ok member.report ∧
        staysWithin entry.1 member.report = true := by
  constructor
  · intro h
    obtain ⟨report, hfresh, h⟩ := Except.bind_eq_ok.mp h
    split at h
    · next hwithin =>
        obtain rfl := Except.ok.inj h
        exact ⟨rfl, hfresh, hwithin⟩
    · simp [throw, throwThe, MonadExceptOf.throw] at h
  · rintro ⟨hmember, hfresh, hwithin⟩
    rw [memberOutcome, hfresh]
    dsimp only [bind, Except.bind]
    rw [if_pos hwithin, ← hmember]
    rfl

/-- A clean outcome is that of a package that passes. -/
theorem memberPasses_iff {entry : BuildDagPackage × GateRun}
    {member : AspRustWorkspaceMemberRunReport} :
    MemberPasses host stateHome entry member ↔
      memberOutcome host stateHome entry = .ok member ∧ member.report.isClean = true := by
  rw [memberOutcome_eq_ok]
  constructor
  · rintro ⟨hlabel, hroot, hfresh, hwithin, hclean⟩
    refine ⟨⟨?_, hfresh, staysWithin_iff.mpr hwithin⟩, hclean⟩
    rw [memberReport, ← hlabel, ← hroot]
  · rintro ⟨⟨hmember, hfresh, hwithin⟩, hclean⟩
    exact ⟨congrArg AspRustWorkspaceMemberRunReport.crateLabel hmember,
      congrArg AspRustWorkspaceMemberRunReport.projectRoot hmember, hfresh,
      staysWithin_iff.mp hwithin, hclean⟩

/-- The report is clean when its members are. -/
theorem assertWorkspaceReportClean_eq_ok {report : AspRustWorkspaceRunReport}
    {workspaceLabel : String} :
    assertWorkspaceReportClean host report workspaceLabel = .ok () ↔
      ∀ member ∈ report.members, member.report.isClean = true := by
  unfold assertWorkspaceReportClean
  dsimp only
  split
  · next hnone =>
      simpa [pure, Except.pure] using hnone
  · next hsome =>
      simpa [throw, throwThe, MonadExceptOf.throw] using hsome

/-- Clean outcomes are those of packages that pass. -/
theorem forall₂_memberPasses {entries : List (BuildDagPackage × GateRun)}
    {members : List AspRustWorkspaceMemberRunReport} :
    List.Forall₂ (MemberPasses host stateHome) entries members ↔
      List.Forall₂ (fun entry member => memberOutcome host stateHome entry = .ok member) entries
          members ∧ ∀ member ∈ members, member.report.isClean = true := by
  constructor
  · intro h
    induction h with
    | nil => exact ⟨.nil, by simp⟩
    | cons hfirst _ ih =>
        obtain ⟨hok, hclean⟩ := memberPasses_iff.mp hfirst
        exact ⟨.cons hok ih.1, List.forall_mem_cons.mpr ⟨hclean, ih.2⟩⟩
  · rintro ⟨h, hclean⟩
    induction h with
    | nil => exact .nil
    | cons hfirst _ ih =>
        obtain ⟨hfirstClean, hrest⟩ := List.forall_mem_cons.mp hclean
        exact .cons (memberPasses_iff.mpr ⟨hfirst, hfirstClean⟩) (ih hrest)

/-- The runs are one for each package. -/
theorem map_fst_memberRuns (packages : List BuildDagPackage) (kept : Local) :
    (memberRuns fs policy configureMember packages kept).map Prod.fst = packages := by
  induction packages generalizing kept with
  | nil => rfl
  | cons package rest ih => rw [memberRuns, List.map_cons, ih]

/-- The evaluation of a graph whose runs are not disturbed. -/
theorem evaluateBuildDag_eq_ok (processOf : BuildDagPackage → PublishingProcess)
    {buildDag : AspRustWorkspaceBuildDag} {kept : Local}
    (hhistory : HomeHistory host stateHome log home)
    (hundisturbed : AllUndisturbed host stateHome log
      ((memberRuns fs policy configureMember buildDag.packages kept).map Prod.snd))
    {run : AspRustWorkspaceRunReport} :
    (evaluateAspRustWorkspaceBuildDagPolicyWith host stateHome noRunFaults processOf fs policy
        configureMember buildDag home kept).2 = .ok run ↔
      run.workspaceRoot = buildDag.workspaceRoot ∧ run.buildDag = buildDag ∧
        List.Forall₂ (fun entry member => memberOutcome host stateHome entry = .ok member)
          (memberRuns fs policy configureMember buildDag.packages kept) run.members := by
  rw [evaluateAspRustWorkspaceBuildDagPolicyWith]
  dsimp only
  rw [evaluateMembers_outcome processOf hhistory hundisturbed, Except.map_eq_ok,
    ← mapM_eq_ok_iff_forall₂]
  constructor
  · rintro ⟨members, hmembers, rfl⟩
    exact ⟨rfl, rfl, hmembers⟩
  · rintro ⟨hroot, hdag, hmembers⟩
    refine ⟨run.members, hmembers, ?_⟩
    rw [← hroot, ← hdag]

/-- The evaluation of a workspace is that of its graph. -/
theorem evaluateWorkspace_eq_ok (processOf : BuildDagPackage → PublishingProcess)
    {globs : GlobLibrary} {workspaceRoot : Path} {kept : Local}
    (hhistory : HomeHistory host stateHome log home)
    (hundisturbed : ∀ buildDag, aspRustWorkspaceBuildDag host.manifestFromPath fs globs
        workspaceRoot policy.config = .ok buildDag →
      AllUndisturbed host stateHome log
        ((memberRuns fs policy configureMember buildDag.packages kept).map Prod.snd))
    {run : AspRustWorkspaceRunReport} :
    (evaluateAspRustWorkspacePolicyWith host stateHome noRunFaults processOf fs policy
        configureMember globs workspaceRoot home kept).2 = .ok run ↔
      ∃ buildDag, aspRustWorkspaceBuildDag host.manifestFromPath fs globs workspaceRoot
          policy.config = .ok buildDag ∧
        run.workspaceRoot = buildDag.workspaceRoot ∧ run.buildDag = buildDag ∧
        List.Forall₂ (fun entry member => memberOutcome host stateHome entry = .ok member)
          (memberRuns fs policy configureMember buildDag.packages kept) run.members := by
  unfold evaluateAspRustWorkspacePolicyWith
  cases hdag : aspRustWorkspaceBuildDag host.manifestFromPath fs globs workspaceRoot
      policy.config with
  | error fault => cases fault <;> simp
  | ok buildDag =>
      dsimp only
      rw [evaluateBuildDag_eq_ok processOf hhistory (hundisturbed buildDag hdag)]
      constructor
      · intro h
        exact ⟨buildDag, rfl, h⟩
      · rintro ⟨derived, heq, h⟩
        obtain rfl := Except.ok.inj heq
        exact h

/-- The assertion of a workspace is its evaluation, with clean members. -/
theorem assertWorkspace_eq_ok_iff {processOf : BuildDagPackage → PublishingProcess}
    {globs : GlobLibrary} {workspaceRoot : Path} {kept : Local}
    {run : AspRustWorkspaceRunReport} :
    (assertAspRustWorkspacePolicyWith host stateHome noRunFaults processOf fs policy
        configureMember globs workspaceRoot home kept).2 = .ok run ↔
      (evaluateAspRustWorkspacePolicyWith host stateHome noRunFaults processOf fs policy
          configureMember globs workspaceRoot home kept).2 = .ok run ∧
        ∀ member ∈ run.members, member.report.isClean = true := by
  unfold assertAspRustWorkspacePolicyWith
  generalize evaluateAspRustWorkspacePolicyWith host stateHome noRunFaults processOf fs policy
    configureMember globs workspaceRoot home kept = result
  obtain ⟨after, fault | report⟩ := result
  · simp
  · dsimp only
    rw [Except.map_eq_ok]
    constructor
    · rintro ⟨⟨⟩, hclean, rfl⟩
      exact ⟨rfl, assertWorkspaceReportClean_eq_ok.mp hclean⟩
    · rintro ⟨heq, hclean⟩
      obtain rfl := Except.ok.inj heq
      exact ⟨(), assertWorkspaceReportClean_eq_ok.mpr hclean, rfl⟩

/-- **A workspace passes when its packages do.**  After any history of the state home by
which its packages are undisturbed, the assertion of a workspace returns exactly when
its Build DAG is derived, and the gate of each package passes as if nothing had been
cached, within the package and with a clean report; what it returns are those reports,
in the order of the graph.

The packages run one after another, and each adds its run to the history of the next.
So to be undisturbed is asked for along the way (`AllUndisturbed`), of each run with
those before it. -/
theorem assertWorkspacePolicy_eq_ok (processOf : BuildDagPackage → PublishingProcess)
    (globs : GlobLibrary) (workspaceRoot : Path) (kept : Local)
    (hhistory : HomeHistory host stateHome log home)
    (hundisturbed : ∀ buildDag, aspRustWorkspaceBuildDag host.manifestFromPath fs globs
        workspaceRoot policy.config = .ok buildDag →
      AllUndisturbed host stateHome log
        ((memberRuns fs policy configureMember buildDag.packages kept).map Prod.snd))
    (run : AspRustWorkspaceRunReport) :
    (assertAspRustWorkspacePolicyWith host stateHome noRunFaults processOf fs policy
        configureMember globs workspaceRoot home kept).2 = .ok run ↔
      ∃ buildDag, aspRustWorkspaceBuildDag host.manifestFromPath fs globs workspaceRoot
          policy.config = .ok buildDag ∧
        run.workspaceRoot = buildDag.workspaceRoot ∧ run.buildDag = buildDag ∧
        List.Forall₂ (MemberPasses host stateHome)
          (memberRuns fs policy configureMember buildDag.packages kept) run.members := by
  rw [assertWorkspace_eq_ok_iff, evaluateWorkspace_eq_ok processOf hhistory hundisturbed]
  constructor
  · rintro ⟨⟨buildDag, hdag, hroot, hgraph, hmembers⟩, hclean⟩
    exact ⟨buildDag, hdag, hroot, hgraph, forall₂_memberPasses.mpr ⟨hmembers, hclean⟩⟩
  · rintro ⟨buildDag, hdag, hroot, hgraph, hmembers⟩
    obtain ⟨hmembers, hclean⟩ := forall₂_memberPasses.mp hmembers
    exact ⟨⟨buildDag, hdag, hroot, hgraph, hmembers⟩, hclean⟩

/-- In a Build DAG the local dependencies of a package come before it. -/
theorem earlier_of_isBuildDag {rootByName : PackageRootsByName}
    {dependenciesByName : DependenciesByName} {order : List String}
    {packages : List BuildDagPackage}
    (hdag : IsBuildDag rootByName dependenciesByName order packages) {position : ℕ}
    {package : BuildDagPackage} (hpackage : packages[position]? = some package)
    {dependency : String} (hdependency : dependency ∈ package.localDependencies) :
    ∃ earlier < position,
      (packages.map BuildDagPackage.packageName)[earlier]? = some dependency := by
  obtain ⟨hposition, rfl⟩ := List.getElem?_eq_some_iff.mp hpackage
  have hlookup := (hdag.lookups _ (List.getElem_mem hposition)).2
  have hlt := hdag.dependency_first _ _ ⟨_, hlookup, hdependency⟩
  rw [(hdag.indices position hposition).2] at hlt
  refine ⟨order.idxOf dependency, hlt, ?_⟩
  have hlength : order.length = packages.length := by rw [← hdag.names, List.length_map]
  have hinside : order.idxOf dependency < order.length := by omega
  rw [hdag.names, List.getElem?_eq_getElem hinside, List.getElem_idxOf]

/-- **The reports of a workspace.**  After any history of the state home by which its
packages are undisturbed, an evaluation that returns has one report for each package of
the Build DAG, with the local dependencies of a package before it; and each report is
what the rules say of the package now, with a plan that the gate of the member accepts.

That the evaluation may stop at the first package that fails does not matter here, since
only what is returned is spoken of. -/
theorem workspaceReports_sound (processOf : BuildDagPackage → PublishingProcess)
    (globs : GlobLibrary) (workspaceRoot : Path) (kept : Local)
    (hhistory : HomeHistory host stateHome log home)
    (hundisturbed : ∀ buildDag, aspRustWorkspaceBuildDag host.manifestFromPath fs globs
        workspaceRoot policy.config = .ok buildDag →
      AllUndisturbed host stateHome log
        ((memberRuns fs policy configureMember buildDag.packages kept).map Prod.snd))
    {run : AspRustWorkspaceRunReport}
    (hrun : (evaluateAspRustWorkspacePolicyWith host stateHome noRunFaults processOf fs policy
        configureMember globs workspaceRoot home kept).2 = .ok run) :
    (run.members.map AspRustWorkspaceMemberRunReport.crateLabel).Nodup ∧
      run.members.map AspRustWorkspaceMemberRunReport.crateLabel =
        run.buildDag.packages.map BuildDagPackage.packageName ∧
      (∀ (position : ℕ) (package : BuildDagPackage),
        run.buildDag.packages[position]? = some package → ∀ dependency ∈ package.localDependencies,
        ∃ earlier < position,
          (run.members.map AspRustWorkspaceMemberRunReport.crateLabel)[earlier]? =
            some dependency) ∧
      List.Forall₂ (fun entry member => ∃ plan,
          requestVerdict host entry.2.request entry.2.fs = .ok (member.report, plan) ∧
            gateChecks host entry.2.request entry.2.fs member.report plan = .ok ())
        (memberRuns fs policy configureMember run.buildDag.packages kept) run.members := by
  obtain ⟨buildDag, hderived, -, hdag, hmembers⟩ :=
    (evaluateWorkspace_eq_ok processOf hhistory hundisturbed).mp hrun
  rw [← hdag] at hderived hmembers
  obtain ⟨rootByName, dependenciesByName, order, hisDag⟩ := isBuildDag_of_derivation hderived
  have hlabels : run.members.map AspRustWorkspaceMemberRunReport.crateLabel =
      (memberRuns fs policy configureMember run.buildDag.packages kept).map
        fun entry => entry.1.packageName :=
    map_of_mapM_eq_ok (fun entry _ member hmember => congrArg
        AspRustWorkspaceMemberRunReport.crateLabel (memberOutcome_eq_ok.mp hmember).1)
      (mapM_eq_ok_iff_forall₂.mpr hmembers)
  have hnames : (memberRuns fs policy configureMember run.buildDag.packages kept).map
        (fun entry => entry.1.packageName) =
      run.buildDag.packages.map BuildDagPackage.packageName := by
    have hpackages := congrArg (List.map BuildDagPackage.packageName)
      (@map_fst_memberRuns _ fs policy configureMember run.buildDag.packages kept)
    rw [List.map_map] at hpackages
    exact hpackages
  rw [hlabels, hnames]
  refine ⟨?_, rfl, ?_, ?_⟩
  · rw [hisDag.names]
    exact hisDag.nodup
  · intro position package hpackage dependency hdependency
    exact earlier_of_isBuildDag hisDag hpackage hdependency
  · exact hmembers.imp fun entry member hmember =>
      verdict_of_freshOutcome (memberOutcome_eq_ok.mp hmember).2.1

end Members

/-! ## A workspace of two packages -/

/-- A package of the workspace, with the digests of what is hashed for it. -/
structure Member where
  name : String
  manifest : List UInt8
  byteCount : ℕ
  manifestDigest : String
  snapshotDigest : String
  cacheKey : String
  payloadDigest : String

namespace Member

variable (member : Member)

def root : Path := [.normal "ws", .normal member.name]

def files : List AspRustDevGateSnapshotFile :=
  [⟨[.normal "Cargo.toml"], member.byteCount, member.manifestDigest⟩]

def filesJson : List String :=
  manifestFilesJson (toString member.byteCount) member.manifestDigest

def snapshot : AspRustDevGateSnapshot where
  digest := member.snapshotDigest
  fileCount := 1
  byteCount := member.byteCount
  files := member.files

def index : AspRustSnapshotDigestIndex :=
  { bareIndex with
    files := (∅ : OrderedMap Path AspRustSnapshotDigestIndexFile).insert [.normal "Cargo.toml"]
      ⟨member.byteCount, 1, member.manifestDigest⟩ }

def indexJson : List String :=
  manifestIndexJson (toString member.byteCount) member.manifestDigest

def keyMaterial : AspRustDevGateCacheKey :=
  { bareKeyMaterial with
    policyAuthorityDigest := "blake3-256:workspace-policy-authority"
    contentSnapshotDigest := member.snapshotDigest }

def keyText : List String := keyJson "blake3-256:workspace-policy-authority" member.snapshotDigest

def report : AspRustReport :=
  { bareReport with
    rootPaths := [member.root]
    projectResolution := some ⟨member.root, [], [], [], [member.root]⟩ }

def plan : RustVerificationPlan := ⟨member.root, [], [], []⟩

/-- The entry of the package in the graph. -/
def package (localDependencies : List String) (executionIndex : ℕ) : BuildDagPackage :=
  ⟨member.name, member.root, localDependencies, executionIndex⟩

end Member

/-- The manifest of `q`, which depends on `p`. -/
def dependentManifest : List UInt8 :=
  bareManifest "q" ++ piecesBytes ["\n[dependencies]\np = \x7b path = \"../p\" \x7d\n"]

def memberP : Member where
  name := "p"
  manifest := bareManifest "p"
  byteCount := 56
  manifestDigest := bareManifestDigest
  snapshotDigest := "sha256:eb509a3294804e65b7abeb649b09bdc4db18f0acc7fbaf229c2bd1baaf47a310"
  cacheKey := "sha256:5c0d2d5ce8974d19b4864f92b18c76070ffcac42304629e1329890080abe31ca"
  payloadDigest := "sha256:0be0b3c1dea832a9d978e24e14207920afa73ad4a46710b5319c2dc67a60abc1"

def memberQ : Member where
  name := "q"
  manifest := dependentManifest
  byteCount := 94
  manifestDigest := "sha256:21bebde05f70a34dd9f0035b2079afd4aed0078372211d3a25a0edf5cbec6453"
  snapshotDigest := "sha256:56851758f66e32cc87fdb08648a977bf1fe5a6a14638af698799652e6f21c143"
  cacheKey := "sha256:3ea9c585f24b95db096377d2d7b8b7984c8ef92f78cbf6110d82dd692573eded"
  payloadDigest := "sha256:3d59b1c764bc2b9461666cc51a1d797d4865aa4ce9cb57b3d3acca2a749d745f"

/-- The members of the workspace, in the order of the graph. -/
def members : List Member := [memberP, memberQ]

def memberFileSystem : FileSystem where
  root := .directory [("ws", .directory
    [("Cargo.toml", .file (piecesBytes ["[workspace]\nmembers = [\"p\", \"q\"]\n"]) 1),
      ("p", .directory [("Cargo.toml", .file memberP.manifest 1)]),
      ("q", .directory [("Cargo.toml", .file memberQ.manifest 1)])])]
  wellFormed := by decide

/-- Reading the manifest of the workspace, and those of `p` and `q`. -/
def memberManifestReader : ManifestReader := fun fs path =>
  if path = [.normal "ws", .normal "Cargo.toml"] then
    .ok { workspace := some ⟨["p", "q"], [], ∅⟩ }
  else if fs.read path = some dependentManifest then
    .ok { bareManifestOf fs path.dropLast "q" with
          dependencies := (∅ : DepsSet).insert "p" { path := some "../p" } }
  else bareManifestReader fs path

/-- The policy of the workspace. -/
def memberWorkspacePolicy : AspRustWorkspacePolicy where
  workspaceLabel := "ws"
  config := {}

/-- A closure that changes nothing. -/
def plainConfigure : ConfigureMember Unit := fun _ config kept => (config, kept)

namespace Member

variable (member : Member)

/-- The run for a member. -/
def run : GateRun :=
  evaluationRun memberFileSystem member.root
    (memberWorkspacePolicy.memberCrateWithConfig member.name id)

def receipt : AspRustDownstreamPolicyReceipt :=
  downstreamPolicyReceiptFromPlan member.run.request.policy member.plan

def payload : AspRustDevGateCachePayload := ⟨member.report, member.plan, member.receipt, []⟩

def rootText : String := "/ws/" ++ member.name

def gateLabel : String := "ws::" ++ member.name

def payloadText : List String := payloadJson (manifestReportJson member.rootText) member.gateLabel

def record : AspRustDevGateCacheRecord where
  schemaId := aspRustDevGateCacheSchemaId
  schemaVersion := aspRustDevGateCacheSchemaVersion
  cacheKey := member.cacheKey
  snapshot := member.snapshot
  payloadDigest := member.payloadDigest
  report := member.report
  verificationPlan := member.plan
  downstreamPolicyReceipt := member.receipt
  dependencyBaselineReceipts := []

def recordText : List String :=
  manifestRecordJson member.cacheKey member.snapshotDigest (toString member.byteCount)
    member.manifestDigest (manifestReportJson member.rootText) member.gateLabel
    member.payloadDigest

end Member

/-- The contents that are hashed, with their digests. -/
def memberDigests : List (List UInt8 × List UInt8) :=
  [(memberP.manifest,
      [0x7e, 0xb3, 0xb5, 0xbc, 0x4d, 0x80, 0x0e, 0x1a, 0xd3, 0xce, 0x59, 0x5a, 0xca, 0xc8, 0x99, 0x52,
       0x04, 0xfd, 0x23, 0x57, 0x16, 0xc7, 0x31, 0x06, 0xd4, 0x36, 0x55, 0x2d, 0x26, 0x6e, 0xca, 0x98]),
    (memberQ.manifest,
      [0x21, 0xbe, 0xbd, 0xe0, 0x5f, 0x70, 0xa3, 0x4d, 0xd9, 0xf0, 0x03, 0x5b, 0x20, 0x79, 0xaf, 0xd4,
       0xae, 0xd0, 0x07, 0x83, 0x72, 0x21, 0x1d, 0x3a, 0x25, 0xa0, 0xed, 0xf5, 0xcb, 0xec, 0x64, 0x53]),
    (piecesBytes memberP.filesJson,
      [0xeb, 0x50, 0x9a, 0x32, 0x94, 0x80, 0x4e, 0x65, 0xb7, 0xab, 0xeb, 0x64, 0x9b, 0x09, 0xbd, 0xc4,
       0xdb, 0x18, 0xf0, 0xac, 0xc7, 0xfb, 0xaf, 0x22, 0x9c, 0x2b, 0xd1, 0xba, 0xaf, 0x47, 0xa3, 0x10]),
    (piecesBytes memberQ.filesJson,
      [0x56, 0x85, 0x17, 0x58, 0xf6, 0x6e, 0x32, 0xcc, 0x87, 0xfd, 0xb0, 0x86, 0x48, 0xa9, 0x77, 0xbf,
       0x1f, 0xe5, 0xa6, 0xa1, 0x46, 0x38, 0xaf, 0x69, 0x87, 0x99, 0x65, 0x2e, 0x6f, 0x21, 0xc1, 0x43]),
    (piecesBytes memberP.keyText,
      [0x5c, 0x0d, 0x2d, 0x5c, 0xe8, 0x97, 0x4d, 0x19, 0xb4, 0x86, 0x4f, 0x92, 0xb1, 0x8c, 0x76, 0x07,
       0x0f, 0xfc, 0xac, 0x42, 0x30, 0x46, 0x29, 0xe1, 0x32, 0x98, 0x90, 0x08, 0x0a, 0xbe, 0x31, 0xca]),
    (piecesBytes memberQ.keyText,
      [0x3e, 0xa9, 0xc5, 0x85, 0xf2, 0x4b, 0x95, 0xdb, 0x09, 0x63, 0x77, 0xd2, 0xd7, 0xb8, 0xb7, 0x98,
       0x4c, 0x8e, 0xf9, 0x2f, 0x78, 0xcb, 0xf6, 0x11, 0x0d, 0x82, 0xdd, 0x69, 0x25, 0x73, 0xed, 0xed]),
    (piecesBytes memberP.payloadText,
      [0x0b, 0xe0, 0xb3, 0xc1, 0xde, 0xa8, 0x32, 0xa9, 0xd9, 0x78, 0xe2, 0x4e, 0x14, 0x20, 0x79, 0x20,
       0xaf, 0xa7, 0x3a, 0xd4, 0xa4, 0x67, 0x10, 0xb5, 0x31, 0x9c, 0x2d, 0xc6, 0x7a, 0x60, 0xab, 0xc1]),
    (piecesBytes memberQ.payloadText,
      [0x3d, 0x59, 0xb1, 0xc7, 0x64, 0xbc, 0x2b, 0x94, 0x61, 0x66, 0x6c, 0xc5, 0x1a, 0x1d, 0x79, 0x7d,
       0x48, 0x65, 0xaa, 0x4c, 0xe9, 0xcb, 0x57, 0xb3, 0xd3, 0xac, 0xca, 0x2a, 0x74, 0x9d, 0x74, 0x5f])]

/-- The project roots that are hashed, with their digests. -/
def memberIdentities : List (List UInt8 × List UInt8) :=
  [(piecesBytes ["/ws/p"],
      [0x4f, 0x9a, 0x90, 0x31, 0xf2, 0x77, 0x9a, 0x35, 0xd0, 0x86, 0x7e, 0xb9, 0x24, 0xac, 0x43, 0x52,
       0x58, 0x5e, 0x87, 0x67, 0xaf, 0xa0, 0xa5, 0x11, 0x77, 0x78, 0x9c, 0x95, 0x3e, 0x8d, 0xbf, 0x29]),
    (piecesBytes ["/ws/q"],
      [0xec, 0xf5, 0x79, 0x2f, 0x1a, 0xf7, 0xbe, 0x73, 0x59, 0xe4, 0x8f, 0x5b, 0x69, 0xd1, 0x92, 0x27,
       0x11, 0x2e, 0xfe, 0x44, 0xb3, 0xb7, 0x58, 0x33, 0x17, 0x9e, 0x4b, 0x54, 0xf4, 0x24, 0xc1, 0x0c])]

/-- The messages that are hashed, with their digests. -/
def memberMessages : List (List UInt8 × List UInt8) :=
  memberDigests.map (messageRow contentNamespace) ++
    memberIdentities.map (messageRow (textBytes "asp-rust.dev-gate-cache.project.v1"))

theorem memberMessages_distinct : (memberMessages.map Prod.snd).Nodup := by decide +kernel

theorem memberMessages_length : ∀ row ∈ memberMessages, row.2.length = 32 := by decide +kernel

def memberSha256 : Sha256 := .ofTable memberMessages memberMessages_distinct memberMessages_length

/-- A content that is hashed for a member has its digest. -/
theorem contentDigest_member {row : List UInt8 × List UInt8} (hrow : row ∈ memberDigests) :
    contentDigest memberSha256 row.1 = taggedDigest (row.2.flatMap hexByte) := by
  have hcontents : (memberDigests.map Prod.fst).Nodup := by decide +kernel
  have hidentities : (memberIdentities.map Prod.fst).Nodup := by decide +kernel
  have hmessages : (memberMessages.map Prod.fst).Nodup := by
    rw [memberMessages, List.map_append, List.nodup_append]
    refine ⟨nodup_messageRows _ hcontents, nodup_messageRows _ hidentities, ?_⟩
    intro message hcontent other hidentity
    rw [List.map_map] at hcontent hidentity
    obtain ⟨content, -, rfl⟩ := List.mem_map.mp hcontent
    obtain ⟨identity, -, rfl⟩ := List.mem_map.mp hidentity
    exact digestMessage_ne (by decide +kernel) (by decide +kernel) content.1 identity.1
  have hhash : memberSha256.hash (digestMessage contentNamespace row.1) = row.2 :=
    Sha256.ofTable_hash memberMessages_distinct memberMessages_length hmessages
      (List.mem_append_left _ (List.mem_map_of_mem hrow))
  rw [contentDigest, cacheDigestHex, hhash]

/-- The host of the gates of the workspace. -/
def memberHost : GateHost :=
  { bareGateHost with
    manifestFromPath := memberManifestReader
    sha256 := memberSha256
    filesEncoder := .ofTable (members.map fun member => (member.files, piecesBytes member.filesJson))
      (by decide +kernel)
    indexCodec := (Codec.ofTable
      (members.map fun member => (member.index, piecesBytes member.indexJson))
      (by decide +kernel)).lossy
    recordCodec := .ofTable
      (members.map fun member => (member.record, piecesBytes member.recordText)) (by decide +kernel)
    keyEncoder := .ofTable
      (members.map fun member => (member.keyMaterial, piecesBytes member.keyText)) (by decide +kernel)
    payloadEncoder :=
      tableEncode (members.map fun member => (member.payload, piecesBytes member.payloadText)) }

/-- The state home of the runs. -/
def memberHome : Option Path := some [.normal "state"]

/-- What the members have apart is encoded by the table of both. -/
theorem tableEncode_member {α : Type} [DecidableEq α] {value : Member → α}
    {bytes : Member → List UInt8} (hne : value memberP ≠ value memberQ) {member : Member}
    (hmember : member ∈ members) :
    tableEncode (members.map fun member => (value member, bytes member)) (value member) =
      .ok (bytes member) :=
  tableEncode_of_mem (by simpa [members] using hne)
    (List.mem_map_of_mem (f := fun member => (value member, bytes member)) hmember)

/-- A content has a digest in the table. -/
def HasDigest (content : List UInt8) (digest : String) : Prop :=
  ∃ row ∈ memberDigests, row.1 = content ∧ taggedDigest (row.2.flatMap hexByte) = digest

instance (content : List UInt8) (digest : String) : Decidable (HasDigest content digest) :=
  inferInstanceAs (Decidable (∃ row ∈ memberDigests, _))

theorem contentDigest_of_hasDigest {content : List UInt8} {digest : String}
    (h : HasDigest content digest) : contentDigest memberSha256 content = digest := by
  obtain ⟨row, hrow, rfl, hdigest⟩ := h
  exact (contentDigest_member hrow).trans hdigest

/-- What is hashed for a member is in the table. -/
theorem hasDigest_members : ∀ member ∈ members,
    HasDigest (piecesBytes member.keyText) member.cacheKey ∧
      HasDigest (piecesBytes member.payloadText) member.payloadDigest := by
  decide +kernel

/-- What the two members have apart. -/
theorem members_apart :
    memberP.snapshotDigest ≠ memberQ.snapshotDigest ∧
      memberP.report.rootPaths ≠ memberQ.report.rootPaths ∧
      memberP.index.files.entries ≠ memberQ.index.files.entries ∧
      memberP.cacheKey ≠ memberQ.cacheKey ∧
      memberP.run.cacheRoot? memberHost memberHome ≠
        memberQ.run.cacheRoot? memberHost memberHome := by
  decide +kernel

/-- The stages of the run for a member, when nothing was cached, and its directory. -/
theorem stages_members : ∀ member ∈ members,
    computeSnapshot memberHost.toSnapshotHost memberFileSystem member.root {} {} =
        .ok (member.snapshot, member.index) ∧
      evaluatePackage memberHost member.run.request memberFileSystem =
        .ok (member.report, member.plan) ∧
      (member.run.cacheRoot? memberHost memberHome).isSome = true := by
  decide +kernel

section Runs

variable {member : Member} (hmember : member ∈ members)

include hmember

theorem requestCacheKey_member :
    requestCacheKey memberHost member.run.request member.snapshot = .ok member.cacheKey := by
  have hencode : memberHost.keyEncoder.encode member.keyMaterial =
      .ok (piecesBytes member.keyText) :=
    tableEncode_member (fun h => members_apart.1 (congrArg (·.contentSnapshotDigest) h)) hmember
  have hmaterial : cacheKeyMaterial memberHost.toCacheHost member.run.request.config .package
      member.run.request.baselineReceipts member.snapshot member.run.request.policyAuthorityDigest =
        member.keyMaterial := rfl
  have hdigest := contentDigest_of_hasDigest (hasDigest_members member hmember).1
  rw [requestCacheKey, devGateCacheKeyWithPolicyDigest, hmaterial, hencode]
  exact congrArg Except.ok hdigest

theorem requestRecord_member :
    requestRecord memberHost member.run.request member.snapshot member.cacheKey
      (member.report, member.plan) = .ok member.record := by
  have hencode : memberHost.payloadEncoder member.payload =
      .ok (piecesBytes member.payloadText) :=
    tableEncode_member (fun h => members_apart.2.1 (congrArg (·.report.rootPaths) h)) hmember
  have hdigest : devGateCachePayloadDigest memberHost.toCacheHost member.report member.plan
      member.receipt [] = .ok member.payloadDigest :=
    (devGateCachePayloadDigest_of_encode memberHost.toCacheHost hencode).trans
      (congrArg Except.ok (contentDigest_of_hasDigest (hasDigest_members member hmember).2))
  exact congrArg (Except.map fun payloadDigest => { member.record with payloadDigest }) hdigest

theorem indexEncode_member :
    memberHost.indexCodec.encode member.index = .ok (piecesBytes member.indexJson) :=
  tableEncode_member (fun h => members_apart.2.2.1 (congrArg (·.files.entries) h)) hmember

theorem recordEncode_member :
    memberHost.recordCodec.encode member.record = .ok (piecesBytes member.recordText) :=
  tableEncode_member (fun h => members_apart.2.2.2.1 (congrArg (·.cacheKey) h)) hmember

/-- A member that was not cached passes. -/
theorem freshOutcome_member : freshOutcome memberHost memberHome member.run = .ok member.report := by
  obtain ⟨hsnapshot, hevaluated, hsome⟩ := stages_members member hmember
  obtain ⟨root, hroot⟩ := Option.isSome_iff_exists.mp hsome
  rw [freshOutcome_eq_tidyRun hroot, tidyRun_of_stored hsnapshot (indexEncode_member hmember)
    (requestCacheKey_member hmember) rfl hevaluated (requestRecord_member hmember)
    (recordEncode_member hmember)]

end Runs

/-- The two packages have cache directories of their own. -/
theorem run_eq_of_cacheRoot_eq {first second : Member} (hfirst : first ∈ members)
    (hsecond : second ∈ members)
    (h : first.run.cacheRoot? memberHost memberHome = second.run.cacheRoot? memberHost memberHome) :
    first.run = second.run := by
  have hne := members_apart.2.2.2.2
  simp only [members, List.mem_cons, List.not_mem_nil, or_false] at hfirst hsecond
  rcases hfirst with rfl | rfl <;> rcases hsecond with rfl | rfl
  · rfl
  · exact absurd h hne
  · exact absurd h.symm hne
  · rfl

/-- The graph of the workspace: `p` comes before `q`, which depends on it. -/
def memberDag : AspRustWorkspaceBuildDag where
  schemaId := workspaceBuildDagSchemaId
  schemaVersion := workspaceBuildDagSchemaVersion
  workspaceRoot := [.normal "ws"]
  packages := [memberP.package [] 0, memberQ.package ["p"] 1]

theorem memberDag_derived :
    aspRustWorkspaceBuildDag memberHost.manifestFromPath memberFileSystem literalGlobs
      [.normal "ws"] memberWorkspacePolicy.config = .ok memberDag := by
  decide +kernel

/-- What the workspace comes to. -/
def memberWorkspaceRun : AspRustWorkspaceRunReport where
  workspaceRoot := [.normal "ws"]
  buildDag := memberDag
  members := members.map fun member => ⟨member.name, member.root, member.report⟩

/-- The state home after a run of `p` and one of `q`. -/
def memberCaches : CacheHome :=
  (runWithHome memberHost memberHome noRunFaults ⟨1, 1⟩ memberQ.run
    (runWithHome memberHost memberHome noRunFaults ⟨1, 0⟩ memberP.run emptyHome).1).1

theorem homeHistory_members :
    HomeHistory memberHost memberHome [memberQ.run, memberP.run] memberCaches :=
  (HomeHistory.start.run ⟨1, 0⟩ memberP.run).run ⟨1, 1⟩ memberQ.run

/-- A run of a package is not disturbed by runs of the two packages in this state. -/
theorem undisturbed_member {member : Member} (hmember : member ∈ members) {ran : List Member}
    (hran : ran ⊆ members) :
    Undisturbed memberHost memberHome (ran.map Member.run) member.run := by
  refine undisturbed_of_same fun earlier hearlier hroot => ?_
  obtain ⟨other, hother, rfl⟩ := List.mem_map.mp hearlier
  exact run_eq_of_cacheRoot_eq (hran hother) hmember hroot

theorem allUndisturbed_members (buildDag : AspRustWorkspaceBuildDag)
    (hdag : aspRustWorkspaceBuildDag memberHost.manifestFromPath memberFileSystem literalGlobs
      [.normal "ws"] memberWorkspacePolicy.config = .ok buildDag) :
    AllUndisturbed memberHost memberHome [memberQ.run, memberP.run]
      ((memberRuns memberFileSystem memberWorkspacePolicy plainConfigure buildDag.packages ()).map
        Prod.snd) := by
  obtain rfl : memberDag = buildDag := Except.ok.inj (memberDag_derived.symm.trans hdag)
  have hp : memberP ∈ members := List.mem_cons_self
  have hq : memberQ ∈ members := List.mem_cons_of_mem _ List.mem_cons_self
  have hbefore : [memberQ, memberP] ⊆ members := by simp [hp, hq]
  have hbetween : [memberP, memberQ, memberP] ⊆ members := by simp [hp, hq]
  exact ⟨undisturbed_member hp hbefore, undisturbed_member hq hbetween, trivial⟩

theorem memberPasses_members :
    List.Forall₂ (MemberPasses memberHost memberHome)
      (memberRuns memberFileSystem memberWorkspacePolicy plainConfigure memberDag.packages ())
      memberWorkspaceRun.members := by
  have hwithin : ∀ member : Member, ∀ path ∈ member.report.rootPaths,
      ∃ relative, path = member.root ++ relative := by
    intro member path hpath
    exact ⟨[], by rw [List.mem_singleton.mp hpath, List.append_nil]⟩
  exact .cons ⟨rfl, rfl, freshOutcome_member List.mem_cons_self, hwithin memberP, rfl⟩
    (.cons ⟨rfl, rfl, freshOutcome_member (List.mem_cons_of_mem _ List.mem_cons_self),
      hwithin memberQ, rfl⟩ .nil)

/-- After a run of each package the workspace passes, with what its packages come to when
nothing is cached. -/
theorem memberAssertion_passes :
    (assertAspRustWorkspacePolicyWith memberHost memberHome noRunFaults (fun _ => ⟨2, 0⟩)
      memberFileSystem memberWorkspacePolicy plainConfigure literalGlobs [.normal "ws"]
      memberCaches ()).2 = .ok memberWorkspaceRun :=
  (assertWorkspacePolicy_eq_ok (fun _ => ⟨2, 0⟩) literalGlobs [.normal "ws"] ()
    homeHistory_members allUndisturbed_members memberWorkspaceRun).mpr
      ⟨memberDag, memberDag_derived, rfl, rfl, memberPasses_members⟩

/-- In the same state the evaluation has the report of `p` before that of `q`, and both are
what the rules say now. -/
theorem memberEvaluation_sound :
    (evaluateAspRustWorkspacePolicyWith memberHost memberHome noRunFaults (fun _ => ⟨2, 0⟩)
      memberFileSystem memberWorkspacePolicy plainConfigure literalGlobs [.normal "ws"]
      memberCaches ()).2 = .ok memberWorkspaceRun ∧
    memberWorkspaceRun.members.map AspRustWorkspaceMemberRunReport.crateLabel = ["p", "q"] ∧
    (∃ earlier < 1, (memberWorkspaceRun.members.map
      AspRustWorkspaceMemberRunReport.crateLabel)[earlier]? = some "p") ∧
    List.Forall₂ (fun entry member => ∃ plan,
        requestVerdict memberHost entry.2.request entry.2.fs = .ok (member.report, plan) ∧
          gateChecks memberHost entry.2.request entry.2.fs member.report plan = .ok ())
      (memberRuns memberFileSystem memberWorkspacePolicy plainConfigure memberDag.packages ())
      memberWorkspaceRun.members := by
  have hevaluation := (evaluateWorkspace_eq_ok (fun _ => ⟨2, 0⟩) homeHistory_members
    allUndisturbed_members).mpr ⟨memberDag, memberDag_derived, rfl, rfl,
      (forall₂_memberPasses.mp memberPasses_members).1⟩
  obtain ⟨-, hlabels, hdependencies, hverdicts⟩ := workspaceReports_sound (fun _ => ⟨2, 0⟩)
    literalGlobs [.normal "ws"] () homeHistory_members allUndisturbed_members hevaluation
  exact ⟨hevaluation, hlabels, hdependencies 1 (memberQ.package ["p"] 1) rfl "p"
    List.mem_cons_self, hverdicts⟩

end AspRust.DevGate
