import Mathlib.Data.List.Find
import AspRust.Verification.FingerprintMaterial
import AspRust.Verification.PlannedTasks

/-!
# What a plan covers

A hint or baseline that names a module is due a task for each of its kinds, and one that
names none is due a review.  Tasks are collected under fingerprints, so a plan has what is
due as long as no other owner's task with the same text was collected before it.  Where
the texts of the tasks are legible this cannot happen.

What a plan has is listed once, and its report obligations name exactly the active tasks
of the kinds they cover.

### What is load-bearing

That a plan covers what is due rests on three things that are proved apart: what is due is
requested (`Due.exists_request`), a request whose text comes first becomes a task, and the
owner of the task is the one that was named.  Only the second has a condition.

The condition is about the texts of the requests that come before, and `FirstOfText` says
just that.  That the tasks are legible is a way to have it, and the one that can be read
off a policy.
-/

namespace AspRust.Verification

open AspRust.Foundation

section Coverage

variable (projectRoot : Path) (policy : RustVerificationPolicy)
  (packageAnalyses : List RustReasoningTreeFacts)

/-- A task that a plan owes to an owner, given as the path is written. -/
inductive Due : String → RustVerificationTaskKind → Prop
  /-- A hint that names a module is due a task of each kind. -/
  | hint {reasoningTree : RustReasoningTreeFacts} {hint : RustVerificationProfileHint}
      {module : RustReasoningModuleFacts} {kind : RustVerificationTaskKind} :
      reasoningTree ∈ packageAnalyses → hint ∈ policy.profileHints →
      ownerIn projectRoot reasoningTree hint.ownerPath = some module →
      kind ∈ (taskKindsForProfile hint policy).keys → kind ∉ policy.disabledTaskKinds.keys →
      Due module.path.display kind
  /-- A baseline that names a module is due a task of each kind. -/
  | baseline {reasoningTree : RustReasoningTreeFacts} {baseline : RustVerificationApiPathBaseline}
      {module : RustReasoningModuleFacts} {kind : RustVerificationTaskKind} :
      reasoningTree ∈ packageAnalyses → baseline ∈ policy.apiPathBaselines →
      ownerIn projectRoot reasoningTree baseline.ownerPath = some module →
      kind ∈ (taskKindsForApiPathBaseline baseline policy).keys →
      kind ∉ policy.disabledTaskKinds.keys → Due module.path.display kind
  /-- A hint that names no module of any package is due a review. -/
  | unmatchedHint {hint : RustVerificationProfileHint} : hint ∈ policy.profileHints →
      (∀ reasoningTree ∈ packageAnalyses, ownerIn projectRoot reasoningTree hint.ownerPath = none) →
      .responsibilityReview ∉ policy.disabledTaskKinds.keys →
      Due (joinText projectRoot hint.ownerPath) .responsibilityReview
  /-- A baseline that names no module of any package is due a review. -/
  | unmatchedBaseline {baseline : RustVerificationApiPathBaseline} :
      baseline ∈ policy.apiPathBaselines →
      (∀ reasoningTree ∈ packageAnalyses,
        ownerIn projectRoot reasoningTree baseline.ownerPath = none) →
      .responsibilityReview ∉ policy.disabledTaskKinds.keys →
      Due (joinText projectRoot baseline.ownerPath) .responsibilityReview

/-- A plan has every task that is due. -/
def Covers : Prop :=
  ∀ owner kind, Due projectRoot policy packageAnalyses owner kind →
    ∃ task ∈ (planRustVerificationFromAnalysis projectRoot policy packageAnalyses).tasks,
      task.ownerPath = Path.parse owner ∧ task.kind = kind

/-- The hash does not collide on the texts of what is asked for. -/
def NoCollision : Prop :=
  ∀ first ∈ enabledRequests projectRoot policy packageAnalyses,
    ∀ second ∈ enabledRequests projectRoot policy packageAnalyses,
      ¬ Collide (first.input projectRoot policy) (second.input projectRoot policy)

/-- A request that is the first one with its text. -/
def FirstOfText (request : RequestedTask) : Prop :=
  (enabledRequests projectRoot policy packageAnalyses).find? (fun other =>
    (other.input projectRoot policy).material = (request.input projectRoot policy).material) =
      some request

variable {projectRoot policy packageAnalyses}

theorem ownerIn_eq_none_of_namesModule {ownerPath : String}
    (h : ∀ reasoningTree ∈ packageAnalyses, ownerIn projectRoot reasoningTree ownerPath = none) :
    namesModule projectRoot packageAnalyses ownerPath = false := by
  rw [namesModule, List.any_eq_false]
  intro reasoningTree htree
  simp [h reasoningTree htree]

/-- What is due was asked for. -/
theorem Due.exists_request {owner : String} {kind : RustVerificationTaskKind}
    (h : Due projectRoot policy packageAnalyses owner kind) :
    ∃ request ∈ enabledRequests projectRoot policy packageAnalyses,
      request.spec.ownerPath = owner ∧ request.spec.kind = kind := by
  cases h with
  | hint htree hhint hmodule hkind henabled =>
      exact ⟨_, mem_enabledRequests_iff.mpr
        ⟨mem_requestedTasks_of_hint htree hhint hmodule hkind, henabled⟩, rfl, rfl⟩
  | baseline htree hbaseline hmodule hkind henabled =>
      exact ⟨_, mem_enabledRequests_iff.mpr
        ⟨mem_requestedTasks_of_baseline htree hbaseline hmodule hkind, henabled⟩, rfl, rfl⟩
  | unmatchedHint hhint hnone henabled =>
      exact ⟨_, mem_enabledRequests_iff.mpr
        ⟨mem_requestedTasks_of_unmatched_hint hhint (ownerIn_eq_none_of_namesModule hnone),
          henabled⟩, rfl, rfl⟩
  | unmatchedBaseline hbaseline hnone henabled =>
      exact ⟨_, mem_enabledRequests_iff.mpr
        ⟨mem_requestedTasks_of_unmatched_baseline hbaseline (ownerIn_eq_none_of_namesModule hnone),
          henabled⟩, rfl, rfl⟩

@[simp] theorem ownerPath_task (request : RequestedTask) :
    (request.task projectRoot policy).ownerPath = Path.parse request.spec.ownerPath :=
  (newSkillTask_sameTask projectRoot request.packageRoot request.spec policy).ownerPath

/-- A plan has the tasks of the requests that are the first ones with their fingerprints. -/
theorem mem_plan_tasks_iff_first {task : RustVerificationTask} :
    task ∈ (planRustVerificationFromAnalysis projectRoot policy packageAnalyses).tasks ↔
      ∃ request, (enabledRequests projectRoot policy packageAnalyses).find? (fun other =>
          other.fingerprint projectRoot policy = request.fingerprint projectRoot policy) =
            some request ∧ request.task projectRoot policy = task := by
  have hfind : ∀ fingerprint : String,
      ((requestedTasks projectRoot policy packageAnalyses).map
        (·.task projectRoot policy)).find? (fun task => taskKey policy task = some fingerprint) =
      ((enabledRequests projectRoot policy packageAnalyses).find? fun other =>
        other.fingerprint projectRoot policy = fingerprint).map (·.task projectRoot policy) := by
    intro fingerprint
    rw [enabledRequests, List.find?_map, List.find?_filter]
    congr 2
    funext request
    simp [taskKey_eq_some_iff]
  rw [mem_plan_tasks_iff, OrderedMap.mem_values_keepFirst]
  constructor
  · rintro ⟨fingerprint, hkey, hfirst⟩
    rw [hfind] at hfirst
    obtain ⟨request, hrequest, rfl⟩ := Option.map_eq_some_iff.mp hfirst
    have hfingerprint := (taskKey_eq_some_iff.mp hkey).2
    rw [fingerprint_task] at hfingerprint
    exact ⟨request, by rw [hfingerprint]; exact hrequest, rfl⟩
  · rintro ⟨request, hrequest, rfl⟩
    have hmem := mem_enabledRequests_iff.mp (List.mem_of_find?_eq_some hrequest)
    refine ⟨request.fingerprint projectRoot policy, ?_, ?_⟩
    · exact taskKey_eq_some_iff.mpr ⟨by rw [kind_task]; exact hmem.2, fingerprint_task request⟩
    · rw [hfind, hrequest]
      rfl

/-- Without collisions the first request with a fingerprint is the first one with its
text. -/
theorem firstOfText_iff (hcollision : NoCollision projectRoot policy packageAnalyses)
    {request : RequestedTask} :
    FirstOfText projectRoot policy packageAnalyses request ↔
      (enabledRequests projectRoot policy packageAnalyses).find? (fun other =>
        other.fingerprint projectRoot policy = request.fingerprint projectRoot policy) =
          some request := by
  have hagree : request ∈ enabledRequests projectRoot policy packageAnalyses →
      (enabledRequests projectRoot policy packageAnalyses).find? (fun other =>
        (other.input projectRoot policy).material = (request.input projectRoot policy).material) =
      (enabledRequests projectRoot policy packageAnalyses).find? (fun other =>
        other.fingerprint projectRoot policy = request.fingerprint projectRoot policy) := by
    intro hrequest
    refine List.find?_congr fun other hother => decide_eq_decide.mpr ?_
    rw [RequestedTask.fingerprint, RequestedTask.fingerprint, verificationTaskFingerprint_eq_iff]
    constructor
    · intro hmaterial
      rw [hmaterial]
    · intro hhash
      by_contra hmaterial
      exact hcollision other hother request hrequest ⟨hmaterial, hhash⟩
  constructor
  · intro h
    rw [← hagree (List.mem_of_find?_eq_some h)]
    exact h
  · intro h
    rw [FirstOfText, hagree (List.mem_of_find?_eq_some h)]
    exact h

/-- **A plan covers what is due exactly when some request for it comes first with its
text.** -/
theorem covers_iff (hcollision : NoCollision projectRoot policy packageAnalyses) :
    Covers projectRoot policy packageAnalyses ↔
      ∀ owner kind, Due projectRoot policy packageAnalyses owner kind →
        ∃ request, FirstOfText projectRoot policy packageAnalyses request ∧
          Path.parse request.spec.ownerPath = Path.parse owner ∧ request.spec.kind = kind := by
  constructor
  · intro h owner kind hdue
    obtain ⟨task, htask, howner, hkind⟩ := h owner kind hdue
    obtain ⟨request, hfirst, rfl⟩ := mem_plan_tasks_iff_first.mp htask
    refine ⟨request, (firstOfText_iff hcollision).mpr hfirst, ?_, ?_⟩
    · rw [← howner, ownerPath_task]
    · rw [← hkind, kind_task]
  · intro h owner kind hdue
    obtain ⟨request, hfirst, howner, hkind⟩ := h owner kind hdue
    refine ⟨request.task projectRoot policy, mem_plan_tasks_iff_first.mpr
      ⟨request, (firstOfText_iff hcollision).mp hfirst, rfl⟩, ?_, ?_⟩
    · rw [ownerPath_task, howner]
    · rw [kind_task, hkind]

/-- Legible requests are not mistaken for one another. -/
theorem covers_of_legible (hcollision : NoCollision projectRoot policy packageAnalyses)
    (hlegible : ∀ request ∈ enabledRequests projectRoot policy packageAnalyses,
      (request.input projectRoot policy).Legible) :
    Covers projectRoot policy packageAnalyses := by
  rw [covers_iff hcollision]
  intro owner kind hdue
  obtain ⟨request, hrequest, rfl, rfl⟩ := hdue.exists_request
  cases hfind : (enabledRequests projectRoot policy packageAnalyses).find? (fun other =>
      (other.input projectRoot policy).material =
        (request.input projectRoot policy).material) with
  | none => exact absurd (List.find?_eq_none.mp hfind request hrequest) (by simp)
  | some first =>
      have hmaterial : (first.input projectRoot policy).material =
          (request.input projectRoot policy).material := by
        simpa using List.find?_some hfind
      have hroot : (first.input projectRoot policy).projectRoot =
          (request.input projectRoot policy).projectRoot := rfl
      have hidentity := VerificationFingerprintInput.identity_eq_of_material_eq hroot
        (hlegible first (List.mem_of_find?_eq_some hfind)) (hlegible request hrequest) hmaterial
      refine ⟨first, ?_, ?_, ?_⟩
      · rw [FirstOfText, hmaterial]
        exact hfind
      · exact congrArg TaskIdentity.ownerPath hidentity
      · exact congrArg TaskIdentity.kind hidentity

/-! ## Fingerprints and obligations

A plan lists its tasks under their fingerprints, and an obligation the fingerprints of
the active tasks of its kinds. -/

/-- **The fingerprints of a plan are pairwise different.** -/
theorem nodup_plan_fingerprints :
    ((planRustVerificationFromAnalysis projectRoot policy packageAnalyses).tasks.map
      (·.fingerprint)).Nodup := by
  have hkeys : ((collectTasks projectRoot policy packageAnalyses).values.map
      (taskKey policy)).Nodup := by
    rw [collectTasks_eq_keepFirst]
    exact OrderedMap.nodup_map_values_keepFirst
  have hnodup : (collectTasks projectRoot policy packageAnalyses).values.Nodup := hkeys.of_map _
  have hsorted : (planRustVerificationFromAnalysis projectRoot policy packageAnalyses).tasks.Nodup :=
    (List.perm_insertionSort taskLe _).nodup_iff.mpr hnodup
  exact hsorted.map_on fun task htask task' htask' h => eq_of_mem_plan_tasks htask htask' h

/-- Which tasks have a skill depends on their kinds alone. -/
theorem skillBinding_of_mem_plan_tasks {task : RustVerificationTask}
    (h : task ∈ (planRustVerificationFromAnalysis projectRoot policy packageAnalyses).tasks) :
    task.skillBinding = skillBindingForTask policy task.kind := by
  obtain ⟨request, -, rfl⟩ := exists_request_of_mem_plan_tasks h
  rw [kind_task]
  exact (newSkillTask_sameTask projectRoot request.packageRoot request.spec policy).skillBinding

/-- The kinds and fingerprints of some tasks belong together when the choice depends on the
kind. -/
theorem fingerprintsWhere_eq {condition : RustVerificationTask → Bool}
    {tasks : List RustVerificationTask}
    (hkind : ∀ task ∈ tasks, ∀ task' ∈ tasks, task.kind = task'.kind →
      condition task = condition task') :
    fingerprintsWhere condition tasks =
      fingerprintsWhere (fun task => task.kind ∈ (kindsWhere condition tasks).keys) tasks := by
  refine congrArg (List.map _) (List.filter_congr fun task htask => ?_)
  rw [Bool.eq_iff_iff, decide_eq_true_iff, kindsWhere, OrderedSet.mem_ofList]
  constructor
  · intro hcondition
    exact List.mem_map_of_mem (List.mem_filter.mpr ⟨htask, hcondition⟩)
  · intro hmem
    obtain ⟨other, hother, hsame⟩ := List.mem_map.mp hmem
    obtain ⟨hotherMem, hcondition⟩ := List.mem_filter.mp hother
    rw [hkind task htask other hotherMem hsame.symm]
    exact hcondition

/-- An obligation lists the active tasks of its kinds, when having a skill depends on the
kind. -/
theorem taskFingerprints_of_mem_reportObligations {tasks : List RustVerificationTask}
    (hskill : ∀ task ∈ tasks, ∀ task' ∈ tasks, task.kind = task'.kind →
      task.skillBinding.isSome = task'.skillBinding.isSome)
    {obligation : RustVerificationReportObligation}
    (h : obligation ∈ reportObligationsForTasks tasks) :
    obligation.taskFingerprints =
      fingerprintsWhere (fun task => task.kind ∈ obligation.taskKinds.keys)
        (tasks.filter (·.isActive)) := by
  unfold reportObligationsForTasks at h
  dsimp only at h
  split at h
  · exact absurd h List.not_mem_nil
  · simp only [List.mem_append, List.mem_singleton] at h
    rcases h with ((rfl | h) | h) | h
    · exact fingerprintsWhere_eq fun _ _ _ _ _ => rfl
    · split at h
      · obtain rfl := List.mem_singleton.mp h
        refine fingerprintsWhere_eq fun task htask task' htask' hsame => ?_
        exact hskill task (List.mem_of_mem_filter htask) task' (List.mem_of_mem_filter htask') hsame
      · exact absurd h List.not_mem_nil
    · split at h
      · obtain rfl := List.mem_singleton.mp h
        simp
      · exact absurd h List.not_mem_nil
    · split at h
      · simp only [List.mem_cons, List.not_mem_nil, or_false] at h
        rcases h with rfl | rfl <;> simp
      · exact absurd h List.not_mem_nil

/-- **An obligation of a plan lists exactly the active tasks of its kinds.** -/
theorem perm_taskFingerprints_of_mem_plan {obligation : RustVerificationReportObligation}
    (h : obligation ∈
      (planRustVerificationFromAnalysis projectRoot policy packageAnalyses).reportObligations) :
    obligation.taskFingerprints.Perm
      (((planRustVerificationFromAnalysis projectRoot policy packageAnalyses).activeTasks.filter
        fun task => task.kind ∈ obligation.taskKinds.keys).map (·.fingerprint)) := by
  have hperm : (planRustVerificationFromAnalysis projectRoot policy packageAnalyses).tasks.Perm
      (collectTasks projectRoot policy packageAnalyses).values := List.perm_insertionSort taskLe _
  have hskill : ∀ task ∈ (collectTasks projectRoot policy packageAnalyses).values,
      ∀ task' ∈ (collectTasks projectRoot policy packageAnalyses).values,
        task.kind = task'.kind → task.skillBinding.isSome = task'.skillBinding.isSome := by
    intro task htask task' htask' hkind
    rw [skillBinding_of_mem_plan_tasks (hperm.mem_iff.mpr htask),
      skillBinding_of_mem_plan_tasks (hperm.mem_iff.mpr htask'), hkind]
  rw [taskFingerprints_of_mem_reportObligations hskill h]
  exact ((hperm.symm.filter _).filter _).map _

end Coverage

/-- **What a plan covers.**  When the hash does not collide, a plan has every task that is
due exactly when each time some request for the owner and the kind comes first with its text,
and legible requests are enough for that.  In any case the fingerprints of a plan are
pairwise different, and each obligation lists the active tasks of its kinds. -/
theorem plan_coverage (projectRoot : Path) (policy : RustVerificationPolicy)
    (packageAnalyses : List RustReasoningTreeFacts) :
    (NoCollision projectRoot policy packageAnalyses →
      (Covers projectRoot policy packageAnalyses ↔
        ∀ owner kind, Due projectRoot policy packageAnalyses owner kind →
          ∃ request, FirstOfText projectRoot policy packageAnalyses request ∧
            Path.parse request.spec.ownerPath = Path.parse owner ∧ request.spec.kind = kind) ∧
      ((∀ request ∈ enabledRequests projectRoot policy packageAnalyses,
        (request.input projectRoot policy).Legible) →
        Covers projectRoot policy packageAnalyses)) ∧
    ((planRustVerificationFromAnalysis projectRoot policy packageAnalyses).tasks.map
      (·.fingerprint)).Nodup ∧
    ∀ obligation ∈
      (planRustVerificationFromAnalysis projectRoot policy packageAnalyses).reportObligations,
      obligation.taskFingerprints.Perm
        (((planRustVerificationFromAnalysis projectRoot policy packageAnalyses).activeTasks.filter
          fun task => task.kind ∈ obligation.taskKinds.keys).map (·.fingerprint)) := by
  refine ⟨fun hcollision => ⟨?_, ?_⟩, ?_, ?_⟩
  · exact covers_iff hcollision
  · exact covers_of_legible hcollision
  · exact nodup_plan_fingerprints
  · intro obligation hobligation
    exact perm_taskFingerprints_of_mem_plan hobligation

/-- A source module below `/p`. -/
def sourceModule (names : List String) : RustReasoningModuleFacts where
  path := .normal "p" :: names.map .normal
  namespaceComponents := []
  importSummary := ⟨0, []⟩
  isSourceModule := true

/-- A hint that asks for the performance of an owner. -/
def latencyHint (ownerPath : String) : RustVerificationProfileHint where
  ownerPath := ownerPath
  responsibilities := OrderedSet.ofList [.latencySensitive]
  taskKinds := none
  taskContractOverrides := ∅
  stabilityPicture := none
  rationale := none

/-- A policy with hints that ask for the performance of some owners. -/
def latencyPolicy (ownerPaths : List String) : RustVerificationPolicy :=
  { profileHints := ownerPaths.map latencyHint }

/-- A package at `/p` with some source files. -/
def sourcePackage (files : List (List String)) : RustReasoningTreeFacts where
  packageRoot := [.normal "p"]
  modules := files.map sourceModule
  ownerBranches := []

/-- The request for the performance of a module. -/
def latencyRequest (ownerPaths : List String) (ownerPath : String) (names : List String) :
    RequestedTask where
  packageRoot := [.normal "p"]
  spec := profileTaskSpec (sourceModule names) (latencyHint ownerPath) (latencyPolicy ownerPaths)
    .performance

/-- A package `/p/q` with one file. -/
def memberPackage : RustReasoningTreeFacts where
  packageRoot := [.normal "p", .normal "q"]
  modules := [sourceModule ["q", "src", "lib.rs"]]
  ownerBranches := []

/-- Three hints; the last one is for the file of the first one in `/p`. -/
def memberOwners : List String := ["src/lib.rs", "src/api.rs", "/p/src/lib.rs"]

/-- What is asked for: the first hint is for a file of each package. -/
def memberRequests : List RequestedTask :=
  [latencyRequest memberOwners "src/lib.rs" ["src", "lib.rs"],
    latencyRequest memberOwners "src/api.rs" ["src", "api.rs"],
    latencyRequest memberOwners "/p/src/lib.rs" ["src", "lib.rs"],
    { latencyRequest memberOwners "src/lib.rs" ["q", "src", "lib.rs"] with
      packageRoot := [.normal "p", .normal "q"] }]

theorem enabledRequests_members :
    enabledRequests [.normal "p"] (latencyPolicy memberOwners)
        [sourcePackage [["src", "lib.rs"], ["src", "api.rs"]], memberPackage] =
      memberRequests := rfl

/-- Two packages with three hints are covered, by the tasks of three of the four requests. -/
theorem members_covered :
    Covers [.normal "p"] (latencyPolicy memberOwners)
        [sourcePackage [["src", "lib.rs"], ["src", "api.rs"]], memberPackage] ∧
      (planRustVerificationFromAnalysis [.normal "p"] (latencyPolicy memberOwners)
        [sourcePackage [["src", "lib.rs"], ["src", "api.rs"]], memberPackage]).tasks.length = 3 := by
  refine ⟨((plan_coverage [.normal "p"] (latencyPolicy memberOwners)
    [sourcePackage [["src", "lib.rs"], ["src", "api.rs"]], memberPackage]).1 ?_).2 ?_, ?_⟩
  · rw [NoCollision, enabledRequests_members]
    unfold Collide
    decide +kernel
  · rw [enabledRequests_members]
    simp only [memberRequests, List.forall_mem_cons]
    refine ⟨?_, ?_, ?_, ?_, fun _ hmem => absurd hmem List.not_mem_nil⟩ <;> constructor <;> decide
  · decide +kernel

/-- Two hints, for a file whose name has a backslash and for one in a directory. -/
def backslashOwners : List String := ["src/a\\b.rs", "src/a/b.rs"]

theorem enabledRequests_backslash :
    enabledRequests [.normal "p"] (latencyPolicy backslashOwners)
        [sourcePackage [["src", "a\\b.rs"], ["src", "a", "b.rs"]]] =
      [latencyRequest backslashOwners "src/a\\b.rs" ["src", "a\\b.rs"],
        latencyRequest backslashOwners "src/a/b.rs" ["src", "a", "b.rs"]] := rfl

/-- The two files are shown alike. -/
theorem backslash_material_eq :
    ((latencyRequest backslashOwners "src/a/b.rs" ["src", "a", "b.rs"]).input [.normal "p"]
        (latencyPolicy backslashOwners)).material =
      ((latencyRequest backslashOwners "src/a\\b.rs" ["src", "a\\b.rs"]).input [.normal "p"]
        (latencyPolicy backslashOwners)).material := by
  decide +kernel

/-- **A file can take another file's task.**  The task of `src/a/b.rs` is due but not in the
plan, because that of the file `a\b.rs` in `src` has the same text. -/
theorem backslashOwner_uncovered :
    NoCollision [.normal "p"] (latencyPolicy backslashOwners)
        [sourcePackage [["src", "a\\b.rs"], ["src", "a", "b.rs"]]] ∧
      Due [.normal "p"] (latencyPolicy backslashOwners)
        [sourcePackage [["src", "a\\b.rs"], ["src", "a", "b.rs"]]] "/p/src/a/b.rs" .performance ∧
      ¬ ∃ task ∈ (planRustVerificationFromAnalysis [.normal "p"] (latencyPolicy backslashOwners)
          [sourcePackage [["src", "a\\b.rs"], ["src", "a", "b.rs"]]]).tasks,
        task.ownerPath = Path.parse "/p/src/a/b.rs" ∧ task.kind = .performance := by
  have hmaterial : ∀ request ∈ enabledRequests [.normal "p"] (latencyPolicy backslashOwners)
        [sourcePackage [["src", "a\\b.rs"], ["src", "a", "b.rs"]]],
      (request.input [.normal "p"] (latencyPolicy backslashOwners)).material =
        ((latencyRequest backslashOwners "src/a\\b.rs" ["src", "a\\b.rs"]).input [.normal "p"]
          (latencyPolicy backslashOwners)).material := by
    intro request hrequest
    rw [enabledRequests_backslash, List.mem_cons, List.mem_singleton] at hrequest
    rcases hrequest with rfl | rfl
    · rfl
    · exact backslash_material_eq
  refine ⟨?_, ?_, ?_⟩
  · intro first hfirst second hsecond hcollide
    exact hcollide.1 ((hmaterial first hfirst).trans (hmaterial second hsecond).symm)
  · have hhint : latencyHint "src/a/b.rs" ∈ (latencyPolicy backslashOwners).profileHints :=
      List.mem_cons_of_mem _ List.mem_cons_self
    have howner : ownerIn [.normal "p"] (sourcePackage [["src", "a\\b.rs"], ["src", "a", "b.rs"]])
        (latencyHint "src/a/b.rs").ownerPath = some (sourceModule ["src", "a", "b.rs"]) := by decide
    have hkind : RustVerificationTaskKind.performance ∈
        (taskKindsForProfile (latencyHint "src/a/b.rs") (latencyPolicy backslashOwners)).keys := by
      decide
    exact Due.hint List.mem_cons_self hhint howner hkind (by decide)
  · rintro ⟨task, htask, howner, -⟩
    obtain ⟨request, hfirst, rfl⟩ := mem_plan_tasks_iff_first.mp htask
    have hmem := List.mem_of_find?_eq_some hfirst
    -- the request for the other file comes first
    have hsame : request = latencyRequest backslashOwners "src/a\\b.rs" ["src", "a\\b.rs"] := by
      have hfingerprint : (latencyRequest backslashOwners "src/a\\b.rs"
          ["src", "a\\b.rs"]).fingerprint [.normal "p"] (latencyPolicy backslashOwners) =
          request.fingerprint [.normal "p"] (latencyPolicy backslashOwners) :=
        verificationTaskFingerprint_eq_iff.mpr (by rw [hmaterial request hmem])
      rw [enabledRequests_backslash, List.find?_cons_of_pos (by simpa using hfingerprint)] at hfirst
      exact (Option.some.inj hfirst).symm
    rw [ownerPath_task, hsame] at howner
    exact absurd howner (by decide)

end AspRust.Verification
