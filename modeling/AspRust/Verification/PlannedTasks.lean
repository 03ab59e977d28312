import AspRust.Verification.Planner

/-!
# The tasks a plan is made of

The planner collects tasks while it walks over packages, hints and baselines, and keeps
book of the indices that named a module.  `requestedTasks` lists what is asked for, in
the order of the walk, and `collectTasks_eq_keepFirst` says that the walk collects
these tasks and no others, the first one of each fingerprint.

### Design notes

The walk of the planner carries three things: the tasks, and two sets of indices of hints
and baselines that named a module.  They are separated here.  A request is what the walk
would build a task from (`RequestedTask`), and the list of requests is written without any
bookkeeping, so that membership in it can be read off the policy.

Disabled kinds are dropped when a task is pushed and not when it is requested, as in the
source: `enabledRequests` is what is left of the requests then.
-/

namespace AspRust.Verification

open AspRust.Foundation

variable (projectRoot : Path) (policy : RustVerificationPolicy)

/-! ## What is asked for

The requests of a package are those of the hints and baselines that name a module of it,
and the regression tasks of its branches; after all packages come those of the hints and
baselines that named none. -/

/-- The module that a configured path names in a package. -/
def ownerIn (reasoningTree : RustReasoningTreeFacts) (ownerPath : String) :
    Option RustReasoningModuleFacts :=
  (packageLookup projectRoot reasoningTree).getConfigPath (OsPath.ofText ownerPath)

/-- What a hint asks for in a package. -/
def hintRequests (reasoningTree : RustReasoningTreeFacts) (hint : RustVerificationProfileHint) :
    List RequestedTask :=
  (ownerIn projectRoot reasoningTree hint.ownerPath).toList.flatMap fun module =>
    (profileTaskSpecs module hint policy).map (⟨reasoningTree.packageRoot, ·⟩)

/-- What a baseline asks for in a package. -/
def baselineRequests (reasoningTree : RustReasoningTreeFacts)
    (baseline : RustVerificationApiPathBaseline) : List RequestedTask :=
  (ownerIn projectRoot reasoningTree baseline.ownerPath).toList.flatMap fun module =>
    (apiPathTaskSpecs module baseline policy).map (⟨reasoningTree.packageRoot, ·⟩)

/-- What is asked for in a package. -/
def packageRequests (reasoningTree : RustReasoningTreeFacts) : List RequestedTask :=
  policy.profileHints.flatMap (hintRequests projectRoot policy reasoningTree) ++
    policy.apiPathBaselines.flatMap (baselineRequests projectRoot policy reasoningTree) ++
    (collectRegressionTasks reasoningTree.ownerBranches policy).map
      (⟨reasoningTree.packageRoot, ·⟩)

variable (packageAnalyses : List RustReasoningTreeFacts)

/-- A configured path that names a source module of some package. -/
def namesModule (ownerPath : String) : Bool :=
  packageAnalyses.any fun reasoningTree => (ownerIn projectRoot reasoningTree ownerPath).isSome

/-- Everything that is asked for, in the order in which it is collected. -/
def requestedTasks : List RequestedTask :=
  packageAnalyses.flatMap (packageRequests projectRoot policy) ++
    ((policy.profileHints.filter fun hint =>
      !namesModule projectRoot packageAnalyses hint.ownerPath).map fun hint =>
        ⟨projectRoot, unmatchedProfileHintSpec projectRoot policy hint⟩) ++
    ((policy.apiPathBaselines.filter fun baseline =>
      !namesModule projectRoot packageAnalyses baseline.ownerPath).map fun baseline =>
        ⟨projectRoot, unmatchedApiPathBaselineSpec projectRoot policy baseline⟩)

/-- The fingerprint under which a task is collected; a task of a disabled kind is not. -/
def taskKey (task : RustVerificationTask) : Option String :=
  if task.kind ∈ policy.disabledTaskKinds.keys then none else some task.fingerprint

/-! ## The walk

Each function of the walk pushes the tasks of its requests and adds to the sets of
indices.  Its effect on the tasks is described apart from that on the indices; the
indices matter once, at the end. -/

variable {projectRoot policy packageAnalyses}

theorem pushTask_eq_collectFirst (tasks : OrderedMap String RustVerificationTask)
    (task : RustVerificationTask) :
    pushTask policy tasks task = OrderedMap.collectFirst (taskKey policy) tasks task := by
  unfold pushTask OrderedMap.collectFirst taskKey
  split
  · rfl
  · rfl

theorem pushRequests_append (tasks : OrderedMap String RustVerificationTask)
    (first second : List RequestedTask) :
    pushRequests projectRoot policy tasks (first ++ second) =
      pushRequests projectRoot policy (pushRequests projectRoot policy tasks first) second :=
  List.foldl_append

/-- A pass in which every step collects what an element asks for. -/
theorem tasks_foldl {ι : Type*} {step : VerificationTaskCollections → ι → VerificationTaskCollections}
    {requests : ι → List RequestedTask}
    (hstep : ∀ collections element, (step collections element).tasks =
      pushRequests projectRoot policy collections.tasks (requests element))
    (elements : List ι) (collections : VerificationTaskCollections) :
    (elements.foldl step collections).tasks =
      pushRequests projectRoot policy collections.tasks (elements.flatMap requests) := by
  induction elements generalizing collections with
  | nil => rfl
  | cons element rest ih =>
      rw [List.foldl_cons, ih, hstep, List.flatMap_cons, pushRequests_append]

/-- A pass over numbered elements whose steps request the same for every number. -/
theorem tasks_foldl_zipIdx {ι : Type*}
    {step : VerificationTaskCollections → ι × ℕ → VerificationTaskCollections}
    {requests : ι → List RequestedTask}
    (hstep : ∀ collections indexed, (step collections indexed).tasks =
      pushRequests projectRoot policy collections.tasks (requests indexed.1))
    (elements : List ι) (collections : VerificationTaskCollections) :
    (elements.zipIdx.foldl step collections).tasks =
      pushRequests projectRoot policy collections.tasks (elements.flatMap requests) := by
  rw [tasks_foldl hstep]
  conv_rhs => rw [← List.zipIdx_map_fst 0 elements, List.flatMap_map]

/-- A pass in which every step notes some indices. -/
theorem mem_matched_foldl {ι : Type*}
    {step : VerificationTaskCollections → ι → VerificationTaskCollections}
    {matched : VerificationTaskCollections → OrderedSet ℕ} {adds : ι → ℕ → Prop}
    (hstep : ∀ collections element index, index ∈ (matched (step collections element)).keys ↔
      index ∈ (matched collections).keys ∨ adds element index)
    {elements : List ι} {collections : VerificationTaskCollections} {index : ℕ} :
    index ∈ (matched (elements.foldl step collections)).keys ↔
      index ∈ (matched collections).keys ∨ ∃ element ∈ elements, adds element index := by
  induction elements generalizing collections with
  | nil => simp
  | cons element rest ih =>
      rw [List.foldl_cons, ih, hstep]
      simp only [List.mem_cons, exists_eq_or_imp]
      tauto

section Package

variable (reasoningTree : RustReasoningTreeFacts) (collections : VerificationTaskCollections)

theorem tasks_collectProfileTasks :
    (collectProfileTasks projectRoot reasoningTree policy collections).tasks =
      pushRequests projectRoot policy collections.tasks
        (policy.profileHints.flatMap (hintRequests projectRoot policy reasoningTree)) := by
  refine tasks_foldl_zipIdx (fun collections indexed => ?_) policy.profileHints collections
  unfold collectProfileTask hintRequests ownerIn RustVerificationProfileHint.osPath
  split
  · next hnone => rw [hnone]; rfl
  · next module hmodule => rw [hmodule]; simp

theorem tasks_collectApiPathBaselineTasks :
    (collectApiPathBaselineTasks projectRoot reasoningTree policy collections).tasks =
      pushRequests projectRoot policy collections.tasks
        (policy.apiPathBaselines.flatMap (baselineRequests projectRoot policy reasoningTree)) := by
  refine tasks_foldl_zipIdx (fun collections indexed => ?_) policy.apiPathBaselines collections
  unfold collectApiPathBaselineTask baselineRequests ownerIn
    RustVerificationApiPathBaseline.osPath
  split
  · next hnone => rw [hnone]; rfl
  · next module hmodule => rw [hmodule]; simp

theorem tasks_collectPackageVerificationTasks :
    (collectPackageVerificationTasks projectRoot policy collections reasoningTree).tasks =
      pushRequests projectRoot policy collections.tasks
        (packageRequests projectRoot policy reasoningTree) := by
  simp only [collectPackageVerificationTasks, tasks_collectApiPathBaselineTasks,
    tasks_collectProfileTasks, packageRequests, pushRequests_append]

/-- An element with an index is an element of the numbered list. -/
theorem exists_indexed_iff {ι : Type*} {elements : List ι} (holds : ι → Prop) {index : ℕ} :
    (∃ indexed ∈ elements.zipIdx, holds indexed.1 ∧ index = indexed.2) ↔
      ∃ element, (element, index) ∈ elements.zipIdx ∧ holds element := by
  constructor
  · rintro ⟨⟨element, i⟩, hmem, hholds, rfl⟩
    exact ⟨element, hmem, hholds⟩
  · rintro ⟨element, hmem, hholds⟩
    exact ⟨(element, index), hmem, hholds, rfl⟩

/-- The hints that a package makes matched are those it has a module for. -/
theorem mem_matchedProfileHints_collectPackageVerificationTasks (index : ℕ) :
    index ∈ (collectPackageVerificationTasks projectRoot policy collections
        reasoningTree).matchedProfileHints.keys ↔
      index ∈ collections.matchedProfileHints.keys ∨
        ∃ hint, (hint, index) ∈ policy.profileHints.zipIdx ∧
          (ownerIn projectRoot reasoningTree hint.ownerPath).isSome := by
  have hbaselines : ∀ (collections : VerificationTaskCollections)
      (indexed : RustVerificationApiPathBaseline × ℕ) (index : ℕ),
      index ∈ (collectApiPathBaselineTask projectRoot reasoningTree policy collections
          indexed).matchedProfileHints.keys ↔
        index ∈ collections.matchedProfileHints.keys ∨ False := by
    intro collections indexed index
    unfold collectApiPathBaselineTask
    split <;> simp
  have hhints : ∀ (collections : VerificationTaskCollections)
      (indexed : RustVerificationProfileHint × ℕ) (index : ℕ),
      index ∈ (collectProfileTask projectRoot reasoningTree policy collections
          indexed).matchedProfileHints.keys ↔
        index ∈ collections.matchedProfileHints.keys ∨
          (ownerIn projectRoot reasoningTree indexed.1.ownerPath).isSome ∧ index = indexed.2 := by
    intro collections indexed index
    unfold collectProfileTask ownerIn RustVerificationProfileHint.osPath
    split
    · next hnone => simp [hnone]
    · next module hmodule => simp [hmodule, or_comm]
  show index ∈ (collectApiPathBaselineTasks projectRoot reasoningTree policy
    (collectProfileTasks projectRoot reasoningTree policy collections)).matchedProfileHints.keys ↔ _
  rw [collectApiPathBaselineTasks, collectProfileTasks, mem_matched_foldl hbaselines,
    mem_matched_foldl hhints]
  simp only [and_false, exists_false, or_false]
  exact or_congr_right (exists_indexed_iff fun hint : RustVerificationProfileHint =>
    (ownerIn projectRoot reasoningTree hint.ownerPath).isSome)

/-- The baselines that a package makes matched are those it has a module for. -/
theorem mem_matchedApiPathBaselines_collectPackageVerificationTasks (index : ℕ) :
    index ∈ (collectPackageVerificationTasks projectRoot policy collections
        reasoningTree).matchedApiPathBaselines.keys ↔
      index ∈ collections.matchedApiPathBaselines.keys ∨
        ∃ baseline, (baseline, index) ∈ policy.apiPathBaselines.zipIdx ∧
          (ownerIn projectRoot reasoningTree baseline.ownerPath).isSome := by
  have hbaselines : ∀ (collections : VerificationTaskCollections)
      (indexed : RustVerificationApiPathBaseline × ℕ) (index : ℕ),
      index ∈ (collectApiPathBaselineTask projectRoot reasoningTree policy collections
          indexed).matchedApiPathBaselines.keys ↔
        index ∈ collections.matchedApiPathBaselines.keys ∨
          (ownerIn projectRoot reasoningTree indexed.1.ownerPath).isSome ∧ index = indexed.2 := by
    intro collections indexed index
    unfold collectApiPathBaselineTask ownerIn RustVerificationApiPathBaseline.osPath
    split
    · next hnone => simp [hnone]
    · next module hmodule => simp [hmodule, or_comm]
  have hhints : ∀ (collections : VerificationTaskCollections)
      (indexed : RustVerificationProfileHint × ℕ) (index : ℕ),
      index ∈ (collectProfileTask projectRoot reasoningTree policy collections
          indexed).matchedApiPathBaselines.keys ↔
        index ∈ collections.matchedApiPathBaselines.keys ∨ False := by
    intro collections indexed index
    unfold collectProfileTask
    split <;> simp
  show index ∈ (collectApiPathBaselineTasks projectRoot reasoningTree policy
    (collectProfileTasks projectRoot reasoningTree policy
      collections)).matchedApiPathBaselines.keys ↔ _
  rw [collectApiPathBaselineTasks, collectProfileTasks, mem_matched_foldl hbaselines,
    mem_matched_foldl hhints]
  simp only [and_false, exists_false, or_false]
  exact or_congr_right (exists_indexed_iff fun baseline : RustVerificationApiPathBaseline =>
    (ownerIn projectRoot reasoningTree baseline.ownerPath).isSome)

end Package

/-- Elements of a list, picked by what is noted about their indices. -/
theorem filter_zipIdx {ι κ : Type*} {elements : List ι} {noted : OrderedSet ℕ}
    {picked : ι → Bool} (hnoted : ∀ index, index ∈ noted.keys ↔
      ∃ element, (element, index) ∈ elements.zipIdx ∧ picked element) (f : ι → κ) :
    ((elements.zipIdx.filter fun indexed => indexed.2 ∉ noted.keys).map fun indexed => f indexed.1) =
      (elements.filter fun element => !picked element).map f := by
  have hsame : elements.zipIdx.filter (fun indexed => indexed.2 ∉ noted.keys) =
      elements.zipIdx.filter fun indexed => !picked indexed.1 := by
    refine List.filter_congr fun indexed hindexed => ?_
    have hiff : indexed.2 ∈ noted.keys ↔ picked indexed.1 = true := by
      rw [hnoted]
      constructor
      · rintro ⟨element, helement, hpicked⟩
        -- an index belongs to one element
        have hfirst := List.mk_mem_zipIdx_iff_getElem?.mp helement
        have hsecond := List.mk_mem_zipIdx_iff_getElem?.mp hindexed
        rw [hfirst] at hsecond
        rwa [← Option.some.inj hsecond]
      · intro hpicked
        exact ⟨indexed.1, hindexed, hpicked⟩
    simp [hiff]
  rw [hsame]
  conv_rhs => rw [← List.zipIdx_map_fst 0 elements, List.filter_map, List.map_map]
  rfl

/-- **The walk collects what is asked for**, the first task of each fingerprint. -/
theorem collectTasks_eq_keepFirst :
    collectTasks projectRoot policy packageAnalyses =
      OrderedMap.keepFirst (taskKey policy)
        ((requestedTasks projectRoot policy packageAnalyses).map
          (·.task projectRoot policy)) := by
  have htasks : (collectPackages projectRoot policy packageAnalyses).tasks =
      pushRequests projectRoot policy ∅
        (packageAnalyses.flatMap (packageRequests projectRoot policy)) :=
    tasks_foldl (fun collections reasoningTree =>
      tasks_collectPackageVerificationTasks reasoningTree collections) packageAnalyses {}
  have hhints : ∀ index,
      index ∈ (collectPackages projectRoot policy packageAnalyses).matchedProfileHints.keys ↔
        ∃ hint, (hint, index) ∈ policy.profileHints.zipIdx ∧
          namesModule projectRoot packageAnalyses hint.ownerPath := by
    intro index
    rw [collectPackages, mem_matched_foldl fun collections reasoningTree index =>
      mem_matchedProfileHints_collectPackageVerificationTasks reasoningTree collections index]
    simp only [OrderedMap.keys_empty, List.not_mem_nil, false_or, namesModule, List.any_eq_true]
    tauto
  have hbaselines : ∀ index,
      index ∈ (collectPackages projectRoot policy packageAnalyses).matchedApiPathBaselines.keys ↔
        ∃ baseline, (baseline, index) ∈ policy.apiPathBaselines.zipIdx ∧
          namesModule projectRoot packageAnalyses baseline.ownerPath := by
    intro index
    rw [collectPackages, mem_matched_foldl fun collections reasoningTree index =>
      mem_matchedApiPathBaselines_collectPackageVerificationTasks reasoningTree collections index]
    simp only [OrderedMap.keys_empty, List.not_mem_nil, false_or, namesModule, List.any_eq_true]
    tauto
  have hall : collectTasks projectRoot policy packageAnalyses =
      pushRequests projectRoot policy ∅
        (requestedTasks projectRoot policy packageAnalyses) := by
    have hhintRequests := filter_zipIdx hhints fun hint =>
      (⟨projectRoot, unmatchedProfileHintSpec projectRoot policy hint⟩ : RequestedTask)
    have hbaselineRequests := filter_zipIdx hbaselines fun baseline =>
      (⟨projectRoot, unmatchedApiPathBaselineSpec projectRoot policy baseline⟩ : RequestedTask)
    rw [collectTasks, htasks, collectUnmatchedProfileHints, collectUnmatchedApiPathBaselines,
      hhintRequests, hbaselineRequests, requestedTasks, pushRequests_append, pushRequests_append]
  rw [hall, pushRequests, OrderedMap.keepFirst, List.foldl_map]
  congr 1
  funext tasks request
  exact pushTask_eq_collectFirst tasks (request.task projectRoot policy)

/-! ## Requests of hints and baselines

From where a request comes: for each way of asking there is a lemma that it is among the
requests. -/

theorem mem_requestedTasks_of_package {reasoningTree : RustReasoningTreeFacts}
    (htree : reasoningTree ∈ packageAnalyses) {request : RequestedTask}
    (h : request ∈ packageRequests projectRoot policy reasoningTree) :
    request ∈ requestedTasks projectRoot policy packageAnalyses :=
  List.mem_append_left _ (List.mem_append_left _ (List.mem_flatMap_of_mem htree h))

/-- A hint that names a module asks for a task of each of its kinds. -/
theorem mem_requestedTasks_of_hint {reasoningTree : RustReasoningTreeFacts}
    (htree : reasoningTree ∈ packageAnalyses) {hint : RustVerificationProfileHint}
    (hhint : hint ∈ policy.profileHints) {module : RustReasoningModuleFacts}
    (hmodule : ownerIn projectRoot reasoningTree hint.ownerPath = some module)
    {kind : RustVerificationTaskKind} (hkind : kind ∈ (taskKindsForProfile hint policy).keys) :
    ⟨reasoningTree.packageRoot, profileTaskSpec module hint policy kind⟩ ∈
      requestedTasks projectRoot policy packageAnalyses := by
  refine mem_requestedTasks_of_package htree
    (List.mem_append_left _ (List.mem_append_left _ (List.mem_flatMap_of_mem hhint ?_)))
  rw [hintRequests, hmodule, Option.toList_some, List.flatMap_singleton]
  exact List.mem_map_of_mem (List.mem_append_right _ (List.mem_map_of_mem hkind))

/-- A baseline that names a module asks for a task of each of its kinds. -/
theorem mem_requestedTasks_of_baseline {reasoningTree : RustReasoningTreeFacts}
    (htree : reasoningTree ∈ packageAnalyses) {baseline : RustVerificationApiPathBaseline}
    (hbaseline : baseline ∈ policy.apiPathBaselines) {module : RustReasoningModuleFacts}
    (hmodule : ownerIn projectRoot reasoningTree baseline.ownerPath = some module)
    {kind : RustVerificationTaskKind}
    (hkind : kind ∈ (taskKindsForApiPathBaseline baseline policy).keys) :
    ⟨reasoningTree.packageRoot, apiPathTaskSpec module baseline policy kind⟩ ∈
      requestedTasks projectRoot policy packageAnalyses := by
  refine mem_requestedTasks_of_package htree
    (List.mem_append_left _ (List.mem_append_right _ (List.mem_flatMap_of_mem hbaseline ?_)))
  rw [baselineRequests, hmodule, Option.toList_some, List.flatMap_singleton]
  exact List.mem_map_of_mem (List.mem_append_right _ (List.mem_map_of_mem hkind))

/-- A hint that names no module asks for a review. -/
theorem mem_requestedTasks_of_unmatched_hint {hint : RustVerificationProfileHint}
    (hhint : hint ∈ policy.profileHints)
    (hnone : namesModule projectRoot packageAnalyses hint.ownerPath = false) :
    ⟨projectRoot, unmatchedProfileHintSpec projectRoot policy hint⟩ ∈
      requestedTasks projectRoot policy packageAnalyses := by
  refine List.mem_append_left _ (List.mem_append_right _ (List.mem_map.mpr ⟨hint, ?_, rfl⟩))
  exact List.mem_filter.mpr ⟨hhint, by simp [hnone]⟩

/-- A baseline that names no module asks for a review. -/
theorem mem_requestedTasks_of_unmatched_baseline {baseline : RustVerificationApiPathBaseline}
    (hbaseline : baseline ∈ policy.apiPathBaselines)
    (hnone : namesModule projectRoot packageAnalyses baseline.ownerPath = false) :
    ⟨projectRoot, unmatchedApiPathBaselineSpec projectRoot policy baseline⟩ ∈
      requestedTasks projectRoot policy packageAnalyses := by
  refine List.mem_append_right _ (List.mem_map.mpr ⟨baseline, ?_, rfl⟩)
  exact List.mem_filter.mpr ⟨hbaseline, by simp [hnone]⟩

/-! ## The tasks of a plan

A plan has the tasks that were collected, and of requests with one fingerprint the first
that is enabled. -/

variable (projectRoot policy) in
/-- What the fingerprint of the task for a request is computed from. -/
def RequestedTask.input (request : RequestedTask) : VerificationFingerprintInput :=
  request.spec.fingerprintInput projectRoot request.packageRoot policy

variable (projectRoot policy) in
/-- The fingerprint of the task that is built for a request. -/
def RequestedTask.fingerprint (request : RequestedTask) : String :=
  verificationTaskFingerprint (request.input projectRoot policy)

variable (projectRoot policy packageAnalyses) in
/-- The requests of kinds that are not disabled. -/
def enabledRequests : List RequestedTask :=
  (requestedTasks projectRoot policy packageAnalyses).filter fun request =>
    request.spec.kind ∉ policy.disabledTaskKinds.keys

theorem mem_enabledRequests_iff {request : RequestedTask} :
    request ∈ enabledRequests projectRoot policy packageAnalyses ↔
      request ∈ requestedTasks projectRoot policy packageAnalyses ∧
        request.spec.kind ∉ policy.disabledTaskKinds.keys := by
  simp [enabledRequests]

@[simp] theorem kind_task (request : RequestedTask) :
    (request.task projectRoot policy).kind = request.spec.kind :=
  (newSkillTask_sameTask projectRoot request.packageRoot request.spec policy).kind

@[simp] theorem fingerprint_task (request : RequestedTask) :
    (request.task projectRoot policy).fingerprint = request.fingerprint projectRoot policy :=
  (newSkillTask_sameTask projectRoot request.packageRoot request.spec policy).fingerprint

theorem taskKey_eq_some_iff {task : RustVerificationTask} {fingerprint : String} :
    taskKey policy task = some fingerprint ↔
      task.kind ∉ policy.disabledTaskKinds.keys ∧ task.fingerprint = fingerprint := by
  unfold taskKey
  split
  · next hdisabled => simp [hdisabled]
  · next henabled => simp [henabled]

theorem mem_plan_tasks_iff {task : RustVerificationTask} :
    task ∈ (planRustVerificationFromAnalysis projectRoot policy packageAnalyses).tasks ↔
      task ∈ (OrderedMap.keepFirst (taskKey policy)
        ((requestedTasks projectRoot policy packageAnalyses).map
          (·.task projectRoot policy))).values := by
  rw [← collectTasks_eq_keepFirst]
  exact (List.perm_insertionSort taskLe _).mem_iff

/-- Every task of a plan is built for an enabled request. -/
theorem exists_request_of_mem_plan_tasks {task : RustVerificationTask}
    (h : task ∈ (planRustVerificationFromAnalysis projectRoot policy packageAnalyses).tasks) :
    ∃ request ∈ enabledRequests projectRoot policy packageAnalyses,
      request.task projectRoot policy = task := by
  rw [mem_plan_tasks_iff] at h
  obtain ⟨request, hrequest, rfl⟩ := List.mem_map.mp (OrderedMap.mem_of_mem_values_keepFirst h)
  obtain ⟨fingerprint, hkey, -⟩ := OrderedMap.mem_values_keepFirst.mp h
  have henabled := (taskKey_eq_some_iff.mp hkey).1
  rw [kind_task] at henabled
  exact ⟨request, mem_enabledRequests_iff.mpr ⟨hrequest, henabled⟩, rfl⟩

/-- **A plan has one task of a fingerprint.** -/
theorem eq_of_mem_plan_tasks {task task' : RustVerificationTask}
    (h : task ∈ (planRustVerificationFromAnalysis projectRoot policy packageAnalyses).tasks)
    (h' : task' ∈ (planRustVerificationFromAnalysis projectRoot policy packageAnalyses).tasks)
    (hfingerprint : task.fingerprint = task'.fingerprint) : task = task' := by
  have hkey : ∀ {task : RustVerificationTask},
      task ∈ (planRustVerificationFromAnalysis projectRoot policy packageAnalyses).tasks →
      taskKey policy task = some task.fingerprint := by
    intro task htask
    obtain ⟨request, hrequest, rfl⟩ := exists_request_of_mem_plan_tasks htask
    refine taskKey_eq_some_iff.mpr ⟨?_, rfl⟩
    rw [kind_task]
    exact (mem_enabledRequests_iff.mp hrequest).2
  refine OrderedMap.eq_of_mem_values_keepFirst (mem_plan_tasks_iff.mp h) (mem_plan_tasks_iff.mp h') ?_
  rw [hkey h, hkey h', hfingerprint]

/-- **Every fingerprint asked for is in the plan**, for the first request that has it. -/
theorem exists_plan_task {request : RequestedTask}
    (h : request ∈ enabledRequests projectRoot policy packageAnalyses) :
    ∃ kept ∈ enabledRequests projectRoot policy packageAnalyses,
      kept.task projectRoot policy ∈
          (planRustVerificationFromAnalysis projectRoot policy packageAnalyses).tasks ∧
        kept.fingerprint projectRoot policy = request.fingerprint projectRoot policy := by
  obtain ⟨hrequest, henabled⟩ := mem_enabledRequests_iff.mp h
  have hkey : taskKey policy (request.task projectRoot policy) =
      some (request.fingerprint projectRoot policy) :=
    taskKey_eq_some_iff.mpr ⟨by rwa [kind_task], fingerprint_task request⟩
  obtain ⟨task, htask, htaskKey⟩ := OrderedMap.exists_kept (List.mem_map_of_mem hrequest) hkey
  have hplanned := mem_plan_tasks_iff.mpr htask
  obtain ⟨kept, hkept, rfl⟩ := exists_request_of_mem_plan_tasks hplanned
  refine ⟨kept, hkept, hplanned, ?_⟩
  rw [← fingerprint_task, (taskKey_eq_some_iff.mp htaskKey).2]

end AspRust.Verification
