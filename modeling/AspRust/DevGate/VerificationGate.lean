import AspRust.DevGate.Policy
import AspRust.Verification.PlanCoverage

/-!
# Evidence and the verification gate

The gate wants active tasks: for performance and for stability, if the policy configures
them, the plan must have a task that is still open, and the report about it.  A receipt or
a waiver closes a task.  Evidence can therefore make the gate reject what it accepted
before, and `accepts_withEvidence_iff` says when: some configured kind has no other
open task left.

### Design notes

The gate looks at a plan, and a plan is made of requests.  Evidence changes no request:
it is looked up when the task of a request is built, by fingerprint and kind
(`isActive_task_withEvidence_iff`).  So the plans with and without the evidence have the
same tasks in the same order, and differ in the states of those it is for.

That a gate which passed is closed by its own evidence is the rule of the source and not
a slip of it: the gate says that it wants the active task.
-/

namespace AspRust.DevGate

open AspRust.Foundation AspRust.Verification

/-- What a project supplies for a task. -/
inductive TaskEvidence where
  | receipt (receipt : RustVerificationReceipt)
  | waiver (waiver : RustVerificationWaiver)

/-- Evidence that clears a task: a passed receipt or a complete waiver for it. -/
def TaskEvidence.Clears : TaskEvidence → RustVerificationTask → Prop
  | .receipt passed, task => passed.Clears task
  | .waiver complete, task => complete.Clears task

/-- A policy with one receipt or waiver appended. -/
def withEvidence (policy : RustVerificationPolicy) : TaskEvidence → RustVerificationPolicy
  | .receipt receipt => { policy with receipts := policy.receipts ++ [receipt] }
  | .waiver waiver => { policy with waivers := policy.waivers ++ [waiver] }

/-- All evidence of a policy. -/
def suppliedEvidence (policy : RustVerificationPolicy) : List TaskEvidence :=
  policy.receipts.map .receipt ++ policy.waivers.map .waiver

/-- The kinds the gate looks at. -/
def gateKinds : List RustVerificationTaskKind := [.performance, .stability]

/-! ## When the gate accepts

The gate looks at the fingerprints of active tasks, and at the reports that are due for
them; a report is due for every active task, so the tasks decide. -/

theorem assertVerificationKind_eq_ok_iff {plan : RustVerificationPlan}
    {policy : RustVerificationPolicy} {gateLabel reportKey : String}
    {kind : RustVerificationTaskKind} :
    assertVerificationKind plan policy gateLabel kind reportKey = .ok () ↔
      (configuredVerificationTaskKind policy kind = true →
        (∃ task ∈ plan.tasks, task.kind = kind ∧ task.isActive = true) ∧
          hasReportObligation plan reportKey = true) := by
  have hany : (plan.tasks.any fun task => task.kind = kind && task.isActive) = true ↔
      ∃ task ∈ plan.tasks, task.kind = kind ∧ task.isActive = true := by
    simp [List.any_eq_true]
  rw [← hany]
  unfold assertVerificationKind
  cases configuredVerificationTaskKind policy kind with
  | false => simp [pure, Except.pure]
  | true =>
      cases plan.tasks.any fun task => task.kind = kind && task.isActive with
      | false => simp [throw, throwThe, MonadExceptOf.throw, bind, Except.bind]
      | true =>
          cases hasReportObligation plan reportKey with
          | false => simp [throw, throwThe, MonadExceptOf.throw]
          | true => simp [pure, Except.pure]

/-- The fingerprints of the active tasks of a kind are there when such a task is. -/
theorem fingerprintsWhere_ne_nil_iff {tasks : List RustVerificationTask}
    {kind : RustVerificationTaskKind} :
    fingerprintsWhere (fun task => task.kind = kind) (tasks.filter (·.isActive)) ≠ [] ↔
      ∃ task ∈ tasks, task.kind = kind ∧ task.isActive = true := by
  rw [fingerprintsWhere, ne_eq, List.map_eq_nil_iff, List.filter_eq_nil_iff]
  push Not
  constructor
  · rintro ⟨task, htask, hkind⟩
    obtain ⟨hmem, hactive⟩ := List.mem_filter.mp htask
    exact ⟨task, hmem, by simpa using hkind, hactive⟩
  · rintro ⟨task, hmem, hkind, hactive⟩
    exact ⟨task, List.mem_filter.mpr ⟨hmem, hactive⟩, by simpa using hkind⟩

/-- The reports of performance and stability are owed exactly when a task of the kind is
active. -/
theorem any_key_reportObligationsForTasks (tasks : List RustVerificationTask) :
    ((reportObligationsForTasks tasks).any (fun obligation =>
        obligation.key = "performance_index_json") = true ↔
      ∃ task ∈ tasks, task.kind = .performance ∧ task.isActive = true) ∧
    ((reportObligationsForTasks tasks).any (fun obligation =>
        obligation.key = "stability_index_json") = true ↔
      ∃ task ∈ tasks, task.kind = .stability ∧ task.isActive = true) := by
  have hite : ∀ {condition : Prop} [Decidable condition]
      {obligations : List RustVerificationReportObligation} {key : String},
      (if condition then obligations else []).any (fun obligation => obligation.key = key) =
        (decide condition && obligations.any fun obligation => obligation.key = key) := by
    intro condition _ obligations key
    by_cases hcondition : condition <;> simp [hcondition]
  rw [← fingerprintsWhere_ne_nil_iff, ← fingerprintsWhere_ne_nil_iff]
  unfold reportObligationsForTasks
  dsimp only
  split
  · next hempty => simp [hempty, fingerprintsWhere]
  · simp only [List.any_append, hite]
    constructor <;> simp

section Plan

variable {projectRoot : Path} {policy : RustVerificationPolicy}
  {packageAnalyses : List RustReasoningTreeFacts}

/-- **The gate accepts a plan exactly when every configured kind it looks at has an active
task.** -/
theorem accepts_iff {gateLabel : String} {configured : RustVerificationPolicy} :
    assertAspRustVerificationPlan
        (planRustVerificationFromAnalysis projectRoot policy packageAnalyses) configured
        gateLabel = .ok () ↔
      ∀ kind ∈ gateKinds, configuredVerificationTaskKind configured kind = true →
        ∃ task ∈ (planRustVerificationFromAnalysis projectRoot policy packageAnalyses).tasks,
          task.kind = kind ∧ task.isActive = true := by
  have hreports := any_key_reportObligationsForTasks
    (collectTasks projectRoot policy packageAnalyses).values
  have hmem : ∀ task : RustVerificationTask,
      task ∈ (planRustVerificationFromAnalysis projectRoot policy packageAnalyses).tasks ↔
        task ∈ (collectTasks projectRoot policy packageAnalyses).values :=
    fun task => (List.perm_insertionSort taskLe _).mem_iff
  have hboth : assertAspRustVerificationPlan
        (planRustVerificationFromAnalysis projectRoot policy packageAnalyses) configured
        gateLabel = .ok () ↔
      assertVerificationKind (planRustVerificationFromAnalysis projectRoot policy packageAnalyses)
          configured gateLabel .performance "performance_index_json" = .ok () ∧
        assertVerificationKind (planRustVerificationFromAnalysis projectRoot policy packageAnalyses)
          configured gateLabel .stability "stability_index_json" = .ok () := by
    refine Except.bind_eq_ok.trans ⟨?_, ?_⟩
    · rintro ⟨⟨⟩, hperformance, hstability⟩
      exact ⟨hperformance, hstability⟩
    · rintro ⟨hperformance, hstability⟩
      exact ⟨(), hperformance, hstability⟩
  rw [hboth, assertVerificationKind_eq_ok_iff, assertVerificationKind_eq_ok_iff,
    hasReportObligation, hasReportObligation]
  simp only [gateKinds, List.mem_cons, List.not_mem_nil, or_false, forall_eq_or_imp, forall_eq, hmem]
  exact and_congr (imp_congr_right fun _ => and_iff_left_of_imp hreports.1.mpr)
    (imp_congr_right fun _ => and_iff_left_of_imp hreports.2.mpr)

/-! ## Evidence

A task after the evidence is built from the same request as before, so it has the same
fingerprint and kind.  It is active if it was active and the evidence is not for it. -/

variable {evidence : TaskEvidence}

/-- Evidence changes nothing about what is asked for. -/
theorem enabledRequests_withEvidence :
    enabledRequests projectRoot (withEvidence policy evidence) packageAnalyses =
      enabledRequests projectRoot policy packageAnalyses := by
  cases evidence with
  | receipt passed => rfl
  | waiver complete => rfl

/-- Evidence changes no fingerprint. -/
theorem input_withEvidence (request : RequestedTask) :
    request.input projectRoot (withEvidence policy evidence) = request.input projectRoot policy := by
  cases evidence with
  | receipt passed => rfl
  | waiver complete => rfl

/-- A request has the same place before and after. -/
theorem find?_withEvidence (request : RequestedTask) :
    (enabledRequests projectRoot (withEvidence policy evidence) packageAnalyses).find?
        (fun other => other.fingerprint projectRoot (withEvidence policy evidence) =
          request.fingerprint projectRoot (withEvidence policy evidence)) =
      (enabledRequests projectRoot policy packageAnalyses).find? fun other =>
        other.fingerprint projectRoot policy = request.fingerprint projectRoot policy := by
  rw [enabledRequests_withEvidence]
  refine List.find?_congr fun other _ => decide_eq_decide.mpr ?_
  simp only [RequestedTask.fingerprint, input_withEvidence]

theorem configuredVerificationTaskKind_withEvidence (kind : RustVerificationTaskKind) :
    configuredVerificationTaskKind (withEvidence policy evidence) kind =
      configuredVerificationTaskKind policy kind := by
  cases evidence with
  | receipt passed => rfl
  | waiver complete => rfl

theorem mem_suppliedEvidence_withEvidence {other : TaskEvidence} :
    other ∈ suppliedEvidence (withEvidence policy evidence) ↔
      other = evidence ∨ other ∈ suppliedEvidence policy := by
  cases evidence with
  | receipt passed =>
      simp only [suppliedEvidence, withEvidence, List.map_append, List.map_cons, List.map_nil,
        List.mem_append, List.mem_singleton]
      rw [or_assoc, or_left_comm]
  | waiver complete =>
      simp only [suppliedEvidence, withEvidence, List.map_append, List.map_cons, List.map_nil,
        List.mem_append, List.mem_singleton]
      rw [← or_assoc, or_comm]

/-- Evidence is for a fingerprint and a kind. -/
theorem TaskEvidence.clears_congr {first second : RustVerificationTask}
    (hfingerprint : first.fingerprint = second.fingerprint) (hkind : first.kind = second.kind) :
    evidence.Clears first ↔ evidence.Clears second := by
  cases evidence with
  | receipt passed =>
      constructor
      · intro h
        exact ⟨h.fingerprint.trans hfingerprint, h.kind.trans hkind, h.passed⟩
      · intro h
        exact ⟨h.fingerprint.trans hfingerprint.symm, h.kind.trans hkind.symm, h.passed⟩
  | waiver complete =>
      constructor
      · intro h
        exact ⟨h.fingerprint.trans hfingerprint, h.complete⟩
      · intro h
        exact ⟨h.fingerprint.trans hfingerprint.symm, h.complete⟩

/-- Evidence clears tasks of one fingerprint only. -/
theorem TaskEvidence.Clears.fingerprint_eq {first second : RustVerificationTask}
    (hfirst : evidence.Clears first) (hsecond : evidence.Clears second) :
    first.fingerprint = second.fingerprint := by
  cases evidence with
  | receipt passed =>
      obtain ⟨hfirst, -, -⟩ := hfirst
      obtain ⟨hsecond, -, -⟩ := hsecond
      rw [← hfirst, hsecond]
  | waiver complete =>
      obtain ⟨hfirst, -⟩ := hfirst
      obtain ⟨hsecond, -⟩ := hsecond
      rw [← hfirst, hsecond]

/-- The task of a request is active exactly when no evidence of the policy clears it. -/
theorem isActive_task_iff (request : RequestedTask) :
    (request.task projectRoot policy).isActive = true ↔
      ∀ evidence ∈ suppliedEvidence policy,
        ¬ evidence.Clears (request.task projectRoot policy) := by
  have hsame := newSkillTask_sameTask projectRoot request.packageRoot request.spec policy
  have hclears : ∀ evidence : TaskEvidence,
      evidence.Clears (request.task projectRoot policy) ↔ evidence.Clears
        (pendingSkillTask projectRoot request.packageRoot request.spec policy) :=
    fun evidence => TaskEvidence.clears_congr hsame.fingerprint hsame.kind
  simp only [hclears, suppliedEvidence, List.mem_append, List.mem_map, or_imp, forall_and,
    forall_exists_index, and_imp, forall_apply_eq_imp_iff₂]
  exact isActive_applyTaskResolution_iff rfl

/-- **New evidence closes the tasks it is for, and no others.** -/
theorem isActive_task_withEvidence_iff (request : RequestedTask) :
    (request.task projectRoot (withEvidence policy evidence)).isActive = true ↔
      (request.task projectRoot policy).isActive = true ∧
        ¬ evidence.Clears (request.task projectRoot policy) := by
  have hfingerprint : (request.task projectRoot (withEvidence policy evidence)).fingerprint =
      (request.task projectRoot policy).fingerprint := by
    rw [fingerprint_task, fingerprint_task, RequestedTask.fingerprint, input_withEvidence,
      RequestedTask.fingerprint]
  have hkind : (request.task projectRoot (withEvidence policy evidence)).kind =
      (request.task projectRoot policy).kind := by
    rw [kind_task, kind_task]
  rw [isActive_task_iff, isActive_task_iff]
  simp only [mem_suppliedEvidence_withEvidence, TaskEvidence.clears_congr hfingerprint hkind,
    forall_eq_or_imp]
  exact and_comm

/-- **When evidence keeps the gate open.**  After a receipt or a waiver for a task of
the plan the gate accepts exactly when every configured kind it looks at still has
another active task.  The gate demands a task that is still open for each such kind, so
evidence for the last one closes it. -/
theorem accepts_withEvidence_iff (projectRoot : Path) (policy : RustVerificationPolicy)
    (packageAnalyses : List RustReasoningTreeFacts) (gateLabel : String)
    (task : RustVerificationTask) (evidence : TaskEvidence)
    (htask : task ∈ (planRustVerificationFromAnalysis projectRoot policy packageAnalyses).tasks)
    (hclears : evidence.Clears task) :
    assertAspRustVerificationPlan
        (planRustVerificationFromAnalysis projectRoot (withEvidence policy evidence)
          packageAnalyses) (withEvidence policy evidence) gateLabel = .ok () ↔
      ∀ kind ∈ gateKinds, configuredVerificationTaskKind policy kind = true →
        ∃ other ∈ (planRustVerificationFromAnalysis projectRoot policy packageAnalyses).activeTasks,
          other.kind = kind ∧ other.fingerprint ≠ task.fingerprint := by
  rw [accepts_iff]
  refine forall₂_congr fun kind _ => ?_
  rw [configuredVerificationTaskKind_withEvidence]
  refine imp_congr_right fun _ => ⟨?_, ?_⟩
  · rintro ⟨task', htask', hkind, hactive⟩
    obtain ⟨request, hfirst, rfl⟩ := mem_plan_tasks_iff_first.mp htask'
    rw [find?_withEvidence] at hfirst
    obtain ⟨hopen, hother⟩ := (isActive_task_withEvidence_iff request).mp hactive
    have hmem := mem_plan_tasks_iff_first.mpr ⟨request, hfirst, rfl⟩
    refine ⟨request.task projectRoot policy, List.mem_filter.mpr ⟨hmem, hopen⟩, ?_, ?_⟩
    · rwa [kind_task] at hkind ⊢
    · intro hfingerprint
      rw [eq_of_mem_plan_tasks hmem htask hfingerprint] at hother
      exact hother hclears
  · rintro ⟨other, hother, hkind, hne⟩
    obtain ⟨hmem, hopen⟩ := List.mem_filter.mp hother
    obtain ⟨request, hfirst, rfl⟩ := mem_plan_tasks_iff_first.mp hmem
    rw [← find?_withEvidence] at hfirst
    refine ⟨_, mem_plan_tasks_iff_first.mpr ⟨request, hfirst, rfl⟩, ?_, ?_⟩
    · rwa [kind_task] at hkind ⊢
    · refine (isActive_task_withEvidence_iff request).mpr ⟨hopen, fun hclosed => ?_⟩
      exact hne (hclosed.fingerprint_eq hclears)

end Plan

/-- The policy of some owners whose performance is measured by a configured skill. -/
def benchPolicy (ownerPaths : List String) : RustVerificationPolicy :=
  { latencyPolicy ownerPaths with
    skillBindings := OrderedMap.insert ∅ .performance ⟨"rust-bench", none⟩ }

/-- The request for the performance of a module. -/
def benchRequest (ownerPaths : List String) (ownerPath : String) (names : List String) :
    RequestedTask where
  packageRoot := [.normal "p"]
  spec := profileTaskSpec (sourceModule names) (latencyHint ownerPath) (benchPolicy ownerPaths)
    .performance

/-- A passed receipt for the task of a request. -/
def passedReceipt (policy : RustVerificationPolicy) (request : RequestedTask) :
    RustVerificationReceipt where
  taskFingerprint := request.fingerprint [.normal "p"] policy
  kind := request.spec.kind
  status := .passed
  summary := "p99 held"
  evidenceUri := none
  evidence := []
  observedAt := none

theorem passedReceipt_clears (policy : RustVerificationPolicy) (request : RequestedTask) :
    (TaskEvidence.receipt (passedReceipt policy request)).Clears
      (request.task [.normal "p"] policy) :=
  ⟨(fingerprint_task request).symm, (kind_task request).symm, rfl⟩

/-- Without evidence every task is active. -/
theorem isActive_benchTask (ownerPaths : List String) (request : RequestedTask) :
    (request.task [.normal "p"] (benchPolicy ownerPaths)).isActive = true :=
  (isActive_task_iff request).mpr fun _ hevidence => absurd hevidence List.not_mem_nil

/-- Of the kinds the gate looks at only performance is configured. -/
theorem eq_performance_of_configured {ownerPaths : List String} {kind : RustVerificationTaskKind}
    (hkind : kind ∈ gateKinds)
    (h : configuredVerificationTaskKind (benchPolicy ownerPaths) kind = true) :
    kind = .performance := by
  simp only [gateKinds, List.mem_cons, List.not_mem_nil, or_false] at hkind
  rcases hkind with rfl | rfl
  · rfl
  · cases h

theorem enabledRequests_oneOwner :
    enabledRequests [.normal "p"] (benchPolicy ["src/a.rs"]) [sourcePackage [["src", "a.rs"]]] =
      [benchRequest ["src/a.rs"] "src/a.rs" ["src", "a.rs"]] := rfl

theorem enabledRequests_twoOwners :
    enabledRequests [.normal "p"] (benchPolicy ["src/a.rs", "src/b.rs"])
        [sourcePackage [["src", "a.rs"], ["src", "b.rs"]]] =
      [benchRequest ["src/a.rs", "src/b.rs"] "src/a.rs" ["src", "a.rs"],
        benchRequest ["src/a.rs", "src/b.rs"] "src/b.rs" ["src", "b.rs"]] := rfl

theorem twoOwners_fingerprint_ne :
    (benchRequest ["src/a.rs", "src/b.rs"] "src/a.rs" ["src", "a.rs"]).fingerprint [.normal "p"]
        (benchPolicy ["src/a.rs", "src/b.rs"]) ≠
      (benchRequest ["src/a.rs", "src/b.rs"] "src/b.rs" ["src", "b.rs"]).fingerprint [.normal "p"]
        (benchPolicy ["src/a.rs", "src/b.rs"]) := by
  decide +kernel

/-- A receipt for one of two measured owners keeps the gate open. -/
theorem twoOwners_accepted :
    assertAspRustVerificationPlan
        (planRustVerificationFromAnalysis [.normal "p"]
          (withEvidence (benchPolicy ["src/a.rs", "src/b.rs"])
            (.receipt (passedReceipt (benchPolicy ["src/a.rs", "src/b.rs"])
              (benchRequest ["src/a.rs", "src/b.rs"] "src/a.rs" ["src", "a.rs"]))))
          [sourcePackage [["src", "a.rs"], ["src", "b.rs"]]])
        (withEvidence (benchPolicy ["src/a.rs", "src/b.rs"])
          (.receipt (passedReceipt (benchPolicy ["src/a.rs", "src/b.rs"])
            (benchRequest ["src/a.rs", "src/b.rs"] "src/a.rs" ["src", "a.rs"]))))
        "gate" = .ok () := by
  have hne := twoOwners_fingerprint_ne
  refine (accepts_withEvidence_iff [.normal "p"] (benchPolicy ["src/a.rs", "src/b.rs"])
    [sourcePackage [["src", "a.rs"], ["src", "b.rs"]]] "gate" _ _ ?_
    (passedReceipt_clears _ _)).mpr ?_
  · refine mem_plan_tasks_iff_first.mpr ⟨_, ?_, rfl⟩
    rw [enabledRequests_twoOwners]
    exact List.find?_cons_of_pos (by simp)
  · intro kind hkind hconfigured
    refine ⟨(benchRequest ["src/a.rs", "src/b.rs"] "src/b.rs" ["src", "b.rs"]).task [.normal "p"]
      (benchPolicy ["src/a.rs", "src/b.rs"]), List.mem_filter.mpr ⟨?_, isActive_benchTask _ _⟩, ?_,
      ?_⟩
    · refine mem_plan_tasks_iff_first.mpr ⟨_, ?_, rfl⟩
      rw [enabledRequests_twoOwners, List.find?_cons_of_neg (by simpa using hne)]
      exact List.find?_cons_of_pos (by simp)
    · rw [eq_performance_of_configured hkind hconfigured, kind_task]
      rfl
    · rw [fingerprint_task, fingerprint_task]
      exact hne.symm

/-- **The last receipt closes the gate.**  The one task a plan asks for is done, and the gate
that accepted the plan rejects it. -/
theorem lastReceipt_rejected :
    assertAspRustVerificationPlan
        (planRustVerificationFromAnalysis [.normal "p"] (benchPolicy ["src/a.rs"])
          [sourcePackage [["src", "a.rs"]]]) (benchPolicy ["src/a.rs"]) "gate" = .ok () ∧
      (benchRequest ["src/a.rs"] "src/a.rs" ["src", "a.rs"]).task [.normal "p"]
          (benchPolicy ["src/a.rs"]) ∈
        (planRustVerificationFromAnalysis [.normal "p"] (benchPolicy ["src/a.rs"])
          [sourcePackage [["src", "a.rs"]]]).tasks ∧
      (TaskEvidence.receipt (passedReceipt (benchPolicy ["src/a.rs"])
        (benchRequest ["src/a.rs"] "src/a.rs" ["src", "a.rs"]))).Clears
          ((benchRequest ["src/a.rs"] "src/a.rs" ["src", "a.rs"]).task [.normal "p"]
            (benchPolicy ["src/a.rs"])) ∧
      assertAspRustVerificationPlan
        (planRustVerificationFromAnalysis [.normal "p"]
          (withEvidence (benchPolicy ["src/a.rs"]) (.receipt (passedReceipt
            (benchPolicy ["src/a.rs"]) (benchRequest ["src/a.rs"] "src/a.rs" ["src", "a.rs"]))))
          [sourcePackage [["src", "a.rs"]]])
        (withEvidence (benchPolicy ["src/a.rs"]) (.receipt (passedReceipt
          (benchPolicy ["src/a.rs"]) (benchRequest ["src/a.rs"] "src/a.rs" ["src", "a.rs"]))))
        "gate" ≠ .ok () := by
  have hmem : (benchRequest ["src/a.rs"] "src/a.rs" ["src", "a.rs"]).task [.normal "p"]
      (benchPolicy ["src/a.rs"]) ∈
        (planRustVerificationFromAnalysis [.normal "p"] (benchPolicy ["src/a.rs"])
          [sourcePackage [["src", "a.rs"]]]).tasks := by
    refine mem_plan_tasks_iff_first.mpr ⟨_, ?_, rfl⟩
    rw [enabledRequests_oneOwner]
    exact List.find?_cons_of_pos (by simp)
  refine ⟨?_, hmem, passedReceipt_clears _ _, ?_⟩
  · refine accepts_iff.mpr fun kind hkind hconfigured => ⟨_, hmem, ?_, isActive_benchTask _ _⟩
    rw [eq_performance_of_configured hkind hconfigured, kind_task]
    rfl
  · intro haccepted
    obtain ⟨task, htask, -, hactive⟩ := accepts_iff.mp haccepted .performance List.mem_cons_self
      (by decide)
    obtain ⟨request, hrequest, rfl⟩ := exists_request_of_mem_plan_tasks htask
    rw [enabledRequests_withEvidence, enabledRequests_oneOwner, List.mem_singleton] at hrequest
    subst hrequest
    exact ((isActive_task_withEvidence_iff _).mp hactive).2 (passedReceipt_clears _ _)

end AspRust.DevGate
