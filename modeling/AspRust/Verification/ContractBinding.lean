import AspRust.Verification.FingerprintMaterial
import AspRust.Verification.PlannedTasks

/-!
# Receipts and contracts

A contract says in which phase a task runs, what its receipt must report, and which evidence
is required.  Of this only the keys of the evidence enter the fingerprint.  A receipt that
was issued under an old contract therefore clears the task of the new one whenever the
keys stay the same, and of two tasks that differ in phase or receipt only the first
is collected.

### What is load-bearing

A skill that is configured for a kind writes the text of its contract into the
fingerprint.  So what is said here is said of tasks whose skills agree (`SameSkills`);
for the others the text of the skill tells the contracts apart as well.

The two halves of `receipts_bound_to_contracts_iff` fail in different ways.  A receipt
that is kept is a matter of one task under two policies, and only the keys of the
evidence count.  A contract that is dropped is a matter of two tasks under one policy,
and there the first request with a text counts.
-/

namespace AspRust.Verification

open AspRust.Foundation

/-- What a contract commits to. -/
structure ContractTerms where
  phase : RustVerificationPhase
  requiredReceipt : String
  evidenceKeys : List String
deriving DecidableEq

def RustVerificationTaskContract.terms (contract : RustVerificationTaskContract) :
    ContractTerms where
  phase := contract.phase
  requiredReceipt := contract.requiredReceipt
  evidenceKeys := contract.requiredEvidence.map (·.key)

def RustVerificationTask.terms (task : RustVerificationTask) : ContractTerms where
  phase := task.phase
  requiredReceipt := task.requiredReceipt
  evidenceKeys := task.requiredEvidence.map (·.key)

/-- The part of the hashed text that a contract contributes. -/
def RustVerificationTaskContract.keyText (contract : RustVerificationTaskContract) : List Char :=
  contract.requiredEvidence.flatMap fun requirement =>
    "requires=".toList ++ requirement.key.toList ++ [';']

/-- A specification under another contract. -/
def VerificationTaskSpec.withContract (spec : VerificationTaskSpec)
    (contract : RustVerificationTaskContract) : VerificationTaskSpec :=
  { spec with contract := contract }

/-- A task is satisfied exactly when some receipt of the policy clears it. -/
theorem exists_clears_iff {projectRoot packageRoot : Path} {spec : VerificationTaskSpec}
    {policy : RustVerificationPolicy} :
    (newSkillTask projectRoot packageRoot spec policy).state = .satisfied ↔
      ∃ receipt ∈ policy.receipts,
        receipt.Clears (newSkillTask projectRoot packageRoot spec policy) := by
  have hsame := newSkillTask_sameTask projectRoot packageRoot spec policy
  simp only [hsame.clears_iff]
  constructor
  · intro hstate
    by_contra hnone
    push Not at hnone
    rw [newSkillTask, applyTaskResolution, matchingReceipt_passed_eq_none_iff.mpr hnone] at hstate
    dsimp only at hstate
    split at hstate
    · cases hstate
    · split at hstate <;> split at hstate <;> cases hstate
  · rintro ⟨receipt, hmem, hclears⟩
    cases hfind : matchingReceipt (pendingSkillTask projectRoot packageRoot spec policy) policy
      .passed with
    | some found =>
        rw [newSkillTask, applyTaskResolution, hfind]
        rfl
    | none =>
        exact absurd hclears (matchingReceipt_passed_eq_none_iff.mp hfind receipt hmem)

/-! ## A change of the contract

One task under two contracts.  The texts of the two tasks are the same exactly if the
keys of the required evidence are written alike, and then a receipt for the one is a
receipt for the other. -/

section Change

/-- Two policies that say the same about skills. -/
def SameSkills (policy policy' : RustVerificationPolicy) : Prop :=
  policy.skillBindings = policy'.skillBindings ∧ policy.skillDescriptors = policy'.skillDescriptors

variable {projectRoot packageRoot : Path} {policy policy' : RustVerificationPolicy}
  {spec : VerificationTaskSpec} {contract contract' : RustVerificationTaskContract}

/-- The hashed text around the keys of a contract. -/
theorem exists_material_withContract (projectRoot packageRoot : Path)
    (spec : VerificationTaskSpec) (hskills : SameSkills policy policy') :
    ∃ before after : List Char, ∀ contract,
      ((spec.withContract contract).fingerprintInput projectRoot packageRoot policy).material =
          before ++ contract.keyText ++ after ∧
        ((spec.withContract contract).fingerprintInput projectRoot packageRoot policy').material =
          before ++ contract.keyText ++ after := by
  have hinput : ∀ contract,
      (spec.withContract contract).fingerprintInput projectRoot packageRoot policy' =
        (spec.withContract contract).fingerprintInput projectRoot packageRoot policy := by
    intro contract
    obtain ⟨hbindings, hdescriptors⟩ := hskills
    have hdescriptor : skillDescriptorForBinding policy' = skillDescriptorForBinding policy := by
      funext binding
      rw [skillDescriptorForBinding, skillDescriptorForBinding, hdescriptors]
    rw [VerificationTaskSpec.fingerprintInput, VerificationTaskSpec.fingerprintInput,
      skillEvidence, skillEvidence, skillDescriptorForKind, skillDescriptorForKind,
      skillBindingForTask, skillBindingForTask, hbindings, hdescriptor]
  let source := spec.fingerprintInput projectRoot packageRoot policy
  refine ⟨"kind=".toList ++ source.kind.key.toList ++ ";package=".toList ++ source.packageLabel ++
    ";owner=".toList ++ VerificationFingerprintInput.shownPath source.relativeOwner ++ [';'] ++
    source.lineMaterial, source.evidenceMaterial ++ source.skillMaterial, fun contract => ?_⟩
  have hmaterial :
      ((spec.withContract contract).fingerprintInput projectRoot packageRoot policy).material =
        "kind=".toList ++ source.kind.key.toList ++ ";package=".toList ++ source.packageLabel ++
          ";owner=".toList ++ VerificationFingerprintInput.shownPath source.relativeOwner ++ [';'] ++
          source.lineMaterial ++ contract.keyText ++ source.evidenceMaterial ++
          source.skillMaterial := rfl
  rw [hinput, hmaterial, List.append_assoc _ source.evidenceMaterial]
  exact ⟨rfl, rfl⟩

/-- A new contract changes the hashed text exactly when the text of its keys changes. -/
theorem material_withContract_eq_iff (hskills : SameSkills policy policy') :
    ((spec.withContract contract).fingerprintInput projectRoot packageRoot policy).material =
      ((spec.withContract contract').fingerprintInput projectRoot packageRoot policy').material ↔
      contract.keyText = contract'.keyText := by
  obtain ⟨before, after, hmaterial⟩ :=
    exists_material_withContract projectRoot packageRoot spec hskills
  rw [(hmaterial contract).1, (hmaterial contract').2, List.append_left_inj, List.append_right_inj]

/-- Two tasks of one specification are cleared by different receipts exactly when their
fingerprints differ. -/
theorem clears_apart_iff :
    (∀ receipt : RustVerificationReceipt,
      receipt.Clears (newSkillTask projectRoot packageRoot (spec.withContract contract) policy) →
      ¬ receipt.Clears
        (newSkillTask projectRoot packageRoot (spec.withContract contract') policy')) ↔
      verificationTaskFingerprint
          ((spec.withContract contract).fingerprintInput projectRoot packageRoot policy) ≠
        verificationTaskFingerprint
          ((spec.withContract contract').fingerprintInput projectRoot packageRoot policy') := by
  have hold := newSkillTask_sameTask projectRoot packageRoot (spec.withContract contract) policy
  have hnew := newSkillTask_sameTask projectRoot packageRoot (spec.withContract contract') policy'
  constructor
  · intro h hfingerprint
    -- the receipt of the old task
    let receipt : RustVerificationReceipt :=
      { taskFingerprint := verificationTaskFingerprint
          ((spec.withContract contract).fingerprintInput projectRoot packageRoot policy)
        kind := spec.kind
        status := .passed
        summary := ""
        evidenceUri := none
        evidence := []
        observedAt := none }
    exact h receipt ⟨hold.fingerprint.symm, hold.kind.symm, rfl⟩
      ⟨hfingerprint.trans hnew.fingerprint.symm, hnew.kind.symm, rfl⟩
  · intro h receipt hclears hclears'
    refine h ?_
    have hfirst := hclears.fingerprint.trans hold.fingerprint
    have hsecond := hclears'.fingerprint.trans hnew.fingerprint
    exact hfirst.symm.trans hsecond

/-- The fingerprint changes exactly when the text of the keys does and the hash does not
collide. -/
theorem fingerprint_withContract_ne_iff (hskills : SameSkills policy policy') :
    verificationTaskFingerprint
          ((spec.withContract contract).fingerprintInput projectRoot packageRoot policy) ≠
        verificationTaskFingerprint
          ((spec.withContract contract').fingerprintInput projectRoot packageRoot policy') ↔
      contract.keyText ≠ contract'.keyText ∧
        ¬ Collide ((spec.withContract contract).fingerprintInput projectRoot packageRoot policy)
          ((spec.withContract contract').fingerprintInput projectRoot packageRoot policy') := by
  constructor
  · intro h
    refine ⟨fun hkeys => h ?_,
      fun hcollide => h (verificationTaskFingerprint_eq_iff.mpr hcollide.2)⟩
    rw [verificationTaskFingerprint_eq_iff, (material_withContract_eq_iff hskills).mpr hkeys]
  · rintro ⟨hkeys, hcollide⟩ hsame
    exact hcollide ⟨fun hmaterial => hkeys ((material_withContract_eq_iff hskills).mp hmaterial),
      verificationTaskFingerprint_eq_iff.mp hsame⟩

/-- **When a change of the contract binds receipts.** -/
theorem clears_change_iff (hskills : SameSkills policy policy') :
    (contract.terms ≠ contract'.terms → ∀ receipt : RustVerificationReceipt,
      receipt.Clears (newSkillTask projectRoot packageRoot (spec.withContract contract) policy) →
      ¬ receipt.Clears
        (newSkillTask projectRoot packageRoot (spec.withContract contract') policy')) ↔
      contract.terms = contract'.terms ∨ contract.keyText ≠ contract'.keyText ∧
        ¬ Collide ((spec.withContract contract).fingerprintInput projectRoot packageRoot policy)
          ((spec.withContract contract').fingerprintInput projectRoot packageRoot policy') := by
  rw [clears_apart_iff, fingerprint_withContract_ne_iff hskills]
  exact or_iff_not_imp_left.symm

end Change

/-! ## Contracts in a plan

Two requests with one text become one task, with the contract of the first.  So a plan
keeps all contracts exactly if requests that share a fingerprint have the same terms. -/

section Plan

variable {projectRoot : Path} {policy : RustVerificationPolicy}
  {packageAnalyses : List RustReasoningTreeFacts}

theorem terms_task (request : RequestedTask) :
    (request.task projectRoot policy).terms = request.spec.contract.terms := by
  have hsame := newSkillTask_sameTask projectRoot request.packageRoot request.spec policy
  rw [RustVerificationTask.terms, RequestedTask.task, hsame.phase, hsame.requiredReceipt,
    hsame.requiredEvidence]
  rfl

/-- **When a plan keeps every contract.** -/
theorem plan_keeps_contracts_iff :
    (∀ request ∈ enabledRequests projectRoot policy packageAnalyses,
      ∃ task ∈ (planRustVerificationFromAnalysis projectRoot policy packageAnalyses).tasks,
        task.fingerprint = request.fingerprint projectRoot policy ∧
          task.terms = request.spec.contract.terms) ↔
      ∀ first ∈ enabledRequests projectRoot policy packageAnalyses,
        ∀ second ∈ enabledRequests projectRoot policy packageAnalyses,
          first.fingerprint projectRoot policy = second.fingerprint projectRoot policy →
          first.spec.contract.terms = second.spec.contract.terms := by
  constructor
  · intro h first hfirst second hsecond hfingerprint
    obtain ⟨task, htask, hkey, hterms⟩ := h first hfirst
    obtain ⟨task', htask', hkey', hterms'⟩ := h second hsecond
    -- a plan has one task of a fingerprint
    have hsame : task = task' :=
      eq_of_mem_plan_tasks htask htask' (by rw [hkey, hkey', hfingerprint])
    rw [← hterms, ← hterms', hsame]
  · intro h request hrequest
    obtain ⟨kept, hkept, htask, hfingerprint⟩ := exists_plan_task hrequest
    refine ⟨kept.task projectRoot policy, htask, ?_, ?_⟩
    · rw [fingerprint_task, hfingerprint]
    · rw [terms_task, h kept hkept request hrequest hfingerprint]

end Plan

/-- **When receipts are bound to contracts.**  A task is satisfied exactly when a receipt of
the policy clears it.  A change of the contract keeps every receipt from clearing both
tasks exactly when the contracts agree, or the text of the keys changes and the hash does
not collide.  A plan keeps all contracts asked for exactly when requests whose texts agree
or collide have the same terms. -/
theorem receipts_bound_to_contracts_iff (projectRoot packageRoot : Path)
    (policy : RustVerificationPolicy) (spec : VerificationTaskSpec) :
    ((newSkillTask projectRoot packageRoot spec policy).state = .satisfied ↔
      ∃ receipt ∈ policy.receipts,
        receipt.Clears (newSkillTask projectRoot packageRoot spec policy)) ∧
    (∀ (policy' : RustVerificationPolicy) (contract contract' : RustVerificationTaskContract),
      SameSkills policy policy' →
      ((contract.terms ≠ contract'.terms → ∀ receipt : RustVerificationReceipt,
        receipt.Clears (newSkillTask projectRoot packageRoot (spec.withContract contract) policy) →
        ¬ receipt.Clears
          (newSkillTask projectRoot packageRoot (spec.withContract contract') policy')) ↔
        contract.terms = contract'.terms ∨ contract.keyText ≠ contract'.keyText ∧
          ¬ Collide ((spec.withContract contract).fingerprintInput projectRoot packageRoot policy)
            ((spec.withContract contract').fingerprintInput projectRoot packageRoot policy'))) ∧
    (∀ packageAnalyses : List RustReasoningTreeFacts,
      (∀ request ∈ enabledRequests projectRoot policy packageAnalyses,
        ∃ task ∈ (planRustVerificationFromAnalysis projectRoot policy packageAnalyses).tasks,
          task.fingerprint = request.fingerprint projectRoot policy ∧
            task.terms = request.spec.contract.terms) ↔
        ∀ first ∈ enabledRequests projectRoot policy packageAnalyses,
          ∀ second ∈ enabledRequests projectRoot policy packageAnalyses,
            (first.input projectRoot policy).material =
                (second.input projectRoot policy).material ∨
              Collide (first.input projectRoot policy) (second.input projectRoot policy) →
            first.spec.contract.terms = second.spec.contract.terms) := by
  refine ⟨exists_clears_iff, ?_, ?_⟩
  · intro policy' contract contract' hskills
    exact clears_change_iff hskills
  · intro packageAnalyses
    rw [plan_keeps_contracts_iff]
    simp only [RequestedTask.fingerprint, verificationTaskFingerprint_eq_iff_collide]

/-- A hint that asks for the performance of the library, with contracts of its own. -/
def performanceHint
    (overrides : OrderedMap RustVerificationTaskKind RustVerificationTaskContract) :
    RustVerificationProfileHint where
  ownerPath := "src/lib.rs"
  responsibilities := OrderedSet.ofList [.latencySensitive]
  taskKinds := none
  taskContractOverrides := overrides
  stabilityPicture := none
  rationale := none

/-- The performance contract, moved to another phase. -/
def releaseContract : RustVerificationTaskContract :=
  { defaultTaskContract .performance with phase := .beforeRelease }

/-- Contracts with the one above for performance. -/
def releaseOverrides : OrderedMap RustVerificationTaskKind RustVerificationTaskContract :=
  OrderedMap.insert ∅ .performance releaseContract

/-- A policy with two hints for one owner. -/
def twoHintPolicy : RustVerificationPolicy :=
  { profileHints := [performanceHint ∅, performanceHint releaseOverrides] }

/-- The package of the library. -/
def libraryPackage : RustReasoningTreeFacts where
  packageRoot := [.normal "p"]
  modules := [libraryModule]
  ownerBranches := []

/-- The request of a hint for the performance of the library. -/
def performanceRequest
    (overrides : OrderedMap RustVerificationTaskKind RustVerificationTaskContract) :
    RequestedTask where
  packageRoot := [.normal "p"]
  spec := profileTaskSpec libraryModule (performanceHint overrides) twoHintPolicy .performance

theorem performanceRequest_mem
    {overrides : OrderedMap RustVerificationTaskKind RustVerificationTaskContract}
    (h : performanceHint overrides ∈ twoHintPolicy.profileHints) :
    performanceRequest overrides ∈
      enabledRequests [.normal "p"] twoHintPolicy [libraryPackage] := by
  refine mem_enabledRequests_iff.mpr ⟨mem_requestedTasks_of_hint List.mem_cons_self h ?_ ?_, ?_⟩
  · show ownerIn [.normal "p"] libraryPackage "src/lib.rs" = some libraryModule
    decide
  · show RustVerificationTaskKind.performance ∈
      (taskKindsForResponsibilities (OrderedSet.ofList [.latencySensitive]) twoHintPolicy).keys
    decide
  · exact List.not_mem_nil

/-- **A contract that changes its phase keeps its receipts**, and it is dropped from the
plan when another hint asks for the task first. -/
theorem phaseChange_keeps_receipts :
    (performanceRequest ∅).spec.contract.terms ≠
        (performanceRequest releaseOverrides).spec.contract.terms ∧
      (∃ receipt : RustVerificationReceipt,
        receipt.Clears ((performanceRequest ∅).task [.normal "p"] twoHintPolicy) ∧
          receipt.Clears
            ((performanceRequest releaseOverrides).task [.normal "p"] twoHintPolicy)) ∧
      ¬ ∀ request ∈ enabledRequests [.normal "p"] twoHintPolicy [libraryPackage],
        ∃ task ∈ (planRustVerificationFromAnalysis [.normal "p"] twoHintPolicy
            [libraryPackage]).tasks,
          task.fingerprint = request.fingerprint [.normal "p"] twoHintPolicy ∧
            task.terms = request.spec.contract.terms := by
  have hterms : (performanceRequest ∅).spec.contract.terms ≠
      (performanceRequest releaseOverrides).spec.contract.terms := by decide
  have hfingerprint : (performanceRequest ∅).fingerprint [.normal "p"] twoHintPolicy =
      (performanceRequest releaseOverrides).fingerprint [.normal "p"] twoHintPolicy :=
    congrArg verificationTaskFingerprint rfl
  refine ⟨hterms, ⟨{
    taskFingerprint := (performanceRequest ∅).fingerprint [.normal "p"] twoHintPolicy
    kind := .performance
    status := .passed
    summary := "p99 held"
    evidenceUri := none
    evidence := []
    observedAt := none }, ?_, ?_⟩, ?_⟩
  · exact ⟨(fingerprint_task _).symm, (kind_task (performanceRequest ∅)).symm, rfl⟩
  · exact ⟨hfingerprint.trans (fingerprint_task _).symm,
      (kind_task (performanceRequest releaseOverrides)).symm, rfl⟩
  · rw [plan_keeps_contracts_iff]
    intro h
    exact hterms (h _ (performanceRequest_mem (by simp [twoHintPolicy])) _
      (performanceRequest_mem (by simp [twoHintPolicy])) hfingerprint)

end AspRust.Verification
