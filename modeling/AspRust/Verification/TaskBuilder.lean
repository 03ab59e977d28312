import AspRust.Foundation.KeepFirst
import AspRust.Verification.Fingerprint
import AspRust.Verification.Profile

/-!
# Building and resolving tasks

A task is built from a specification: the skill bound to its kind adds evidence and the
material of its contract, the fingerprint is computed, and the receipts and waivers of the
policy decide the state.  Tasks are collected in a map keyed by fingerprint that keeps
the first one.

### What is load-bearing

Resolution looks at the fingerprint and the kind of a task, and writes its state and what is
reported about it.  It leaves the rest alone (`SameTask`), so a task that is resolved is still
the one that was asked for, and to ask whether it is cleared before or after makes no
difference.

`Resolution` gives the precedence of receipts and waivers as four cases without an order of
their own.  That they exclude one another (`Resolution.unique`) and depend on the receipts
and waivers as sets (`Resolution.of_perm`) is read off the cases.
-/

namespace AspRust.Verification

open AspRust.Foundation

/-- A label with its adapter, if that is not blank. -/
def labelWithAdapter (skillId : String) (adapter : Option String) : String :=
  match normalizedText? adapter with
  | none => skillId
  | some name => skillId ++ "@" ++ name

def RustVerificationSkillBinding.compactLabel (binding : RustVerificationSkillBinding) : String :=
  labelWithAdapter binding.skillId binding.adapter

namespace RustVerificationSkillDescriptor

def compactLabel (descriptor : RustVerificationSkillDescriptor) : String :=
  labelWithAdapter descriptor.skillId descriptor.adapter

/-- The part of a skill contract that fingerprints cover. -/
def fingerprintMaterial (descriptor : RustVerificationSkillDescriptor) : String :=
  "tool=" ++ descriptor.tool ++ ";command=" ++ descriptor.command ++ ";standard=" ++
    descriptor.standard ++ ";inputs=" ++ ",".intercalate descriptor.requiredInputs ++
    ";pass=" ++ ",".intercalate descriptor.passCriteria ++ ";receipt=" ++
    ",".intercalate descriptor.receiptFields

end RustVerificationSkillDescriptor

/-- A text that is not blank. -/
def isFilled (text : String) : Bool := trim text.toList ≠ []

/-- A waiver counts once its owner, its reason and its end are given. -/
def RustVerificationWaiver.isComplete (waiver : RustVerificationWaiver) : Bool :=
  isFilled waiver.owner && isFilled waiver.reason && isFilled waiver.expiresAt

/-- What a task is built from. -/
structure VerificationTaskSpec where
  kind : RustVerificationTaskKind
  /-- The owner as it was written, an absolute text. -/
  ownerPath : String
  ownerNamespace : List String
  line : Option ℕ
  reason : String
  contract : RustVerificationTaskContract
  evidence : List RustVerificationEvidence
deriving DecidableEq

/-- What a review of a profile is built from. -/
structure ProfileReviewTaskSpec where
  ownerPath : String
  ownerNamespace : List String
  reason : String
  evidence : List RustVerificationEvidence
  hint : Option RustVerificationProfileHint
deriving DecidableEq

/-! ## Skills

The skill that a policy binds to a kind of task, and what it adds to a task: evidence,
and the text of its contract. -/

def skillBindingForTask (policy : RustVerificationPolicy) (kind : RustVerificationTaskKind) :
    Option RustVerificationSkillBinding :=
  (policy.skillBindings.get? kind).filter (·.isConfigured)

def skillDescriptorForBinding (policy : RustVerificationPolicy)
    (binding : RustVerificationSkillBinding) : Option RustVerificationSkillDescriptor :=
  (policy.skillDescriptors.get? binding.compactLabel).or
    (policy.skillDescriptors.get? binding.skillId)

/-- The descriptor of the skill that is bound to a kind. -/
def skillDescriptorForKind (policy : RustVerificationPolicy) (kind : RustVerificationTaskKind) :
    Option RustVerificationSkillDescriptor :=
  (skillBindingForTask policy kind).bind (skillDescriptorForBinding policy)

/-- The fact that names the bound skill, if there is one. -/
def skillEvidence (policy : RustVerificationPolicy) (kind : RustVerificationTaskKind) :
    List RustVerificationEvidence :=
  (skillBindingForTask policy kind).toList.map fun binding => ⟨"skill", binding.compactLabel⟩

/-! ## Resolution

A passed receipt comes first, then a complete waiver.  An incomplete waiver leaves a
note only, and a failed receipt comes last. -/

def matchingReceipt (task : RustVerificationTask) (policy : RustVerificationPolicy)
    (status : RustVerificationReceiptStatus) : Option RustVerificationReceipt :=
  policy.receipts.find? fun receipt =>
    receipt.taskFingerprint = task.fingerprint && receipt.kind = task.kind &&
      receipt.status = status

def matchingWaiver (task : RustVerificationTask) (policy : RustVerificationPolicy) :
    Option RustVerificationWaiver :=
  policy.waivers.find? fun waiver =>
    waiver.taskFingerprint = task.fingerprint && waiver.isComplete

def incompleteMatchingWaiver (task : RustVerificationTask) (policy : RustVerificationPolicy) :
    Option RustVerificationWaiver :=
  policy.waivers.find? fun waiver =>
    waiver.taskFingerprint = task.fingerprint && !waiver.isComplete

def incompleteWaiverDetail (waiver : RustVerificationWaiver) : String :=
  let missingFields :=
    (if isFilled waiver.owner then [] else ["owner"]) ++
      (if isFilled waiver.reason then [] else ["reason"]) ++
      (if isFilled waiver.expiresAt then [] else ["expires_at"])
  "incomplete: missing " ++ ", ".intercalate missingFields

def receiptSummary (receipt : RustVerificationReceipt) : String :=
  match receipt.evidenceUri with
  | none => receipt.summary
  | some uri => receipt.summary ++ " (" ++ uri ++ ")"

/-- A task in the state a receipt puts it in. -/
def RustVerificationTask.withReceipt (task : RustVerificationTask)
    (state : RustVerificationTaskState) (receipt : RustVerificationReceipt) :
    RustVerificationTask :=
  { task with
    state := state
    receiptSummary := some (Verification.receiptSummary receipt)
    receiptEvidence := receipt.evidence
    receiptEvidenceUri := receipt.evidenceUri
    receiptObservedAt := receipt.observedAt }

/-- What the receipts and waivers of a policy make of a task: a passed receipt first,
then a complete waiver, then a failed receipt. -/
def applyTaskResolution (task : RustVerificationTask) (policy : RustVerificationPolicy) :
    RustVerificationTask :=
  match matchingReceipt task policy .passed with
  | some receipt => task.withReceipt .satisfied receipt
  | none =>
      match matchingWaiver task policy with
      | some waiver => { task with state := .waived, waiverReason := some waiver.reason }
      | none =>
          let noted :=
            match incompleteMatchingWaiver task policy with
            | some waiver =>
                { task with
                  resolutionNotes :=
                    task.resolutionNotes ++ [⟨"waiver", incompleteWaiverDetail waiver⟩] }
            | none => task
          match matchingReceipt noted policy .failed with
          | some receipt => noted.withReceipt .failed receipt
          | none => noted

/-! ## Construction

From the specification to the task, and the map in which tasks are collected. -/

/-- What the fingerprint of a specified task is computed from. -/
def VerificationTaskSpec.fingerprintInput (projectRoot packageRoot : Path)
    (spec : VerificationTaskSpec) (policy : RustVerificationPolicy) :
    VerificationFingerprintInput where
  kind := spec.kind
  projectRoot := projectRoot
  packageRoot := packageRoot
  ownerPath := spec.ownerPath
  line := spec.line
  requiredEvidence := spec.contract.requiredEvidence
  evidence := spec.evidence ++ skillEvidence policy spec.kind
  skillContractMaterial :=
    (skillDescriptorForKind policy spec.kind).map
      RustVerificationSkillDescriptor.fingerprintMaterial

/-- A specified task before receipts and waivers are looked at. -/
def pendingSkillTask (projectRoot packageRoot : Path) (spec : VerificationTaskSpec)
    (policy : RustVerificationPolicy) : RustVerificationTask where
  fingerprint :=
    verificationTaskFingerprint (spec.fingerprintInput projectRoot packageRoot policy)
  kind := spec.kind
  state := .pending
  packageRoot := packageRoot
  ownerPath := Path.parse spec.ownerPath
  ownerNamespace := spec.ownerNamespace
  line := spec.line
  phase := spec.contract.phase
  reason := spec.reason
  requiredReceipt := spec.contract.requiredReceipt
  skillBinding := skillBindingForTask policy spec.kind
  skillContractRef :=
    (skillDescriptorForKind policy spec.kind).map RustVerificationSkillDescriptor.compactLabel
  requiredEvidence := spec.contract.requiredEvidence
  evidence := spec.evidence ++ skillEvidence policy spec.kind
  resolutionNotes := []
  receiptSummary := none
  receiptEvidence := []
  receiptEvidenceUri := none
  receiptObservedAt := none
  waiverReason := none

def newSkillTask (projectRoot packageRoot : Path) (spec : VerificationTaskSpec)
    (policy : RustVerificationPolicy) : RustVerificationTask :=
  applyTaskResolution (pendingSkillTask projectRoot packageRoot spec policy) policy

/-- A review of a profile as the specification of a task; `new_profile_review_task` is
`newSkillTask` of it. -/
def ProfileReviewTaskSpec.taskSpec (spec : ProfileReviewTaskSpec)
    (policy : RustVerificationPolicy) : VerificationTaskSpec where
  kind := .responsibilityReview
  ownerPath := spec.ownerPath
  ownerNamespace := spec.ownerNamespace
  line := none
  reason := spec.reason
  contract := taskContractForProfile policy spec.hint .responsibilityReview
  evidence := spec.evidence

/-- Collect a task, unless its kind is disabled or its fingerprint is taken. -/
def pushTask (policy : RustVerificationPolicy) (tasks : OrderedMap String RustVerificationTask)
    (task : RustVerificationTask) : OrderedMap String RustVerificationTask :=
  if task.kind ∈ policy.disabledTaskKinds.keys then tasks
  else tasks.orInsert task.fingerprint task

/-- The descriptors of the skills that active tasks refer to, sorted by their labels and
each label once. -/
def skillDescriptorsForTasks (policy : RustVerificationPolicy)
    (tasks : List RustVerificationTask) : List RustVerificationSkillDescriptor :=
  ((((tasks.filter (·.isActive)).filterMap (·.skillContractRef)).filterMap
      policy.skillDescriptors.get?).insertionSort fun first second =>
        first.compactLabel ≤ second.compactLabel).destutter fun first second =>
          first.compactLabel ≠ second.compactLabel

/-! ## What resolution leaves alone

Only the state, and what is reported with it, is written. -/

/-- What two tasks share when they differ in their resolution only. -/
structure SameTask (first second : RustVerificationTask) : Prop where
  fingerprint : first.fingerprint = second.fingerprint
  kind : first.kind = second.kind
  packageRoot : first.packageRoot = second.packageRoot
  ownerPath : first.ownerPath = second.ownerPath
  phase : first.phase = second.phase
  requiredReceipt : first.requiredReceipt = second.requiredReceipt
  requiredEvidence : first.requiredEvidence = second.requiredEvidence
  skillBinding : first.skillBinding = second.skillBinding

theorem SameTask.refl (task : RustVerificationTask) : SameTask task task :=
  ⟨rfl, rfl, rfl, rfl, rfl, rfl, rfl, rfl⟩

/-- Resolution changes the state and what is reported about it. -/
theorem applyTaskResolution_sameTask (task : RustVerificationTask)
    (policy : RustVerificationPolicy) : SameTask (applyTaskResolution task policy) task := by
  unfold applyTaskResolution
  split
  · exact ⟨rfl, rfl, rfl, rfl, rfl, rfl, rfl, rfl⟩
  · split
    · exact ⟨rfl, rfl, rfl, rfl, rfl, rfl, rfl, rfl⟩
    · dsimp only
      split <;> split <;> exact ⟨rfl, rfl, rfl, rfl, rfl, rfl, rfl, rfl⟩

theorem newSkillTask_sameTask (projectRoot packageRoot : Path) (spec : VerificationTaskSpec)
    (policy : RustVerificationPolicy) :
    SameTask (newSkillTask projectRoot packageRoot spec policy)
      (pendingSkillTask projectRoot packageRoot spec policy) :=
  applyTaskResolution_sameTask _ policy

/-! ## What clears a task

A passed receipt of the kind and a complete waiver, both under the fingerprint of the
task. -/

/-- A receipt that clears a task. -/
structure RustVerificationReceipt.Clears (receipt : RustVerificationReceipt)
    (task : RustVerificationTask) : Prop where
  fingerprint : receipt.taskFingerprint = task.fingerprint
  kind : receipt.kind = task.kind
  passed : receipt.status = .passed

/-- A waiver that clears a task. -/
structure RustVerificationWaiver.Clears (waiver : RustVerificationWaiver)
    (task : RustVerificationTask) : Prop where
  fingerprint : waiver.taskFingerprint = task.fingerprint
  complete : waiver.isComplete = true

theorem SameTask.clears_iff {first second : RustVerificationTask} (h : SameTask first second)
    {receipt : RustVerificationReceipt} : receipt.Clears first ↔ receipt.Clears second := by
  constructor
  · intro hclears
    exact ⟨hclears.fingerprint.trans h.fingerprint, hclears.kind.trans h.kind, hclears.passed⟩
  · intro hclears
    exact ⟨hclears.fingerprint.trans h.fingerprint.symm, hclears.kind.trans h.kind.symm,
      hclears.passed⟩

variable {task : RustVerificationTask} {policy : RustVerificationPolicy}

theorem matchingReceipt_passed_eq_none_iff :
    matchingReceipt task policy .passed = none ↔
      ∀ receipt ∈ policy.receipts, ¬ receipt.Clears task := by
  rw [matchingReceipt, List.find?_eq_none]
  refine forall₂_congr fun receipt _ => not_congr ?_
  simp only [Bool.and_eq_true, decide_eq_true_eq]
  exact ⟨fun h => ⟨h.1.1, h.1.2, h.2⟩, fun h => ⟨⟨h.fingerprint, h.kind⟩, h.passed⟩⟩

theorem matchingWaiver_eq_none_iff :
    matchingWaiver task policy = none ↔ ∀ waiver ∈ policy.waivers, ¬ waiver.Clears task := by
  rw [matchingWaiver, List.find?_eq_none]
  refine forall₂_congr fun waiver _ => not_congr ?_
  simp only [Bool.and_eq_true, decide_eq_true_eq]
  exact ⟨fun h => ⟨h.1, h.2⟩, fun h => ⟨h.fingerprint, h.complete⟩⟩

/-- **A task stays active until a receipt or a waiver clears it.** -/
theorem isActive_applyTaskResolution_iff (hpending : task.state = .pending) :
    (applyTaskResolution task policy).isActive = true ↔
      (∀ receipt ∈ policy.receipts, ¬ receipt.Clears task) ∧
        ∀ waiver ∈ policy.waivers, ¬ waiver.Clears task := by
  rw [← matchingReceipt_passed_eq_none_iff, ← matchingWaiver_eq_none_iff]
  unfold applyTaskResolution
  cases hreceipt : matchingReceipt task policy .passed with
  | some receipt =>
      simp [RustVerificationTask.withReceipt, RustVerificationTask.isActive,
        RustVerificationTaskState.isActive]
  | none =>
      cases hwaiver : matchingWaiver task policy with
      | some waiver =>
          simp [RustVerificationTask.isActive, RustVerificationTaskState.isActive]
      | none =>
          dsimp only
          split <;> split <;>
            simp [RustVerificationTask.withReceipt, RustVerificationTask.isActive,
              RustVerificationTaskState.isActive, hpending]

/-! ## The state of a task

The search for a receipt or a waiver finds one exactly if there is one, so the four
cases can be said without it.  They exclude each other, and they do not depend on the
order of the lists. -/

/-- A receipt about a task, with an outcome. -/
structure RustVerificationReceipt.Reports (receipt : RustVerificationReceipt)
    (task : RustVerificationTask) (status : RustVerificationReceiptStatus) : Prop where
  fingerprint : receipt.taskFingerprint = task.fingerprint
  kind : receipt.kind = task.kind
  status : receipt.status = status

theorem exists_matchingReceipt_iff (status : RustVerificationReceiptStatus) :
    (∃ receipt, matchingReceipt task policy status = some receipt) ↔
      ∃ receipt ∈ policy.receipts, receipt.Reports task status := by
  rw [← Option.isSome_iff_exists, matchingReceipt, List.find?_isSome]
  refine exists_congr fun receipt => and_congr_right fun _ => ?_
  simp only [Bool.and_eq_true, decide_eq_true_eq]
  exact ⟨fun h => ⟨h.1.1, h.1.2, h.2⟩, fun h => ⟨⟨h.fingerprint, h.kind⟩, h.status⟩⟩

theorem exists_matchingWaiver_iff :
    (∃ waiver, matchingWaiver task policy = some waiver) ↔
      ∃ waiver ∈ policy.waivers, waiver.Clears task := by
  rw [← Option.isSome_iff_exists, matchingWaiver, List.find?_isSome]
  refine exists_congr fun waiver => and_congr_right fun _ => ?_
  simp only [Bool.and_eq_true, decide_eq_true_eq]
  exact ⟨fun h => ⟨h.1, h.2⟩, fun h => ⟨h.fingerprint, h.complete⟩⟩

/-- What the receipts and waivers of a policy say about a task. -/
structure Resolution (policy : RustVerificationPolicy) (task : RustVerificationTask)
    (state : RustVerificationTaskState) : Prop where
  satisfied : state = .satisfied ↔ ∃ receipt ∈ policy.receipts, receipt.Reports task .passed
  waived : state ≠ .satisfied →
    (state = .waived ↔ ∃ waiver ∈ policy.waivers, waiver.Clears task)
  failed : state ≠ .satisfied → state ≠ .waived →
    (state = .failed ↔ ∃ receipt ∈ policy.receipts, receipt.Reports task .failed)
  pending : state ≠ .satisfied → state ≠ .waived → state ≠ .failed → state = .pending

/-- No task has two states. -/
theorem Resolution.unique {first second : RustVerificationTaskState}
    (hfirst : Resolution policy task first) (hsecond : Resolution policy task second) :
    first = second := by
  by_cases hsatisfied : first = .satisfied
  · rw [hsatisfied, hsecond.satisfied.mpr (hfirst.satisfied.mp hsatisfied)]
  · have hother : second ≠ .satisfied := fun h =>
      hsatisfied (hfirst.satisfied.mpr (hsecond.satisfied.mp h))
    by_cases hwaived : first = .waived
    · rw [hwaived, (hsecond.waived hother).mpr ((hfirst.waived hsatisfied).mp hwaived)]
    · have hactive : second ≠ .waived := fun h =>
        hwaived ((hfirst.waived hsatisfied).mpr ((hsecond.waived hother).mp h))
      by_cases hfailed : first = .failed
      · rw [hfailed, (hsecond.failed hother hactive).mpr
          ((hfirst.failed hsatisfied hwaived).mp hfailed)]
      · have hopen : second ≠ .failed := fun h => hfailed
          ((hfirst.failed hsatisfied hwaived).mpr ((hsecond.failed hother hactive).mp h))
        rw [hfirst.pending hsatisfied hwaived hfailed, hsecond.pending hother hactive hopen]

/-- Only the fingerprint and the kind of a task are looked at. -/
theorem Resolution.of_sameTask {other : RustVerificationTask} {state : RustVerificationTaskState}
    (h : Resolution policy task state) (hsame : SameTask other task) :
    Resolution policy other state := by
  have hreports : ∀ (receipt : RustVerificationReceipt) status,
      receipt.Reports other status ↔ receipt.Reports task status := by
    intro receipt status
    constructor
    · intro hreport
      exact ⟨hreport.fingerprint.trans hsame.fingerprint, hreport.kind.trans hsame.kind,
        hreport.status⟩
    · intro hreport
      exact ⟨hreport.fingerprint.trans hsame.fingerprint.symm,
        hreport.kind.trans hsame.kind.symm, hreport.status⟩
  have hclears : ∀ waiver : RustVerificationWaiver, waiver.Clears other ↔ waiver.Clears task := by
    intro waiver
    constructor
    · intro hclear
      exact ⟨hclear.fingerprint.trans hsame.fingerprint, hclear.complete⟩
    · intro hclear
      exact ⟨hclear.fingerprint.trans hsame.fingerprint.symm, hclear.complete⟩
  obtain ⟨hsatisfied, hwaived, hfailed, hpending⟩ := h
  simp only [← hreports, ← hclears] at hsatisfied hwaived hfailed
  exact ⟨hsatisfied, hwaived, hfailed, hpending⟩

/-- The order of receipts and waivers says nothing. -/
theorem Resolution.of_perm {state : RustVerificationTaskState}
    {receipts : List RustVerificationReceipt} {waivers : List RustVerificationWaiver}
    (hreceipts : receipts.Perm policy.receipts) (hwaivers : waivers.Perm policy.waivers)
    (h : Resolution { policy with receipts := receipts, waivers := waivers } task state) :
    Resolution policy task state := by
  obtain ⟨hsatisfied, hwaived, hfailed, hpending⟩ := h
  simp only [hreceipts.mem_iff, hwaivers.mem_iff] at hsatisfied hwaived hfailed
  exact ⟨hsatisfied, hwaived, hfailed, hpending⟩

/-- Where nothing satisfies or waives a task, its failed receipts decide. -/
theorem resolution_of_failed_receipts {state : RustVerificationTaskState}
    (hunsatisfied : ¬ ∃ receipt ∈ policy.receipts, receipt.Reports task .passed)
    (hunwaived : ¬ ∃ waiver ∈ policy.waivers, waiver.Clears task)
    (hfailed : (matchingReceipt task policy .failed).isSome → state = .failed)
    (hpending : matchingReceipt task policy .failed = none → state = .pending) :
    Resolution policy task state := by
  have hreports := @exists_matchingReceipt_iff task policy .failed
  cases hmatch : matchingReceipt task policy .failed with
  | some receipt =>
      obtain rfl := hfailed (by rw [hmatch]; rfl)
      have hsome := hreports.mp ⟨receipt, hmatch⟩
      exact ⟨iff_of_false (by decide) hunsatisfied, fun _ => iff_of_false (by decide) hunwaived,
        fun _ _ => iff_of_true rfl hsome, fun _ _ h => absurd rfl h⟩
  | none =>
      obtain rfl := hpending hmatch
      have hnone : ¬ ∃ receipt ∈ policy.receipts, receipt.Reports task .failed := by
        rw [← hreports, hmatch]
        simp
      exact ⟨iff_of_false (by decide) hunsatisfied, fun _ => iff_of_false (by decide) hunwaived,
        fun _ _ => iff_of_false (by decide) hnone, fun _ _ _ => rfl⟩

/-- A pending task gets the state that the receipts and waivers say. -/
theorem resolution_applyTaskResolution (hpending : task.state = .pending) :
    Resolution policy task (applyTaskResolution task policy).state := by
  have hreports := @exists_matchingReceipt_iff task policy .passed
  have hwaivers := @exists_matchingWaiver_iff task policy
  unfold applyTaskResolution
  cases hpassed : matchingReceipt task policy .passed with
  | some receipt =>
      have hsome := hreports.mp ⟨receipt, hpassed⟩
      exact ⟨iff_of_true rfl hsome, fun h => absurd rfl h, fun h => absurd rfl h,
        fun h => absurd rfl h⟩
  | none =>
      have hunsatisfied : ¬ ∃ receipt ∈ policy.receipts, receipt.Reports task .passed := by
        rw [← hreports, hpassed]
        simp
      cases hwaiver : matchingWaiver task policy with
      | some waiver =>
          have hsome := hwaivers.mp ⟨waiver, hwaiver⟩
          show Resolution policy task .waived
          exact ⟨iff_of_false (by decide) hunsatisfied, fun _ => iff_of_true rfl hsome,
            fun _ h => absurd rfl h, fun _ h => absurd rfl h⟩
      | none =>
          have hunwaived : ¬ ∃ waiver ∈ policy.waivers, waiver.Clears task := by
            rw [← hwaivers, hwaiver]
            simp
          -- a note about an incomplete waiver changes nothing that is matched
          have hsame : ∀ notes, matchingReceipt { task with resolutionNotes := notes } policy
              .failed = matchingReceipt task policy .failed := fun _ => rfl
          cases incompleteMatchingWaiver task policy with
          | some waiver =>
              refine resolution_of_failed_receipts hunsatisfied hunwaived ?_ ?_
              · intro hsome
                obtain ⟨receipt, hreceipt⟩ := Option.isSome_iff_exists.mp hsome
                simp only [hsame, hreceipt]
                rfl
              · intro hnone
                simp only [hsame, hnone]
                exact hpending
          | none =>
              refine resolution_of_failed_receipts hunsatisfied hunwaived ?_ ?_
              · intro hsome
                obtain ⟨receipt, hreceipt⟩ := Option.isSome_iff_exists.mp hsome
                simp only [hreceipt]
                rfl
              · intro hnone
                simp only [hnone]
                exact hpending

/-- **The precedence of receipts and waivers.**  A task is satisfied exactly if a passed
receipt has its fingerprint and kind, else waived exactly if a complete waiver has its
fingerprint, else failed exactly if a failed receipt matches, and else pending.
Receipts and waivers in another order give it the same state, since each of the three is
asked of all of them and not of the first. -/
theorem newSkillTask_precedence (projectRoot packageRoot : Path) (spec : VerificationTaskSpec)
    (policy : RustVerificationPolicy) :
    Resolution policy (newSkillTask projectRoot packageRoot spec policy)
        (newSkillTask projectRoot packageRoot spec policy).state ∧
      ∀ receipts waivers, receipts.Perm policy.receipts → waivers.Perm policy.waivers →
        (newSkillTask projectRoot packageRoot spec
            { policy with receipts := receipts, waivers := waivers }).state =
          (newSkillTask projectRoot packageRoot spec policy).state := by
  have hresolved : ∀ policy, Resolution policy
      (pendingSkillTask projectRoot packageRoot spec policy)
      (newSkillTask projectRoot packageRoot spec policy).state := fun policy =>
    resolution_applyTaskResolution rfl
  refine ⟨?_, ?_⟩
  · have hsame := newSkillTask_sameTask projectRoot packageRoot spec policy
    exact (hresolved policy).of_sameTask hsame
  · intro receipts waivers hreceipts hwaivers
    -- neither receipts nor waivers enter the fingerprint
    have hpending : pendingSkillTask projectRoot packageRoot spec
        { policy with receipts := receipts, waivers := waivers } =
          pendingSkillTask projectRoot packageRoot spec policy := rfl
    refine Resolution.unique (Resolution.of_perm hreceipts hwaivers ?_) (hresolved policy)
    rw [← hpending]
    exact hresolved _

end AspRust.Verification
