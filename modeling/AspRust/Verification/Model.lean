import AspRust.Foundation.OrderedMap
import AspRust.Foundation.Path
import AspRust.Foundation.Text

/-!
# Verification policies and plans

The data a verification policy is configured with and the plan derived from it.
A policy is part of the harness configuration, so a cache key covers all of it;
a plan is stored in cache records and read back by the gate.

### Design notes

Sets and maps of a policy are ordered by the kinds as they are declared (`rank`), which is
the order of the source's derived comparison; their keys as texts are another matter
(`key`).  A policy is a record with all its lists empty by default, so that an example
names only what it is about.

Tasks, obligations, receipts and waivers are plain records.  What relates them is not a
field of one of them but a definition of `TaskBuilder` and `Planner`: a fingerprint is
computed, a state is decided.
-/

namespace AspRust.Verification

open AspRust.Foundation

/-- Verification skill family requested by the harness. -/
inductive RustVerificationTaskKind where
  | stress
  | performance
  | stability
  | chaos
  | security
  | regression
  | responsibilityReview
deriving DecidableEq, Repr

namespace RustVerificationTaskKind

/-- The declaration position, by which sets of kinds are ordered. -/
def rank : RustVerificationTaskKind → ℕ
  | .stress => 0
  | .performance => 1
  | .stability => 2
  | .chaos => 3
  | .security => 4
  | .regression => 5
  | .responsibilityReview => 6

theorem rank_injective : Function.Injective rank := by
  intro a b h
  cases a <;> cases b <;> simp_all [rank]

instance : LinearOrder RustVerificationTaskKind := LinearOrder.lift' rank rank_injective

/-- The stable key of a kind (`verification_task_kind_key`). -/
def key : RustVerificationTaskKind → String
  | .stress => "stress"
  | .performance => "performance"
  | .stability => "stability"
  | .chaos => "chaos"
  | .security => "security"
  | .regression => "regression"
  | .responsibilityReview => "responsibility_review"

end RustVerificationTaskKind

/-- Code responsibility declared by the embedding project or by an agent. -/
inductive RustOwnerResponsibility where
  | pureDomainLogic
  | publicApi
  | externalDependency
  | persistence
  | securityBoundary
  | latencySensitive
  | availabilityCritical
deriving DecidableEq, Repr

namespace RustOwnerResponsibility

/-- The declaration position, by which sets of responsibilities are ordered. -/
def rank : RustOwnerResponsibility → ℕ
  | .pureDomainLogic => 0
  | .publicApi => 1
  | .externalDependency => 2
  | .persistence => 3
  | .securityBoundary => 4
  | .latencySensitive => 5
  | .availabilityCritical => 6

theorem rank_injective : Function.Injective rank := by
  intro a b h
  cases a <;> cases b <;> simp_all [rank]

instance : LinearOrder RustOwnerResponsibility := LinearOrder.lift' rank rank_injective

end RustOwnerResponsibility

/-- Preferred lifecycle moment for running the external verification skill. -/
inductive RustVerificationPhase where
  | afterUnitTestsPass
  | beforeRelease
  | scheduledRegression
  | beforeVerification
deriving DecidableEq, Repr

/-- Agent-visible verification task state. -/
inductive RustVerificationTaskState where
  | pending
  | satisfied
  | failed
  | waived
deriving DecidableEq, Repr

/-- A pending or failed task still needs action. -/
def RustVerificationTaskState.isActive : RustVerificationTaskState → Bool
  | .pending | .failed => true
  | .satisfied | .waived => false

/-- Result status reported by an external verification skill. -/
inductive RustVerificationReceiptStatus where
  | passed
  | failed
deriving DecidableEq, Repr

/-- Small fact line attached to a verification task. -/
structure RustVerificationEvidence where
  label : String
  value : String
deriving DecidableEq, Repr

/-- Structured evidence field required from an external verification skill. -/
structure RustVerificationRequirement where
  key : String
  description : String
deriving DecidableEq, Repr

/-- Configurable execution contract for one verification task family. -/
structure RustVerificationTaskContract where
  phase : RustVerificationPhase
  requiredReceipt : String
  requiredEvidence : List RustVerificationRequirement
deriving DecidableEq, Repr

/-- Configured skill adapter for one verification task family. -/
structure RustVerificationSkillBinding where
  skillId : String
  adapter : Option String
deriving DecidableEq, Repr

/-- A binding counts once its skill id is not blank. -/
def RustVerificationSkillBinding.isConfigured (binding : RustVerificationSkillBinding) : Bool :=
  trim binding.skillId.toList ≠ []

/-- Compact contract that explains how a skill binding is executed. -/
structure RustVerificationSkillDescriptor where
  skillId : String
  adapter : Option String
  tool : String
  command : String
  standard : String
  requiredInputs : List String
  passCriteria : List String
  receiptFields : List String
deriving DecidableEq, Repr

/-- Project-owned stability picture requirements. -/
structure RustVerificationStabilityPictureConfig where
  requireLongRunningSimulation : Bool
  requirePerformanceInterface : Bool
  requireResourceDelta : Bool
  requireStateGrowth : Bool
  requireDeterminism : Bool
  requireStabilityArtifact : Bool
  minIterations : Option ℕ
  minDurationSeconds : Option ℕ
deriving DecidableEq, Repr

/-- Why a receipt or waiver did not clear a task. -/
structure RustVerificationResolutionNote where
  label : String
  detail : String
deriving DecidableEq, Repr

/-- Verification task generated from parser facts and profile hints.  The type of its paths
is left open; by default they are absolute. -/
structure RustVerificationTask (P : Type := Path) where
  fingerprint : String
  kind : RustVerificationTaskKind
  state : RustVerificationTaskState
  packageRoot : P
  ownerPath : P
  ownerNamespace : List String
  line : Option ℕ
  phase : RustVerificationPhase
  reason : String
  requiredReceipt : String
  skillBinding : Option RustVerificationSkillBinding
  skillContractRef : Option String
  requiredEvidence : List RustVerificationRequirement
  evidence : List RustVerificationEvidence
  resolutionNotes : List RustVerificationResolutionNote
  receiptSummary : Option String
  receiptEvidence : List RustVerificationEvidence
  receiptEvidenceUri : Option String
  receiptObservedAt : Option String
  waiverReason : Option String
deriving DecidableEq, Repr

/-- A task still to be rendered as an active reminder. -/
def RustVerificationTask.isActive (task : RustVerificationTask) : Bool := task.state.isActive

/-- Durable report artifact expected for active verification tasks. -/
structure RustVerificationReportObligation where
  key : String
  renderer : String
  suggestedArtifactName : String
  reason : String
  taskKinds : OrderedSet RustVerificationTaskKind
  taskFingerprints : List String
deriving DecidableEq

/-- Evidence receipt produced by an external skill run. -/
structure RustVerificationReceipt where
  taskFingerprint : String
  kind : RustVerificationTaskKind
  status : RustVerificationReceiptStatus
  summary : String
  evidenceUri : Option String
  evidence : List RustVerificationEvidence
  observedAt : Option String
deriving DecidableEq, Repr

/-- Explicit suppression for a current verification task fingerprint. -/
structure RustVerificationWaiver where
  taskFingerprint : String
  owner : String
  reason : String
  expiresAt : String
deriving DecidableEq, Repr

/-- Responsibility hint that maps a parser owner to skill duties. -/
structure RustVerificationProfileHint where
  ownerPath : String
  responsibilities : OrderedSet RustOwnerResponsibility
  taskKinds : Option (OrderedSet RustVerificationTaskKind)
  taskContractOverrides : OrderedMap RustVerificationTaskKind RustVerificationTaskContract
  stabilityPicture : Option RustVerificationStabilityPictureConfig
  rationale : Option String
deriving DecidableEq

/-- Path-level API verification baseline. -/
structure RustVerificationApiPathBaseline where
  ownerPath : String
  method : String
  path : String
  responsibilities : OrderedSet RustOwnerResponsibility
  taskKinds : Option (OrderedSet RustVerificationTaskKind)
  taskContractOverrides : OrderedMap RustVerificationTaskKind RustVerificationTaskContract
  stabilityPicture : Option RustVerificationStabilityPictureConfig
  rationale : Option String
deriving DecidableEq

/-- Responsibilities implied by a Cargo dependency. -/
structure RustVerificationDependencySignal where
  dependency : String
  responsibilities : OrderedSet RustOwnerResponsibility
deriving DecidableEq

/-- Library-first verification configuration surface. -/
structure RustVerificationPolicy where
  profileHints : List RustVerificationProfileHint := []
  apiPathBaselines : List RustVerificationApiPathBaseline := []
  receipts : List RustVerificationReceipt := []
  waivers : List RustVerificationWaiver := []
  disabledTaskKinds : OrderedSet RustVerificationTaskKind := ∅
  taskContractOverrides :
    OrderedMap RustVerificationTaskKind RustVerificationTaskContract := ∅
  skillBindings : OrderedMap RustVerificationTaskKind RustVerificationSkillBinding := ∅
  skillDescriptors : OrderedMap String RustVerificationSkillDescriptor := ∅
  responsibilityTaskOverrides :
    OrderedMap RustOwnerResponsibility (OrderedSet RustVerificationTaskKind) := ∅
  dependencySignals : List RustVerificationDependencySignal := []
  stabilityPicture : Option RustVerificationStabilityPictureConfig := none
deriving DecidableEq

/-- Full verification plan for a parser-scoped project run. -/
structure RustVerificationPlan (P : Type := Path) where
  projectRoot : P
  tasks : List (RustVerificationTask P)
  reportObligations : List RustVerificationReportObligation
  skillDescriptors : List RustVerificationSkillDescriptor
deriving DecidableEq

/-- The tasks that still require action. -/
def RustVerificationPlan.activeTasks (plan : RustVerificationPlan) : List RustVerificationTask :=
  plan.tasks.filter (·.isActive)

end AspRust.Verification
