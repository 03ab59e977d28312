import AspRust.Review.InvariantCatalog

/-!
# Review packets

A review packet lists what is to be looked at before a change is accepted: the invariant
candidates of the report, the receipts that are still missing for them, changed behavior, stale
waivers, and what determinism and proof packets say.  For each of these there is an
action, under an id of its own.

A receipt or waiver is for the candidate whose id it names.

### Design notes

The packet keeps the order of its parts, and each part keeps the order of the report.  A receipt
that is required of a candidate is missing if none has passed for its id and no current waiver
names it; waivers that are out of date are listed and clear nothing.
-/

namespace AspRust.Review

open AspRust.Foundation AspRust.Discovery

/-! ## Evidence

What a packet is built from, besides the report.  Of receipts, snapshots and packets
only what the packet depends on is kept: their ids and states, the ids that they link
to, and how many parts they have. -/

inductive RustReviewPacketReceiptKind where
  | cargoCheck
  | cargoTest
  | clippy
  | expectTest
  | proptest
  | cargoFuzz
  | kani
  | creusot
  | verus
  | waiver
deriving DecidableEq, Repr

inductive RustVerificationExecutionTool where
  | cargoCheck
  | cargoTest
  | clippy
  | expectTest
  | proptest
  | cargoFuzz
  | kani
  | creusot
  | verus
deriving DecidableEq, Repr

inductive RustVerificationExecutionStatus where
  | passed
  | failed
  | skipped
  | error
deriving DecidableEq, Repr

/-- A receipt, as far as packets depend on it. -/
structure RustVerificationExecutionReceipt where
  tool : RustVerificationExecutionTool
  status : RustVerificationExecutionStatus
  candidateIds : List String
deriving DecidableEq, Repr

inductive RustBehaviorSnapshotStatus where
  | matched
  | changed
  | missing
  | skipped
  | error
deriving DecidableEq, Repr

structure RustBehaviorSnapshotSubject where
  path : String
  symbol : Option String
deriving DecidableEq, Repr

/-- A behavior snapshot; of its observations only the messages are read. -/
structure RustBehaviorSnapshot where
  snapshotId : String
  subject : RustBehaviorSnapshotSubject
  status : RustBehaviorSnapshotStatus
  observations : List String
  receiptIds : List String
  candidateIds : List String
deriving DecidableEq, Repr

inductive RustDeterminismReadinessStatus where
  | ready
  | needsInjection
  | blocked
  | unknown
deriving DecidableEq, Repr

/-- A readiness packet; its observations and suggestions are only counted. -/
structure RustDeterminismReadiness where
  readinessId : String
  status : RustDeterminismReadinessStatus
  observations : ℕ
  suggestions : ℕ
deriving DecidableEq, Repr

inductive RustFormalProofPilotStatus where
  | proved
  | provedBounded
  | failed
  | skipped
  | unknown
deriving DecidableEq, Repr

/-- A proof pilot; its claims and checks are only counted. -/
structure RustFormalProofPilot where
  proofId : String
  target : String
  status : RustFormalProofPilotStatus
  claims : ℕ
  checks : ℕ
deriving DecidableEq, Repr

inductive RustReviewPacketWaiverStatus where
  | current
  | stale
  | expired
deriving DecidableEq, Repr

structure RustReviewPacketWaiver where
  waiverId : String
  invariantId : String
  receiptKind : RustReviewPacketReceiptKind
  status : RustReviewPacketWaiverStatus
  owner : String
  reason : String
  expiresAt : Option String
deriving DecidableEq, Repr

/-- What a packet is built from, besides the report. -/
structure ReviewEvidence where
  projectRoot : String
  receipts : List RustVerificationExecutionReceipt := []
  behaviorSnapshots : List RustBehaviorSnapshot := []
  determinismReadiness : List RustDeterminismReadiness := []
  proofPilots : List RustFormalProofPilot := []
  waivers : List RustReviewPacketWaiver := []

/-- The report of a run, with the candidates of its findings. -/
structure AspRustReport where
  findings : List AspRustFinding
  invariantCandidates : List RustInvariantCandidate

def AspRustReport.ofFindings (findings : List AspRustFinding) : AspRustReport where
  findings := findings
  invariantCandidates := invariantCandidatesFromFindings findings

structure RustReviewPacketInput extends ReviewEvidence where
  report : AspRustReport

/-! ## Candidates

A candidate of the report with its location below the project, as the packet lists it. -/

def receiptKind : RustInvariantReceiptKind → RustReviewPacketReceiptKind
  | .cargoCheck => .cargoCheck
  | .cargoTest => .cargoTest
  | .clippy => .clippy
  | .expectTest => .expectTest
  | .proptest => .proptest
  | .cargoFuzz => .cargoFuzz
  | .kani => .kani
  | .creusot => .creusot
  | .verus => .verus
  | .waiver => .waiver

def receiptToolKind : RustVerificationExecutionTool → RustReviewPacketReceiptKind
  | .cargoCheck => .cargoCheck
  | .cargoTest => .cargoTest
  | .clippy => .clippy
  | .expectTest => .expectTest
  | .proptest => .proptest
  | .cargoFuzz => .cargoFuzz
  | .kani => .kani
  | .creusot => .creusot
  | .verus => .verus

def receiptKindId : RustReviewPacketReceiptKind → String
  | .cargoCheck => "cargo-check"
  | .cargoTest => "cargo-test"
  | .clippy => "clippy"
  | .expectTest => "expect-test"
  | .proptest => "proptest"
  | .cargoFuzz => "cargo-fuzz"
  | .kani => "kani"
  | .creusot => "creusot"
  | .verus => "verus"
  | .waiver => "waiver"

def invariantCandidateStatus : RustInvariantCandidateStatus → String
  | .candidate => "candidate"
  | .accepted => "accepted"
  | .verified => "verified"
  | .waived => "waived"
  | .stale => "stale"

structure RustReviewPacketLocation where
  path : Option OsPath
  line : ℕ
  column : ℕ

structure RustReviewPacketChangedInvariant where
  invariantId : String
  sourceRuleId : String
  kind : RustInvariantKind
  severity : RustDiagnosticSeverity
  title : String
  hypothesis : String
  location : RustReviewPacketLocation
  requiredReceipts : List RustReviewPacketReceiptKind
  fields : OrderedMap String String

/-- A path below the project is shown relative to it; another absolute path is not shown. -/
def projectRelativePath (projectRoot path : OsPath) : Option OsPath :=
  if path = OsPath.ofText "." then some path
  else if path.isAbsolute then
    (OsPath.stripPrefix? projectRoot path).filter fun relative => relative ≠ OsPath.ofText ""
  else some path

def reviewLocation (projectRoot : String) (location : SourceLocation) :
    RustReviewPacketLocation where
  path := location.path.bind fun path =>
    projectRelativePath (OsPath.ofText projectRoot) (OsPath.ofText path)
  line := max location.line 1
  column := location.column

def changedInvariant (projectRoot : String) (candidate : RustInvariantCandidate) :
    RustReviewPacketChangedInvariant where
  invariantId := candidate.invariantId
  sourceRuleId := candidate.sourceRuleId
  kind := candidate.kind
  severity := candidate.severity
  title := candidate.title
  hypothesis := candidate.hypothesis
  location := reviewLocation projectRoot candidate.location
  requiredReceipts := candidate.requiredReceipts.map receiptKind
  fields := ((∅ : OrderedMap String String).insert "rulePackId" candidate.rulePackId).insert
    "status" (invariantCandidateStatus candidate.status)

/-! ## Missing receipts

A candidate asks for receipts of some kinds.  One is missing if no receipt of the kind
has passed that names the id of the candidate, and no current waiver names the id and
the kind. -/

structure RustReviewPacketMissingReceipt where
  invariantId : String
  receiptKind : RustReviewPacketReceiptKind
  reason : String
deriving DecidableEq, Repr

/-- The candidates and tools of the receipts that passed. -/
def passedReceiptEvidence (receipts : List RustVerificationExecutionReceipt) :
    List (String × RustReviewPacketReceiptKind) :=
  (receipts.filter fun receipt => receipt.status = .passed).flatMap fun receipt =>
    receipt.candidateIds.map fun candidateId => (candidateId, receiptToolKind receipt.tool)

/-- The candidates and kinds of the waivers that are current. -/
def currentWaiverEvidence (waivers : List RustReviewPacketWaiver) :
    List (String × RustReviewPacketReceiptKind) :=
  (waivers.filter fun waiver => waiver.status = .current).map fun waiver =>
    (waiver.invariantId, waiver.receiptKind)

def missingReceiptsForCandidate (candidate : RustInvariantCandidate)
    (receiptEvidence waiverEvidence : List (String × RustReviewPacketReceiptKind)) :
    List RustReviewPacketMissingReceipt :=
  ((candidate.requiredReceipts.map receiptKind).filter fun kind =>
    (candidate.invariantId, kind) ∉ receiptEvidence &&
      (candidate.invariantId, kind) ∉ waiverEvidence).map fun kind =>
    { invariantId := candidate.invariantId
      receiptKind := kind
      reason := "no passed " ++ receiptKindId kind ++ " receipt linked to candidate" }

/-! ## Behavior, determinism and proofs

These are passed on with their states; there is no candidate that they belong to. -/

inductive RustReviewPacketBehaviorStatus where
  | changed
  | missing
  | skipped
  | error
deriving DecidableEq, Repr

/-- Behavior that matches its snapshot is not looked at. -/
def behaviorStatus : RustBehaviorSnapshotStatus → Option RustReviewPacketBehaviorStatus
  | .matched => none
  | .changed => some .changed
  | .missing => some .missing
  | .skipped => some .skipped
  | .error => some .error

structure RustReviewPacketChangedBehavior where
  snapshotId : String
  status : RustReviewPacketBehaviorStatus
  subject : String
  summary : String
  receiptIds : List String
  candidateIds : List String
deriving DecidableEq, Repr

def behaviorSubject (snapshot : RustBehaviorSnapshot) : String :=
  match snapshot.subject.symbol with
  | some symbol => snapshot.subject.path ++ "::" ++ symbol
  | none => snapshot.subject.path

def changedBehavior (snapshot : RustBehaviorSnapshot) :
    Option RustReviewPacketChangedBehavior :=
  (behaviorStatus snapshot.status).map fun status =>
    { snapshotId := snapshot.snapshotId
      status := status
      subject := behaviorSubject snapshot
      summary := snapshot.observations.head?.getD "behavior snapshot needs review"
      receiptIds := snapshot.receiptIds
      candidateIds := snapshot.candidateIds }

/-! ## Actions

Each thing that is left to be done is an action.  Its id is made of the stem of its kind
and the words of its target, so it tells targets apart only as far as their words do. -/

inductive RustReviewPacketActionKind where
  | verifyInvariant
  | inspectBehavior
  | runReceipt
  | refreshWaiver
  | addressDeterminism
  | inspectProof
deriving DecidableEq, Repr

inductive RustReviewPacketActionPriority where
  | p0
  | p1
  | p2
  | p3
deriving DecidableEq, Repr

structure RustReviewPacketAction where
  actionId : String
  kind : RustReviewPacketActionKind
  priority : RustReviewPacketActionPriority
  summary : String
  targetId : Option String
deriving DecidableEq, Repr

/-- The words of a text with one dash between them. -/
def sanitizeIdPart (value : List Char) : List Char := Words.tidy '-' (value.map wordChar)

def priorityForSeverity : RustDiagnosticSeverity → RustReviewPacketActionPriority
  | .error | .warning => .p1
  | .info => .p2

/-- What the ids of the actions of a kind begin with. -/
def RustReviewPacketActionKind.idStem : RustReviewPacketActionKind → String
  | .verifyInvariant => "verify-invariant"
  | .inspectBehavior => "inspect-behavior"
  | .runReceipt => "run-receipt"
  | .refreshWaiver => "refresh-waiver"
  | .addressDeterminism => "address-determinism"
  | .inspectProof => "inspect-proof"

/-- An action before it has an id: what is to be done about which target, and by which tool. -/
structure ReviewActionRequest where
  kind : RustReviewPacketActionKind
  target : String
  receiptKind : Option RustReviewPacketReceiptKind := none
  priority : RustReviewPacketActionPriority
  summary : String
deriving DecidableEq, Repr

namespace ReviewActionRequest

def actionId (request : ReviewActionRequest) : String :=
  String.ofList (request.kind.idStem.toList ++ '.' :: (sanitizeIdPart request.target.toList ++
    ((request.receiptKind.map fun kind => '.' :: (receiptKindId kind).toList).getD [])))

def action (request : ReviewActionRequest) : RustReviewPacketAction where
  actionId := request.actionId
  kind := request.kind
  priority := request.priority
  summary := request.summary
  targetId := some request.target

end ReviewActionRequest

def verifyInvariantRequest (invariant : RustReviewPacketChangedInvariant) :
    ReviewActionRequest where
  kind := .verifyInvariant
  target := invariant.invariantId
  priority := priorityForSeverity invariant.severity
  summary := "Review invariant " ++ invariant.invariantId

def runReceiptRequest (missing : RustReviewPacketMissingReceipt) : ReviewActionRequest where
  kind := .runReceipt
  target := missing.invariantId
  receiptKind := some missing.receiptKind
  priority := .p0
  summary := "Run " ++ receiptKindId missing.receiptKind ++ " for " ++ missing.invariantId

def inspectBehaviorRequest (behavior : RustReviewPacketChangedBehavior) :
    ReviewActionRequest where
  kind := .inspectBehavior
  target := behavior.snapshotId
  priority := .p1
  summary := "Inspect behavior snapshot " ++ behavior.snapshotId

def refreshWaiverRequest (waiver : RustReviewPacketWaiver) : ReviewActionRequest where
  kind := .refreshWaiver
  target := waiver.waiverId
  priority := .p1
  summary := "Refresh waiver " ++ waiver.waiverId

def addressDeterminismRequest (readiness : RustDeterminismReadiness) : ReviewActionRequest where
  kind := .addressDeterminism
  target := readiness.readinessId
  priority := .p1
  summary := "Address " ++ toString readiness.observations ++ " determinism observations"

def inspectProofRequest (proof : RustFormalProofPilot) : ReviewActionRequest where
  kind := .inspectProof
  target := proof.proofId
  priority := .p0
  summary := "Inspect failed proof pilot " ++ proof.proofId

/-- The actions that are asked for, in their order. -/
def reviewActionRequests (changedInvariants : List RustReviewPacketChangedInvariant)
    (changedBehavior : List RustReviewPacketChangedBehavior)
    (missingReceipts : List RustReviewPacketMissingReceipt)
    (staleWaivers : List RustReviewPacketWaiver)
    (determinismReadiness : List RustDeterminismReadiness)
    (proofPilots : List RustFormalProofPilot) : List ReviewActionRequest :=
  changedInvariants.map verifyInvariantRequest ++ missingReceipts.map runReceiptRequest ++
    changedBehavior.map inspectBehaviorRequest ++ staleWaivers.map refreshWaiverRequest ++
    (determinismReadiness.filter fun readiness => readiness.status = .needsInjection).map
      addressDeterminismRequest ++
    (proofPilots.filter fun proof => proof.status = .failed).map inspectProofRequest

/-! ## The packet -/

structure RustReviewPacketSummary where
  changedInvariants : ℕ
  changedBehavior : ℕ
  missingReceipts : ℕ
  staleWaivers : ℕ
  determinismObservations : ℕ
  proofClaims : ℕ
deriving DecidableEq, Repr

/-- A packet, without its constant headers.  The summaries of determinism and proof packets say
what these packets say. -/
structure RustReviewPacket where
  summary : RustReviewPacketSummary
  changedInvariants : List RustReviewPacketChangedInvariant
  changedBehavior : List RustReviewPacketChangedBehavior
  missingReceipts : List RustReviewPacketMissingReceipt
  staleWaivers : List RustReviewPacketWaiver
  determinismReadiness : List RustDeterminismReadiness
  proofPilots : List RustFormalProofPilot
  reviewActions : List RustReviewPacketAction

def changedInvariants (input : RustReviewPacketInput) : List RustReviewPacketChangedInvariant :=
  input.report.invariantCandidates.map (changedInvariant input.projectRoot)

def missingReceipts (input : RustReviewPacketInput) : List RustReviewPacketMissingReceipt :=
  input.report.invariantCandidates.flatMap fun candidate =>
    missingReceiptsForCandidate candidate (passedReceiptEvidence input.receipts)
      (currentWaiverEvidence input.waivers)

def staleWaivers (input : RustReviewPacketInput) : List RustReviewPacketWaiver :=
  input.waivers.filter fun waiver => waiver.status ≠ .current

/-- The actions that an input asks for. -/
def requestedActions (input : RustReviewPacketInput) : List ReviewActionRequest :=
  reviewActionRequests (changedInvariants input) (input.behaviorSnapshots.filterMap changedBehavior)
    (missingReceipts input) (staleWaivers input) input.determinismReadiness input.proofPilots

def buildRustReviewPacket (input : RustReviewPacketInput) : RustReviewPacket where
  summary :=
    { changedInvariants := (changedInvariants input).length
      changedBehavior := (input.behaviorSnapshots.filterMap changedBehavior).length
      missingReceipts := (missingReceipts input).length
      staleWaivers := (staleWaivers input).length
      determinismObservations := (input.determinismReadiness.map (·.observations)).sum
      proofClaims := (input.proofPilots.map (·.claims)).sum }
  changedInvariants := changedInvariants input
  changedBehavior := input.behaviorSnapshots.filterMap changedBehavior
  missingReceipts := missingReceipts input
  staleWaivers := staleWaivers input
  determinismReadiness := input.determinismReadiness
  proofPilots := input.proofPilots
  reviewActions := (requestedActions input).map ReviewActionRequest.action

end AspRust.Review
