import AspRust.Discovery.Config

/-!
# Findings and reports

The data a harness run returns.  A report is what the gate asserts on and what a
cache record stores; the text rendering of a finding is only shown in the
message of a failing gate.
-/

namespace AspRust.Analysis

open AspRust.Foundation AspRust.Discovery

/-- Where a finding is. -/
structure SourceLocation where
  path : Option Path
  line : ℕ
  column : ℕ
deriving DecidableEq, Repr

/-- The start of a file. -/
def fileLocation (path : Path) : SourceLocation := ⟨some path, 1, 0⟩

/-- A line of a file; lines count from one. -/
def pathLineLocation (path : Path) (line : ℕ) : SourceLocation := ⟨some path, max line 1, 0⟩

/-- Compact rule metadata. -/
structure AspRustRule where
  ruleId : String
  packId : String
  severity : RustDiagnosticSeverity
  title : String
  requirement : String
  labels : OrderedMap String String
deriving DecidableEq

/-- One deterministic harness finding. -/
structure AspRustFinding where
  ruleId : String
  packId : String
  severity : RustDiagnosticSeverity
  title : String
  summary : String
  location : SourceLocation
  requirement : String
  sourceLine : Option String
  label : String
  labels : OrderedMap String String
deriving DecidableEq

/-- A finding of a catalog rule. -/
def AspRustFinding.fromRule (rule : AspRustRule) (summary : String) (location : SourceLocation)
    (sourceLine : Option String) (label : String) : AspRustFinding where
  ruleId := rule.ruleId
  packId := rule.packId
  severity := rule.severity
  title := rule.title
  summary := summary
  location := location
  requirement := rule.requirement
  sourceLine := sourceLine
  label := label
  labels := rule.labels

/-- Candidate invariant category. -/
inductive RustInvariantKind where
  | primitiveIdentifierBoundary
  | publicDataPrimitiveFields
  | anonymousTupleApiSurface
  | primitiveTypeAliasBoundary
  | stringlyStateBoundary
  | parserFact
  | publicApiShape
  | moduleReasoningTree
  | dependencyGraphAcyclicity
  | custom
deriving DecidableEq, Repr

/-- Candidate invariant lifecycle status. -/
inductive RustInvariantCandidateStatus where
  | candidate
  | accepted
  | verified
  | waived
  | stale
deriving DecidableEq, Repr

/-- Receipt family expected for an invariant candidate. -/
inductive RustInvariantReceiptKind where
  | cargoCheck
  | cargoTest
  | clippy
  | expectTest
  | proptest
  | cargoFuzz
  | kani
  | creusot
  | verus
  | waiver
deriving DecidableEq, Repr

/-- Evidence kind attached to an invariant candidate. -/
inductive RustInvariantEvidenceKind where
  | finding
  | parserFact
  | receipt
  | proof
  | custom
deriving DecidableEq, Repr

/-- Evidence item attached to an invariant candidate. -/
structure RustInvariantEvidence where
  kind : RustInvariantEvidenceKind
  summary : String
  location : Option SourceLocation
  fields : OrderedMap String String
deriving DecidableEq

/-- Machine-facing candidate invariant derived from a finding. -/
structure RustInvariantCandidate where
  invariantId : String
  sourceRuleId : String
  rulePackId : String
  kind : RustInvariantKind
  status : RustInvariantCandidateStatus
  severity : RustDiagnosticSeverity
  title : String
  hypothesis : String
  location : SourceLocation
  evidence : List RustInvariantEvidence
  requiredReceipts : List RustInvariantReceiptKind
  proofTargets : List RustInvariantKind
  fields : OrderedMap String String
deriving DecidableEq

/-- Public summary for one parsed Rust source file. -/
structure RustModuleReport where
  path : Path
  isValid : Bool
  parseError : Option String
deriving DecidableEq, Repr

/-- The result of a harness run. -/
structure AspRustReport where
  modules : List RustModuleReport
  findings : List AspRustFinding
  invariantCandidates : List RustInvariantCandidate
  rootPaths : List Path
  blockingSeverities : OrderedSet RustDiagnosticSeverity
  projectResolution : Option AspRustScope
  workspaceMemberScopes : List AspRustScope
deriving DecidableEq

namespace AspRustReport

variable (report : AspRustReport)

/-- The findings of the given severities. -/
def blockingFindings (severities : OrderedSet RustDiagnosticSeverity) : List AspRustFinding :=
  report.findings.filter fun finding => finding.severity ∈ severities.keys

/-- No finding has a severity that blocks. -/
def isClean : Bool := report.blockingFindings report.blockingSeverities = []

/-- The non-blocking advice, which the gate takes to be the findings of severity
`info`. -/
def adviceFindings : List AspRustFinding :=
  report.blockingFindings (OrderedSet.ofList [.info])

end AspRustReport

/-- The configured rules applied to findings: disabled rules drop them, overrides
replace their severity. -/
def applyPolicyConfig (config : AspRustConfig) (findings : List AspRustFinding) :
    List AspRustFinding :=
  findings.filterMap fun finding =>
    if finding.ruleId ∈ config.disabledRules.keys then none
    else
      match config.ruleSeverityOverrides.get? finding.ruleId with
      | some severity => some { finding with severity }
      | none => some finding

end AspRust.Analysis
