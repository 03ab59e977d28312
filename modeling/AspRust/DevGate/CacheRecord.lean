import AspRust.DevGate.CacheDirectory
import AspRust.DevGate.Policy
import AspRust.DevGate.Snapshot

/-!
# Cache records

A record keeps the result of a gate run under a key that is the digest of
everything the run is told: the contract of the harness, the policy authority,
the configuration, the dependency baseline in a canonical order, and the
snapshot of the inputs.  `loadDevGateCache` recomputes what a record claims
about itself and returns it only when all of it holds; `storeDevGateCache`
publishes a record through a temporary file.

A failed rename is not an error when something is published under the key
already: another run with the same key may have been faster.

### What is load-bearing

The key is the digest of a text, so what two runs with one key have in common is what
that text tells (`cacheKeyMaterial`).  The gate label is not among it.  The baseline
packages are, but sorted first.  The files are there by the digest of the snapshot and
the root of the package not at all: these four are why `Transparency` and `Isolation`
have conditions.

A record is read back from bytes that anyone can have written.  `recordIsIntact`
compares the identity of the schema, the key with the one it was looked up under, the
counts with the files that are listed, and the two digests with those of the list of files
and of the payload, encoded once more.

### The package at the end

The last section is one small package, a manifest and nothing else, with the bytes of
all that a run of its gate encodes and hashes.  The encodings and SHA-256 are parameters
of the model; on this package they are given by tables whose rows are the real ones, so
that the runs in the modules behind this one can be followed by hand.
-/

namespace AspRust.DevGate

open AspRust.Foundation AspRust.Discovery AspRust.Verification AspRust.Analysis

def aspRustDevGateCacheSchemaId : String := "agent.semantic-protocols.asp-rust.dev-gate-cache"

def aspRustDevGateCacheSchemaVersion : String := "1"

/-- The stored result of a gate run. -/
structure AspRustDevGateCacheRecord where
  schemaId : String
  schemaVersion : String
  cacheKey : String
  snapshot : AspRustDevGateSnapshot
  payloadDigest : String
  report : AspRustReport
  verificationPlan : RustVerificationPlan
  downstreamPolicyReceipt : AspRustDownstreamPolicyReceipt
  dependencyBaselineReceipts : List AspRustDependencyBaselinePackageReceipt
deriving DecidableEq

/-- The material a cache key is the digest of. -/
structure AspRustDevGateCacheKey where
  schemaId : String
  schemaVersion : String
  harnessVersion : String
  harnessProviderDigest : String
  policyAuthorityDigest : String
  scope : String
  config : AspRustConfig
  dependencyBaselineReceipts : List AspRustDependencyBaselinePackageReceipt
  contentSnapshotDigest : String
deriving DecidableEq

/-- The material a payload digest is the digest of. -/
structure AspRustDevGateCachePayload where
  report : AspRustReport
  verificationPlan : RustVerificationPlan
  downstreamPolicyReceipt : AspRustDownstreamPolicyReceipt
  dependencyBaselineReceipts : List AspRustDependencyBaselinePackageReceipt
deriving DecidableEq

/-- The parts of the cache that lie outside the harness: serialization, and the
identity of the build. -/
structure CacheHost extends SnapshotHost where
  /-- The digest index is read back as it was written, or not at all: its
  modification times are wider than the numbers the reader takes. -/
  indexCodec : LossyCodec AspRustSnapshotDigestIndex
  recordCodec : Codec AspRustDevGateCacheRecord
  keyEncoder : Encoder AspRustDevGateCacheKey
  payloadEncoder : AspRustDevGateCachePayload → Except String (List UInt8)
  harnessVersion : String
  harnessProviderDigest : String

/-- What a run of the harness evaluates. -/
inductive AspRustRunScope where
  | package
  | projectWorkspace
deriving DecidableEq, Repr

/-- The scope in a cache key. -/
def AspRustRunScope.keyText : AspRustRunScope → String
  | .package => "package"
  | .projectWorkspace => "project-workspace"

/-- The order of baseline receipts in a cache key. -/
def receiptLe (left right : AspRustDependencyBaselinePackageReceipt) : Bool :=
  [left.name, left.version, left.sourceContains] ≤
    [right.name, right.version, right.sourceContains]

/-- Baseline receipts in the order of a cache key. -/
def sortedReceipts (receipts : List AspRustDependencyBaselinePackageReceipt) :
    List AspRustDependencyBaselinePackageReceipt :=
  receipts.insertionSort fun left right => receiptLe left right = true

section Host

variable (host : CacheHost)

/-- The key material of a run. -/
def cacheKeyMaterial (config : AspRustConfig) (scope : AspRustRunScope)
    (receipts : List AspRustDependencyBaselinePackageReceipt)
    (snapshot : AspRustDevGateSnapshot) (policyAuthorityDigest : String) :
    AspRustDevGateCacheKey where
  schemaId := aspRustDevGateCacheSchemaId
  schemaVersion := aspRustDevGateCacheSchemaVersion
  harnessVersion := host.harnessVersion
  harnessProviderDigest := host.harnessProviderDigest
  policyAuthorityDigest := policyAuthorityDigest
  scope := scope.keyText
  config := config
  dependencyBaselineReceipts := sortedReceipts receipts
  contentSnapshotDigest := snapshot.digest

/-- The key of a run. -/
def devGateCacheKeyWithPolicyDigest (config : AspRustConfig) (scope : AspRustRunScope)
    (receipts : List AspRustDependencyBaselinePackageReceipt)
    (snapshot : AspRustDevGateSnapshot) (policyAuthorityDigest : String) :
    Except String String :=
  match host.keyEncoder.encode
      (cacheKeyMaterial host config scope receipts snapshot policyAuthorityDigest) with
  | .error error => .error ("serialize dev-gate cache key: " ++ error)
  | .ok bytes => .ok (contentDigest host.sha256 bytes)

/-- The digest of what a record carries. -/
def devGateCachePayloadDigest (report : AspRustReport) (plan : RustVerificationPlan)
    (receipt : AspRustDownstreamPolicyReceipt)
    (baselineReceipts : List AspRustDependencyBaselinePackageReceipt) : Except String String :=
  match host.payloadEncoder ⟨report, plan, receipt, baselineReceipts⟩ with
  | .error error => .error ("serialize dev-gate cache payload: " ++ error)
  | .ok bytes => .ok (contentDigest host.sha256 bytes)

theorem devGateCachePayloadDigest_of_encode {report : AspRustReport}
    {plan : RustVerificationPlan} {receipt : AspRustDownstreamPolicyReceipt}
    {baselineReceipts : List AspRustDependencyBaselinePackageReceipt} {bytes : List UInt8}
    (hencode : host.payloadEncoder ⟨report, plan, receipt, baselineReceipts⟩ = .ok bytes) :
    devGateCachePayloadDigest host report plan receipt baselineReceipts =
      .ok (contentDigest host.sha256 bytes) := by
  rw [devGateCachePayloadDigest, hencode]

/-- The record of a run, with the digest of what it carries. -/
def devGateCacheRecord (cacheKey : String) (snapshot : AspRustDevGateSnapshot)
    (report : AspRustReport) (plan : RustVerificationPlan)
    (receipt : AspRustDownstreamPolicyReceipt)
    (baselineReceipts : List AspRustDependencyBaselinePackageReceipt) :
    Except String AspRustDevGateCacheRecord :=
  (devGateCachePayloadDigest host report plan receipt baselineReceipts).map fun payloadDigest =>
    { schemaId := aspRustDevGateCacheSchemaId
      schemaVersion := aspRustDevGateCacheSchemaVersion
      cacheKey := cacheKey
      snapshot := snapshot
      payloadDigest := payloadDigest
      report := report
      verificationPlan := plan
      downstreamPolicyReceipt := receipt
      dependencyBaselineReceipts := baselineReceipts }

/-! ## File names -/

/-- The part of a key after its last colon. -/
def cacheFileStem (cacheKey : String) : String :=
  match rsplitOnce? ':' cacheKey.toList with
  | some parts => String.ofList parts.2
  | none => cacheKey

/-- The name of the file of a key. -/
def cachePath (cacheKey : String) : String := cacheFileStem cacheKey ++ ".json"

/-- The process that publishes: its id, and how many temporary files it has
named. -/
structure PublishingProcess where
  id : ℕ
  sequence : ℕ
deriving DecidableEq, Repr

/-- The temporary file of a record publication. -/
def PublishingProcess.temporary (process : PublishingProcess) : String :=
  "." ++ toString process.id ++ "." ++ toString process.sequence ++ ".tmp"

/-! ## Loading -/

/-- What the loader recomputes of a record. -/
def recordIsIntact (cacheKey : String) (record : AspRustDevGateCacheRecord) (byteCount : ℕ) :
    Bool :=
  record.schemaId = aspRustDevGateCacheSchemaId &&
    record.schemaVersion = aspRustDevGateCacheSchemaVersion &&
    record.cacheKey = cacheKey &&
    record.snapshot.fileCount = record.snapshot.files.length &&
    record.snapshot.byteCount = byteCount &&
    (match host.filesEncoder.encode record.snapshot.files with
      | .ok bytes => record.snapshot.digest = contentDigest host.sha256 bytes
      | .error _ => false) &&
    (match devGateCachePayloadDigest host record.report record.verificationPlan
        record.downstreamPolicyReceipt record.dependencyBaselineReceipts with
      | .ok digest => record.payloadDigest = digest
      | .error _ => false)

/-- The record of a key, when the file of the key holds an intact one. -/
def loadDevGateCache (directory : CacheDirectory) (cacheKey : String) :
    Option AspRustDevGateCacheRecord := do
  let bytes ← readFile directory (cachePath cacheKey)
  let record ← host.recordCodec.decode bytes
  let byteCount ← sumByteCounts record.snapshot.files
  if recordIsIntact host cacheKey record byteCount then some record else none

/-! ## Storing -/

/-- The failure texts of a record publication. -/
def recordStageTexts : StageTexts where
  createDirectory := "create dev-gate cache directory: "
  serialize := "serialize dev-gate cache record: "
  createTemporary := "create dev-gate cache temporary file: "
  write := "write dev-gate cache temporary file: "

/-- The result of a publication whose rename failed: a success when a file is
there already. -/
def refusedResult (destination : String) (directory : CacheDirectory) (error : String) :
    Except String Unit :=
  if isFile directory destination then .ok ()
  else .error ("publish dev-gate cache record: " ++ error)

/-- Publish a record under its key. -/
def storeDevGateCache (faults : FaultPlan) (process : PublishingProcess)
    (record : AspRustDevGateCacheRecord) (directory : CacheDirectory) :
    CacheDirectory × Except String Unit :=
  publishFile faults recordStageTexts process.temporary (cachePath record.cacheKey)
    (host.recordCodec.encode record) (refusedResult (cachePath record.cacheKey)) directory

end Host

/-! ## A package with a manifest and nothing else

The gate of such a package passes, with an empty report and an empty plan.  What
it serializes and hashes on the way is given in full, for two gate labels, so
that the results about the cache can be tried on it.  There is also the report
of a package in `/` whose manifest has come to stand next to an empty library. -/

/-- The manifest of a package. -/
def bareManifest (name : String) : List UInt8 :=
  piecesBytes ["[package]\nname = \"", name, "\"\nversion = \"0.1.0\"\nedition = \"2024\"\n"]

/-- The digest of the manifest of `p`. -/
def bareManifestDigest : String :=
  "sha256:7eb3b5bc4d800e1ad3ce595acac8995204fd235716c73106d436552d266eca98"

/-- The digest of the manifest of `q`, which has the same length. -/
def otherManifestDigest : String :=
  "sha256:b2a8623c1398fecb3fef83cc9ebc922f01b7df5b02defea394174b711a3801f4"

/-- The file list of the package. -/
def bareFiles (manifestDigest : String) : List AspRustDevGateSnapshotFile :=
  [⟨[.normal "Cargo.toml"], 56, manifestDigest⟩]

/-- The file list of a package with a manifest only, by the length and the digest of the
manifest. -/
def manifestFilesJson (byteCount manifestDigest : String) : List String :=
  ["[\x7b\"path\":\"Cargo.toml\",\"byteCount\":", byteCount, ",\"contentDigest\":\"", manifestDigest,
    "\"\x7d]"]

def bareFilesJson (manifestDigest : String) : List String := manifestFilesJson "56" manifestDigest

/-- The snapshot of `p`. -/
def bareSnapshot : AspRustDevGateSnapshot where
  digest := "sha256:eb509a3294804e65b7abeb649b09bdc4db18f0acc7fbaf229c2bd1baaf47a310"
  fileCount := 1
  byteCount := 56
  files := bareFiles bareManifestDigest

/-- The digest index of `p`, when its manifest was written one nanosecond after
the epoch. -/
def bareIndex : AspRustSnapshotDigestIndex where
  schemaId := snapshotDigestIndexSchemaId
  schemaVersion := snapshotDigestIndexSchemaVersion
  files := (∅ : OrderedMap Path AspRustSnapshotDigestIndexFile).insert [.normal "Cargo.toml"]
    ⟨56, 1, bareManifestDigest⟩

def manifestIndexJson (byteCount manifestDigest : String) : List String :=
  ["\x7b\"schemaId\":\"", snapshotDigestIndexSchemaId, "\",\"schemaVersion\":\"1\",\"files\":\x7b",
    "\"Cargo.toml\":\x7b\"byteCount\":", byteCount, ",\"modifiedNanosSinceEpoch\":1,",
    "\"contentDigest\":\"", manifestDigest, "\"\x7d\x7d\x7d"]

def bareIndexJson : List String := manifestIndexJson "56" bareManifestDigest

/-- The authority of a gate that is given none. -/
def legacyAuthorityDigest : String := "blake3-256:legacy-unbound-policy-authority"

/-- The provider digest of one build of the harness. -/
def sampleProviderDigest : String :=
  "blake3-256:0000000000000000000000000000000000000000000000000000000000000000"

/-- The key material of `p`. -/
def bareKeyMaterial : AspRustDevGateCacheKey where
  schemaId := aspRustDevGateCacheSchemaId
  schemaVersion := aspRustDevGateCacheSchemaVersion
  harnessVersion := "0.1.2"
  harnessProviderDigest := sampleProviderDigest
  policyAuthorityDigest := legacyAuthorityDigest
  scope := "package"
  config := {}
  dependencyBaselineReceipts := []
  contentSnapshotDigest := bareSnapshot.digest

/-- The key material of a package without configuration, by the authority and the digest of
the snapshot. -/
def keyJson (policyAuthorityDigest snapshotDigest : String) : List String :=
  ["\x7b\"schemaId\":\"", aspRustDevGateCacheSchemaId,
    "\",\"schemaVersion\":\"1\",\"harnessVersion\":\"0.1.2\",\"harnessProviderDigest\":\"",
    sampleProviderDigest, "\",\"policyAuthorityDigest\":\"", policyAuthorityDigest,
    "\",\"scope\":\"package\",\"config\":\x7b\"ignored_dir_names\":[",
    "\".cache\",\".direnv\",\".git\",\".idea\",\".jj\",\".run\",\".vscode\",",
    "\"node_modules\",\"target\"],\"include_hidden_dir_names\":[],",
    "\"blocking_severities\":[\"warning\",\"error\"],\"disabled_rules\":[],",
    "\"rule_severity_overrides\":\x7b\x7d,\"include_tests\":true,",
    "\"source_dir_names\":[\"src\"],\"test_dir_names\":[\"tests\"]\x7d,",
    "\"dependencyBaselineReceipts\":[],\"contentSnapshotDigest\":\"", snapshotDigest, "\"\x7d"]

def bareKeyJson : List String := keyJson legacyAuthorityDigest bareSnapshot.digest

/-- The report of `p`. -/
def bareReport : AspRustReport where
  modules := []
  findings := []
  invariantCandidates := []
  rootPaths := [[.normal "p"]]
  blockingSeverities := OrderedSet.ofList [.warning, .error]
  projectResolution := some ⟨[.normal "p"], [], [], [], [[.normal "p"]]⟩
  workspaceMemberScopes := []

/-- The verification plan of `p`. -/
def barePlan : RustVerificationPlan := ⟨[.normal "p"], [], [], []⟩

/-- The policy of `p`: a label, and defaults. -/
def barePolicy (gateLabel : String) : AspRustDownstreamPolicy := { gateLabel, config := {} }

/-- The receipt of the policy of `p`. -/
def bareReceipt (gateLabel : String) : AspRustDownstreamPolicyReceipt :=
  downstreamPolicyReceiptFromPlan (barePolicy gateLabel) barePlan

def barePayload (gateLabel : String) : AspRustDevGateCachePayload :=
  ⟨bareReport, barePlan, bareReceipt gateLabel, []⟩

/-- The report of the package in `/` with an empty `src/lib.rs`. -/
def libraryReport : AspRustReport where
  modules := [⟨[.normal "src", .normal "lib.rs"], true, none⟩]
  findings := []
  invariantCandidates := []
  rootPaths := [[.normal "src"]]
  blockingSeverities := OrderedSet.ofList [.warning, .error]
  projectResolution := some ⟨[], [[.normal "src"]], [], [], [[]]⟩
  workspaceMemberScopes := []

/-- The verification plan of the package in `/`. -/
def libraryPlan : RustVerificationPlan := ⟨[], [], [], []⟩

def libraryPayload : AspRustDevGateCachePayload :=
  ⟨libraryReport, libraryPlan, bareReceipt "p", []⟩

/-- The report and the plan of a package with a manifest only, by its root. -/
def manifestReportJson (root : String) : List String :=
  ["\"report\":\x7b\"modules\":[],\"findings\":[],\"root_paths\":[\"", root, "\"],",
    "\"blocking_severities\":[\"warning\",\"error\"],",
    "\"project_resolution\":\x7b\"project_root\":\"", root, "\",\"source_paths\":[],",
    "\"test_paths\":[],\"package_paths\":[],\"fallback_paths\":[\"", root, "\"]\x7d\x7d,",
    "\"verificationPlan\":\x7b\"project_root\":\"", root, "\",\"tasks\":[]\x7d,"]

/-- The report and the plan of `p` in a record. -/
def bareReportJson : List String := manifestReportJson "/p"

def libraryReportJson : List String :=
  ["\"report\":\x7b\"modules\":[\x7b\"path\":\"/src/lib.rs\",\"is_valid\":true,",
    "\"parse_error\":null\x7d],\"findings\":[],\"root_paths\":[\"/src\"],",
    "\"blocking_severities\":[\"warning\",\"error\"],",
    "\"project_resolution\":\x7b\"project_root\":\"/\",\"source_paths\":[\"/src\"],",
    "\"test_paths\":[],\"package_paths\":[],\"fallback_paths\":[\"/\"]\x7d\x7d,",
    "\"verificationPlan\":\x7b\"project_root\":\"/\",\"tasks\":[]\x7d,"]

/-- The part of a record that its payload digest covers, between braces. -/
def payloadFieldsJson (reportJson : List String) (gateLabel : String) : List String :=
  reportJson ++
    ["\"downstreamPolicyReceipt\":\x7b\"schema_id\":\"asp-rust.downstream-policy-receipt\",",
      "\"schema_version\":\"1\",\"gate_label\":\"", gateLabel,
      "\",\"dependency_baseline_packages\":[],",
      "\"active_verification_task_count\":0,\"performance_task_count\":0,",
      "\"stability_task_count\":0,\"performance_report_obligation\":false,",
      "\"stability_report_obligation\":false,\"report_obligations\":[]\x7d,",
      "\"dependencyBaselineReceipts\":[]"]

def payloadJson (reportJson : List String) (gateLabel : String) : List String :=
  "\x7b" :: payloadFieldsJson reportJson gateLabel ++ ["\x7d"]

def barePayloadJson (gateLabel : String) : List String := payloadJson bareReportJson gateLabel

/-- The contents that are hashed, with their digests. -/
def bareDigests : List (List UInt8 × List UInt8) :=
  [(bareManifest "p",
      [0x7e, 0xb3, 0xb5, 0xbc, 0x4d, 0x80, 0x0e, 0x1a, 0xd3, 0xce, 0x59, 0x5a, 0xca, 0xc8, 0x99, 0x52,
       0x04, 0xfd, 0x23, 0x57, 0x16, 0xc7, 0x31, 0x06, 0xd4, 0x36, 0x55, 0x2d, 0x26, 0x6e, 0xca, 0x98]),
    (bareManifest "q",
      [0xb2, 0xa8, 0x62, 0x3c, 0x13, 0x98, 0xfe, 0xcb, 0x3f, 0xef, 0x83, 0xcc, 0x9e, 0xbc, 0x92, 0x2f,
       0x01, 0xb7, 0xdf, 0x5b, 0x02, 0xde, 0xfe, 0xa3, 0x94, 0x17, 0x4b, 0x71, 0x1a, 0x38, 0x01, 0xf4]),
    (piecesBytes (bareFilesJson bareManifestDigest),
      [0xeb, 0x50, 0x9a, 0x32, 0x94, 0x80, 0x4e, 0x65, 0xb7, 0xab, 0xeb, 0x64, 0x9b, 0x09, 0xbd, 0xc4,
       0xdb, 0x18, 0xf0, 0xac, 0xc7, 0xfb, 0xaf, 0x22, 0x9c, 0x2b, 0xd1, 0xba, 0xaf, 0x47, 0xa3, 0x10]),
    (piecesBytes (bareFilesJson otherManifestDigest),
      [0x8d, 0x5c, 0x9b, 0x02, 0x02, 0xdb, 0x0e, 0x0f, 0x94, 0x4c, 0x31, 0xd4, 0x31, 0x4c, 0xf9, 0x4f,
       0x9a, 0xad, 0x24, 0x2c, 0x13, 0x8b, 0x7f, 0x88, 0xd8, 0xa2, 0x60, 0x69, 0xab, 0x7b, 0xb2, 0xdf]),
    (piecesBytes bareKeyJson,
      [0x40, 0x99, 0x81, 0xba, 0x96, 0xaa, 0x81, 0x92, 0xc0, 0x8f, 0x39, 0xd7, 0xd3, 0xc4, 0x57, 0x9e,
       0x50, 0xaa, 0x54, 0xf8, 0x7d, 0xd7, 0x80, 0x3e, 0x1a, 0x95, 0xb0, 0xa0, 0xf6, 0xc3, 0x10, 0xd5]),
    (piecesBytes (barePayloadJson "p"),
      [0xee, 0x76, 0x54, 0x87, 0x19, 0xbd, 0x82, 0x12, 0xc9, 0x2d, 0x62, 0x9c, 0xeb, 0x1c, 0x69, 0x45,
       0xa0, 0x18, 0x85, 0x51, 0xdd, 0x77, 0xfd, 0xde, 0x93, 0x3a, 0x57, 0x01, 0x3c, 0x4c, 0xc4, 0x5f]),
    (piecesBytes (barePayloadJson "q"),
      [0x5f, 0xeb, 0x20, 0x71, 0x9d, 0xd9, 0x14, 0x36, 0x88, 0x98, 0x7f, 0xcd, 0x4a, 0x72, 0x4f, 0xd9,
       0x13, 0x68, 0x6e, 0xa2, 0x22, 0xc3, 0x46, 0x92, 0xb0, 0x11, 0x42, 0x70, 0x61, 0x1d, 0x18, 0xee]),
    (piecesBytes (payloadJson libraryReportJson "p"),
      [0xeb, 0x57, 0x2a, 0x6f, 0x1c, 0xf0, 0xa0, 0x56, 0xc6, 0x70, 0x81, 0x65, 0x19, 0x89, 0x15, 0xce,
       0xc0, 0x43, 0x3a, 0xd5, 0x84, 0x5e, 0xf8, 0x59, 0xc4, 0x19, 0x0f, 0xaf, 0xfb, 0x0e, 0xbf, 0x2c])]

/-- The record of `p` under a gate label. -/
def bareRecord (gateLabel payloadDigest : String) : AspRustDevGateCacheRecord where
  schemaId := aspRustDevGateCacheSchemaId
  schemaVersion := aspRustDevGateCacheSchemaVersion
  cacheKey := "sha256:409981ba96aa8192c08f39d7d3c4579e50aa54f87dd7803e1a95b0a0f6c310d5"
  snapshot := bareSnapshot
  payloadDigest := payloadDigest
  report := bareReport
  verificationPlan := barePlan
  downstreamPolicyReceipt := bareReceipt gateLabel
  dependencyBaselineReceipts := []

/-- The record of the package in `/`: the snapshot is that of the manifest. -/
def libraryRecord (payloadDigest : String) : AspRustDevGateCacheRecord :=
  { bareRecord "p" payloadDigest with
    report := libraryReport
    verificationPlan := libraryPlan }

/-- A record of a package with a manifest only. -/
def manifestRecordJson (cacheKey snapshotDigest byteCount manifestDigest : String)
    (reportJson : List String) (gateLabel payloadDigest : String) : List String :=
  ["\x7b\"schemaId\":\"", aspRustDevGateCacheSchemaId, "\",\"schemaVersion\":\"1\",\"cacheKey\":\"",
    cacheKey, "\",\"snapshot\":\x7b\"digest\":\"", snapshotDigest,
    "\",\"fileCount\":1,\"byteCount\":", byteCount, ",\"files\":"] ++
    manifestFilesJson byteCount manifestDigest ++
    ["\x7d,\"payloadDigest\":\"", payloadDigest, "\","] ++
    payloadFieldsJson reportJson gateLabel ++ ["\x7d"]

def recordJson (reportJson : List String) (gateLabel payloadDigest : String) : List String :=
  manifestRecordJson "sha256:409981ba96aa8192c08f39d7d3c4579e50aa54f87dd7803e1a95b0a0f6c310d5"
    bareSnapshot.digest "56" bareManifestDigest reportJson gateLabel payloadDigest

def bareRecordJson (gateLabel payloadDigest : String) : List String :=
  recordJson bareReportJson gateLabel payloadDigest

/-- The payload digests under the labels `p` and `q`. -/
def barePayloadDigest : String :=
  "sha256:ee76548719bd8212c92d629ceb1c6945a0188551dd77fdde933a57013c4cc45f"

def otherPayloadDigest : String :=
  "sha256:5feb20719dd9143688987fcd4a724fd913686ea222c34692b0114270611d18ee"

def libraryPayloadDigest : String :=
  "sha256:eb572a6f1cf0a056c6708165198915cec0433ad5845ef859c4190faffb0ebf2c"

/-- The table has a row for each content, and the digests in it differ. -/
theorem bareDigests_rows :
    (bareDigests.map Prod.snd).Nodup ∧ (∀ row ∈ bareDigests, row.2.length = 32) ∧
      (bareDigests.map Prod.fst).Nodup := by
  decide +kernel

/-- SHA-256 on the contents that are hashed for `p` and `q`. -/
def bareSha256 : Sha256 := .ofContents bareDigests bareDigests_rows.1 bareDigests_rows.2.1

theorem contentDigest_bare (i : Fin 8) :
    contentDigest bareSha256 (bareDigests.get i).1 =
      taggedDigest ((bareDigests.get i).2.flatMap hexByte) :=
  contentDigest_ofContents bareDigests_rows.1 bareDigests_rows.2.1 bareDigests_rows.2.2
    (List.get_mem bareDigests i)

/-- The digests of the key and of the three payloads, as they are written. -/
theorem taggedDigest_bare :
    taggedDigest ((bareDigests.get (4 : Fin 8)).2.flatMap hexByte) =
        (bareRecord "p" barePayloadDigest).cacheKey ∧
      taggedDigest ((bareDigests.get (5 : Fin 8)).2.flatMap hexByte) = barePayloadDigest ∧
      taggedDigest ((bareDigests.get (6 : Fin 8)).2.flatMap hexByte) = otherPayloadDigest ∧
      taggedDigest ((bareDigests.get (7 : Fin 8)).2.flatMap hexByte) = libraryPayloadDigest := by
  decide +kernel

/-- The manifest a reader makes of the package: the library target is there when
its file is. -/
def bareManifestOf (fs : FileSystem) (root : Path) (name : String) : Manifest where
  package := some ⟨name, "2024"⟩
  lib :=
    if fs.isFile (Path.join root "src/lib.rs") then
      some { name := some name, path := some "src/lib.rs" }
    else none

/-- Reading the manifests of `p` and `q`. -/
def bareManifestReader : ManifestReader := fun fs path =>
  match fs.read path with
  | none => .error "No such file or directory (os error 2)"
  | some content =>
      if content = bareManifest "p" then .ok (bareManifestOf fs path.dropLast "p")
      else if content = bareManifest "q" then .ok (bareManifestOf fs path.dropLast "q")
      else .error "TOML parse error"

def bareFilesTable : List (List AspRustDevGateSnapshotFile × List UInt8) :=
  [(bareFiles bareManifestDigest, piecesBytes (bareFilesJson bareManifestDigest)),
    (bareFiles otherManifestDigest, piecesBytes (bareFilesJson otherManifestDigest))]

def bareRecordTable : List (AspRustDevGateCacheRecord × List UInt8) :=
  [(bareRecord "p" barePayloadDigest, piecesBytes (bareRecordJson "p" barePayloadDigest)),
    (bareRecord "q" otherPayloadDigest, piecesBytes (bareRecordJson "q" otherPayloadDigest)),
    (libraryRecord libraryPayloadDigest,
      piecesBytes (recordJson libraryReportJson "p" libraryPayloadDigest))]

def barePayloadTable : List (AspRustDevGateCachePayload × List UInt8) :=
  [(barePayload "p", piecesBytes (barePayloadJson "p")),
    (barePayload "q", piecesBytes (barePayloadJson "q")),
    (libraryPayload, piecesBytes (payloadJson libraryReportJson "p"))]

/-- The host of the gates of `p` and `q`. -/
def bareHost : CacheHost where
  manifestFromPath := bareManifestReader
  sha256 := bareSha256
  filesEncoder := .ofTable bareFilesTable (by decide +kernel)
  indexCodec := (Codec.ofTable [(bareIndex, piecesBytes bareIndexJson)] (by simp)).lossy
  recordCodec := .ofTable bareRecordTable (by decide +kernel)
  keyEncoder := .ofTable [(bareKeyMaterial, piecesBytes bareKeyJson)] (by simp)
  payloadEncoder := tableEncode barePayloadTable
  harnessVersion := "0.1.2"
  harnessProviderDigest := sampleProviderDigest

/-- The file system with the package `p`. -/
def bareFileSystem : FileSystem where
  root := .directory [("p", .directory [("Cargo.toml", .file (bareManifest "p") 1)])]
  wellFormed := by decide

/-- The snapshot of `p`, and the index it leaves. -/
theorem computeSnapshot_bare :
    computeSnapshot bareHost.toSnapshotHost bareFileSystem [.normal "p"] {} {} =
      .ok (bareSnapshot, bareIndex) := by
  decide +kernel

/-- The key of `p`. -/
theorem devGateCacheKey_bare :
    devGateCacheKeyWithPolicyDigest bareHost {} .package [] bareSnapshot legacyAuthorityDigest =
      .ok (bareRecord "p" barePayloadDigest).cacheKey := by
  have hmaterial : cacheKeyMaterial bareHost {} .package [] bareSnapshot legacyAuthorityDigest =
      bareKeyMaterial := rfl
  have hencode : bareHost.keyEncoder.encode bareKeyMaterial = .ok (piecesBytes bareKeyJson) :=
    tableEncode_of_mem (by simp) (List.mem_singleton_self (bareKeyMaterial, piecesBytes bareKeyJson))
  have hdigest : contentDigest bareHost.sha256 (piecesBytes bareKeyJson) =
      (bareRecord "p" barePayloadDigest).cacheKey :=
    (contentDigest_bare 4).trans taggedDigest_bare.1
  rw [devGateCacheKeyWithPolicyDigest, hmaterial, hencode, ← hdigest]

/-- The tables have one row for each payload and each record. -/
theorem bareTables_values :
    (barePayloadTable.map Prod.fst).Nodup ∧ (bareRecordTable.map Prod.fst).Nodup := by
  decide +kernel

/-- The record of `p` under the label `p`. -/
theorem devGateCacheRecord_bare :
    devGateCacheRecord bareHost (bareRecord "p" barePayloadDigest).cacheKey bareSnapshot bareReport
      barePlan (bareReceipt "p") [] = .ok (bareRecord "p" barePayloadDigest) := by
  have hencode : bareHost.payloadEncoder (barePayload "p") =
      .ok (piecesBytes (barePayloadJson "p")) :=
    tableEncode_of_mem bareTables_values.1 List.mem_cons_self
  have hdigest : contentDigest bareHost.sha256 (piecesBytes (barePayloadJson "p")) =
      barePayloadDigest := (contentDigest_bare 5).trans taggedDigest_bare.2.1
  rw [devGateCacheRecord, devGateCachePayloadDigest_of_encode bareHost hencode, hdigest]
  rfl

/-- The record of `p` under the label `q`. -/
theorem devGateCacheRecord_other :
    devGateCacheRecord bareHost (bareRecord "q" otherPayloadDigest).cacheKey bareSnapshot
      bareReport barePlan (bareReceipt "q") [] = .ok (bareRecord "q" otherPayloadDigest) := by
  have hencode : bareHost.payloadEncoder (barePayload "q") =
      .ok (piecesBytes (barePayloadJson "q")) :=
    tableEncode_of_mem bareTables_values.1 (List.mem_cons_of_mem _ List.mem_cons_self)
  have hdigest : contentDigest bareHost.sha256 (piecesBytes (barePayloadJson "q")) =
      otherPayloadDigest := (contentDigest_bare 6).trans taggedDigest_bare.2.2.1
  rw [devGateCacheRecord, devGateCachePayloadDigest_of_encode bareHost hencode, hdigest]
  rfl

/-- The record of the package in `/`. -/
theorem devGateCacheRecord_library :
    devGateCacheRecord bareHost (libraryRecord libraryPayloadDigest).cacheKey bareSnapshot
      libraryReport libraryPlan (bareReceipt "p") [] =
        .ok (libraryRecord libraryPayloadDigest) := by
  have hencode : bareHost.payloadEncoder libraryPayload =
      .ok (piecesBytes (payloadJson libraryReportJson "p")) :=
    tableEncode_of_mem bareTables_values.1
      (List.mem_cons_of_mem _ (List.mem_cons_of_mem _ List.mem_cons_self))
  have hdigest : contentDigest bareHost.sha256 (piecesBytes (payloadJson libraryReportJson "p")) =
      libraryPayloadDigest := (contentDigest_bare 7).trans taggedDigest_bare.2.2.2
  rw [devGateCacheRecord, devGateCachePayloadDigest_of_encode bareHost hencode, hdigest]
  rfl

theorem recordCodec_encode_bare :
    bareHost.recordCodec.encode (bareRecord "p" barePayloadDigest) =
      .ok (piecesBytes (bareRecordJson "p" barePayloadDigest)) :=
  tableEncode_of_mem bareTables_values.2 List.mem_cons_self

end AspRust.DevGate
