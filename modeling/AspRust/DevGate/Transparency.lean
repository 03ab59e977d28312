import AspRust.DevGate.GateHistory

/-!
# Is the cache transparent?

A gate run with a cache is meant to end as it would without one.  A record is
taken over when the keys are equal, and the key is a digest of less than the run
depends on: the gate label is not in it, the baseline packages are in it in a
canonical order, and the files are in it by the snapshot only.  The run with a
record compares the label and the order of the baseline, and panics where they
differ; what the snapshot does not cover it does not compare.

`cache_transparent` says that nothing else stands in the way: after any history
of runs on a project, the outcome is that of the run with an empty cache when
the run whose record is found had the same label and the same order of baseline
packages, and the two states agree on what the snapshot leaves open
(`Compatible`).

### Design notes

**Which earlier run.**  A history may hold many runs with the key inputs of the present
one, and the directory keeps one record for all of them.  `FindsCompatible` asks for a
compatible run behind the record that is found, and of the other runs nothing.  A run
that finds no record is transparent whatever the history is.

**Outcomes with their texts.**  The two runs are compared in the whole outcome: the
report, the error, or the panic with its text.  The checks that a run with a record and
a run without one make are the same ones in the same order (`gateChecks`), which is why
a plan that is rejected is rejected with one text either way.

**The root.**  A snapshot does not say where the package is, and the rules look at paths.
So the runs of the history are runs of one project root; that two projects in one
directory disturb each other is the subject of `Isolation`.
-/

namespace AspRust.DevGate

open AspRust.Foundation AspRust.Discovery AspRust.Verification AspRust.Analysis

/-! ## The checks that both ways share

Both kinds of run end with the same checks of the plan and of the policy, on the report
that they computed or took over. -/

section Checks

variable {host : GateHost} {request : GateRequest} {fs : FileSystem}

/-- The checks a verdict has to pass, with or without a record. -/
def gateChecks (host : GateHost) (request : GateRequest) (fs : FileSystem)
    (report : AspRustReport) (plan : RustVerificationPlan) : Outcome Unit := do
  assertBuildReportCleanWithAgentGuidance host request report
  assertAspRustVerificationPlan plan request.config.verificationPolicy request.gateLabel
  assertRequestBaseline host request fs

/-- A record that agrees with the policy is judged by the checks alone. -/
theorem answerFromRecord_of_agreement {record : AspRustDevGateCacheRecord}
    (hreceipt : record.downstreamPolicyReceipt =
      downstreamPolicyReceiptFromPlan request.policy record.verificationPlan)
    (hbaseline : record.dependencyBaselineReceipts = request.baselineReceipts) :
    answerFromRecord host request fs record =
      (gateChecks host request fs record.report record.verificationPlan).map
        fun _ => record.report := by
  unfold answerFromRecord gateChecks
  rw [if_neg (not_not.mpr hreceipt), if_neg (not_not.mpr hbaseline)]
  cases assertBuildReportCleanWithAgentGuidance host request record.report with
  | error fault => rfl
  | ok _ =>
      cases assertAspRustVerificationPlan record.verificationPlan
          request.config.verificationPolicy request.gateLabel with
      | error fault => rfl
      | ok _ =>
          cases assertRequestBaseline host request fs with
          | error fault => rfl
          | ok _ => rfl

/-- The package is judged by its verdict and the checks. -/
theorem evaluatePackage_of_verdict {report : AspRustReport} {plan : RustVerificationPlan}
    (hverdict : requestVerdict host request fs = .ok (report, plan)) :
    evaluatePackage host request fs =
      (gateChecks host request fs report plan).map fun _ => (report, plan) := by
  unfold evaluatePackage gateChecks
  rw [hverdict]
  dsimp only
  cases assertBuildReportCleanWithAgentGuidance host request report with
  | error fault => rfl
  | ok _ =>
      cases assertAspRustVerificationPlan plan request.config.verificationPolicy
          request.gateLabel with
      | error fault => rfl
      | ok _ =>
          cases assertRequestBaseline host request fs with
          | error fault => rfl
          | ok _ => rfl

theorem verdict_of_evaluatePackage {verdict : AspRustReport × RustVerificationPlan}
    (h : evaluatePackage host request fs = .ok verdict) :
    requestVerdict host request fs = .ok verdict := by
  cases hverdict : requestVerdict host request fs with
  | error error =>
      unfold evaluatePackage at h
      rw [hverdict] at h
      cases h
  | ok found =>
      rw [evaluatePackage_of_verdict hverdict] at h
      obtain ⟨-, -, rfl⟩ := Except.map_eq_ok.mp h
      rfl

end Checks

/-! ## What a key says of a run

Equal keys mean equal inputs of the key, since the key is a digest of their texts.  What
else the run with a record compares, and what it does not, is `Compatible`. -/

/-- Two runs that are told the same, as far as their keys go: the configuration,
the authority, the baseline packages up to their order, and the snapshot. -/
structure SameKeyInputs (host : GateHost) (earlier now : GateRun) : Prop where
  config : earlier.request.config = now.request.config
  authority : earlier.request.policyAuthorityDigest = now.request.policyAuthorityDigest
  baseline : sortedReceipts earlier.request.baselineReceipts =
    sortedReceipts now.request.baselineReceipts
  snapshot : ∃ snapshot, earlier.snapshot host = .ok snapshot ∧ now.snapshot host = .ok snapshot

/-- What a run takes from the record of an earlier one is right for it: the label
and the baseline packages are the same, in their order, and so is what the snapshot
leaves open. -/
structure Compatible (host : GateHost) (earlier now : GateRun) : Prop where
  gateLabel : earlier.request.gateLabel = now.request.gateLabel
  baseline : earlier.request.baselineReceipts = now.request.baselineReceipts
  uncovered : ∀ snapshot, earlier.snapshot host = .ok snapshot →
    SameUncovered host.manifestFromPath host.analysisHost.nativeSyntax earlier.fs now.fs
      now.request.projectRoot now.request.config snapshot

/-- A run is compatible with itself. -/
theorem Compatible.refl {host : GateHost} (run : GateRun) : Compatible host run run :=
  ⟨rfl, rfl, fun snapshot _ => SameUncovered.refl snapshot⟩

/-- The record that a run finds: that of its key. -/
def foundRecord? (host : GateHost) (directory : CacheDirectory) (now : GateRun) :
    Option AspRustDevGateCacheRecord :=
  (now.snapshot host).toOption.bind fun snapshot =>
    (requestCacheKey host now.request snapshot).toOption.bind
      (loadDevGateCache host.toCacheHost directory)

/-- What a run finds is the record of an earlier run that is compatible with it.  Of the
other earlier runs nothing is asked. -/
def FindsCompatible (host : GateHost) (log : List GateRun) (directory : CacheDirectory)
    (now : GateRun) : Prop :=
  ∀ record, foundRecord? host directory now = some record →
    ∃ earlier ∈ log, StoredBy host earlier record ∧ Compatible host earlier now

section Keys

variable {host : GateHost} {earlier now : GateRun} {record : AspRustDevGateCacheRecord}

/-- **Equal keys, equal inputs.**  A run whose key is that of a stored record is
told what the run was told that stored it. -/
theorem sameKeyInputs_of_key (hstored : StoredBy host earlier record)
    {snapshot : AspRustDevGateSnapshot} (hsnapshot : now.snapshot host = .ok snapshot)
    (hkey : requestCacheKey host now.request snapshot = .ok record.cacheKey) :
    SameKeyInputs host earlier now ∧ snapshot = record.snapshot := by
  obtain ⟨bytes, hbytes, hdigest⟩ := exists_of_requestCacheKey hstored.key
  obtain ⟨nowBytes, hnowBytes, hnowDigest⟩ := exists_of_requestCacheKey hkey
  obtain rfl := contentDigest_injective _ (hdigest.symm.trans hnowDigest)
  have hmaterial := host.keyEncoder.injective hbytes hnowBytes
  have hsame : record.snapshot = snapshot :=
    snapshot_eq_of_digest_eq hstored.snapshot hsnapshot
      (congrArg AspRustDevGateCacheKey.contentSnapshotDigest hmaterial)
  refine ⟨⟨congrArg AspRustDevGateCacheKey.config hmaterial,
    congrArg AspRustDevGateCacheKey.policyAuthorityDigest hmaterial,
    congrArg AspRustDevGateCacheKey.dependencyBaselineReceipts hmaterial,
    snapshot, ?_, hsnapshot⟩, hsame.symm⟩
  rw [← hsame]
  exact hstored.snapshot

/-- The receipt of a policy depends on its label and its baseline packages. -/
theorem receiptFromPlan_congr {policy other : AspRustDownstreamPolicy}
    (hlabel : policy.gateLabel = other.gateLabel)
    (hbaseline : dependencyBaselinePackageReceipts policy =
      dependencyBaselinePackageReceipts other) (plan : RustVerificationPlan) :
    downstreamPolicyReceiptFromPlan policy plan = downstreamPolicyReceiptFromPlan other plan := by
  unfold downstreamPolicyReceiptFromPlan
  rw [hlabel, hbaseline]

/-- A compatible run builds the record of the earlier one. -/
theorem requestRecord_of_compatible (hstored : StoredBy host earlier record)
    (hcompatible : Compatible host earlier now) :
    requestRecord host now.request record.snapshot record.cacheKey
      (record.report, record.verificationPlan) = .ok record := by
  have hbuilt := hstored.built
  unfold requestRecord at hbuilt ⊢
  rwa [← hcompatible.baseline,
    ← receiptFromPlan_congr hcompatible.gateLabel hcompatible.baseline]

/-- A compatible run finds the verdict of the earlier one. -/
theorem requestVerdict_of_compatible (hstored : StoredBy host earlier record)
    (hinputs : SameKeyInputs host earlier now)
    (hroot : earlier.request.projectRoot = now.request.projectRoot)
    (hcompatible : Compatible host earlier now) :
    requestVerdict host now.request now.fs = .ok (record.report, record.verificationPlan) := by
  obtain ⟨snapshot, hearlier, hnow⟩ := hinputs.snapshot
  have hverdict := verdict_of_evaluatePackage hstored.verdict
  have huncovered := hcompatible.uncovered snapshot hearlier
  unfold GateRun.snapshot at hearlier hnow
  unfold requestVerdict at hverdict ⊢
  rw [hroot, hinputs.config] at hearlier hverdict
  exact packageVerdict_of_consulted (huncovered.sameConsulted hearlier hnow rfl)
    (pathExists_of_snapshot hnow) hverdict

end Keys

/-! ## Transparency

A run that finds a record of a compatible run answers with its report, which is the
report of now; a run that finds none is the run with an empty cache. -/

section Transparency

variable {host : GateHost} {log : List GateRun} {directory : CacheDirectory}

/-- What a run that finds no record ends with does not depend on the cache. -/
theorem coldRun_outcome (run : GateRun) (snapshot : AspRustDevGateSnapshot) (cacheKey : String)
    (directory other : CacheDirectory) :
    (coldRun host run snapshot cacheKey directory).2 =
      (coldRun host run snapshot cacheKey other).2 := by
  unfold coldRun
  cases evaluatePackage host run.request run.fs with
  | error fault => rfl
  | ok verdict =>
      dsimp only
      cases requestRecord host run.request snapshot cacheKey verdict with
      | error error => rfl
      | ok record =>
          dsimp only
          cases host.recordCodec.encode record with
          | error error => rfl
          | ok bytes => rfl

/-- The record of a compatible run gives the outcome of the run that has to
evaluate the package and store the record. -/
theorem answerFromRecord_of_compatible {earlier now : GateRun}
    {record : AspRustDevGateCacheRecord} (hstored : StoredBy host earlier record)
    (hinputs : SameKeyInputs host earlier now)
    (hroot : earlier.request.projectRoot = now.request.projectRoot)
    (hcompatible : Compatible host earlier now) (directory : CacheDirectory) :
    answerFromRecord host now.request now.fs record =
      (coldRun host now record.snapshot record.cacheKey directory).2 := by
  have hbuilt := requestRecord_of_compatible hstored hcompatible
  obtain ⟨-, -, -, hreceipt, hbaseline⟩ := fields_of_requestRecord hbuilt
  obtain ⟨bytes, hbytes⟩ := hstored.encoded
  rw [answerFromRecord_of_agreement hreceipt hbaseline, coldRun, evaluatePackage_of_verdict
    (requestVerdict_of_compatible hstored hinputs hroot hcompatible)]
  cases gateChecks host now.request now.fs record.report record.verificationPlan with
  | error fault => rfl
  | ok _ =>
      dsimp only [Except.map]
      rw [hbuilt]
      dsimp only
      rw [hbytes]
      rfl

/-- Where all runs that were told the same are compatible, so is the one whose record is
found. -/
theorem findsCompatible_of_sameKeyInputs {now : GateRun}
    (hinvariant : CacheInvariant host log directory)
    (h : ∀ earlier ∈ log, SameKeyInputs host earlier now → Compatible host earlier now) :
    FindsCompatible host log directory now := by
  intro record hrecord
  obtain ⟨snapshot, hsnapshot, hrecord⟩ := Option.bind_eq_some_iff.mp hrecord
  obtain ⟨cacheKey, hkey, hload⟩ := Option.bind_eq_some_iff.mp hrecord
  rw [Except.toOption_eq_some_iff] at hsnapshot hkey
  obtain ⟨keyBytes, -, rfl⟩ := exists_of_requestCacheKey hkey
  obtain ⟨earlier, hearlier, hstored⟩ := hinvariant.records keyBytes record hload
  rw [← cacheKey_of_load hload] at hkey
  exact ⟨earlier, hearlier, hstored, h earlier hearlier (sameKeyInputs_of_key hstored hsnapshot hkey).1⟩

/-- The run that finds no record, or that of a compatible run, ends as it does with an empty
cache. -/
theorem tidyRun_outcome {now : GateRun}
    (hroot : ∀ earlier ∈ log, earlier.request.projectRoot = now.request.projectRoot)
    (hfound : FindsCompatible host log directory now) :
    (tidyRun host now directory).2 = (tidyRun host now fun _ => none).2 := by
  unfold tidyRun
  cases hcompute : computeSnapshot host.toSnapshotHost now.fs now.request.projectRoot
      now.request.config {} with
  | error error => rfl
  | ok computed =>
      obtain ⟨snapshot, nextIndex⟩ := computed
      have hsnapshot : now.snapshot host = .ok snapshot :=
        snapshotDevGateInputs_eq_ok.mpr ⟨nextIndex, hcompute⟩
      dsimp only
      cases host.indexCodec.encode nextIndex with
      | error error => rfl
      | ok bytes =>
          dsimp only
          cases hkey : requestCacheKey host now.request snapshot with
          | error fault => rfl
          | ok cacheKey =>
              dsimp only
              rw [show loadDevGateCache host.toCacheHost (fun _ => none) cacheKey = none from rfl]
              cases hload : loadDevGateCache host.toCacheHost directory cacheKey with
              | none => exact coldRun_outcome now snapshot cacheKey _ _
              | some record =>
                  -- the record is that of a compatible run, which was told the same
                  obtain ⟨earlier, hearlier, hstored, hcompatible⟩ := hfound record (by
                    rw [foundRecord?, hsnapshot]
                    show (requestCacheKey host now.request snapshot).toOption.bind _ = _
                    rw [hkey]
                    exact hload)
                  obtain ⟨keyBytes, -, rfl⟩ := exists_of_requestCacheKey hkey
                  have hrecordKey := cacheKey_of_load hload
                  rw [← hrecordKey] at hkey ⊢
                  obtain ⟨hinputs, rfl⟩ := sameKeyInputs_of_key hstored hsnapshot hkey
                  exact answerFromRecord_of_compatible hstored hinputs (hroot earlier hearlier)
                    hcompatible _

/-- **Cache transparency.**  After any history of runs on a project, in which length and
time determine the content of a path, a run ends as it does with an empty cache, when
the record it finds under its key, if it finds one, is that of a compatible run.

Nothing is asked of the other runs of the history: a record that is not loaded cannot
matter.  The record that is loaded passes the checks of the warm path because the run
that stored it had the same label and baseline, and its report is the report of now
because the two states agree on what the snapshot leaves open. -/
theorem cache_transparent (hhistory : GateHistory host log directory) (now : GateRun)
    (process : PublishingProcess)
    (hroot : ∀ earlier ∈ log, earlier.request.projectRoot = now.request.projectRoot)
    (hunambiguous : Unambiguous host.toSnapshotHost (now.moment :: log.map GateRun.moment))
    (hfound : FindsCompatible host log directory now) :
    (runAspRustDownstreamPolicy host noRunFaults process now.fs now.request
        (some directory)).2 =
      (runAspRustDownstreamPolicy host noRunFaults process now.fs now.request
        (some fun _ => none)).2 := by
  have hinvariant := hhistory.invariant (hunambiguous.mono (List.subset_cons_self _ _))
  rw [runAspRustDownstreamPolicy_of_invariant now process hinvariant hunambiguous,
    runAspRustDownstreamPolicy_of_invariant now process (cacheInvariant_empty host)
      (hunambiguous.mono (by simp))]
  exact tidyRun_outcome hroot hfound

end Transparency

/-! ## The package with a manifest only

Two histories of one small package: a file is added that nothing consults and the run
stays transparent, and the label is changed and it does not. -/

/-- The package `p`, next to some notes. -/
def notedFileSystem : FileSystem where
  root := .directory [("p", .directory [("Cargo.toml", .file (bareManifest "p") 1)]),
    ("notes", .directory [("p.md", .file [] 5)])]
  wellFormed := by decide

/-- A run of `p` after notes were taken is answered from the cache, and ends as it
does without. -/
theorem cache_transparent_noted :
    (runAspRustDownstreamPolicy bareGateHost noRunFaults ⟨1, 2⟩ notedFileSystem
        (bareRequest "p" "p") (some bareCache)).2 =
      (runAspRustDownstreamPolicy bareGateHost noRunFaults ⟨1, 2⟩ notedFileSystem
        (bareRequest "p" "p") (some fun _ => none)).2 := by
  have hunambiguous : Unambiguous bareHost.toSnapshotHost [⟨[.normal "p"], {}, notedFileSystem⟩,
      ⟨[.normal "p"], {}, bareFileSystem⟩] := unambiguous_of_files (by decide +kernel)
  apply cache_transparent gateHistory_bare ⟨notedFileSystem, bareRequest "p" "p"⟩ ⟨1, 2⟩
    (by simp [bareRun]) hunambiguous
  refine findsCompatible_of_sameKeyInputs (gateHistory_bare.invariant
    (hunambiguous.mono (List.subset_cons_self _ _))) fun earlier hearlier _ => ?_
  obtain rfl := List.mem_singleton.mp hearlier
  refine ⟨rfl, rfl, fun snapshot hsnapshot => ?_⟩
  have hbare : (bareRun "p").snapshot bareGateHost = .ok bareSnapshot :=
    snapshotDevGateInputs_eq_ok.mpr ⟨bareIndex, computeSnapshot_bare⟩
  obtain rfl := Except.ok.inj (hbare.symm.trans hsnapshot)
  have huncovered : SameUncovered bareManifestReader bareAnalysisHost.nativeSyntax bareFileSystem
      notedFileSystem [.normal "p"] {} bareSnapshot := by
    decide +kernel
  exact huncovered

/-- **Another label.**  After a run under the label `p`, a run under the label `q`
finds the record, whose receipt carries the label `p`, and panics; with an empty
cache it passes. -/
theorem cache_not_transparent_label :
    GateHistory bareGateHost [bareRun "p"] bareCache ∧
      (runAspRustDownstreamPolicy bareGateHost noRunFaults ⟨1, 0⟩ (bareRun "p").fs
        (bareRun "p").request (some fun _ => none)).2 = .ok bareReport ∧
      (∃ text, (runAspRustDownstreamPolicy bareGateHost noRunFaults ⟨1, 2⟩ (bareRun "q").fs
        (bareRun "q").request (some bareCache)).2 = .error (.panicked text)) ∧
      (runAspRustDownstreamPolicy bareGateHost noRunFaults ⟨1, 2⟩ (bareRun "q").fs
        (bareRun "q").request (some fun _ => none)).2 = .ok bareReport := by
  have hmoments : ∀ gateLabel, Unambiguous bareHost.toSnapshotHost
      ((bareRun gateLabel).moment :: [bareRun "p"].map GateRun.moment) := by
    intro gateLabel
    refine unambiguous_of_eq (bareRun "p").moment fun other hother => ?_
    rcases List.mem_cons.mp hother with rfl | hother
    · rfl
    · exact List.mem_singleton.mp hother
  refine ⟨gateHistory_bare, ?_, ?_, ?_⟩
  · rw [runAspRustDownstreamPolicy_of_invariant (bareRun "p") ⟨1, 0⟩
      (cacheInvariant_empty bareGateHost) (unambiguous_of_eq (bareRun "p").moment (by simp)), tidyRun_bare]
  · rw [runAspRustDownstreamPolicy_of_invariant (bareRun "q") ⟨1, 2⟩
      (gateHistory_bare.invariant (unambiguous_of_eq (bareRun "p").moment (by simp))) (hmoments "q"),
      @tidyRun_of_some bareGateHost bareCache (bareRun "q") bareSnapshot bareIndex
        (piecesBytes bareIndexJson) _ _ computeSnapshot_bare indexCodec_encode_bare
        (requestCacheKey_bare "p" "q") loadDevGateCache_bareCache]
    exact ⟨_, rfl⟩
  · rw [runAspRustDownstreamPolicy_of_invariant (bareRun "q") ⟨1, 2⟩
      (cacheInvariant_empty bareGateHost) (unambiguous_of_eq (bareRun "q").moment (by simp)),
      @tidyRun_of_stored bareGateHost (fun _ => none) (bareRun "q") bareSnapshot bareIndex
        (piecesBytes bareIndexJson) (bareRecord "q" otherPayloadDigest).cacheKey
        (bareRecord "q" otherPayloadDigest) (piecesBytes (bareRecordJson "q" otherPayloadDigest))
        (bareReport, barePlan) computeSnapshot_bare indexCodec_encode_bare
        (requestCacheKey_bare "p" "q") rfl (evaluatePackage_bare "q") devGateCacheRecord_other
        (tableEncode_of_mem bareTables_values.2 (List.mem_cons_of_mem _ List.mem_cons_self))]

end AspRust.DevGate
