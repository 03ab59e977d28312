import AspRust.DevGate.Downstream
import AspRust.DevGate.Integrity
import AspRust.DevGate.Soundness

/-!
# Histories of gate runs

A cache is what the runs before have left in it.  This file says what that can
be.  Without I/O failures a publication in a tidy directory, one without
temporary files, replaces one file (`publishFile_of_free`), so a run replaces the
index and perhaps adds a record (`runAspRustDownstreamPolicy_of_invariant`).

`CacheInvariant` is what holds of a cache after any history of runs, of any
packages, in which length and time determine the content of a path: it is tidy,
its index is faithful, and every record that can be loaded was stored by a run
of the history with the key of the record (`GateHistory.invariant`).

### Design notes

**One run, two stages.**  In a tidy directory with a faithful index a run is `tidyRun`: a
function of the state of the file system and of the records in the directory, in which
neither the index nor a temporary file occurs any more.  `coldRun` is the same run where
no record is found.  What follows about the cache is about these two.

**Where a record comes from.**  `StoredBy` says of a record that it is the one a given
run of the history makes.  It names the run, so that what is known of the state in which
the run was made can be used later; that some record with the right key exists would not
be enough.

**Runs that panic count.**  A history is made of all runs, also of those that ended in a
panic after they had stored a record or an index.
-/

namespace AspRust.DevGate

open AspRust.Foundation AspRust.Discovery AspRust.Verification AspRust.Analysis

/-! ## Names in the cache

The names of records, of the index and of temporary files are different, so writing one
of these files leaves the others alone. -/

/-- The stem of a key is a part of the key. -/
theorem mem_cacheFileStem {cacheKey : String} {c : Char}
    (h : c ∈ (cacheFileStem cacheKey).toList) : c ∈ cacheKey.toList := by
  unfold cacheFileStem at h
  split at h
  · next parts hparts =>
      rw [String.toList_ofList] at h
      exact mem_of_rsplitOnce? hparts h
  · exact h

/-- The file of a digest is not the index file. -/
theorem cachePath_ne_index (sha256 : Sha256) (content : List UInt8) :
    cachePath (contentDigest sha256 content) ≠ snapshotDigestIndexPath := by
  intro h
  have hletter : 'p' ∈ (cacheFileStem (contentDigest sha256 content)).toList ++ ".json".toList := by
    rw [← String.toList_append, ← cachePath, h]
    decide
  have hstem : 'p' ∉ (cacheFileStem (contentDigest sha256 content)).toList :=
    fun hmem => (mem_contentDigest (mem_cacheFileStem hmem)).elim (by decide) (by decide)
  exact (List.mem_append.mp hletter).elim hstem (by decide)

theorem temporary_ne_index (process : PublishingProcess) :
    process.temporary ≠ snapshotDigestIndexPath := by
  intro h
  have htemporary : process.temporary.toList.getLast? = some 'p' := getLast?_append _ _ rfl
  rw [h] at htemporary
  exact absurd htemporary (by decide)

theorem indexTemporary_ne_cachePath (process : PublishingProcess) (cacheKey : String) :
    process.indexTemporary ≠ cachePath cacheKey := by
  intro h
  have htemporary : process.indexTemporary.toList.getLast? = some 'p' := getLast?_append _ _ rfl
  have hdestination : (cachePath cacheKey).toList.getLast? = some 'n' := getLast?_append _ _ rfl
  rw [h, hdestination] at htemporary
  simp at htemporary

/-! ## Tidy directories

In a directory that holds files only, and no temporary ones, a publication without
failures replaces one file. -/

/-- A directory without temporary files, that holds files only. -/
structure Tidy (directory : CacheDirectory) : Prop where
  temporary : ∀ process : PublishingProcess, directory process.temporary = none
  indexTemporary : ∀ process : PublishingProcess, directory process.indexTemporary = none
  files : ∀ name, directory name ≠ some .other

theorem tidy_empty : Tidy fun _ => none := ⟨fun _ => rfl, fun _ => rfl, fun _ => by simp⟩

section Directory

variable {directory : CacheDirectory}

/-- A file under a name that is no temporary one keeps a directory tidy. -/
theorem Tidy.update (h : Tidy directory) {name : String} {bytes : List UInt8}
    (htemporary : ∀ process : PublishingProcess, process.temporary ≠ name)
    (hindex : ∀ process : PublishingProcess, process.indexTemporary ≠ name) :
    Tidy (Function.update directory name (some (.file bytes))) := by
  refine ⟨fun process => ?_, fun process => ?_, fun other => ?_⟩
  · rw [Function.update_of_ne (htemporary process)]
    exact h.temporary process
  · rw [Function.update_of_ne (hindex process)]
    exact h.indexTemporary process
  · by_cases hname : other = name
    · rw [hname, Function.update_self]
      simp
    · rw [Function.update_of_ne hname]
      exact h.files other

/-- An index keeps a directory tidy. -/
theorem Tidy.index (h : Tidy directory) (bytes : List UInt8) :
    Tidy (Function.update directory snapshotDigestIndexPath (some (.file bytes))) :=
  h.update temporary_ne_index indexTemporary_ne_path

/-- A record keeps a directory tidy. -/
theorem Tidy.record (h : Tidy directory) (cacheKey : String) (bytes : List UInt8) :
    Tidy (Function.update directory (cachePath cacheKey) (some (.file bytes))) :=
  h.update (fun process => temporary_ne_cachePath process cacheKey)
    fun process => indexTemporary_ne_cachePath process cacheKey

/-- An index is not read as a record. -/
theorem loadDevGateCache_after_index (host : CacheHost) (bytes : List UInt8)
    (directory : CacheDirectory) (content : List UInt8) :
    loadDevGateCache host (Function.update directory snapshotDigestIndexPath (some (.file bytes)))
        (contentDigest host.sha256 content) =
      loadDevGateCache host directory (contentDigest host.sha256 content) :=
  loadDevGateCache_congr (Function.update_of_ne (cachePath_ne_index _ _) _ _)

/-- **A publication without failures.**  Under a free temporary name, and with no
obstacle at the destination, it fails only when the value has no bytes. -/
theorem publishFile_of_free (texts : StageTexts) {temporary destination : String}
    (hne : temporary ≠ destination) (encoded : Except String (List UInt8))
    (onRefused : CacheDirectory → String → Except String Unit)
    (hfree : directory temporary = none) (hfile : directory destination ≠ some .other) :
    publishFile noFaults texts temporary destination encoded onRefused directory =
      match encoded with
      | .error error => (directory, .error (texts.serialize ++ error))
      | .ok bytes => (Function.update directory destination (some (.file bytes)), .ok ()) := by
  cases encoded with
  | error error => rfl
  | ok bytes =>
      have hstage : stageTemporary noFaults texts temporary (.ok bytes) directory =
          (Function.update directory temporary (some (.file bytes)), .ok ()) := by
        simp [stageTemporary, createNew, writeAndSync, noFaults, hfree]
      have hrename : renameFile noFaults temporary destination
          (Function.update directory temporary (some (.file bytes))) =
            (Function.update directory destination (some (.file bytes)), .ok ()) := by
        rcases renameFile_cases noFaults temporary destination
            (Function.update directory temporary (some (.file bytes))) with
          ⟨-, hresult⟩ | ⟨hrefused, -⟩
        · rw [hresult, Function.update_self, update_move hne hfree]
        · refine absurd ⟨rfl, ?_⟩ hrefused
          rw [Function.update_of_ne hne.symm]
          exact hfile
      rw [publishFile, hstage]
      dsimp only
      rw [hrename]

/-- Storing the index in a tidy directory. -/
theorem storeSnapshotDigestIndex_of_tidy (host : CacheHost) (process : PublishingProcess)
    (index : AspRustSnapshotDigestIndex) (h : Tidy directory) :
    storeSnapshotDigestIndex host noFaults process index directory =
      match host.indexCodec.encode index with
      | .error error => (directory, .error (indexStageTexts.serialize ++ error))
      | .ok bytes =>
          (Function.update directory snapshotDigestIndexPath (some (.file bytes)), .ok ()) :=
  publishFile_of_free indexStageTexts (indexTemporary_ne_path process) _ _
    (h.indexTemporary process) (h.files _)

/-- A snapshot with a tidy cache leaves the index that it computes. -/
theorem snapshotDevGateInputsWithCache_of_tidy {host : CacheHost} {fs : FileSystem} {root : Path}
    {config : AspRustConfig} {snapshot : AspRustDevGateSnapshot}
    {nextIndex : AspRustSnapshotDigestIndex} {bytes : List UInt8} (process : PublishingProcess)
    (h : Tidy directory)
    (hcompute : computeSnapshot host.toSnapshotHost fs root config
      (previousIndexOf host directory) = .ok (snapshot, nextIndex))
    (hindex : host.indexCodec.encode nextIndex = .ok bytes) :
    snapshotDevGateInputsWithCache host noFaults process fs root config (some directory) =
      (some (Function.update directory snapshotDigestIndexPath (some (.file bytes))),
        .ok snapshot) := by
  unfold snapshotDevGateInputsWithCache
  rw [Option.bind_some, ← previousIndexOf]
  dsimp only
  rw [hcompute]
  dsimp only
  rw [storeSnapshotDigestIndex_of_tidy _ _ _ h, hindex]

/-- Storing a record in a tidy directory. -/
theorem storeDevGateCache_of_tidy (host : CacheHost) (process : PublishingProcess)
    (record : AspRustDevGateCacheRecord) (h : Tidy directory) :
    storeDevGateCache host noFaults process record directory =
      match host.recordCodec.encode record with
      | .error error => (directory, .error (recordStageTexts.serialize ++ error))
      | .ok bytes =>
          (Function.update directory (cachePath record.cacheKey) (some (.file bytes)), .ok ()) :=
  publishFile_of_free recordStageTexts (temporary_ne_cachePath process record.cacheKey) _ _
    (h.temporary process) (h.files _)

end Directory

/-! ## What a run leaves

A run is reduced to `tidyRun`, and the cache that it leaves differs from the one before
in the index and in one record at most. -/

/-- A run of the gate: the state of the file system, and what is asked. -/
structure GateRun where
  fs : FileSystem
  request : GateRequest

/-- The moment of a run, for its index. -/
def GateRun.moment (run : GateRun) : Moment := ⟨run.request.projectRoot, run.request.config, run.fs⟩

/-- The full snapshot of the inputs of a run. -/
def GateRun.snapshot (host : GateHost) (run : GateRun) : Except String AspRustDevGateSnapshot :=
  snapshotDevGateInputs host.toSnapshotHost run.fs run.request.projectRoot run.request.config

/-- A run stored this record: it is made of the snapshot, the key and the verdict
of the run, and it has bytes. -/
structure StoredBy (host : GateHost) (run : GateRun) (record : AspRustDevGateCacheRecord) :
    Prop where
  snapshot : run.snapshot host = .ok record.snapshot
  key : requestCacheKey host run.request record.snapshot = .ok record.cacheKey
  verdict : evaluatePackage host run.request run.fs = .ok (record.report, record.verificationPlan)
  built : requestRecord host run.request record.snapshot record.cacheKey
    (record.report, record.verificationPlan) = .ok record
  encoded : ∃ bytes, host.recordCodec.encode record = .ok bytes

/-- What holds of the cache after a history of runs. -/
structure CacheInvariant (host : GateHost) (log : List GateRun) (directory : CacheDirectory) :
    Prop where
  tidy : Tidy directory
  faithful : CacheIndexFaithful host.toCacheHost (log.map GateRun.moment) directory
  records : ∀ content record,
    loadDevGateCache host.toCacheHost directory (contentDigest host.sha256 content) =
      some record → ∃ earlier ∈ log, StoredBy host earlier record

/-- A run in a tidy cache that found no record: the cache it leaves, and the
outcome. -/
def coldRun (host : GateHost) (run : GateRun) (snapshot : AspRustDevGateSnapshot)
    (cacheKey : String) (directory : CacheDirectory) : CacheDirectory × Outcome AspRustReport :=
  match evaluatePackage host run.request run.fs with
  | .error fault => (directory, throw fault)
  | .ok verdict =>
      match requestRecord host run.request snapshot cacheKey verdict with
      | .error error =>
          (directory, throw (run.request.stagePanic "dev-gate cache payload" error))
      | .ok record =>
          match host.recordCodec.encode record with
          | .error error => (directory, throw (run.request.stagePanic "dev-gate cache publish"
              (recordStageTexts.serialize ++ error)))
          | .ok bytes => (Function.update directory (cachePath record.cacheKey)
              (some (.file bytes)), return verdict.1)

/-- A run in a tidy cache with a faithful index: the cache it leaves, and the
outcome. -/
def tidyRun (host : GateHost) (run : GateRun) (directory : CacheDirectory) :
    CacheDirectory × Outcome AspRustReport :=
  match computeSnapshot host.toSnapshotHost run.fs run.request.projectRoot run.request.config {}
    with
  | .error error => (directory, throw (run.request.stagePanic "dev-gate snapshot" error))
  | .ok (snapshot, nextIndex) =>
      match host.indexCodec.encode nextIndex with
      | .error error => (directory, throw (run.request.stagePanic "dev-gate snapshot"
          (indexStageTexts.serialize ++ error)))
      | .ok bytes =>
          let indexed := Function.update directory snapshotDigestIndexPath (some (.file bytes))
          match requestCacheKey host run.request snapshot with
          | .error fault => (indexed, throw fault)
          | .ok cacheKey =>
              match loadDevGateCache host.toCacheHost directory cacheKey with
              | some record => (indexed, answerFromRecord host run.request run.fs record)
              | none => coldRun host run snapshot cacheKey indexed

section Runs

variable {host : GateHost} {log : List GateRun} {directory : CacheDirectory}

/-- The key of a run is a digest. -/
theorem exists_of_requestCacheKey {request : GateRequest} {snapshot : AspRustDevGateSnapshot}
    {cacheKey : String} (h : requestCacheKey host request snapshot = .ok cacheKey) :
    ∃ bytes, host.keyEncoder.encode (cacheKeyMaterial host.toCacheHost request.config .package
        request.baselineReceipts snapshot request.policyAuthorityDigest) = .ok bytes ∧
      cacheKey = contentDigest host.sha256 bytes := by
  unfold requestCacheKey devGateCacheKeyWithPolicyDigest at h
  split at h
  · simp [throw, throwThe, MonadExceptOf.throw] at h
  · next key hkey =>
      split at hkey
      · simp at hkey
      · next bytes hbytes =>
          obtain rfl := Except.ok.inj hkey
          exact ⟨bytes, hbytes, (Except.ok.inj h).symm⟩

/-- **A run in a tidy cache with a faithful index.** -/
theorem runAspRustDownstreamPolicy_of_invariant (run : GateRun) (process : PublishingProcess)
    (hinvariant : CacheInvariant host log directory)
    (hunambiguous : Unambiguous host.toSnapshotHost (run.moment :: log.map GateRun.moment)) :
    runAspRustDownstreamPolicy host noRunFaults process run.fs run.request (some directory) =
      (some (tidyRun host run directory).1, (tidyRun host run directory).2) := by
  unfold runAspRustDownstreamPolicy tidyRun
  rw [snapshotDevGateInputsWithCache_of_faithful hinvariant.faithful hunambiguous]
  cases hcompute : computeSnapshot host.toSnapshotHost run.fs run.request.projectRoot
      run.request.config {} with
  | error error => rfl
  | ok computed =>
      obtain ⟨snapshot, nextIndex⟩ := computed
      dsimp only [noRunFaults]
      rw [storeSnapshotDigestIndex_of_tidy _ _ _ hinvariant.tidy]
      cases hindex : host.indexCodec.encode nextIndex with
      | error error => rfl
      | ok bytes =>
          dsimp only
          cases hkey : requestCacheKey host run.request snapshot with
          | error fault => rfl
          | ok cacheKey =>
              obtain ⟨keyBytes, -, rfl⟩ := exists_of_requestCacheKey hkey
              have hload := loadDevGateCache_after_index host.toCacheHost bytes directory keyBytes
              have htidy := hinvariant.tidy.index bytes
              dsimp only
              rw [Option.bind_some, hload]
              cases loadDevGateCache host.toCacheHost directory
                  (contentDigest host.sha256 keyBytes) with
              | some record => rfl
              | none =>
                  dsimp only [coldRun]
                  cases evaluatePackage host run.request run.fs with
                  | error fault => rfl
                  | ok verdict =>
                      dsimp only [publishVerdict]
                      cases requestRecord host run.request snapshot
                          (contentDigest host.sha256 keyBytes) verdict with
                      | error error => rfl
                      | ok record =>
                          dsimp only [noRunFaults]
                          rw [storeDevGateCache_of_tidy _ _ _ htidy]
                          cases host.recordCodec.encode record with
                          | error error => rfl
                          | ok recordBytes => rfl

/-- What a run leaves in a tidy cache: nothing new, its index, or its index and
its record. -/
inductive RunLeaves (host : GateHost) (run : GateRun) (directory : CacheDirectory) :
    CacheDirectory → Prop where
  /-- There is no snapshot, or its index has no bytes. -/
  | unchanged : RunLeaves host run directory directory
  /-- The index is replaced, and no record stored. -/
  | indexed {snapshot : AspRustDevGateSnapshot} {nextIndex : AspRustSnapshotDigestIndex}
      {bytes : List UInt8}
      (hcompute : computeSnapshot host.toSnapshotHost run.fs run.request.projectRoot
        run.request.config {} = .ok (snapshot, nextIndex))
      (hindex : host.indexCodec.encode nextIndex = .ok bytes) :
      RunLeaves host run directory
        (Function.update directory snapshotDigestIndexPath (some (.file bytes)))
  /-- The index is replaced, and a record stored. -/
  | stored {snapshot : AspRustDevGateSnapshot} {nextIndex : AspRustSnapshotDigestIndex}
      {bytes recordBytes : List UInt8} {record : AspRustDevGateCacheRecord}
      (hcompute : computeSnapshot host.toSnapshotHost run.fs run.request.projectRoot
        run.request.config {} = .ok (snapshot, nextIndex))
      (hindex : host.indexCodec.encode nextIndex = .ok bytes)
      (hencode : host.recordCodec.encode record = .ok recordBytes)
      (hstored : StoredBy host run record) :
      RunLeaves host run directory
        (Function.update (Function.update directory snapshotDigestIndexPath (some (.file bytes)))
          (cachePath record.cacheKey) (some (.file recordBytes)))

section Equations

variable {run : GateRun} {snapshot : AspRustDevGateSnapshot}
variable {nextIndex : AspRustSnapshotDigestIndex} {bytes : List UInt8} {cacheKey : String}

/-- A run that finds a record. -/
theorem tidyRun_of_some {record : AspRustDevGateCacheRecord}
    (hcompute : computeSnapshot host.toSnapshotHost run.fs run.request.projectRoot
      run.request.config {} = .ok (snapshot, nextIndex))
    (hindex : host.indexCodec.encode nextIndex = .ok bytes)
    (hkey : requestCacheKey host run.request snapshot = .ok cacheKey)
    (hload : loadDevGateCache host.toCacheHost directory cacheKey = some record) :
    tidyRun host run directory =
      (Function.update directory snapshotDigestIndexPath (some (.file bytes)),
        answerFromRecord host run.request run.fs record) := by
  unfold tidyRun
  rw [hcompute]
  dsimp only
  rw [hindex]
  dsimp only
  rw [hkey]
  dsimp only
  rw [hload]

/-- A run that finds no record, and stores one. -/
theorem tidyRun_of_stored {record : AspRustDevGateCacheRecord} {recordBytes : List UInt8}
    {verdict : AspRustReport × RustVerificationPlan}
    (hcompute : computeSnapshot host.toSnapshotHost run.fs run.request.projectRoot
      run.request.config {} = .ok (snapshot, nextIndex))
    (hindex : host.indexCodec.encode nextIndex = .ok bytes)
    (hkey : requestCacheKey host run.request snapshot = .ok cacheKey)
    (hload : loadDevGateCache host.toCacheHost directory cacheKey = none)
    (hverdict : evaluatePackage host run.request run.fs = .ok verdict)
    (hrecord : requestRecord host run.request snapshot cacheKey verdict = .ok record)
    (hencode : host.recordCodec.encode record = .ok recordBytes) :
    tidyRun host run directory =
      (Function.update
        (Function.update directory snapshotDigestIndexPath (some (.file bytes)))
        (cachePath record.cacheKey) (some (.file recordBytes)), .ok verdict.1) := by
  unfold tidyRun
  rw [hcompute]
  dsimp only
  rw [hindex]
  dsimp only
  rw [hkey]
  dsimp only
  rw [hload]
  dsimp only [coldRun]
  rw [hverdict]
  dsimp only
  rw [hrecord]
  dsimp only
  rw [hencode]
  rfl

end Equations

/-- A record that a run builds carries what it was built from. -/
theorem fields_of_requestRecord {request : GateRequest} {snapshot : AspRustDevGateSnapshot}
    {cacheKey : String} {verdict : AspRustReport × RustVerificationPlan}
    {record : AspRustDevGateCacheRecord}
    (h : requestRecord host request snapshot cacheKey verdict = .ok record) :
    record.snapshot = snapshot ∧ record.cacheKey = cacheKey ∧
      (record.report, record.verificationPlan) = verdict ∧
      record.downstreamPolicyReceipt =
        downstreamPolicyReceiptFromPlan request.policy record.verificationPlan ∧
      record.dependencyBaselineReceipts = request.baselineReceipts := by
  obtain ⟨payloadDigest, -, rfl⟩ := Except.map_eq_ok.mp h
  exact ⟨rfl, rfl, rfl, rfl, rfl⟩

/-- A run that finds no record leaves the cache as it is, or stores a record. -/
theorem coldRun_leaves {run : GateRun} {snapshot : AspRustDevGateSnapshot} {cacheKey : String}
    (hsnapshot : run.snapshot host = .ok snapshot)
    (hkey : requestCacheKey host run.request snapshot = .ok cacheKey)
    (directory : CacheDirectory) :
    (coldRun host run snapshot cacheKey directory).1 = directory ∨
      ∃ record bytes, host.recordCodec.encode record = .ok bytes ∧ StoredBy host run record ∧
        (coldRun host run snapshot cacheKey directory).1 =
          Function.update directory (cachePath record.cacheKey) (some (.file bytes)) := by
  unfold coldRun
  split
  · exact Or.inl rfl
  · next verdict hverdict =>
      split
      · exact Or.inl rfl
      · next record hrecord =>
          split
          · exact Or.inl rfl
          · next bytes hencode =>
              obtain ⟨rfl, rfl, rfl, -, -⟩ := fields_of_requestRecord hrecord
              exact Or.inr ⟨record, bytes, hencode,
                ⟨hsnapshot, hkey, hverdict, hrecord, bytes, hencode⟩, rfl⟩

theorem tidyRun_leaves (run : GateRun) (directory : CacheDirectory) :
    RunLeaves host run directory (tidyRun host run directory).1 := by
  unfold tidyRun
  split
  · exact .unchanged
  · next snapshot nextIndex hcompute =>
      split
      · exact .unchanged
      · next bytes hindex =>
          dsimp only
          split
          · exact .indexed hcompute hindex
          · next cacheKey hkey =>
              split
              · exact .indexed hcompute hindex
              · rcases coldRun_leaves (snapshotDevGateInputs_eq_ok.mpr ⟨nextIndex, hcompute⟩) hkey
                    (Function.update directory snapshotDigestIndexPath (some (.file bytes))) with
                  hsame | ⟨record, recordBytes, hencode, hstored, hleft⟩
                · rw [hsame]
                  exact .indexed hcompute hindex
                · rw [hleft]
                  exact .stored hcompute hindex hencode hstored

/-! ## The invariant of a history

One run keeps the invariant, with its own record or index as the only new thing.  The
assumption on contents is about all runs of the history, the present one included. -/

/-- The bytes of an index, read again, are faithful to the run that wrote them. -/
theorem cacheIndexFaithful_of_indexed {run : GateRun} {snapshot : AspRustDevGateSnapshot}
    {nextIndex : AspRustSnapshotDigestIndex} {bytes : List UInt8} {after : CacheDirectory}
    (hcompute : computeSnapshot host.toSnapshotHost run.fs run.request.projectRoot
      run.request.config {} = .ok (snapshot, nextIndex))
    (hindex : host.indexCodec.encode nextIndex = .ok bytes)
    (hafter : after snapshotDigestIndexPath = some (.file bytes)) :
    CacheIndexFaithful host.toCacheHost ((run :: log).map GateRun.moment) after := by
  intro loaded hload
  obtain rfl := eq_of_loadSnapshotDigestIndex hafter hindex hload
  exact (indexFaithful_of_computeSnapshot hcompute).mono (by simp [GateRun.moment])

/-- **One run keeps the invariant.** -/
theorem CacheInvariant.run {run : GateRun} {after : CacheDirectory}
    (h : CacheInvariant host log directory) (hleaves : RunLeaves host run directory after) :
    CacheInvariant host (run :: log) after := by
  have hkept : ∀ content record,
      loadDevGateCache host.toCacheHost directory (contentDigest host.sha256 content) =
        some record → ∃ earlier ∈ run :: log, StoredBy host earlier record := by
    intro content record hload
    obtain ⟨earlier, hearlier, hstored⟩ := h.records content record hload
    exact ⟨earlier, List.mem_cons_of_mem _ hearlier, hstored⟩
  cases hleaves with
  | unchanged =>
      refine ⟨h.tidy, fun loaded hload => ?_, hkept⟩
      exact (h.faithful loaded hload).mono (by simp)
  | @indexed snapshot nextIndex bytes hcompute hindex =>
      refine ⟨h.tidy.index bytes,
        cacheIndexFaithful_of_indexed hcompute hindex (Function.update_self _ _ _), ?_⟩
      intro content record hload
      exact hkept content record
        ((loadDevGateCache_after_index host.toCacheHost bytes directory content).symm.trans hload)
  | @stored snapshot nextIndex bytes recordBytes record hcompute hindex hencode hstored =>
      have hname : snapshotDigestIndexPath ≠ cachePath record.cacheKey := by
        obtain ⟨keyBytes, -, hkey⟩ := exists_of_requestCacheKey hstored.key
        rw [hkey]
        exact (cachePath_ne_index host.sha256 keyBytes).symm
      refine ⟨(h.tidy.index bytes).record record.cacheKey recordBytes,
        cacheIndexFaithful_of_indexed hcompute hindex ?_, ?_⟩
      · rw [Function.update_of_ne hname, Function.update_self]
      · intro content loaded hload
        rcases load_after_record hencode hload with rfl | hbefore
        · exact ⟨run, List.mem_cons_self, hstored⟩
        · rw [loadDevGateCache_after_index host.toCacheHost] at hbefore
          exact hkept content loaded hbefore

end Runs

/-- The cache after a run that uses it. -/
def cacheAfterRun (host : GateHost) (process : PublishingProcess) (run : GateRun)
    (directory : CacheDirectory) : CacheDirectory :=
  (runAspRustDownstreamPolicy host noRunFaults process run.fs run.request (some directory)).1.getD
    directory

/-- The caches that gate runs can leave, starting from an empty one, with the
runs, the latest first.  Packages, policies and files change freely from one run
to the next; a run may pass or panic; the file operations of the cache succeed. -/
inductive GateHistory (host : GateHost) : List GateRun → CacheDirectory → Prop where
  | start : GateHistory host [] fun _ => none
  | run {log : List GateRun} {directory : CacheDirectory}
      (before : GateHistory host log directory) (process : PublishingProcess) (run : GateRun) :
      GateHistory host (run :: log) (cacheAfterRun host process run directory)

section Histories

variable {host : GateHost} {log : List GateRun} {directory : CacheDirectory}

theorem cacheInvariant_empty (host : GateHost) : CacheInvariant host [] fun _ => none :=
  ⟨tidy_empty, fun index hload => by simp [loadSnapshotDigestIndex, readFile] at hload,
    fun content record hload => by simp [loadDevGateCache, readFile] at hload⟩

/-- **The invariant of a history.** -/
theorem GateHistory.invariant (h : GateHistory host log directory)
    (hunambiguous : Unambiguous host.toSnapshotHost (log.map GateRun.moment)) :
    CacheInvariant host log directory := by
  induction h with
  | start => exact cacheInvariant_empty host
  | @run log directory before process run ih =>
      have hinvariant := ih (hunambiguous.mono (List.subset_cons_self _ _))
      rw [cacheAfterRun,
        runAspRustDownstreamPolicy_of_invariant run process hinvariant hunambiguous]
      exact hinvariant.run (tidyRun_leaves run directory)

end Histories

/-! ## The gate of the package with a manifest only -/

/-- The gate of `p` and `q`. -/
def bareGateHost : GateHost where
  toCacheHost := bareHost
  analysisHost := bareAnalysisHost
  loadLockfile _ _ := .error "No such file or directory (os error 2)"
  dependencyBaselineFeature := true
  renderAspRust _ := ""
  renderFindingList _ := ""
  debugReceipt := reprStr
  debugBaselineReceipts := reprStr

/-- A gate of the package at `root`, under a label. -/
def bareRequest (root gateLabel : String) : GateRequest where
  projectRoot := [.normal root]
  policy := barePolicy gateLabel
  policyAuthorityDigest := legacyAuthorityDigest
  assertReport := true

/-- A run of the gate of `p`. -/
def bareRun (gateLabel : String) : GateRun := ⟨bareFileSystem, bareRequest "p" gateLabel⟩

/-- The cache after the first run of `p`. -/
def bareCache : CacheDirectory :=
  Function.update
    (Function.update (fun _ => none) snapshotDigestIndexPath
      (some (.file (piecesBytes bareIndexJson))))
    (cachePath (bareRecord "p" barePayloadDigest).cacheKey)
    (some (.file (piecesBytes (bareRecordJson "p" barePayloadDigest))))

theorem evaluatePackage_bare (gateLabel : String) :
    evaluatePackage bareGateHost (bareRequest "p" gateLabel) bareFileSystem =
      .ok (bareReport, barePlan) := by
  have hverdict : (packageVerdict bareAnalysisHost [.normal "p"] {}).run
      (answers bareManifestReader bareFileSystem) = .ok (bareReport, barePlan) := by
    decide +kernel
  unfold evaluatePackage requestVerdict
  rw [show (packageVerdict bareGateHost.analysisHost (bareRequest "p" gateLabel).projectRoot
    (bareRequest "p" gateLabel).config).run (answers bareGateHost.manifestFromPath bareFileSystem) =
      .ok (bareReport, barePlan) from hverdict]
  rfl

theorem requestCacheKey_bare (root gateLabel : String) :
    requestCacheKey bareGateHost (bareRequest root gateLabel) bareSnapshot =
      .ok (bareRecord "p" barePayloadDigest).cacheKey := by
  unfold requestCacheKey
  rw [show devGateCacheKeyWithPolicyDigest bareGateHost.toCacheHost
    (bareRequest root gateLabel).config .package (bareRequest root gateLabel).baselineReceipts
    bareSnapshot (bareRequest root gateLabel).policyAuthorityDigest =
      .ok (bareRecord "p" barePayloadDigest).cacheKey from devGateCacheKey_bare]
  rfl

theorem indexCodec_encode_bare :
    bareGateHost.indexCodec.encode bareIndex = .ok (piecesBytes bareIndexJson) :=
  tableEncode_of_mem (by simp) (List.mem_singleton_self (bareIndex, piecesBytes bareIndexJson))

/-- The first run of `p` passes, and leaves its index and its record. -/
theorem tidyRun_bare :
    tidyRun bareGateHost (bareRun "p") (fun _ => none) = (bareCache, .ok bareReport) :=
  @tidyRun_of_stored bareGateHost (fun _ => none) (bareRun "p") bareSnapshot bareIndex
    (piecesBytes bareIndexJson) (bareRecord "p" barePayloadDigest).cacheKey
    (bareRecord "p" barePayloadDigest) (piecesBytes (bareRecordJson "p" barePayloadDigest))
    (bareReport, barePlan) computeSnapshot_bare indexCodec_encode_bare
    (requestCacheKey_bare "p" "p") rfl (evaluatePackage_bare "p") devGateCacheRecord_bare
    recordCodec_encode_bare

/-- The record that the first run of `p` stored is found under its key. -/
theorem loadDevGateCache_bareCache :
    loadDevGateCache bareHost bareCache (bareRecord "p" barePayloadDigest).cacheKey =
      some (bareRecord "p" barePayloadDigest) :=
  (loadDevGateCache_of_encoded (Function.update_self _ _ _) recordCodec_encode_bare).mpr
    ⟨rfl, loadable_iff_intact.mpr
      (intact_of_devGateCacheRecord computeSnapshot_bare devGateCacheRecord_bare)⟩

/-- The first run of `p`, as a history. -/
theorem gateHistory_bare : GateHistory bareGateHost [bareRun "p"] bareCache := by
  have hrun := GateHistory.run (@GateHistory.start bareGateHost) ⟨1, 0⟩ (bareRun "p")
  rwa [cacheAfterRun, runAspRustDownstreamPolicy_of_invariant (bareRun "p") ⟨1, 0⟩
    (cacheInvariant_empty bareGateHost) (unambiguous_of_eq (bareRun "p").moment (by simp)), tidyRun_bare] at hrun

end AspRust.DevGate
