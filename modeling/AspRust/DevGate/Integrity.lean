import AspRust.DevGate.Publication

/-!
# Integrity of the cache

A run computes the counts and digests of a record in one place, and the loader
recomputes them in another.  `IntactRecord` is what the loader checks, stated
over numbers and digests; a record that a run builds has it
(`intact_of_devGateCacheRecord`), so a record that was published is loaded
again.

Success of a publication does not mean that this record was published: a rename
that is refused while a file is there already counts as a success too.

### What is load-bearing

`loadable_iff_intact` is an equivalence for every record, not only for those that a run
has stored: what the loader accepts is exactly what is intact.  So integrity does not
rest on who wrote the file, and completeness rests only on what a run puts in a record.

The lengths of the files are added up with a check for overflow, in the run as in the
loader.  The two sums are taken over the same list in the same order, so one overflows
exactly when the other does (`sumByteCounts_eq_some`).
-/

namespace AspRust.DevGate

open AspRust.Foundation AspRust.Discovery AspRust.Verification AspRust.Analysis

/-! ## Lengths

The sum of the lengths with its check for overflow. -/

/-- The 64-bit sum is the sum, when it fits. -/
theorem foldlM_byteCounts (files : List AspRustDevGateSnapshotFile) {total n : ℕ}
    (htotal : total < 2 ^ 64) :
    files.foldlM (fun total file =>
        if total + file.byteCount < 2 ^ 64 then some (total + file.byteCount) else none) total =
      some n ↔
        total + (files.map AspRustDevGateSnapshotFile.byteCount).sum = n ∧ n < 2 ^ 64 := by
  induction files generalizing total with
  | nil =>
      simp only [List.foldlM_nil, List.map_nil, List.sum_nil, add_zero]
      constructor
      · intro h
        obtain rfl : total = n := Option.some.inj h
        exact ⟨rfl, htotal⟩
      · rintro ⟨rfl, -⟩
        rfl
  | cons file rest ih =>
      rw [List.foldlM_cons, List.map_cons, List.sum_cons, ← add_assoc]
      by_cases hfits : total + file.byteCount < 2 ^ 64
      · rw [if_pos hfits]
        exact ih hfits
      · rw [if_neg hfits]
        refine iff_of_false (by simp) ?_
        rintro ⟨rfl, hbound⟩
        omega

theorem sumByteCounts_eq_some {files : List AspRustDevGateSnapshotFile} {n : ℕ} :
    sumByteCounts files = some n ↔
      (files.map AspRustDevGateSnapshotFile.byteCount).sum = n ∧ n < 2 ^ 64 := by
  have hfold := @foldlM_byteCounts files 0 n (by norm_num)
  rwa [zero_add] at hfold

/-! ## Intact records

What the loader checks, and that the records of a run have it. -/

/-- What a loaded record is known to be. -/
structure IntactRecord (host : CacheHost) (cacheKey : String)
    (record : AspRustDevGateCacheRecord) : Prop where
  schemaId : record.schemaId = aspRustDevGateCacheSchemaId
  schemaVersion : record.schemaVersion = aspRustDevGateCacheSchemaVersion
  cacheKey : record.cacheKey = cacheKey
  fileCount : record.snapshot.fileCount = record.snapshot.files.length
  byteCount : record.snapshot.byteCount =
    (record.snapshot.files.map AspRustDevGateSnapshotFile.byteCount).sum
  fits : (record.snapshot.files.map AspRustDevGateSnapshotFile.byteCount).sum < 2 ^ 64
  digest : ∃ bytes, host.filesEncoder.encode record.snapshot.files = .ok bytes ∧
    record.snapshot.digest = contentDigest host.sha256 bytes
  payloadDigest : devGateCachePayloadDigest host record.report record.verificationPlan
    record.downstreamPolicyReceipt record.dependencyBaselineReceipts = .ok record.payloadDigest

/-- The checks of the loader are those of an intact record. -/
theorem loadable_iff_intact {host : CacheHost} {cacheKey : String}
    {record : AspRustDevGateCacheRecord} :
    Loadable host cacheKey record ↔ IntactRecord host cacheKey record := by
  unfold Loadable recordIsIntact
  simp only [Bool.and_eq_true, decide_eq_true_eq]
  constructor
  · rintro ⟨byteCount, hsum, ⟨⟨⟨⟨⟨hid, hversion⟩, hkey⟩, hcount⟩, hbytes⟩, hdigest⟩, hpayload⟩
    obtain ⟨htotal, hfits⟩ := sumByteCounts_eq_some.mp hsum
    refine ⟨hid, hversion, hkey, hcount, by rw [hbytes, htotal], by rwa [htotal], ?_, ?_⟩
    · split at hdigest
      · next bytes hbytes => exact ⟨bytes, hbytes, by simpa using hdigest⟩
      · simp at hdigest
    · split at hpayload
      · next digest hok => rw [hok, of_decide_eq_true hpayload]
      · simp at hpayload
  · intro h
    obtain ⟨bytes, hencode, hdigest⟩ := h.digest
    refine ⟨_, sumByteCounts_eq_some.mpr ⟨rfl, h.fits⟩, ⟨⟨⟨⟨⟨h.schemaId, h.schemaVersion⟩,
      h.cacheKey⟩, h.fileCount⟩, h.byteCount⟩, ?_⟩, ?_⟩
    · simp [hencode, hdigest]
    · simp [h.payloadDigest]

/-- A loaded record carries the key it was loaded with. -/
theorem cacheKey_of_load {host : CacheHost} {directory : CacheDirectory} {cacheKey : String}
    {record : AspRustDevGateCacheRecord}
    (h : loadDevGateCache host directory cacheKey = some record) : record.cacheKey = cacheKey := by
  obtain ⟨-, -, -, hloadable⟩ := loadDevGateCache_eq_some.mp h
  exact (loadable_iff_intact.mp hloadable).cacheKey

/-- A computed snapshot counts and digests its file list. -/
theorem snapshot_counts {host : SnapshotHost} {fs : FileSystem} {root : Path}
    {config : AspRustConfig} {previousIndex nextIndex : AspRustSnapshotDigestIndex}
    {snapshot : AspRustDevGateSnapshot}
    (h : computeSnapshot host fs root config previousIndex = .ok (snapshot, nextIndex)) :
    snapshot.fileCount = snapshot.files.length ∧
      snapshot.byteCount = (snapshot.files.map AspRustDevGateSnapshotFile.byteCount).sum ∧
      snapshot.byteCount < 2 ^ 64 ∧
      ∃ bytes, host.filesEncoder.encode snapshot.files = .ok bytes ∧
        snapshot.digest = contentDigest host.sha256 bytes := by
  obtain ⟨canonical, collected, -, -, hfiles, -⟩ := computeSnapshot_eq_ok.mp h
  obtain ⟨byteCount, bytes, hsum, hencode, rfl⟩ := snapshotOfFiles_eq_ok.mp hfiles
  obtain ⟨htotal, hfits⟩ := sumByteCounts_eq_some.mp hsum
  exact ⟨rfl, htotal.symm, hfits, bytes, hencode, rfl⟩

/-- A record of a run is intact for its key. -/
theorem intact_of_devGateCacheRecord {host : CacheHost} {fs : FileSystem} {root : Path}
    {config : AspRustConfig} {previousIndex nextIndex : AspRustSnapshotDigestIndex}
    {snapshot : AspRustDevGateSnapshot} {cacheKey : String} {report : AspRustReport}
    {plan : RustVerificationPlan} {receipt : AspRustDownstreamPolicyReceipt}
    {baselineReceipts : List AspRustDependencyBaselinePackageReceipt}
    {record : AspRustDevGateCacheRecord}
    (hsnapshot : computeSnapshot host.toSnapshotHost fs root config previousIndex =
      .ok (snapshot, nextIndex))
    (hrecord : devGateCacheRecord host cacheKey snapshot report plan receipt baselineReceipts =
      .ok record) :
    IntactRecord host record.cacheKey record := by
  obtain ⟨payloadDigest, hpayload, rfl⟩ := Except.map_eq_ok.mp hrecord
  obtain ⟨hcount, hbytes, hfits, hdigest⟩ := snapshot_counts hsnapshot
  exact ⟨rfl, rfl, rfl, hcount, hbytes, by rwa [← hbytes], hdigest, hpayload⟩

/-! ## Loading after storing

A publication that reports success has replaced the file, or was refused while a file
was there. -/

/-- A publication that reports success has published the record, or was refused
by a file that was there before. -/
theorem load_after_store {host : CacheHost} {faults : FaultPlan} {process : PublishingProcess}
    {record : AspRustDevGateCacheRecord} {directory : CacheDirectory}
    (hloadable : Loadable host record.cacheKey record)
    (hstored : (storeDevGateCache host faults process record directory).2 = .ok ()) :
    loadDevGateCache host (storeDevGateCache host faults process record directory).1
        record.cacheKey = some record ∨
      (¬ Renames faults (cachePath record.cacheKey) directory ∧
        isFile directory (cachePath record.cacheKey) = true ∧
        loadDevGateCache host (storeDevGateCache host faults process record directory).1
          record.cacheKey = loadDevGateCache host directory record.cacheKey) := by
  have hne : cachePath record.cacheKey ≠ process.temporary :=
    (temporary_ne_cachePath process record.cacheKey).symm
  have hends := storeDevGateCache_ends host faults process record directory
  revert hends hstored
  generalize storeDevGateCache host faults process record directory = after
  intro hstored hends
  have hrefused : ∀ directory error,
      refusedResult (cachePath record.cacheKey) directory error = .ok () →
        isFile directory (cachePath record.cacheKey) = true := by
    intro directory error h
    unfold refusedResult at h
    split at h
    · next hfile => exact hfile
    · simp at h
  cases hends with
  | stopped error hstages => simp at hstored
  | abandoned bytes written error hstages hfault => simp at hstored
  | withdrawn bytes error hstages hwritten hrename hremove =>
      exact Or.inr ⟨hrename, hrefused directory error hstored, rfl⟩
  | stranded bytes error hstages hwritten hrename hremove =>
      have hfile := hrefused _ error hstored
      rw [isFile, readFile, Function.update_of_ne hne, ← readFile] at hfile
      exact Or.inr ⟨hrename, hfile, loadDevGateCache_congr (Function.update_of_ne hne _ _)⟩
  | published bytes hstages hwritten hrename =>
      exact Or.inl ((loadDevGateCache_of_encoded (Function.update_self _ _ _)
        hstages.encoded).mpr ⟨rfl, hloadable⟩)

/-- **Integrity and completeness of the cache.**  Whatever bytes the file of a
key holds, a record loaded from it is intact.  And a record of a run whose
publication reports success is loaded again, unless the rename was refused and a
file was there before: then a load gives what it gave before. -/
theorem loadDevGateCache_intact_and_complete (host : CacheHost) :
    (∀ directory cacheKey record, loadDevGateCache host directory cacheKey = some record →
      (∃ bytes, readFile directory (cachePath cacheKey) = some bytes ∧
        host.recordCodec.decode bytes = some record) ∧
      IntactRecord host cacheKey record) ∧
    ∀ fs root config previousIndex snapshot nextIndex cacheKey report plan receipt
        baselineReceipts record faults process directory,
      computeSnapshot host.toSnapshotHost fs root config previousIndex =
        .ok (snapshot, nextIndex) →
      devGateCacheRecord host cacheKey snapshot report plan receipt baselineReceipts =
        .ok record →
      (storeDevGateCache host faults process record directory).2 = .ok () →
      loadDevGateCache host (storeDevGateCache host faults process record directory).1
          record.cacheKey = some record ∨
        (¬ Renames faults (cachePath record.cacheKey) directory ∧
          isFile directory (cachePath record.cacheKey) = true ∧
          loadDevGateCache host (storeDevGateCache host faults process record directory).1
            record.cacheKey = loadDevGateCache host directory record.cacheKey) := by
  refine ⟨fun directory cacheKey record h => ?_, ?_⟩
  · obtain ⟨bytes, hread, hdecode, hloadable⟩ := loadDevGateCache_eq_some.mp h
    exact ⟨⟨bytes, hread, hdecode⟩, loadable_iff_intact.mp hloadable⟩
  · intro fs root config previousIndex snapshot nextIndex cacheKey report plan receipt
      baselineReceipts record faults process directory hsnapshot hrecord hstored
    exact load_after_store
      (loadable_iff_intact.mpr (intact_of_devGateCacheRecord hsnapshot hrecord)) hstored

/-- The record of `p` is loaded after it is stored in an empty cache. -/
theorem loadDevGateCache_bare :
    loadDevGateCache bareHost
        (storeDevGateCache bareHost noFaults ⟨1, 0⟩ (bareRecord "p" barePayloadDigest)
          fun _ => none).1
        (bareRecord "p" barePayloadDigest).cacheKey = some (bareRecord "p" barePayloadDigest) ∧
      IntactRecord bareHost (bareRecord "p" barePayloadDigest).cacheKey
        (bareRecord "p" barePayloadDigest) := by
  have hcomplete := (loadDevGateCache_intact_and_complete bareHost).2 bareFileSystem
    [.normal "p"] {} {} bareSnapshot bareIndex (bareRecord "p" barePayloadDigest).cacheKey
    bareReport barePlan (bareReceipt "p") [] (bareRecord "p" barePayloadDigest) noFaults ⟨1, 0⟩
    (fun _ => none) computeSnapshot_bare devGateCacheRecord_bare
    (by simp [storeDevGateCache, publishFile, stageTemporary, createNew, writeAndSync, renameFile,
      recordCodec_encode_bare, noFaults, Function.update, (temporary_ne_cachePath _ _).symm])
  have hload := hcomplete.resolve_right fun h => h.1 ⟨rfl, by simp⟩
  exact ⟨hload, ((loadDevGateCache_intact_and_complete bareHost).1 _ _ _ hload).2⟩

/-- The file of the record cannot be replaced. -/
def renameRefused : FaultPlan := { rename := some "Operation not permitted (os error 1)" }

/-- A refused rename over a file leaves the cache as it was and reports success. -/
theorem storeDevGateCache_of_renameRefused {host : CacheHost} {process : PublishingProcess}
    {record : AspRustDevGateCacheRecord} {directory : CacheDirectory} {bytes old : List UInt8}
    (hencode : host.recordCodec.encode record = .ok bytes)
    (hfree : directory process.temporary = none)
    (hfile : directory (cachePath record.cacheKey) = some (.file old)) :
    storeDevGateCache host renameRefused process record directory = (directory, .ok ()) := by
  have hends := storeDevGateCache_ends host renameRefused process record directory
  revert hends
  generalize storeDevGateCache host renameRefused process record directory = after
  intro hends
  cases hends with
  | stopped error hstages => exact absurd ⟨rfl, hencode, rfl, hfree⟩ (hstages bytes)
  | abandoned _ written error hstages hfault => exact absurd ⟨rfl, rfl⟩ hfault
  | withdrawn _ error hstages hwritten hrename hremove =>
      have hisFile : isFile directory (cachePath record.cacheKey) = true := by
        rw [isFile, readFile, hfile]
        rfl
      rw [refusedResult, if_pos hisFile]
  | stranded _ error hstages hwritten hrename hremove => exact absurd rfl hremove
  | published _ hstages hwritten hrename => simp [Renames, renameRefused] at hrename

/-- A cache whose file of `p` was cut off after its first byte. -/
def truncatedCache : CacheDirectory :=
  Function.update (fun _ => none) (cachePath (bareRecord "p" barePayloadDigest).cacheKey)
    (some (.file (textBytes "\x7b")))

/-- A success need not store the record: a refused rename leaves the cut-off file
and is reported as a success. -/
theorem storeDevGateCache_refused :
    computeSnapshot bareHost.toSnapshotHost bareFileSystem [.normal "p"] {} {} =
        .ok (bareSnapshot, bareIndex) ∧
      devGateCacheRecord bareHost (bareRecord "p" barePayloadDigest).cacheKey bareSnapshot
        bareReport barePlan (bareReceipt "p") [] = .ok (bareRecord "p" barePayloadDigest) ∧
      (storeDevGateCache bareHost renameRefused ⟨1, 0⟩ (bareRecord "p" barePayloadDigest)
        truncatedCache).2 = .ok () ∧
      loadDevGateCache bareHost
        (storeDevGateCache bareHost renameRefused ⟨1, 0⟩ (bareRecord "p" barePayloadDigest)
          truncatedCache).1 (bareRecord "p" barePayloadDigest).cacheKey = none := by
  have hne : (⟨1, 0⟩ : PublishingProcess).temporary ≠
      cachePath (bareRecord "p" barePayloadDigest).cacheKey := temporary_ne_cachePath _ _
  have hfree : truncatedCache (⟨1, 0⟩ : PublishingProcess).temporary = none :=
    Function.update_of_ne hne _ _
  have hfile : truncatedCache (cachePath (bareRecord "p" barePayloadDigest).cacheKey) =
      some (.file (textBytes "\x7b")) := Function.update_self _ _ _
  have hstore : storeDevGateCache bareHost renameRefused ⟨1, 0⟩
      (bareRecord "p" barePayloadDigest) truncatedCache = (truncatedCache, .ok ()) :=
    storeDevGateCache_of_renameRefused recordCodec_encode_bare hfree hfile
  refine ⟨computeSnapshot_bare, devGateCacheRecord_bare, by rw [hstore], ?_⟩
  rw [hstore, Option.eq_none_iff_forall_ne_some]
  intro record hload
  obtain ⟨bytes, hread, hdecode, -⟩ := loadDevGateCache_eq_some.mp hload
  dsimp only at hread
  rw [readFile, hfile] at hread
  obtain rfl := Option.some.inj hread
  have hnone : bareHost.recordCodec.decode (textBytes "\x7b") = none := by decide +kernel
  rw [hnone] at hdecode
  simp at hdecode

end AspRust.DevGate
