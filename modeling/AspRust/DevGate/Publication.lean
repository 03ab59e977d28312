import AspRust.DevGate.CacheRecord

/-!
# Publication of cache records

What a call to `storeDevGateCache` leaves behind, for every way in which its
file operations can fail.

A publication is meant to be all or nothing, and a failed rename is cleaned up
after.  A failed write or sync is not: the error returns with the temporary file
in place.  `storeDevGateCache_atomic_iff` says exactly when nothing of the call
is left behind and the loader sees the old record or the new one.

### What is load-bearing

The condition of `storeDevGateCache_atomic_iff` has two halves.  No failure strikes while
the temporary file is there: that is about the plan of faults.  And a record that is
published over one that can be loaded can be loaded itself: that is about the record, and
every record that a run builds has it (`Integrity`).

The file names are what keeps a publication from touching anything else.  A temporary
name ends in the number of the process and a counter, a published one in a digest, so the
two never meet (`temporary_ne_cachePath`).
-/

namespace AspRust.DevGate

open AspRust.Foundation AspRust.Discovery AspRust.Verification AspRust.Analysis

/-! ## File names do not meet -/

theorem getLast?_append (front back : String) {c : Char} (h : back.toList.getLast? = some c) :
    (front ++ back).toList.getLast? = some c := by
  rw [String.toList_append, List.getLast?_append, h, Option.some_or]

/-- A temporary file is never the file of a key. -/
theorem temporary_ne_cachePath (process : PublishingProcess) (cacheKey : String) :
    process.temporary ≠ cachePath cacheKey := by
  intro h
  have htemporary : process.temporary.toList.getLast? = some 'p' := getLast?_append _ _ rfl
  have hdestination : (cachePath cacheKey).toList.getLast? = some 'n' :=
    getLast?_append _ _ rfl
  rw [h, hdestination] at htemporary
  simp at htemporary

/-- The ways in which the publication of a record can end. -/
theorem storeDevGateCache_ends (host : CacheHost) (faults : FaultPlan)
    (process : PublishingProcess) (record : AspRustDevGateCacheRecord)
    (directory : CacheDirectory) :
    PublishEnds faults process.temporary (cachePath record.cacheKey)
      (host.recordCodec.encode record) (refusedResult (cachePath record.cacheKey)) directory
      (storeDevGateCache host faults process record directory) :=
  publishFile_ends faults recordStageTexts (temporary_ne_cachePath process record.cacheKey)
    (host.recordCodec.encode record) (refusedResult (cachePath record.cacheKey)) directory

/-! ## What a loader sees afterwards -/

/-- The record passes the checks of the loader for a key. -/
def Loadable (host : CacheHost) (cacheKey : String) (record : AspRustDevGateCacheRecord) :
    Prop :=
  ∃ byteCount, sumByteCounts record.snapshot.files = some byteCount ∧
    recordIsIntact host cacheKey record byteCount = true

section Loading

variable {host : CacheHost} {directory : CacheDirectory} {cacheKey : String}
variable {record : AspRustDevGateCacheRecord}

/-- **What is loaded.**  A record is loaded when the file of the key decodes to
it and it passes the checks. -/
theorem loadDevGateCache_eq_some :
    loadDevGateCache host directory cacheKey = some record ↔
      ∃ bytes, readFile directory (cachePath cacheKey) = some bytes ∧
        host.recordCodec.decode bytes = some record ∧ Loadable host cacheKey record := by
  unfold loadDevGateCache Loadable
  simp only [bind, Option.bind_eq_some_iff]
  constructor
  · rintro ⟨bytes, hread, other, hdecode, byteCount, hsum, hchecked⟩
    split at hchecked
    · next hintact =>
        obtain rfl := Option.some.inj hchecked
        exact ⟨bytes, hread, hdecode, byteCount, hsum, hintact⟩
    · simp at hchecked
  · rintro ⟨bytes, hread, hdecode, byteCount, hsum, hintact⟩
    exact ⟨bytes, hread, record, hdecode, byteCount, hsum, if_pos hintact⟩

/-- A loader reads one file only. -/
theorem loadDevGateCache_congr {other : CacheDirectory}
    (h : directory (cachePath cacheKey) = other (cachePath cacheKey)) :
    loadDevGateCache host directory cacheKey = loadDevGateCache host other cacheKey := by
  have hread : readFile directory (cachePath cacheKey) = readFile other (cachePath cacheKey) := by
    rw [readFile, readFile, h]
  rw [loadDevGateCache, loadDevGateCache, hread]

/-- A file with the bytes of a record gives that record or none. -/
theorem loadDevGateCache_of_encoded {bytes : List UInt8}
    (hfile : directory (cachePath record.cacheKey) = some (.file bytes))
    (hencode : host.recordCodec.encode record = .ok bytes)
    {loaded : AspRustDevGateCacheRecord} :
    loadDevGateCache host directory record.cacheKey = some loaded ↔
      loaded = record ∧ Loadable host record.cacheKey record := by
  have hread : readFile directory (cachePath record.cacheKey) = some bytes := by
    rw [readFile, hfile]
  rw [loadDevGateCache_eq_some]
  constructor
  · rintro ⟨other, hother, hdecode, hloadable⟩
    obtain rfl := Option.some.inj (hread.symm.trans hother)
    obtain rfl := Option.some.inj (hdecode.symm.trans (host.recordCodec.decode_encode hencode))
    exact ⟨rfl, hloadable⟩
  · rintro ⟨rfl, hloadable⟩
    exact ⟨bytes, hread, host.recordCodec.decode_encode hencode, hloadable⟩

/-- A record that is loaded after another was written is that one, or was there. -/
theorem load_after_record {loaded : AspRustDevGateCacheRecord} {bytes : List UInt8}
    (hencode : host.recordCodec.encode record = .ok bytes)
    (hload : loadDevGateCache host
      (Function.update directory (cachePath record.cacheKey) (some (.file bytes))) cacheKey =
        some loaded) :
    loaded = record ∨ loadDevGateCache host directory cacheKey = some loaded := by
  by_cases hpath : cachePath cacheKey = cachePath record.cacheKey
  · obtain ⟨read, hread, hdecode, -⟩ := loadDevGateCache_eq_some.mp hload
    rw [hpath, readFile, Function.update_self] at hread
    obtain rfl := Option.some.inj hread
    exact Or.inl (Option.some.inj (hdecode.symm.trans (host.recordCodec.decode_encode hencode)))
  · rw [loadDevGateCache_congr (Function.update_of_ne hpath _ _)] at hload
    exact Or.inr hload

/-- A record that is loaded after a publication, however it ended, is the published
one, or was there. -/
theorem load_after_storeDevGateCache {faults : FaultPlan} {process : PublishingProcess}
    {loaded : AspRustDevGateCacheRecord}
    (hload : loadDevGateCache host (storeDevGateCache host faults process record directory).1
      cacheKey = some loaded) :
    loaded = record ∨ loadDevGateCache host directory cacheKey = some loaded := by
  have hends := storeDevGateCache_ends host faults process record directory
  revert hends hload
  generalize storeDevGateCache host faults process record directory = after
  intro hload hends
  cases hends with
  | stopped | withdrawn => exact Or.inr hload
  | abandoned | stranded =>
      have hne : cachePath cacheKey ≠ process.temporary :=
        (temporary_ne_cachePath process cacheKey).symm
      rw [loadDevGateCache_congr (Function.update_of_ne hne _ _)] at hload
      exact Or.inr hload
  | published bytes hstages => exact load_after_record hstages.encoded hload

end Loading

/-! ## Publication is all or nothing -/

/-- The call was all or nothing: the destination is as before or holds the whole
record, the temporary file is gone, and a load of the key gives what it gave
before or the new record. -/
structure PublicationAtomic (host : CacheHost) (process : PublishingProcess)
    (record : AspRustDevGateCacheRecord) (before after : CacheDirectory) : Prop where
  destination : after (cachePath record.cacheKey) = before (cachePath record.cacheKey) ∨
    ∃ bytes, host.recordCodec.encode record = .ok bytes ∧
      after (cachePath record.cacheKey) = some (.file bytes)
  temporary : after process.temporary = before process.temporary
  load : loadDevGateCache host after record.cacheKey =
      loadDevGateCache host before record.cacheKey ∨
    loadDevGateCache host after record.cacheKey = some record

/-- No failure strikes between the creation of the temporary file and its
rename or removal. -/
def NoFaultOnTemporary (host : CacheHost) (faults : FaultPlan) (process : PublishingProcess)
    (record : AspRustDevGateCacheRecord) (directory : CacheDirectory) : Prop :=
  ∀ bytes, Stages faults process.temporary (host.recordCodec.encode record) directory bytes →
    faults.write = none ∧ faults.sync = none ∧
      (Renames faults (cachePath record.cacheKey) directory ∨ faults.remove = none)

/-- The call comes to publish the record. -/
def Publishes (host : CacheHost) (faults : FaultPlan) (process : PublishingProcess)
    (record : AspRustDevGateCacheRecord) (directory : CacheDirectory) : Prop :=
  (∃ bytes, Stages faults process.temporary (host.recordCodec.encode record) directory bytes) ∧
    faults.write = none ∧ faults.sync = none ∧
      Renames faults (cachePath record.cacheKey) directory

/-- **When publication is all or nothing.**  It is exactly when no failure strikes while
the temporary file is there, and a record that is published over a loadable one passes
the checks of the loader.

A failed write or sync returns at once and leaves the temporary file, while a failed
rename removes it.  So the condition is about the place of the failure, and it is stated
for every plan of failures, every record and every content of the directory. -/
theorem storeDevGateCache_atomic_iff (host : CacheHost) (faults : FaultPlan)
    (process : PublishingProcess) (record : AspRustDevGateCacheRecord)
    (directory : CacheDirectory) :
    PublicationAtomic host process record directory
        (storeDevGateCache host faults process record directory).1 ↔
      NoFaultOnTemporary host faults process record directory ∧
        (Publishes host faults process record directory →
          Loadable host record.cacheKey record ∨
            loadDevGateCache host directory record.cacheKey = none) := by
  have hne : process.temporary ≠ cachePath record.cacheKey :=
    temporary_ne_cachePath process record.cacheKey
  have hends := storeDevGateCache_ends host faults process record directory
  revert hends
  generalize storeDevGateCache host faults process record directory = after
  intro hends
  cases hends with
  | stopped error hstages =>
      refine iff_of_true ⟨Or.inl rfl, rfl, Or.inl rfl⟩ ⟨fun bytes h => ?_, fun h => ?_⟩
      · exact absurd h (hstages bytes)
      · exact absurd h.1.choose_spec (hstages _)
  | abandoned bytes written error hstages hfault =>
      refine iff_of_false (fun h => ?_) (fun h => ?_)
      · have hgone := h.temporary
        simp [hstages.free] at hgone
      · obtain ⟨hwrite, hsync, -⟩ := h.1 bytes hstages
        exact hfault ⟨hwrite, hsync⟩
  | withdrawn bytes error hstages hwritten hrename hremove =>
      refine iff_of_true ⟨Or.inl rfl, rfl, Or.inl rfl⟩ ⟨fun _ _ => ?_, fun h => ?_⟩
      · exact ⟨hwritten.1, hwritten.2, Or.inr hremove⟩
      · exact absurd h.2.2.2 hrename
  | stranded bytes error hstages hwritten hrename hremove =>
      refine iff_of_false (fun h => ?_) (fun h => ?_)
      · have hgone := h.temporary
        simp [hstages.free] at hgone
      · obtain ⟨-, -, hclean⟩ := h.1 bytes hstages
        exact hclean.elim hrename hremove
  | published bytes hstages hwritten hrename =>
      have hfile : Function.update directory (cachePath record.cacheKey) (some (.file bytes))
          (cachePath record.cacheKey) = some (.file bytes) := Function.update_self _ _ _
      have hpublishes : Publishes host faults process record directory :=
        ⟨⟨bytes, hstages⟩, hwritten.1, hwritten.2, hrename⟩
      have hload := @loadDevGateCache_of_encoded host _ record bytes hfile hstages.encoded
      constructor
      · intro h
        refine ⟨fun _ _ => ⟨hwritten.1, hwritten.2, Or.inl hrename⟩, fun _ => ?_⟩
        rcases h.load with hsame | hnew
        · cases hbefore : loadDevGateCache host directory record.cacheKey with
          | none => exact Or.inr rfl
          | some old => exact Or.inl (hload.mp (hsame.trans hbefore)).2
        · exact Or.inl (hload.mp hnew).2
      · rintro ⟨-, hloadable⟩
        refine ⟨Or.inr ⟨bytes, hstages.encoded, hfile⟩, Function.update_of_ne hne _ _, ?_⟩
        rcases hloadable hpublishes with hnew | hnone
        · exact Or.inr (hload.mpr ⟨rfl, hnew⟩)
        · by_cases hnew : Loadable host record.cacheKey record
          · exact Or.inr (hload.mpr ⟨rfl, hnew⟩)
          · -- neither the old file nor the new one gives a record
            refine Or.inl ?_
            rw [hnone, Option.eq_none_iff_forall_ne_some]
            exact fun loaded h => hnew (hload.mp h).2

/-- The disk is full when the first byte is written. -/
def diskFull : FaultPlan := { write := some (0, "No space left on device (os error 28)") }

/-- Publication is not all or nothing on a full disk: the temporary file stays. -/
theorem storeDevGateCache_diskFull :
    ¬ PublicationAtomic bareHost ⟨1, 0⟩ (bareRecord "p" barePayloadDigest) (fun _ => none)
      (storeDevGateCache bareHost diskFull ⟨1, 0⟩ (bareRecord "p" barePayloadDigest)
        fun _ => none).1 := by
  intro h
  have htemporary := h.temporary
  simp [storeDevGateCache, publishFile, stageTemporary, createNew, writeAndSync, recordCodec_encode_bare,
    diskFull] at htemporary

end AspRust.DevGate
