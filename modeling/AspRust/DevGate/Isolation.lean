import AspRust.DevGate.Transparency

/-!
# Packages that share a cache

An authority names one cache for all its packages.  Neither part of the cache
knows of packages: the digest index is one file, keyed by paths relative to a
package root, and the key of a record contains no project.  So packages meet in
the cache, and the question is when they do not disturb each other.

They do not when two things hold (`cache_isolated`).  Length and time determine
the content of a relative path over all runs, also of different packages; that
keeps the index faithful.  And no two packages have the same key inputs: the
same configuration, authority, baseline packages and files; that keeps their
records apart.

### What is load-bearing

The first condition is about relative paths over all packages together.  It is not enough
that each package keeps it for itself: in `cache_not_isolated` no file ever changes, and
the manifests of two packages have one length and one time.

The second condition has no counterpart in the code.  A record names the label of its
gate, which the run compares, and two packages may well be given one label; nothing else
in a record tells the packages apart.
-/

namespace AspRust.DevGate

open AspRust.Foundation AspRust.Discovery AspRust.Verification AspRust.Analysis

/-- A run is not disturbed by other packages: its snapshot is the one computed
without a cache, and the record it loads was stored by a run of its package. -/
structure IsolatedRun (host : GateHost) (log : List GateRun) (directory : CacheDirectory)
    (process : PublishingProcess) (now : GateRun) : Prop where
  /-- The index of the cache changes nothing. -/
  computed : computeSnapshot host.toSnapshotHost now.fs now.request.projectRoot now.request.config
      (previousIndexOf host.toCacheHost directory) =
    computeSnapshot host.toSnapshotHost now.fs now.request.projectRoot now.request.config {}
  /-- A snapshot the run goes on with is the one without a cache. -/
  snapshot : ∀ snapshot,
    (snapshotDevGateInputsWithCache host.toCacheHost noFaults process now.fs
      now.request.projectRoot now.request.config (some directory)).2 = .ok snapshot →
    (snapshotDevGateInputsWithCache host.toCacheHost noFaults process now.fs
      now.request.projectRoot now.request.config none).2 = .ok snapshot
  /-- A record found under the key of the run is one of its package. -/
  record : ∀ snapshot cacheKey record, now.snapshot host = .ok snapshot →
    requestCacheKey host now.request snapshot = .ok cacheKey →
    loadDevGateCache host.toCacheHost directory cacheKey = some record →
    ∃ earlier ∈ log, earlier.request.projectRoot = now.request.projectRoot ∧
      StoredBy host earlier record

section Isolation

variable {host : GateHost} {log : List GateRun} {directory : CacheDirectory}

/-- Without a cache the snapshot is the full one. -/
theorem snapshotDevGateInputsWithCache_none (host : CacheHost) (faults : FaultPlan)
    (process : PublishingProcess) (fs : FileSystem) (root : Path) (config : AspRustConfig) :
    (snapshotDevGateInputsWithCache host faults process fs root config none).2 =
      snapshotDevGateInputs host.toSnapshotHost fs root config := by
  unfold snapshotDevGateInputsWithCache snapshotDevGateInputs
  rw [Option.bind_none, Option.getD_none]
  dsimp only
  cases computeSnapshot host.toSnapshotHost fs root config {} with
  | error error => rfl
  | ok computed => rfl

/-- **Isolation.**  In any interleaving of the runs of packages that share a cache, a
run is not disturbed, when length and time determine the content of a relative path over
all runs, and no earlier run of another package has its key inputs.

The digest index and the records are both filed without the project root, the one under
the relative path and the others under the key.  So packages can meet in both places,
and the two conditions are about one place each. -/
theorem cache_isolated (hhistory : GateHistory host log directory) (now : GateRun)
    (process : PublishingProcess)
    (hunambiguous : Unambiguous host.toSnapshotHost (now.moment :: log.map GateRun.moment))
    (hdistinct : ∀ earlier ∈ log, SameKeyInputs host earlier now →
      earlier.request.projectRoot = now.request.projectRoot) :
    IsolatedRun host log directory process now := by
  have hinvariant := hhistory.invariant (hunambiguous.mono (List.subset_cons_self _ _))
  refine ⟨computeSnapshot_of_faithful now.fs now.request.projectRoot
    now.request.config hinvariant.faithful.previousIndex hunambiguous, ?_, ?_⟩
  · intro snapshot hsnapshot
    rw [snapshotDevGateInputsWithCache_none]
    exact snapshotDevGateInputs_of_withCache hinvariant.faithful hunambiguous hsnapshot
  · intro snapshot cacheKey record hsnapshot hkey hload
    obtain ⟨keyBytes, -, rfl⟩ := exists_of_requestCacheKey hkey
    obtain ⟨earlier, hearlier, hstored⟩ := hinvariant.records keyBytes record hload
    rw [← cacheKey_of_load hload] at hkey
    have hinputs := (sameKeyInputs_of_key hstored hsnapshot hkey).1
    exact ⟨earlier, hearlier, hdistinct earlier hearlier hinputs, hstored⟩

end Isolation

/-! ## Two packages with manifests of one length -/

/-- The authority of `p` and `q`. -/
def sharedAuthority : AspRustDevGateAuthority where
  cacheRoot := "/cache"
  policyDigest := legacyAuthorityDigest
  cacheRoot_ne := by decide
  policyDigest_tagged := ⟨'l', "egacy-unbound-policy-authority".toList, by decide⟩

/-- The packages `p` and `q`; the manifest of `p` was written one nanosecond after
the epoch. -/
def pairFileSystem (modified : Int) : FileSystem where
  root := .directory [("p", .directory [("Cargo.toml", .file (bareManifest "p") 1)]),
    ("q", .directory [("Cargo.toml", .file (bareManifest "q") modified)])]
  wellFormed := rfl

/-- The run of `q` after `q` was created. -/
def otherRun (modified : Int) : GateRun :=
  ⟨pairFileSystem modified, sharedAuthority.request [.normal "q"] (barePolicy "p")⟩

/-- The snapshot of `q`. -/
def otherSnapshot : AspRustDevGateSnapshot where
  digest := "sha256:8d5c9b0202db0e0f944c31d4314cf94f9aad242c138b7f88d8a26069ab7bb2df"
  fileCount := 1
  byteCount := 56
  files := bareFiles otherManifestDigest

theorem index_ne_bareRecord :
    snapshotDigestIndexPath ≠ cachePath (bareRecord "p" barePayloadDigest).cacheKey := by
  decide +kernel

/-- The index that the run of `p` left. -/
theorem previousIndexOf_bareCache : previousIndexOf bareHost bareCache = bareIndex := by
  have hread : readFile bareCache snapshotDigestIndexPath = some (piecesBytes bareIndexJson) := by
    rw [readFile, bareCache, Function.update_of_ne index_ne_bareRecord, Function.update_self]
  have hcodec : bareHost.indexCodec.decode =
      tableDecode [(bareIndex, piecesBytes bareIndexJson)] := rfl
  have hdecode : bareHost.indexCodec.decode (piecesBytes bareIndexJson) = some bareIndex := by
    rw [hcodec]
    exact @tableDecode_of_mem _ [(bareIndex, piecesBytes bareIndexJson)] (List.nodup_singleton _)
      (bareIndex, piecesBytes bareIndexJson) (List.mem_singleton_self _)
  unfold previousIndexOf loadSnapshotDigestIndex
  simp only [hread, hdecode, bind, Option.bind_some]
  rfl

/-- A run of `q` whose manifest has a time of its own is not disturbed by `p`. -/
theorem cache_isolated_later : IsolatedRun bareGateHost [bareRun "p"] bareCache ⟨2, 0⟩
    (otherRun 2) := by
  have hunambiguous : Unambiguous bareHost.toSnapshotHost
      [(otherRun 2).moment, ⟨[.normal "p"], {}, bareFileSystem⟩] :=
    unambiguous_of_files (by decide +kernel)
  apply cache_isolated gateHistory_bare (otherRun 2) ⟨2, 0⟩ hunambiguous
  intro earlier hearlier hinputs
  obtain rfl := List.mem_singleton.mp hearlier
  obtain ⟨snapshot, hearlier, hnow⟩ := hinputs.snapshot
  have hbare : (bareRun "p").snapshot bareGateHost = .ok bareSnapshot :=
    snapshotDevGateInputs_eq_ok.mpr ⟨bareIndex, computeSnapshot_bare⟩
  have hother : (otherRun 2).snapshot bareGateHost = .ok otherSnapshot := by
    decide +kernel
  rw [hother] at hnow
  rw [hbare, ← hnow] at hearlier
  exact absurd (Except.ok.inj hearlier) (by decide)

/-- **Packages meet in the cache.**  The manifests of `p` and `q` have one length,
and here one time.  After a run of `p`, the run of `q` takes over the digest of
the manifest of `p`: its snapshot is that of `p`, and so is its key.  It finds
the record of `p`, and returns the report of `p`. -/
theorem cache_not_isolated :
    GateHistory bareGateHost [bareRun "p"] bareCache ∧
      bareRun "p" = ⟨bareFileSystem, sharedAuthority.request [.normal "p"] (barePolicy "p")⟩ ∧
      (snapshotDevGateInputsWithCache bareHost noFaults ⟨2, 0⟩ (otherRun 1).fs [.normal "q"] {}
        (some bareCache)).2 = .ok bareSnapshot ∧
      (snapshotDevGateInputsWithCache bareHost noFaults ⟨2, 0⟩ (otherRun 1).fs [.normal "q"] {}
        none).2 = .ok otherSnapshot ∧
      bareSnapshot ≠ otherSnapshot ∧
      (runAspRustDownstreamPolicy bareGateHost noRunFaults ⟨2, 0⟩ (otherRun 1).fs
        (otherRun 1).request (some bareCache)).2 = .ok bareReport ∧
      bareReport.rootPaths = [[.normal "p"]] := by
  have hcompute : computeSnapshot bareHost.toSnapshotHost (otherRun 1).fs [.normal "q"] {}
      (previousIndexOf bareHost bareCache) = .ok (bareSnapshot, bareIndex) := by
    rw [previousIndexOf_bareCache]
    decide +kernel
  have htidy : Tidy bareCache :=
    (gateHistory_bare.invariant (unambiguous_of_eq (bareRun "p").moment (by simp))).tidy
  have hsnapshot := snapshotDevGateInputsWithCache_of_tidy ⟨2, 0⟩ htidy hcompute
    indexCodec_encode_bare
  have hload : (some (Function.update bareCache snapshotDigestIndexPath
      (some (.file (piecesBytes bareIndexJson))))).bind (loadDevGateCache bareGateHost.toCacheHost ·
        (bareRecord "p" barePayloadDigest).cacheKey) = some (bareRecord "p" barePayloadDigest) := by
    rw [Option.bind_some,
      loadDevGateCache_congr (Function.update_of_ne index_ne_bareRecord.symm _ _)]
    exact loadDevGateCache_bareCache
  have hanswer : answerFromRecord bareGateHost (otherRun 1).request (otherRun 1).fs
      (bareRecord "p" barePayloadDigest) = .ok bareReport := by
    rw [answerFromRecord_of_agreement rfl rfl]
    rfl
  refine ⟨gateHistory_bare, rfl, congrArg Prod.snd hsnapshot, ?_, by decide, ?_, rfl⟩
  · rw [snapshotDevGateInputsWithCache_none]
    decide +kernel
  · rw [@runAspRustDownstreamPolicy_of_record bareGateHost noRunFaults ⟨2, 0⟩ (otherRun 1).fs
      (otherRun 1).request (some bareCache) _ bareSnapshot _ _ hsnapshot
      (requestCacheKey_bare "q" "p") hload]
    exact hanswer

end AspRust.DevGate
