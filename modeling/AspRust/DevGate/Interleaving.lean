import AspRust.DevGate.Transparency

/-!
# Runs among edits

The steps of a run see the file system one after the other: the snapshot is taken
at one moment, the package is analysed at a later one, and nothing compares the
two.  Here runs advance one step at a time, any number of them over one cache, and
files change between any two steps.

`advancePhase` is one step of a run; five steps without an edit are a run
(`advancePhase_uninterrupted`).  `GateWorldInvariant` says what holds of a world
that steps and edits lead to: the report and the plan of a stored record are the
analysis of the files at the analysis step, and its snapshot is that of the files
at the snapshot step (`storedRecord_moments`).  The two need not be the same files
(`storedRecord_edited`).

### Design notes

**Threads and worlds.**  A run is a thread with a phase, and a phase holds what the run
has computed so far.  A world has one file system, one cache and any number of threads.
It also keeps, for the proofs alone, the moments it went through and the records that
were stored (`StoredRecord`), with the moments of the snapshot and of the analysis.

**Edits are free.**  `GateWorld.edit` replaces the file system by any other one.  Nothing
is assumed of edits but, where the contents of a snapshot are concerned, that a content
does not change behind its length and time.

**What does not hold.**  It would be the natural invariant that report and snapshot of a
record are of one state.  No step of the code enforces it, and `storedRecord_edited` is a
run in which it fails: one library is added between the two steps.
-/

namespace AspRust.DevGate

open AspRust.Foundation AspRust.Discovery AspRust.Verification AspRust.Analysis

/-! ## Steps of a run

The phases of a run, and the step from one to the next.  A phase remembers in which
states of the file system its snapshot and its verdict were made; the code does not, and
the step does not look at it. -/

/-- How far a run is.  A phase remembers the states of the file system in which the
snapshot and the verdict were made. -/
inductive GatePhase where
  | start
  | snapshotted (snapshotFs : FileSystem) (snapshot : AspRustDevGateSnapshot)
  | keyed (snapshotFs : FileSystem) (snapshot : AspRustDevGateSnapshot) (cacheKey : String)
  /-- There is a record under the key. -/
  | found (record : AspRustDevGateCacheRecord)
  /-- There is no record under the key. -/
  | missed (snapshotFs : FileSystem) (snapshot : AspRustDevGateSnapshot) (cacheKey : String)
  | evaluated (snapshotFs verdictFs : FileSystem) (snapshot : AspRustDevGateSnapshot)
      (cacheKey : String) (verdict : AspRustReport × RustVerificationPlan)
  | finished (outcome : Outcome AspRustReport)

/-- A record that a run gives to `storeDevGateCache`, with what was asked and the
states of the file system it comes from. -/
structure StoredRecord where
  record : AspRustDevGateCacheRecord
  request : GateRequest
  snapshotFs : FileSystem
  verdictFs : FileSystem

section Steps

variable (host : GateHost) (faults : RunFaults) (process : PublishingProcess) (fs : FileSystem)
variable (request : GateRequest)

/-- One step of a run with a cache: the snapshot, the key, the load, the analysis
or the answer from the record, and the store. -/
def advancePhase (directory : CacheDirectory) : GatePhase → CacheDirectory × GatePhase
  | .start =>
      match snapshotDevGateInputsWithCache host.toCacheHost faults.index process fs
          request.projectRoot request.config (some directory) with
      | (cache, .error error) => (cache.getD directory,
          .finished (throw (request.stagePanic "dev-gate snapshot" error)))
      | (cache, .ok snapshot) => (cache.getD directory, .snapshotted fs snapshot)
  | .snapshotted snapshotFs snapshot =>
      match requestCacheKey host request snapshot with
      | .error fault => (directory, .finished (throw fault))
      | .ok cacheKey => (directory, .keyed snapshotFs snapshot cacheKey)
  | .keyed snapshotFs snapshot cacheKey =>
      match loadDevGateCache host.toCacheHost directory cacheKey with
      | some record => (directory, .found record)
      | none => (directory, .missed snapshotFs snapshot cacheKey)
  | .found record => (directory, .finished (answerFromRecord host request fs record))
  | .missed snapshotFs snapshot cacheKey =>
      match evaluatePackage host request fs with
      | .error fault => (directory, .finished (throw fault))
      | .ok verdict => (directory, .evaluated snapshotFs fs snapshot cacheKey verdict)
  | .evaluated _ _ snapshot cacheKey verdict =>
      match publishVerdict host request faults.record process.next snapshot cacheKey verdict
          directory with
      | (directory, .error fault) => (directory, .finished (throw fault))
      | (directory, .ok ()) => (directory, .finished (return verdict.1))
  | .finished outcome => (directory, .finished outcome)

/-- The record that the next step stores, if that is the store. -/
def storedIn : GatePhase → List StoredRecord
  | .evaluated snapshotFs verdictFs snapshot cacheKey verdict =>
      match requestRecord host request snapshot cacheKey verdict with
      | .error _ => []
      | .ok record => [⟨record, request, snapshotFs, verdictFs⟩]
  | _ => []

/-- The moment that the next step sees, if that is the snapshot. -/
def momentIn : GatePhase → List Moment
  | .start => [⟨request.projectRoot, request.config, fs⟩]
  | _ => []

end Steps

/-- A snapshot with a cache leaves a cache. -/
theorem exists_snapshotDevGateInputsWithCache (host : CacheHost) (faults : FaultPlan)
    (process : PublishingProcess) (fs : FileSystem) (root : Path) (config : AspRustConfig)
    (directory : CacheDirectory) :
    ∃ after result, snapshotDevGateInputsWithCache host faults process fs root config
      (some directory) = (some after, result) := by
  unfold snapshotDevGateInputsWithCache
  dsimp only
  split
  · exact ⟨_, _, rfl⟩
  · split
    · exact ⟨_, _, rfl⟩
    · exact ⟨_, _, rfl⟩

/-- **Steps without edits are a run.** -/
theorem advancePhase_uninterrupted (host : GateHost) (faults : RunFaults)
    (process : PublishingProcess) (fs : FileSystem) (request : GateRequest)
    (directory : CacheDirectory) :
    (fun state => advancePhase host faults process fs request state.1 state.2)^[5]
        (directory, .start) =
      ((runAspRustDownstreamPolicy host faults process fs request (some directory)).1.getD
          directory,
        .finished (runAspRustDownstreamPolicy host faults process fs request
          (some directory)).2) := by
  obtain ⟨after, result, hsnapshot⟩ := exists_snapshotDevGateInputsWithCache host.toCacheHost
    faults.index process fs request.projectRoot request.config directory
  simp only [Function.iterate_succ_apply, Function.iterate_zero_apply]
  unfold runAspRustDownstreamPolicy
  rw [advancePhase, hsnapshot]
  cases result with
  | error error => rfl
  | ok snapshot =>
      dsimp only [Option.getD_some]
      rw [advancePhase]
      cases requestCacheKey host request snapshot with
      | error fault => rfl
      | ok cacheKey =>
          dsimp only [Option.bind_some]
          rw [advancePhase]
          cases loadDevGateCache host.toCacheHost after cacheKey with
          | some record => rfl
          | none =>
              dsimp only
              rw [advancePhase]
              cases evaluatePackage host request fs with
              | error fault => rfl
              | ok verdict =>
                  dsimp only
                  rw [advancePhase]
                  rcases publishVerdict host request faults.record process.next snapshot cacheKey
                    verdict after with ⟨stored, fault | ⟨⟩⟩ <;> rfl

/-! ## Worlds

Threads, one cache and one file system that can be edited at any time.  Every step of a
run is made in the state of the moment. -/

/-- A run in a world: what it is asked, and how far it is. -/
structure GateThread where
  request : GateRequest
  phase : GatePhase

/-- A file system, a cache and runs that share them.  The moments of the snapshots
so far and the records stored so far are kept for what is said about them; no step
reads them. -/
structure GateWorld where
  fs : FileSystem
  directory : CacheDirectory
  runs : ℕ → Option GateThread
  moments : List Moment
  stored : List StoredRecord

namespace GateWorld

/-- The world before the first run, with an empty cache. -/
def initial (fs : FileSystem) : GateWorld := ⟨fs, fun _ => none, fun _ => none, [], []⟩

/-- The files change. -/
def edit (fs : FileSystem) (world : GateWorld) : GateWorld := { world with fs }

/-- A run begins. -/
def begin (id : ℕ) (request : GateRequest) (world : GateWorld) : GateWorld :=
  { world with runs := Function.update world.runs id (some ⟨request, .start⟩) }

/-- A run takes a step. -/
def advance (host : GateHost) (faults : RunFaults) (process : PublishingProcess) (id : ℕ)
    (world : GateWorld) : GateWorld :=
  match world.runs id with
  | none => world
  | some run =>
      let after := advancePhase host faults process world.fs run.request world.directory run.phase
      { world with
        directory := after.1
        runs := Function.update world.runs id (some { run with phase := after.2 })
        moments := momentIn world.fs run.request run.phase ++ world.moments
        stored := storedIn host run.request run.phase ++ world.stored }

end GateWorld

/-- What can happen next in a world.  Runs take their steps in any order, their
cache operations may fail, and files change at any time. -/
inductive GateWorldStep (host : GateHost) : GateWorld → GateWorld → Prop where
  | edit (world : GateWorld) (fs : FileSystem) : GateWorldStep host world (world.edit fs)
  | begin (world : GateWorld) (id : ℕ) (request : GateRequest) :
      GateWorldStep host world (world.begin id request)
  | advance (world : GateWorld) (faults : RunFaults) (process : PublishingProcess) (id : ℕ) :
      GateWorldStep host world (world.advance host faults process id)

/-- The worlds that steps and edits lead to. -/
def GateReachable (host : GateHost) (world : GateWorld) : Prop :=
  ∃ fs, Relation.ReflTransGen (GateWorldStep host) (.initial fs) world

/-! ## What holds of a phase

What a run has computed so far is what is computed in the states that its phase
remembers. -/

section Sound

variable (host : GateHost) (moments : List Moment)

/-- The snapshot is that of the files in this state, if length and time determine
contents over the moments. -/
def SnapshotTaken (request : GateRequest) (fs : FileSystem) (snapshot : AspRustDevGateSnapshot) :
    Prop :=
  Unambiguous host.toSnapshotHost moments →
    snapshotDevGateInputs host.toSnapshotHost fs request.projectRoot request.config = .ok snapshot

/-- What a phase carries was computed in the states it remembers. -/
def PhaseSound (request : GateRequest) : GatePhase → Prop
  | .snapshotted snapshotFs snapshot => SnapshotTaken host moments request snapshotFs snapshot
  | .keyed snapshotFs snapshot cacheKey | .missed snapshotFs snapshot cacheKey =>
      SnapshotTaken host moments request snapshotFs snapshot ∧
        requestCacheKey host request snapshot = .ok cacheKey
  | .evaluated snapshotFs verdictFs snapshot cacheKey verdict =>
      SnapshotTaken host moments request snapshotFs snapshot ∧
        requestCacheKey host request snapshot = .ok cacheKey ∧
        evaluatePackage host request verdictFs = .ok verdict
  | .start | .found _ | .finished _ => True

/-- What a stored record carries was computed in the states it comes from. -/
structure StoredSound (stored : StoredRecord) : Prop where
  verdict : requestVerdict host stored.request stored.verdictFs =
    .ok (stored.record.report, stored.record.verificationPlan)
  snapshot : SnapshotTaken host moments stored.request stored.snapshotFs stored.record.snapshot

end Sound

section SoundSteps

variable {host : GateHost} {moments more : List Moment} {request : GateRequest}
variable {phase : GatePhase} {directory : CacheDirectory}

theorem SnapshotTaken.mono {fs : FileSystem} {snapshot : AspRustDevGateSnapshot}
    (h : SnapshotTaken host moments request fs snapshot) (hsubset : moments ⊆ more) :
    SnapshotTaken host more request fs snapshot :=
  fun hunambiguous => h (hunambiguous.mono hsubset)

theorem PhaseSound.mono (h : PhaseSound host moments request phase) (hsubset : moments ⊆ more) :
    PhaseSound host more request phase := by
  cases phase with
  | start | found | finished => trivial
  | snapshotted => exact SnapshotTaken.mono h hsubset
  | keyed | missed => exact ⟨h.1.mono hsubset, h.2⟩
  | evaluated => exact ⟨h.1.mono hsubset, h.2⟩

theorem StoredSound.mono {stored : StoredRecord} (h : StoredSound host moments stored)
    (hsubset : moments ⊆ more) : StoredSound host more stored :=
  ⟨h.verdict, h.snapshot.mono hsubset⟩

/-- A record that a sound phase stores is sound. -/
theorem storedIn_sound (h : PhaseSound host moments request phase) {stored : StoredRecord}
    (hstored : stored ∈ storedIn host request phase) : StoredSound host moments stored := by
  cases phase with
  | evaluated snapshotFs verdictFs snapshot cacheKey verdict =>
      obtain ⟨htaken, -, hverdict⟩ := h
      dsimp only [storedIn] at hstored
      split at hstored
      · simp at hstored
      · next record hrecord =>
          obtain rfl := List.mem_singleton.mp hstored
          obtain ⟨hsnapshot, -, hmade, -, -⟩ := fields_of_requestRecord hrecord
          exact ⟨by rw [hmade]; exact verdict_of_evaluatePackage hverdict, by rwa [hsnapshot]⟩
  | _ => simp [storedIn] at hstored

variable (faults : RunFaults) (process : PublishingProcess) (fs : FileSystem)

/-- **A step keeps a phase sound.** -/
theorem PhaseSound.advance (h : PhaseSound host moments request phase)
    (hindex : Unambiguous host.toSnapshotHost moments →
      CacheIndexFaithful host.toCacheHost moments directory) :
    PhaseSound host (momentIn fs request phase ++ moments) request
      (advancePhase host faults process fs request directory phase).2 := by
  cases phase with
  | start =>
      dsimp only [advancePhase]
      split
      · trivial
      · next cache snapshot hsnapshot =>
          intro hunambiguous
          have hfaithful := hindex (hunambiguous.mono (List.subset_append_right _ _))
          exact snapshotDevGateInputs_of_withCache hfaithful hunambiguous
            (congrArg Prod.snd hsnapshot)
  | snapshotted snapshotFs snapshot =>
      dsimp only [advancePhase]
      split
      · trivial
      · next cacheKey hkey => exact ⟨h, hkey⟩
  | keyed snapshotFs snapshot cacheKey =>
      dsimp only [advancePhase]
      split
      · trivial
      · exact h
  | missed snapshotFs snapshot cacheKey =>
      dsimp only [advancePhase]
      split
      · trivial
      · next verdict hverdict => exact ⟨h.1, h.2, hverdict⟩
  | evaluated =>
      dsimp only [advancePhase]
      split <;> trivial
  | found | finished => trivial

end SoundSteps

/-! ## What a step leaves in the cache

A step changes the index, adds a record, or leaves the cache as it is; with failures it
may also leave temporary files. -/

section Directory

variable {host : GateHost} {moments : List Moment} {request : GateRequest}
variable {directory : CacheDirectory} {faults : RunFaults} {process : PublishingProcess}
variable {fs : FileSystem}

/-- The ways in which a step can change the cache. -/
inductive StepLeaves (host : GateHost) (fs : FileSystem) (request : GateRequest)
    (directory : CacheDirectory) : GatePhase → CacheDirectory → Prop where
  /-- Most steps change nothing. -/
  | unchanged {phase : GatePhase} (hstart : momentIn fs request phase = []) :
      StepLeaves host fs request directory phase directory
  /-- The snapshot publishes its index. -/
  | indexed (faults : FaultPlan) (process : PublishingProcess) :
      StepLeaves host fs request directory .start
        (cacheAfterSnapshot host.toCacheHost faults process fs request.projectRoot request.config
          directory)
  /-- The store publishes its record. -/
  | stored (faults : FaultPlan) (process : PublishingProcess) {snapshotFs verdictFs : FileSystem}
      {snapshot : AspRustDevGateSnapshot} {cacheKey : String}
      {verdict : AspRustReport × RustVerificationPlan} {record : AspRustDevGateCacheRecord}
      (hrecord : requestRecord host request snapshot cacheKey verdict = .ok record) :
      StepLeaves host fs request directory
        (.evaluated snapshotFs verdictFs snapshot cacheKey verdict)
        (storeDevGateCache host.toCacheHost faults process record directory).1

/-- **What a step can do to the cache.** -/
theorem advancePhase_leaves (host : GateHost) (faults : RunFaults) (process : PublishingProcess)
    (fs : FileSystem) (request : GateRequest) (directory : CacheDirectory) (phase : GatePhase) :
    StepLeaves host fs request directory phase
      (advancePhase host faults process fs request directory phase).1 := by
  cases phase with
  | start =>
      have hleft : (advancePhase host faults process fs request directory .start).1 =
          cacheAfterSnapshot host.toCacheHost faults.index process fs request.projectRoot
            request.config directory := by
        dsimp only [advancePhase, cacheAfterSnapshot]
        split <;> next heq => rw [heq]
      rw [hleft]
      exact .indexed faults.index process
  | snapshotted snapshotFs snapshot =>
      dsimp only [advancePhase]
      split <;> exact .unchanged rfl
  | keyed snapshotFs snapshot cacheKey =>
      dsimp only [advancePhase]
      split <;> exact .unchanged rfl
  | missed snapshotFs snapshot cacheKey =>
      dsimp only [advancePhase]
      split <;> exact .unchanged rfl
  | found | finished => exact .unchanged rfl
  | evaluated snapshotFs verdictFs snapshot cacheKey verdict =>
      have hleft : (advancePhase host faults process fs request directory
          (.evaluated snapshotFs verdictFs snapshot cacheKey verdict)).1 =
          (publishVerdict host request faults.record process.next snapshot cacheKey verdict
            directory).1 := by
        dsimp only [advancePhase]
        split <;> next heq => rw [heq]
      rw [hleft]
      dsimp only [publishVerdict]
      split
      · exact .unchanged rfl
      · next record hrecord =>
          have hstore := @StepLeaves.stored host fs request directory faults.record process.next
            snapshotFs verdictFs snapshot cacheKey verdict record hrecord
          split <;> next heq => rwa [heq] at hstore

/-- A snapshot changes no record. -/
theorem loadDevGateCache_cacheAfterSnapshot (host : CacheHost) (faults : FaultPlan)
    (process : PublishingProcess) (fs : FileSystem) (root : Path) (config : AspRustConfig)
    (directory : CacheDirectory) (content : List UInt8) :
    loadDevGateCache host
        (cacheAfterSnapshot host faults process fs root config directory)
        (contentDigest host.sha256 content) =
      loadDevGateCache host directory (contentDigest host.sha256 content) := by
  unfold cacheAfterSnapshot snapshotDevGateInputsWithCache
  dsimp only
  split
  · rfl
  · next snapshot nextIndex hcompute =>
      have hstore := (storeSnapshotDigestIndex_ends host faults process nextIndex directory).frame
        (indexTemporary_ne_cachePath process (contentDigest host.sha256 content)).symm
        (cachePath_ne_index host.sha256 content)
      split <;> next heq => rw [heq] at hstore; exact loadDevGateCache_congr hstore

/-- A record found after a step is the one the step stored, or was there. -/
theorem StepLeaves.load {phase : GatePhase} {after : CacheDirectory}
    (h : StepLeaves host fs request directory phase after) {content : List UInt8}
    {record : AspRustDevGateCacheRecord}
    (hload : loadDevGateCache host.toCacheHost after (contentDigest host.sha256 content) =
      some record) :
    (∃ stored ∈ storedIn host request phase, stored.record = record) ∨
      loadDevGateCache host.toCacheHost directory (contentDigest host.sha256 content) =
        some record := by
  cases h with
  | unchanged => exact Or.inr hload
  | indexed faults process =>
      rw [loadDevGateCache_cacheAfterSnapshot] at hload
      exact Or.inr hload
  | @stored faults process snapshotFs verdictFs snapshot cacheKey verdict stored hrecord =>
      rcases load_after_storeDevGateCache hload with rfl | hbefore
      · refine Or.inl ⟨⟨record, request, snapshotFs, verdictFs⟩, ?_, rfl⟩
        simp [storedIn, hrecord]
      · exact Or.inr hbefore

/-- **A step keeps the index faithful.** -/
theorem StepLeaves.faithful {phase : GatePhase} {after : CacheDirectory}
    (h : StepLeaves host fs request directory phase after)
    (hsound : PhaseSound host moments request phase)
    (hfaithful : CacheIndexFaithful host.toCacheHost moments directory)
    (hunambiguous : Unambiguous host.toSnapshotHost (momentIn fs request phase ++ moments)) :
    CacheIndexFaithful host.toCacheHost (momentIn fs request phase ++ moments) after := by
  cases h with
  | unchanged hstart => rwa [hstart]
  | indexed faults process => exact hfaithful.snapshot hunambiguous
  | @stored faults process snapshotFs verdictFs snapshot cacheKey verdict record hrecord =>
      -- the key is a digest, so the record is not in the place of the index
      obtain ⟨keyBytes, -, hkey⟩ := exists_of_requestCacheKey hsound.2.1
      have hname : snapshotDigestIndexPath ≠ cachePath record.cacheKey := by
        rw [(fields_of_requestRecord hrecord).2.1, hkey]
        exact (cachePath_ne_index host.sha256 keyBytes).symm
      have hsame := (storeDevGateCache_ends host.toCacheHost faults process record directory).frame
        (temporary_ne_index process).symm hname
      intro index hload
      rw [loadSnapshotDigestIndex_congr hsame] at hload
      exact hfaithful index hload

end Directory

/-! ## What holds of a world

The invariant of a world, step by step. -/

/-- What holds of a world: runs and stored records are sound, the index is
faithful where length and time determine contents, and the records in the cache
were stored by runs. -/
structure GateWorldInvariant (host : GateHost) (world : GateWorld) : Prop where
  runs : ∀ id run, world.runs id = some run → PhaseSound host world.moments run.request run.phase
  stored : ∀ stored ∈ world.stored, StoredSound host world.moments stored
  faithful : Unambiguous host.toSnapshotHost world.moments →
    CacheIndexFaithful host.toCacheHost world.moments world.directory
  records : ∀ content record,
    loadDevGateCache host.toCacheHost world.directory (contentDigest host.sha256 content) =
      some record → ∃ stored ∈ world.stored, stored.record = record

section Worlds

variable {host : GateHost} {world next : GateWorld}

theorem gateWorldInvariant_initial (host : GateHost) (fs : FileSystem) :
    GateWorldInvariant host (.initial fs) where
  runs := by simp [GateWorld.initial]
  stored := by simp [GateWorld.initial]
  faithful := fun _ => (cacheInvariant_empty host).faithful
  records := fun content record hload => by
    obtain ⟨earlier, hearlier, -⟩ := (cacheInvariant_empty host).records content record hload
    exact absurd hearlier (List.not_mem_nil)

/-- A run after one run has changed is that one, or as before. -/
theorem thread_of_update {runs : ℕ → Option GateThread} {id other : ℕ} {run thread : GateThread}
    (h : Function.update runs id (some run) other = some thread) :
    thread = run ∨ runs other = some thread := by
  by_cases hother : other = id
  · rw [hother, Function.update_self] at h
    exact Or.inl (Option.some.inj h).symm
  · rw [Function.update_of_ne hother] at h
    exact Or.inr h

/-- A run that takes a step keeps the invariant. -/
theorem GateWorldInvariant.advance (h : GateWorldInvariant host world) (faults : RunFaults)
    (process : PublishingProcess) (id : ℕ) :
    GateWorldInvariant host (world.advance host faults process id) := by
  unfold GateWorld.advance
  split
  · exact h
  · next run hrun =>
      have hsound := h.runs id run hrun
      have hsubset : world.moments ⊆ momentIn world.fs run.request run.phase ++ world.moments :=
        List.subset_append_right _ _
      have hleaves := advancePhase_leaves host faults process world.fs run.request world.directory
        run.phase
      refine ⟨fun other thread hthread => ?_, fun stored hstored => ?_, fun hunambiguous => ?_,
        fun content record hload => ?_⟩
      · rcases thread_of_update hthread with rfl | hkept
        · exact hsound.advance faults process world.fs h.faithful
        · exact (h.runs other thread hkept).mono hsubset
      · rcases List.mem_append.mp hstored with hnew | hold
        · exact (storedIn_sound hsound hnew).mono hsubset
        · exact (h.stored stored hold).mono hsubset
      · exact hleaves.faithful hsound (h.faithful (hunambiguous.mono hsubset)) hunambiguous
      · rcases hleaves.load hload with ⟨stored, hnew, hrecord⟩ | hbefore
        · exact ⟨stored, List.mem_append_left _ hnew, hrecord⟩
        · obtain ⟨stored, hold, hrecord⟩ := h.records content record hbefore
          exact ⟨stored, List.mem_append_right _ hold, hrecord⟩

/-- **One step keeps the invariant.** -/
theorem GateWorldInvariant.step (h : GateWorldInvariant host world)
    (hstep : GateWorldStep host world next) : GateWorldInvariant host next := by
  cases hstep with
  | edit fs => exact ⟨h.runs, h.stored, h.faithful, h.records⟩
  | begin id request =>
      refine ⟨fun other thread hthread => ?_, h.stored, h.faithful, h.records⟩
      rcases thread_of_update hthread with rfl | hkept
      · trivial
      · exact h.runs other thread hkept
  | advance faults process id => exact h.advance faults process id

/-- The invariant holds of every world that steps and edits lead to. -/
theorem GateReachable.invariant (h : GateReachable host world) : GateWorldInvariant host world := by
  obtain ⟨fs, hsteps⟩ := h
  induction hsteps with
  | refl => exact gateWorldInvariant_initial host fs
  | tail _ hstep ih => exact ih.step hstep

end Worlds

/-! ## Stored records

What the invariant says of records, and a run in which the two moments of a record see
different files. -/

/-- The report and the plan of a record are the analysis of the contents that its
snapshot describes: there are files with this snapshot that give them. -/
def RecordConsistent (host : GateHost) (request : GateRequest)
    (record : AspRustDevGateCacheRecord) : Prop :=
  ∃ fs, snapshotDevGateInputs host.toSnapshotHost fs request.projectRoot request.config =
      .ok record.snapshot ∧
    requestVerdict host request fs = .ok (record.report, record.verificationPlan)

/-- **Stored records under edits.**  However edits fall among the steps of runs, a
record in the cache was stored by a run; the report and the plan of a stored record
are the analysis of the files at the analysis step; and, where length and time
determine the content of a path, its snapshot is that of the files at the snapshot
step, and the record is consistent if the snapshot would have been the same at the
analysis step. -/
theorem storedRecord_moments {host : GateHost} {world : GateWorld}
    (h : GateReachable host world) :
    (∀ content record,
      loadDevGateCache host.toCacheHost world.directory (contentDigest host.sha256 content) =
        some record → ∃ stored ∈ world.stored, stored.record = record) ∧
    ∀ stored ∈ world.stored,
      requestVerdict host stored.request stored.verdictFs =
        .ok (stored.record.report, stored.record.verificationPlan) ∧
      (Unambiguous host.toSnapshotHost world.moments →
        snapshotDevGateInputs host.toSnapshotHost stored.snapshotFs stored.request.projectRoot
            stored.request.config = .ok stored.record.snapshot ∧
        (snapshotDevGateInputs host.toSnapshotHost stored.verdictFs stored.request.projectRoot
              stored.request.config =
            snapshotDevGateInputs host.toSnapshotHost stored.snapshotFs
              stored.request.projectRoot stored.request.config →
          RecordConsistent host stored.request stored.record)) := by
  refine ⟨h.invariant.records, fun stored hstored => ?_⟩
  obtain ⟨hverdict, hsnapshot⟩ := h.invariant.stored stored hstored
  refine ⟨hverdict, fun hunambiguous => ⟨hsnapshot hunambiguous, fun hsame => ?_⟩⟩
  exact ⟨stored.verdictFs, hsame.trans (hsnapshot hunambiguous), hverdict⟩

section Edited

variable {host : GateHost} {request : GateRequest} {fs snapshotFs verdictFs : FileSystem}
variable {directory after : CacheDirectory} {moments : List Moment} {phase next : GatePhase}

/-- Steps and edits lead to a world with a run in this phase. -/
def RunReaches (host : GateHost) (request : GateRequest) (fs : FileSystem)
    (directory : CacheDirectory) (moments : List Moment) (phase : GatePhase) : Prop :=
  ∃ world, GateReachable host world ∧ world.runs 0 = some ⟨request, phase⟩ ∧ world.fs = fs ∧
    world.directory = directory ∧ world.moments = moments

theorem runReaches_start (host : GateHost) (request : GateRequest) (fs : FileSystem) :
    RunReaches host request fs (fun _ => none) [] .start :=
  ⟨(GateWorld.initial fs).begin 0 request, ⟨fs, .single (.begin _ 0 request)⟩,
    by simp [GateWorld.begin], rfl, rfl, rfl⟩

/-- A step of the run, without failures. -/
theorem RunReaches.advance (h : RunReaches host request fs directory moments phase)
    (hstep : advancePhase host noRunFaults ⟨1, 0⟩ fs request directory phase = (after, next)) :
    RunReaches host request fs after (momentIn fs request phase ++ moments) next := by
  obtain ⟨world, ⟨start, hsteps⟩, hrun, rfl, rfl, rfl⟩ := h
  refine ⟨world.advance host noRunFaults ⟨1, 0⟩ 0,
    ⟨start, hsteps.tail (.advance _ noRunFaults ⟨1, 0⟩ 0)⟩, ?_⟩
  simp [GateWorld.advance, hrun, hstep]

/-- An edit during the run. -/
theorem RunReaches.edit (h : RunReaches host request fs directory moments phase)
    (edited : FileSystem) : RunReaches host request edited directory moments phase := by
  obtain ⟨world, ⟨start, hsteps⟩, hrun, -, hdirectory, hmoments⟩ := h
  exact ⟨world.edit edited, ⟨start, hsteps.tail (.edit _ edited)⟩, hrun, rfl, hdirectory, hmoments⟩

/-- The record of the run is among the stored ones after its last step. -/
theorem RunReaches.stored (h : RunReaches host request fs directory moments phase)
    {stored : StoredRecord} (hstored : stored ∈ storedIn host request phase) :
    ∃ world, GateReachable host world ∧ world.moments = momentIn fs request phase ++ moments ∧
      stored ∈ world.stored := by
  obtain ⟨world, ⟨start, hsteps⟩, hrun, rfl, rfl, rfl⟩ := h
  refine ⟨world.advance host noRunFaults ⟨1, 0⟩ 0,
    ⟨start, hsteps.tail (.advance _ noRunFaults ⟨1, 0⟩ 0)⟩, ?_⟩
  simp [GateWorld.advance, hrun, hstored]

/-- A first run whose files change before the analysis, from one state to any
other. -/
theorem exists_stored_of_edit {snapshot : AspRustDevGateSnapshot}
    {nextIndex : AspRustSnapshotDigestIndex} {bytes : List UInt8} {cacheKey : String}
    {verdict : AspRustReport × RustVerificationPlan} {record : AspRustDevGateCacheRecord}
    (hcompute : computeSnapshot host.toSnapshotHost snapshotFs request.projectRoot request.config
      {} = .ok (snapshot, nextIndex))
    (hindex : host.indexCodec.encode nextIndex = .ok bytes)
    (hkey : requestCacheKey host request snapshot = .ok cacheKey)
    (hverdict : evaluatePackage host request verdictFs = .ok verdict)
    (hrecord : requestRecord host request snapshot cacheKey verdict = .ok record) :
    ∃ world, GateReachable host world ∧ world.moments = [⟨request.projectRoot, request.config, snapshotFs⟩] ∧
      ⟨record, request, snapshotFs, verdictFs⟩ ∈ world.stored := by
  have hsnapshot := snapshotDevGateInputsWithCache_of_tidy ⟨1, 0⟩ tidy_empty hcompute hindex
  have hmiss : loadDevGateCache host.toCacheHost (Function.update (fun _ => none)
      snapshotDigestIndexPath (some (.file bytes))) cacheKey = none := by
    obtain ⟨keyBytes, -, rfl⟩ := exists_of_requestCacheKey hkey
    rw [loadDevGateCache_after_index]
    rfl
  have hsnapshotted : RunReaches host request snapshotFs
      (Function.update (fun _ => none) snapshotDigestIndexPath (some (.file bytes)))
      [⟨request.projectRoot, request.config, snapshotFs⟩] (.snapshotted snapshotFs snapshot) :=
    (runReaches_start host request snapshotFs).advance (by
      rw [advancePhase, noRunFaults, hsnapshot]
      rfl)
  have hkeyed := hsnapshotted.advance (by rw [advancePhase, hkey])
  have hmissed := hkeyed.advance (by rw [advancePhase, hmiss])
  have hevaluated := (hmissed.edit verdictFs).advance (by rw [advancePhase, hverdict])
  exact hevaluated.stored (by simp [storedIn, hrecord])

end Edited

/-- The package in `/` with a manifest only. -/
def rootPackage : FileSystem where
  root := .directory [("Cargo.toml", .file (bareManifest "p") 1)]
  wellFormed := by decide

/-- The package in `/` after an empty `src/lib.rs` was added. -/
def rootLibrary : FileSystem where
  root := .directory [("Cargo.toml", .file (bareManifest "p") 1),
    ("src", .directory [("lib.rs", .file [] 2)])]
  wellFormed := by decide

/-- The gate of the package in `/`. -/
def rootRequest : GateRequest := { bareRequest "p" "p" with projectRoot := [] }

theorem computeSnapshot_rootPackage :
    computeSnapshot bareHost.toSnapshotHost rootPackage [] {} {} =
      .ok (bareSnapshot, bareIndex) := by
  decide +kernel

theorem evaluatePackage_rootLibrary :
    evaluatePackage bareGateHost rootRequest rootLibrary = .ok (libraryReport, libraryPlan) := by
  have hverdict : (packageVerdict bareAnalysisHost [] {}).run
      (answers bareManifestReader rootLibrary) = .ok (libraryReport, libraryPlan) := by
    decide +kernel
  rw [evaluatePackage_of_verdict (show requestVerdict bareGateHost rootRequest rootLibrary =
    .ok (libraryReport, libraryPlan) from hverdict)]
  rfl

/-- The run of `p` without edits, as the steps of a world: its record is
consistent. -/
theorem storedRecord_bare :
    ∃ world, GateReachable bareGateHost world ∧ ∃ stored ∈ world.stored,
      stored.record = bareRecord "p" barePayloadDigest ∧
        RecordConsistent bareGateHost stored.request stored.record := by
  obtain ⟨world, hreachable, hmoments, hstored⟩ := exists_stored_of_edit
    (show computeSnapshot bareGateHost.toSnapshotHost bareFileSystem
      (bareRequest "p" "p").projectRoot (bareRequest "p" "p").config {} = _ from
        computeSnapshot_bare)
    indexCodec_encode_bare (requestCacheKey_bare "p" "p") (evaluatePackage_bare "p")
    devGateCacheRecord_bare
  refine ⟨world, hreachable, _, hstored, rfl, ?_⟩
  have hunambiguous : Unambiguous bareHost.toSnapshotHost world.moments := by
    rw [hmoments]
    exact unambiguous_of_eq _ (fun _ => List.mem_singleton.mp)
  exact (((storedRecord_moments hreachable).2 _ hstored).2 hunambiguous).2 rfl

/-- **An edit between the snapshot and the analysis.**  A library that is added
there is in the report of the stored record, and not in its snapshot: no files with
that snapshot have that report. -/
theorem storedRecord_edited :
    ∃ world, GateReachable bareGateHost world ∧ ∃ stored ∈ world.stored,
      ¬ RecordConsistent bareGateHost stored.request stored.record := by
  obtain ⟨world, hreachable, -, hstored⟩ := exists_stored_of_edit
    (show computeSnapshot bareGateHost.toSnapshotHost rootPackage rootRequest.projectRoot
      rootRequest.config {} = _ from computeSnapshot_rootPackage)
    indexCodec_encode_bare
    (show requestCacheKey bareGateHost rootRequest bareSnapshot = _ from
      requestCacheKey_bare "p" "p")
    evaluatePackage_rootLibrary devGateCacheRecord_library
  refine ⟨world, hreachable, _, hstored, ?_⟩
  rintro ⟨fs, hsnapshot, hverdict⟩
  have hpaths := packageVerdict_paths hverdict
  have hreported : [.normal "src", .normal "lib.rs"] ∈
      libraryReport.modules.map fun module => module.path := List.mem_singleton_self _
  have hlisted : [.normal "src", .normal "lib.rs"] ∈
      bareSnapshot.files.map fun file => ([] : Path) ++ file.path :=
    mem_paths_of_discovered rfl hsnapshot (hpaths ▸ hreported)
  exact absurd hlisted (by decide)

end AspRust.DevGate
