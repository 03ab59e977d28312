import AspRust.DevGate.Publication
import AspRust.DevGate.SnapshotWalk

/-!
# The digest index between runs

Every snapshot leaves its digest index in the cache for the next one, which
takes over the digest of a file whose length and modification time are as the
index has them.  A missing or unreadable index counts as an empty one.

What makes this right is an invariant of the index alone: every entry is the
digest of a content that the path really had, at some moment, with that length
and that time (`IndexFaithful`).  Where a length and a time determine the content
of a path over the moments of a history (`Unambiguous`), a snapshot with a
faithful index is the snapshot that reads every file
(`computeSnapshot_of_faithful`), and leaves a faithful index.

### Design notes

**Moments.**  A history is a list of `Moment`s: the states in which snapshots were
taken, each with its root and configuration.  Length and time need to determine the
content of a path only over the files that these snapshots visit (`Moment.Visits`);
what lies elsewhere in the file system never comes into an index.

**The invariant does not mention the snapshots before.**  `IndexFaithful` says where an
entry comes from, not which snapshot wrote it.  So it survives a lost index, which is
the empty one, and an index of any earlier moment that a failed publication left in
place, and it says nothing of how often or in which order snapshots were taken.

**What can be lost.**  Between two snapshots of a `SnapshotHistory` the files, the
configuration and the faults are free, and the index may be removed or overwritten by
bytes that do not decode.  Bytes that decode to an index nobody wrote are not allowed
for: no check of the code could tell them from its own.
-/

namespace AspRust.DevGate

open AspRust.Foundation AspRust.Discovery

/-! ## Reading and writing the index

The index is published as a record is, under a name of its own; a failure to read it is
no error. -/

/-- The name of the index file. -/
def snapshotDigestIndexPath : String := "snapshot-digest-index.v1.json"

/-- The temporary file of an index publication. -/
def PublishingProcess.indexTemporary (process : PublishingProcess) : String :=
  ".snapshot-index." ++ toString process.id ++ "." ++ toString process.sequence ++ ".tmp"

/-- The failure texts of an index publication. -/
def indexStageTexts : StageTexts where
  createDirectory := "create dev-gate snapshot index directory: "
  serialize := "serialize dev-gate snapshot index: "
  createTemporary := "create dev-gate snapshot index temporary file: "
  write := "write dev-gate snapshot index temporary file: "

section Host

variable (host : CacheHost)

/-- The index in the cache, if it can be read and has the current schema. -/
def loadSnapshotDigestIndex (directory : CacheDirectory) : Option AspRustSnapshotDigestIndex := do
  let bytes ← readFile directory snapshotDigestIndexPath
  let index ← host.indexCodec.decode bytes
  if index.schemaId = snapshotDigestIndexSchemaId ∧
      index.schemaVersion = snapshotDigestIndexSchemaVersion then some index else none

/-- Publish an index. -/
def storeSnapshotDigestIndex (faults : FaultPlan) (process : PublishingProcess)
    (index : AspRustSnapshotDigestIndex) (directory : CacheDirectory) :
    CacheDirectory × Except String Unit :=
  publishFile faults indexStageTexts process.indexTemporary snapshotDigestIndexPath
    (host.indexCodec.encode index)
    (fun _ error => .error ("publish dev-gate snapshot index: " ++ error)) directory

/-- The snapshot of the inputs of a run, with the cache it uses, if any. -/
def snapshotDevGateInputsWithCache (faults : FaultPlan) (process : PublishingProcess)
    (fs : FileSystem) (projectRoot : Path) (config : AspRustConfig)
    (cache : Option CacheDirectory) :
    Option CacheDirectory × Except String AspRustDevGateSnapshot :=
  let previousIndex := (cache.bind (loadSnapshotDigestIndex host)).getD {}
  match computeSnapshot host.toSnapshotHost fs projectRoot config previousIndex with
  | .error error => (cache, .error error)
  | .ok (snapshot, nextIndex) =>
      match cache with
      | none => (none, .ok snapshot)
      | some directory =>
          match storeSnapshotDigestIndex host faults process nextIndex directory with
          | (directory, .error error) => (some directory, .error error)
          | (directory, .ok ()) => (some directory, .ok snapshot)

end Host

/-! ## What an index publication leaves

The index that is read afterwards is the one that was written or the one before. -/

section Store

variable {host : CacheHost} {faults : FaultPlan} {process : PublishingProcess}
variable {index : AspRustSnapshotDigestIndex} {directory : CacheDirectory}

theorem indexTemporary_ne_path (process : PublishingProcess) :
    process.indexTemporary ≠ snapshotDigestIndexPath := by
  intro h
  have htemporary : process.indexTemporary.toList.getLast? = some 'p' := getLast?_append _ _ rfl
  rw [h] at htemporary
  exact absurd htemporary (by decide)

/-- The ways in which the publication of an index can end. -/
theorem storeSnapshotDigestIndex_ends (host : CacheHost) (faults : FaultPlan)
    (process : PublishingProcess) (index : AspRustSnapshotDigestIndex)
    (directory : CacheDirectory) :
    PublishEnds faults process.indexTemporary snapshotDigestIndexPath
      (host.indexCodec.encode index)
      (fun _ error => .error ("publish dev-gate snapshot index: " ++ error)) directory
      (storeSnapshotDigestIndex host faults process index directory) :=
  publishFile_ends faults indexStageTexts (indexTemporary_ne_path process)
    (host.indexCodec.encode index) _ directory

/-- The index is read from one file only. -/
theorem loadSnapshotDigestIndex_congr {other : CacheDirectory}
    (h : directory snapshotDigestIndexPath = other snapshotDigestIndexPath) :
    loadSnapshotDigestIndex host directory = loadSnapshotDigestIndex host other := by
  have hread : readFile directory snapshotDigestIndexPath =
      readFile other snapshotDigestIndexPath := by rw [readFile, readFile, h]
  rw [loadSnapshotDigestIndex, loadSnapshotDigestIndex, hread]

/-- What is loaded from the bytes of an index is that index. -/
theorem eq_of_loadSnapshotDigestIndex {bytes : List UInt8}
    (hfile : directory snapshotDigestIndexPath = some (.file bytes))
    (hencode : host.indexCodec.encode index = .ok bytes) {loaded : AspRustSnapshotDigestIndex}
    (hload : loadSnapshotDigestIndex host directory = some loaded) : loaded = index := by
  unfold loadSnapshotDigestIndex at hload
  simp only [readFile, hfile, bind, Option.bind_some, Option.bind_eq_some_iff] at hload
  obtain ⟨decoded, hdecode, hschema⟩ := hload
  split at hschema
  · rw [← Option.some.inj hschema]
    exact host.indexCodec.decode_sound hencode hdecode
  · simp at hschema

/-- After a publication the index is the old one, the new one or none. -/
theorem loadSnapshotDigestIndex_after_store {loaded : AspRustSnapshotDigestIndex}
    (hload : loadSnapshotDigestIndex host
      (storeSnapshotDigestIndex host faults process index directory).1 = some loaded) :
    loadSnapshotDigestIndex host directory = some loaded ∨ loaded = index := by
  rcases (storeSnapshotDigestIndex_ends host faults process index directory).destination_cases
      (indexTemporary_ne_path process) with hsame | ⟨bytes, hencode, hfile⟩
  · exact Or.inl ((loadSnapshotDigestIndex_congr hsame).symm.trans hload)
  · exact Or.inr (eq_of_loadSnapshotDigestIndex hfile hencode hload)

end Store

/-! ## Faithful indices

The invariant, and that a snapshot with a faithful index reads of the files what a
snapshot without one does. -/

/-- A moment of a project: where it is, how it is configured, and the state of the
files. -/
structure Moment where
  root : Path
  config : AspRustConfig
  fs : FileSystem

section Moments

variable (host : SnapshotHost)

/-- A snapshot at this moment visits a file of this content and modification time, at
this path relative to the project root. -/
def Moment.Visits (moment : Moment) (relativePath : Path) (content : List UInt8)
    (modified : Int) : Prop :=
  ∃ root, moment.fs.canonicalize moment.root = some root ∧
    ⟨root ++ relativePath, content, modified⟩ ∈
      visitedFrom (packageWalkFilter host.manifestFromPath moment.fs root moment.config) moment.fs
        (snapshotInputs host moment.fs root moment.config)

/-- Length and modification time determine the content of a path over the snapshots
at these moments: a content that was changed has a length or a time the path has not
had before. -/
def Unambiguous (moments : List Moment) : Prop :=
  ∀ first ∈ moments, ∀ second ∈ moments, ∀ relativePath content content' modified,
    first.Visits host relativePath content modified →
    second.Visits host relativePath content' modified →
    content.length = content'.length → content = content'

/-- Every entry is the digest of a content that a snapshot found under its path at one
of the moments, with that length and that time. -/
def IndexFaithful (moments : List Moment) (index : AspRustSnapshotDigestIndex) : Prop :=
  ∀ relativePath entry, index.files.get? relativePath = some entry →
    ∃ moment ∈ moments, ∃ content modified,
      moment.Visits host relativePath content modified ∧ 0 ≤ modified ∧
        entry = ⟨content.length, modified.toNat, contentDigest host.sha256 content⟩

theorem indexFaithful_empty (moments : List Moment) : IndexFaithful host moments {} := by
  intro relativePath entry hentry
  simp at hentry

variable {host}

theorem IndexFaithful.mono {moments more : List Moment} {index : AspRustSnapshotDigestIndex}
    (h : IndexFaithful host moments index) (hsubset : moments ⊆ more) :
    IndexFaithful host more index := by
  intro relativePath entry hentry
  obtain ⟨moment, hmoment, hfile⟩ := h relativePath entry hentry
  exact ⟨moment, hsubset hmoment, hfile⟩

theorem Unambiguous.mono {moments more : List Moment} (h : Unambiguous host more)
    (hsubset : moments ⊆ more) : Unambiguous host moments :=
  fun first hfirst second hsecond => h first (hsubset hfirst) second (hsubset hsecond)

/-- What a snapshot visits under a path is the file there. -/
theorem Moment.Visits.file {moment : Moment} {relativePath : Path} {content : List UInt8}
    {modified : Int} (h : moment.Visits host relativePath content modified) :
    ∃ root, moment.fs.canonicalize moment.root = some root ∧
      moment.fs.lstat (root ++ relativePath) = some (.file content modified) := by
  obtain ⟨root, hroot, hvisited⟩ := h
  exact ⟨root, hroot, lstat_of_mem_visitedFrom hvisited⟩

/-- A project that does not change is unambiguous. -/
theorem unambiguous_of_eq (moment : Moment) {moments : List Moment}
    (h : ∀ other ∈ moments, other = moment) : Unambiguous host moments := by
  intro first hfirst second hsecond relativePath content content' modified hone htwo _
  rw [h first hfirst] at hone
  rw [h second hsecond] at htwo
  obtain ⟨root, hroot, hone⟩ := hone.file
  obtain ⟨other, hother, htwo⟩ := htwo.file
  obtain rfl := Option.some.inj (hroot.symm.trans hother)
  exact (Node.file.inj (Option.some.inj (hone.symm.trans htwo))).1

/-- Moments are unambiguous when files of one length and one time have one content,
wherever they are. -/
theorem unambiguous_of_files {moments : List Moment}
    (h : ∀ first ∈ moments, ∀ second ∈ moments, ∀ file ∈ first.fs.root.files,
      ∀ other ∈ second.fs.root.files, file.2 = other.2 → file.1.length = other.1.length →
        file.1 = other.1) : Unambiguous host moments := by
  have hlisted : ∀ (moment : Moment) relativePath content modified,
      moment.Visits host relativePath content modified →
        (content, modified) ∈ moment.fs.root.files := by
    intro moment relativePath content modified hvisits
    obtain ⟨root, -, hnode⟩ := hvisits.file
    obtain ⟨location, -, hdescend⟩ := Option.bind_eq_some_iff.mp hnode
    exact Node.mem_files_of_descend? hdescend
  intro first hfirst second hsecond relativePath content content' modified hone htwo hlength
  exact h first hfirst second hsecond _ (hlisted first _ _ _ hone) _
    (hlisted second _ _ _ htwo) rfl hlength

end Moments

section Faithful

variable {host : SnapshotHost} {moments : List Moment} {index : AspRustSnapshotDigestIndex}

/-- With a faithful index a file is given the entry that reading it gives. -/
theorem snapshotFile_of_faithful {moment : Moment} {relativePath : Path}
    {content : List UInt8} {modified : Int} (path : Path)
    (hfaithful : IndexFaithful host moments index)
    (hunambiguous : Unambiguous host (moment :: moments))
    (hvisits : moment.Visits host relativePath content modified) :
    snapshotFile host.sha256 path relativePath content modified index =
      snapshotFile host.sha256 path relativePath content modified {} := by
  unfold snapshotFile
  by_cases hbefore : modified < 0
  · rw [if_pos hbefore, if_pos hbefore]
  · rw [if_neg hbefore, if_neg hbefore]
    dsimp only
    rw [OrderedMap.get?_empty]
    cases hentry : index.files.get? relativePath with
    | none => rfl
    | some entry =>
        dsimp only
        split
        · next hsame =>
            -- the entry was read from a file with this length and time, so from this content
            obtain ⟨earlier, hearlier, old, oldModified, hold, hafter, rfl⟩ :=
              hfaithful relativePath entry hentry
            have htime : oldModified = modified := by
              have := hsame.2
              dsimp only at this
              omega
            subst htime
            rw [hunambiguous earlier (List.mem_cons_of_mem _ hearlier) moment
              List.mem_cons_self relativePath old content oldModified hold hvisits hsame.1]
        · rfl

/-- **A faithful index changes nothing.**  The snapshot with it, and the index it
leaves, are those of reading every file. -/
theorem computeSnapshot_of_faithful (fs : FileSystem) (root : Path) (config : AspRustConfig)
    (hfaithful : IndexFaithful host moments index)
    (hunambiguous : Unambiguous host (⟨root, config, fs⟩ :: moments)) :
    computeSnapshot host fs root config index = computeSnapshot host fs root config {} := by
  unfold computeSnapshot
  cases hcanonical : fs.canonicalize root with
  | none => rfl
  | some canonical =>
      dsimp only
      have hcollect : collectSnapshot host fs canonical config index =
          collectSnapshot host fs canonical config {} := by
        rw [collectSnapshot, collectSnapshot, collectPaths_eq, collectPaths_eq]
        congr 1
        refine mapM_congr fun file hfile => ?_
        unfold indexEntry
        cases hstrip : Path.stripPrefix? canonical file.path with
        | none => rfl
        | some relativePath =>
            have hpath := Path.stripPrefix?_eq_some_iff.mp hstrip
            have hat : (⟨root, config, fs⟩ : Moment).Visits host relativePath file.content
                file.modified := ⟨canonical, hcanonical, by rwa [← hpath]⟩
            dsimp only
            rw [snapshotFile_of_faithful file.path hfaithful hunambiguous hat]
      rw [hcollect]

/-- The index a full snapshot leaves is faithful to the moment it was taken. -/
theorem indexFaithful_of_computeSnapshot {fs : FileSystem} {root : Path}
    {config : AspRustConfig} {snapshot : AspRustDevGateSnapshot}
    {nextIndex : AspRustSnapshotDigestIndex}
    (h : computeSnapshot host fs root config {} = .ok (snapshot, nextIndex)) :
    IndexFaithful host [⟨root, config, fs⟩] nextIndex := by
  obtain ⟨canonical, collected, hcanonical, hcollected, -, rfl⟩ := computeSnapshot_eq_ok.mp h
  rw [collectSnapshot, collectPaths_eq] at hcollected
  obtain ⟨entries, hentries, rfl⟩ := Except.map_eq_ok.mp hcollected
  intro relativePath entry hentry
  rw [foldl_record] at hentry
  obtain ⟨recorded, hrecorded, rfl, rfl⟩ :=
    (OrderedMap.exists_of_get?_insertAll _ _ hentry).resolve_left (by simp)
  obtain ⟨file, hfile, hok⟩ := (mem_of_mapM_eq_ok hentries).mp hrecorded
  obtain ⟨hpath, hindexed⟩ := indexEntry_eq_ok.mp hok
  obtain ⟨hafter, hread⟩ := snapshotFile_of_empty hindexed
  exact ⟨⟨root, config, fs⟩, List.mem_singleton_self _, file.content, file.modified,
    ⟨canonical, hcanonical, by rwa [← hpath]⟩, hafter, hread⟩

end Faithful

/-! ## Histories of snapshots

A snapshot in a cache with a faithful index leaves a faithful index, whatever happens to
its publication. -/

/-- The cache after a snapshot that uses it. -/
def cacheAfterSnapshot (host : CacheHost) (faults : FaultPlan) (process : PublishingProcess)
    (fs : FileSystem) (root : Path) (config : AspRustConfig) (directory : CacheDirectory) :
    CacheDirectory :=
  (snapshotDevGateInputsWithCache host faults process fs root config (some directory)).1.getD
    directory

/-- The index a snapshot starts from. -/
def previousIndexOf (host : CacheHost) (directory : CacheDirectory) :
    AspRustSnapshotDigestIndex :=
  (loadSnapshotDigestIndex host directory).getD {}

/-- The index in a cache, if there is one, is faithful to some moments. -/
def CacheIndexFaithful (host : CacheHost) (moments : List Moment) (directory : CacheDirectory) :
    Prop :=
  ∀ index, loadSnapshotDigestIndex host directory = some index →
    IndexFaithful host.toSnapshotHost moments index

section Histories

variable {host : CacheHost} {moments : List Moment} {directory : CacheDirectory}
variable {faults : FaultPlan} {process : PublishingProcess} {fs : FileSystem} {root : Path}
variable {config : AspRustConfig}

theorem CacheIndexFaithful.previousIndex (h : CacheIndexFaithful host moments directory) :
    IndexFaithful host.toSnapshotHost moments (previousIndexOf host directory) := by
  unfold previousIndexOf
  cases hload : loadSnapshotDigestIndex host directory with
  | none => exact indexFaithful_empty _ _
  | some index => exact h index hload

/-- What a snapshot with a cache does, when its index is faithful: it computes
the full snapshot and publishes the index of that snapshot. -/
theorem snapshotDevGateInputsWithCache_of_faithful
    (hfaithful : CacheIndexFaithful host moments directory)
    (hunambiguous : Unambiguous host.toSnapshotHost (⟨root, config, fs⟩ :: moments)) :
    snapshotDevGateInputsWithCache host faults process fs root config (some directory) =
      match computeSnapshot host.toSnapshotHost fs root config {} with
      | .error error => (some directory, .error error)
      | .ok (snapshot, nextIndex) =>
          match storeSnapshotDigestIndex host faults process nextIndex directory with
          | (directory, .error error) => (some directory, .error error)
          | (directory, .ok ()) => (some directory, .ok snapshot) := by
  have hindex := computeSnapshot_of_faithful fs root config
    hfaithful.previousIndex hunambiguous
  unfold snapshotDevGateInputsWithCache
  rw [Option.bind_some, ← previousIndexOf]
  dsimp only
  rw [hindex]

/-- A snapshot that is returned with a faithful index is the full one. -/
theorem snapshotDevGateInputs_of_withCache {snapshot : AspRustDevGateSnapshot}
    (hfaithful : CacheIndexFaithful host moments directory)
    (hunambiguous : Unambiguous host.toSnapshotHost (⟨root, config, fs⟩ :: moments))
    (h : (snapshotDevGateInputsWithCache host faults process fs root config
      (some directory)).2 = .ok snapshot) :
    snapshotDevGateInputs host.toSnapshotHost fs root config = .ok snapshot := by
  rw [snapshotDevGateInputsWithCache_of_faithful hfaithful hunambiguous] at h
  rw [snapshotDevGateInputs]
  cases hcompute : computeSnapshot host.toSnapshotHost fs root config {} with
  | error error =>
      rw [hcompute] at h
      simp at h
  | ok computed =>
      rw [hcompute] at h
      dsimp only at h
      split at h
      · simp at h
      · exact h

/-- **One snapshot keeps the index faithful.** -/
theorem CacheIndexFaithful.snapshot (hfaithful : CacheIndexFaithful host moments directory)
    (hunambiguous : Unambiguous host.toSnapshotHost (⟨root, config, fs⟩ :: moments)) :
    CacheIndexFaithful host (⟨root, config, fs⟩ :: moments)
      (cacheAfterSnapshot host faults process fs root config directory) := by
  intro loaded hload
  have hkept : loadSnapshotDigestIndex host directory = some loaded →
      IndexFaithful host.toSnapshotHost (⟨root, config, fs⟩ :: moments) loaded :=
    fun h => (hfaithful loaded h).mono (List.subset_cons_self _ _)
  rw [cacheAfterSnapshot, snapshotDevGateInputsWithCache_of_faithful hfaithful hunambiguous]
    at hload
  cases hcompute : computeSnapshot host.toSnapshotHost fs root config {} with
  | error error =>
      rw [hcompute] at hload
      exact hkept hload
  | ok computed =>
      obtain ⟨snapshot, nextIndex⟩ := computed
      have hstored : loadSnapshotDigestIndex host
          (storeSnapshotDigestIndex host faults process nextIndex directory).1 = some loaded := by
        rw [hcompute] at hload
        dsimp only at hload
        split at hload <;> next heq => rw [heq]; exact hload
      rcases loadSnapshotDigestIndex_after_store hstored with hold | rfl
      · exact hkept hold
      · exact (indexFaithful_of_computeSnapshot hcompute).mono (by simp)

/-- The caches that the snapshots of one project can leave, with the moments at
which they were taken, the latest first.  Files and configuration change freely
from one snapshot to the next, file operations of the cache may fail, and the
index may be lost or damaged. -/
inductive SnapshotHistory (host : CacheHost) (root : Path) :
    List Moment → CacheDirectory → Prop where
  /-- There is no readable index. -/
  | start (directory : CacheDirectory) (hnone : loadSnapshotDigestIndex host directory = none) :
      SnapshotHistory host root [] directory
  /-- A snapshot is taken. -/
  | snapshot {moments : List Moment} {directory : CacheDirectory}
      (before : SnapshotHistory host root moments directory) (fs : FileSystem)
      (config : AspRustConfig) (faults : FaultPlan) (process : PublishingProcess) :
      SnapshotHistory host root (⟨root, config, fs⟩ :: moments)
        (cacheAfterSnapshot host faults process fs root config directory)
  /-- The index is removed or becomes unreadable. -/
  | damaged {moments : List Moment} {directory : CacheDirectory}
      (before : SnapshotHistory host root moments directory) (after : CacheDirectory)
      (hnone : loadSnapshotDigestIndex host after = none) :
      SnapshotHistory host root moments after
  /-- Other files of the cache change. -/
  | elsewhere {moments : List Moment} {directory : CacheDirectory}
      (before : SnapshotHistory host root moments directory) (after : CacheDirectory)
      (hsame : after snapshotDigestIndexPath = directory snapshotDigestIndexPath) :
      SnapshotHistory host root moments after

/-- The index is faithful throughout a history. -/
theorem SnapshotHistory.faithful (h : SnapshotHistory host root moments directory)
    (hunambiguous : Unambiguous host.toSnapshotHost moments) : CacheIndexFaithful host moments directory := by
  induction h with
  | start directory hnone =>
      intro index hload
      rw [hnone] at hload
      simp at hload
  | snapshot before fs config faults process ih =>
      exact (ih (hunambiguous.mono (List.subset_cons_self _ _))).snapshot hunambiguous
  | damaged before after hnone ih =>
      intro index hload
      rw [hnone] at hload
      simp at hload
  | elsewhere before after hsame ih =>
      intro index hload
      rw [loadSnapshotDigestIndex_congr hsame] at hload
      exact ih hunambiguous index hload

/-- **Incremental snapshots are full snapshots.**  After any history of one project in
which a length and a time determine the content of a path, the snapshot with the index
that is left is the snapshot that reads every file, file by file and in its digest.  The
call returns it, unless the publication of the next index fails.

The history holds edits of every kind between the snapshots, changes of the
configuration, and loss or damage of the index.  The invariant is that each entry of the
index is the digest of a content that was read with its length and time. -/
theorem incremental_snapshot_eq_full (h : SnapshotHistory host root moments directory)
    (hunambiguous : Unambiguous host.toSnapshotHost (⟨root, config, fs⟩ :: moments)) :
    computeSnapshot host.toSnapshotHost fs root config (previousIndexOf host directory) =
        computeSnapshot host.toSnapshotHost fs root config {} ∧
      ((snapshotDevGateInputsWithCache host faults process fs root config (some directory)).2 =
          snapshotDevGateInputs host.toSnapshotHost fs root config ∨
        ∃ snapshot nextIndex error,
          computeSnapshot host.toSnapshotHost fs root config {} = .ok (snapshot, nextIndex) ∧
          (storeSnapshotDigestIndex host faults process nextIndex directory).2 = .error error ∧
          (snapshotDevGateInputsWithCache host faults process fs root config
            (some directory)).2 = .error error) := by
  have hfaithful := h.faithful (hunambiguous.mono (List.subset_cons_self _ _))
  refine ⟨computeSnapshot_of_faithful fs root config
    hfaithful.previousIndex hunambiguous, ?_⟩
  rw [snapshotDevGateInputsWithCache_of_faithful hfaithful hunambiguous, snapshotDevGateInputs]
  cases hcompute : computeSnapshot host.toSnapshotHost fs root config {} with
  | error error => exact Or.inl rfl
  | ok computed =>
      obtain ⟨snapshot, nextIndex⟩ := computed
      dsimp only
      rcases hstore : storeSnapshotDigestIndex host faults process nextIndex directory with
        ⟨after, error | ⟨⟩⟩
      · exact Or.inr ⟨snapshot, nextIndex, error, rfl, by rw [hstore], rfl⟩
      · exact Or.inl rfl

end Histories

/-! ## A package whose library is edited -/

/-- The package `p` with a library of this content and modification time, or without one. -/
def editedFileSystem (library : Option (List UInt8 × Int)) : FileSystem where
  root := .directory [("p", .directory (("Cargo.toml", .file (bareManifest "p") 1) ::
    (library.map fun (content, modified) =>
      ("src", Node.directory [("lib.rs", .file content modified)])).toList))]
  wellFormed := by cases library <;> rfl

/-- A library with one function. -/
def libraryText : List UInt8 := piecesBytes ["pub fn p() \x7b\x7d\n"]

def emptyDigest : String :=
  "sha256:ebd6ecee640ad51e31443e289d35ce8268d41831d5c89d6e6c264fae04545433"

def libraryDigest : String :=
  "sha256:526335cf2395a62da523718a19a40bb0bbf4e72c37c4c2cc468c0c69389f9546"

/-- The file list of `p` with a library. -/
def editedFiles (byteCount : ℕ) (digest : String) : List AspRustDevGateSnapshotFile :=
  bareFiles bareManifestDigest ++ [⟨[.normal "src", .normal "lib.rs"], byteCount, digest⟩]

def editedFilesJson (byteCount digest : String) : List String :=
  ["[\x7b\"path\":\"Cargo.toml\",\"byteCount\":56,\"contentDigest\":\"", bareManifestDigest,
    "\"\x7d,\x7b\"path\":\"src/lib.rs\",\"byteCount\":", byteCount, ",\"contentDigest\":\"", digest,
    "\"\x7d]"]

/-- The index of `p` with a library. -/
def editedIndex (byteCount modified : ℕ) (digest : String) : AspRustSnapshotDigestIndex :=
  { bareIndex with
    files := bareIndex.files.insert [.normal "src", .normal "lib.rs"]
      ⟨byteCount, modified, digest⟩ }

def editedIndexJson (byteCount modified digest : String) : List String :=
  ["\x7b\"schemaId\":\"", snapshotDigestIndexSchemaId, "\",\"schemaVersion\":\"1\",\"files\":\x7b",
    "\"Cargo.toml\":\x7b\"byteCount\":56,\"modifiedNanosSinceEpoch\":1,\"contentDigest\":\"",
    bareManifestDigest, "\"\x7d,\"src/lib.rs\":\x7b\"byteCount\":", byteCount,
    ",\"modifiedNanosSinceEpoch\":", modified, ",\"contentDigest\":\"", digest, "\"\x7d\x7d\x7d"]

/-- The contents that are hashed, with their digests. -/
def editedDigests : List (List UInt8 × List UInt8) :=
  [(bareManifest "p",
      [0x7e, 0xb3, 0xb5, 0xbc, 0x4d, 0x80, 0x0e, 0x1a, 0xd3, 0xce, 0x59, 0x5a, 0xca, 0xc8, 0x99, 0x52,
       0x04, 0xfd, 0x23, 0x57, 0x16, 0xc7, 0x31, 0x06, 0xd4, 0x36, 0x55, 0x2d, 0x26, 0x6e, 0xca, 0x98]),
    ([],
      [0xeb, 0xd6, 0xec, 0xee, 0x64, 0x0a, 0xd5, 0x1e, 0x31, 0x44, 0x3e, 0x28, 0x9d, 0x35, 0xce, 0x82,
       0x68, 0xd4, 0x18, 0x31, 0xd5, 0xc8, 0x9d, 0x6e, 0x6c, 0x26, 0x4f, 0xae, 0x04, 0x54, 0x54, 0x33]),
    (libraryText,
      [0x52, 0x63, 0x35, 0xcf, 0x23, 0x95, 0xa6, 0x2d, 0xa5, 0x23, 0x71, 0x8a, 0x19, 0xa4, 0x0b, 0xb0,
       0xbb, 0xf4, 0xe7, 0x2c, 0x37, 0xc4, 0xc2, 0xcc, 0x46, 0x8c, 0x0c, 0x69, 0x38, 0x9f, 0x95, 0x46]),
    (piecesBytes (bareFilesJson bareManifestDigest),
      [0xeb, 0x50, 0x9a, 0x32, 0x94, 0x80, 0x4e, 0x65, 0xb7, 0xab, 0xeb, 0x64, 0x9b, 0x09, 0xbd, 0xc4,
       0xdb, 0x18, 0xf0, 0xac, 0xc7, 0xfb, 0xaf, 0x22, 0x9c, 0x2b, 0xd1, 0xba, 0xaf, 0x47, 0xa3, 0x10]),
    (piecesBytes (editedFilesJson "0" emptyDigest),
      [0x50, 0x42, 0xac, 0x94, 0x68, 0x67, 0x02, 0xde, 0xca, 0x32, 0x23, 0x4c, 0xe4, 0xcb, 0x95, 0x19,
       0x59, 0x2b, 0x6a, 0x87, 0x9c, 0xb8, 0x76, 0x5d, 0xda, 0x7b, 0xcd, 0xc5, 0xf4, 0x5c, 0x67, 0x57]),
    (piecesBytes (editedFilesJson "14" libraryDigest),
      [0xe9, 0x1b, 0x43, 0xa9, 0x72, 0x2d, 0x5c, 0x6c, 0xbe, 0x80, 0x80, 0x4c, 0x87, 0x02, 0xbf, 0x31,
       0xc5, 0x8c, 0x3f, 0xd8, 0x73, 0x28, 0x9b, 0x0c, 0xab, 0xd4, 0xce, 0x2f, 0x87, 0x40, 0x90, 0x6c])]

/-- The host of the snapshots of `p`. -/
def editedHost : CacheHost :=
  { bareHost with
    sha256 := .ofContents editedDigests (by decide +kernel) (by decide +kernel)
    filesEncoder := .ofTable
      [(bareFiles bareManifestDigest, piecesBytes (bareFilesJson bareManifestDigest)),
        (editedFiles 0 emptyDigest, piecesBytes (editedFilesJson "0" emptyDigest)),
        (editedFiles 14 libraryDigest, piecesBytes (editedFilesJson "14" libraryDigest))]
      (by decide +kernel)
    indexCodec := (Codec.ofTable
      [(bareIndex, piecesBytes bareIndexJson),
        (editedIndex 0 1 emptyDigest, piecesBytes (editedIndexJson "0" "1" emptyDigest)),
        (editedIndex 14 2 libraryDigest, piecesBytes (editedIndexJson "14" "2" libraryDigest)),
        (editedIndex 0 3 emptyDigest, piecesBytes (editedIndexJson "0" "3" emptyDigest))]
      (by decide +kernel)).lossy }

/-- The snapshot of `p` with an empty library. -/
def editedSnapshot : AspRustDevGateSnapshot where
  digest := "sha256:5042ac94686702deca32234ce4cb9519592b6a879cb8765dda7bcdc5f45c6757"
  fileCount := 2
  byteCount := 56
  files := editedFiles 0 emptyDigest

/-- The cache after a snapshot of `p` with this library. -/
def afterEdited (library : Option (List UInt8 × Int)) (directory : CacheDirectory) :
    CacheDirectory :=
  cacheAfterSnapshot editedHost noFaults ⟨1, 0⟩ (editedFileSystem library) [.normal "p"] {}
    directory

/-- The library of `p` is created, changed, deleted and created again with its first content.
The snapshot after that, with the index that the three before it have left, is the full one. -/
theorem incremental_snapshot_edited :
    computeSnapshot editedHost.toSnapshotHost (editedFileSystem (some ([], 3))) [.normal "p"] {}
        (previousIndexOf editedHost (afterEdited none (afterEdited (some (libraryText, 2))
          (afterEdited (some ([], 1)) fun _ => none)))) =
      .ok (editedSnapshot, editedIndex 0 3 emptyDigest) := by
  have hcreated := SnapshotHistory.snapshot (@SnapshotHistory.start editedHost [.normal "p"]
    (fun _ => none) rfl) (editedFileSystem (some ([], 1))) {} noFaults ⟨1, 0⟩
  have hchanged := hcreated.snapshot (editedFileSystem (some (libraryText, 2))) {} noFaults ⟨1, 0⟩
  have hdeleted := hchanged.snapshot (editedFileSystem none) {} noFaults ⟨1, 0⟩
  have hunambiguous : Unambiguous editedHost.toSnapshotHost
      ((([some ([], 3), none, some (libraryText, 2), some ([], 1)] : List _).map
        editedFileSystem).map (⟨[.normal "p"], {}, ·⟩)) :=
    unambiguous_of_files (by decide +kernel)
  exact (@incremental_snapshot_eq_full _ _ _ noFaults ⟨1, 0⟩ _ _ {} hdeleted hunambiguous).1.trans
    (by decide +kernel)

end AspRust.DevGate
