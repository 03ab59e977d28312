import AspRust.DevGate.Digest
import AspRust.Discovery.PackageRoots
import AspRust.Foundation.Codec

/-!
# Input snapshots of the dev gate

A snapshot lists the files a gate run depends on, each with its length and the
digest of its content, and is itself identified by the digest of that list.  It
is collected by a walk of its own over the monitored paths and the manifest.

Reading every file is avoided with a digest index: the entry an earlier run kept
for a path is taken over when length and modification time are unchanged.
`computeSnapshot` is the computation with a given previous index, up to the
point where the new index is written out.

### Design notes

**Two maps, one walk.**  The walk collects the entries of the snapshot and those of the
next index side by side (`Collected`).  The index has the modification time as well, the
snapshot does not: a file that was touched and not changed has another index entry and
the same snapshot.

**The manifest is always there.**  It is collected behind the monitored paths, which may
hold it already; the maps keep one entry.

**Errors stop the walk.**  A directory that cannot be listed, a file that cannot be read
and a time before the epoch end the collection with an error, in the order in which the
walk meets them.
-/

namespace AspRust.DevGate

open AspRust.Foundation AspRust.Discovery

/-- One file of a snapshot, by its path relative to the project root. -/
structure AspRustDevGateSnapshotFile where
  path : Path
  byteCount : ℕ
  contentDigest : String
deriving DecidableEq, Repr

/-- The inputs of a gate run. -/
structure AspRustDevGateSnapshot where
  digest : String
  fileCount : ℕ
  byteCount : ℕ
  files : List AspRustDevGateSnapshotFile
deriving DecidableEq, Repr

/-- What the digest index remembers of a file. -/
structure AspRustSnapshotDigestIndexFile where
  byteCount : ℕ
  modifiedNanosSinceEpoch : ℕ
  contentDigest : String
deriving DecidableEq, Repr

/-- The digest index. -/
structure AspRustSnapshotDigestIndex where
  schemaId : String := ""
  schemaVersion : String := ""
  files : OrderedMap Path AspRustSnapshotDigestIndexFile := ∅
deriving DecidableEq

def snapshotDigestIndexSchemaId : String :=
  "agent.semantic-protocols.asp-rust.dev-gate-snapshot-index"

def snapshotDigestIndexSchemaVersion : String := "1"

/-- The parts of a snapshot that lie outside the harness: the manifest reader,
the hash function and the serialization of file lists. -/
structure SnapshotHost where
  manifestFromPath : ManifestReader
  sha256 : Sha256
  filesEncoder : Encoder (List AspRustDevGateSnapshotFile)

/-- A directory name the snapshot walk does not enter. -/
def shouldSkipDirectory (ignored hidden : OrderedSet String) (name : String) : Bool :=
  name ∈ ignored.keys || (name.toList.head? = some '.' && name ∉ hidden.keys)

/-- The 64-bit sum of file lengths; none on overflow. -/
def sumByteCounts (files : List AspRustDevGateSnapshotFile) : Option ℕ :=
  files.foldlM (fun total file =>
    if total + file.byteCount < 2 ^ 64 then some (total + file.byteCount) else none) 0

/-! ## One file -/

section OneFile

variable (sha256 : Sha256)

/-- The index entry of a file: the previous one when length and modification
time are unchanged, else one with the digest of the content.  A modification
time before the epoch is an error. -/
def snapshotFile (path relativePath : Path) (content : List UInt8) (modified : Int)
    (previousIndex : AspRustSnapshotDigestIndex) :
    Except String AspRustSnapshotDigestIndexFile :=
  if modified < 0 then
    .error ("normalize dev-gate snapshot mtime " ++ path.display ++
      ": second time provided was later than self")
  else
    let read := ⟨content.length, modified.toNat, contentDigest sha256 content⟩
    match previousIndex.files.get? relativePath with
    | some previous =>
        if previous.byteCount = content.length ∧
            previous.modifiedNanosSinceEpoch = modified.toNat then .ok previous
        else .ok read
    | none => .ok read

/-- The maps a walk fills: the files of the snapshot and the next index. -/
structure Collected where
  files : OrderedMap Path AspRustDevGateSnapshotFile := ∅
  nextIndex : OrderedMap Path AspRustSnapshotDigestIndexFile := ∅

/-- A regular file as the walk meets it. -/
structure VisitedFile where
  path : Path
  content : List UInt8
  modified : Int

/-- Record one file under its path relative to the project root. -/
def collectFile (projectRoot : Path) (previousIndex : AspRustSnapshotDigestIndex)
    (collected : Collected) (file : VisitedFile) : Except String Collected :=
  match Path.stripPrefix? projectRoot file.path with
  | none => .error "relativize dev-gate snapshot path: prefix not found"
  | some relativePath => do
      let indexed ← snapshotFile sha256 file.path relativePath file.content file.modified
        previousIndex
      return {
        files := collected.files.insert relativePath
          ⟨relativePath, indexed.byteCount, indexed.contentDigest⟩
        nextIndex := collected.nextIndex.insert relativePath indexed }

end OneFile

/-! ## The walk -/

section Walk

variable (sha256 : Sha256) (projectRoot : Path) (filter : WalkFilter)
variable (previousIndex : AspRustSnapshotDigestIndex)

mutual

/-- The snapshot walk at a node with its path. -/
def collectSnapshotNode (path : Path) : Node → Collected → Except String Collected
  | .symlink _ _, collected => .ok collected
  | .file content modified, collected =>
      collectFile sha256 projectRoot previousIndex collected ⟨path, content, modified⟩
  | .special, collected => .ok collected
  | .directory entries, collected =>
      if filter.enters path then
        ((collectSnapshotEntries path entries).insertionSort fun a b => a.1 ≤ b.1).foldlM
          (fun collected step => step.2 collected) collected
      else .ok collected

/-- What the walk does at each entry of a directory, by name: links and special
files are passed over, directories are entered unless their name is skipped,
files are recorded whatever their name. -/
def collectSnapshotEntries (path : Path) :
    List (String × Node) → List (String × (Collected → Except String Collected))
  | [] => []
  | (name, node) :: rest =>
      (name, fun collected =>
        match node with
        | .symlink _ _ => .ok collected
        | .directory _ =>
            if shouldSkipDirectory filter.ignoredDirNames filter.includeHiddenDirNames name then
              .ok collected
            else collectSnapshotNode (path ++ [.normal name]) node collected
        | .file content modified =>
            collectFile sha256 projectRoot previousIndex collected
              ⟨path ++ [.normal name], content, modified⟩
        | .special => .ok collected) :: collectSnapshotEntries path rest

end

/-- The snapshot walk from a path. -/
def collectSnapshotPath (fs : FileSystem) (collected : Collected) (path : Path) :
    Except String Collected :=
  match fs.lstat path with
  | none => .ok collected
  | some node =>
      collectSnapshotNode sha256 projectRoot filter previousIndex path node collected

end Walk

/-! ## The snapshot -/

section Compute

variable (host : SnapshotHost) (fs : FileSystem)

/-- The paths a snapshot starts from: the monitored ones, and the manifest. -/
def snapshotInputs (projectRoot : Path) (config : AspRustConfig) : List Path :=
  let manifest := Path.join projectRoot "Cargo.toml"
  (aspRustScope host.manifestFromPath fs projectRoot config).monitoredPaths ++
    if fs.isFile manifest then [manifest] else []

/-- The files collected from a canonical project root. -/
def collectSnapshot (projectRoot : Path) (config : AspRustConfig)
    (previousIndex : AspRustSnapshotDigestIndex) : Except String Collected :=
  (snapshotInputs host fs projectRoot config).foldlM
    (collectSnapshotPath host.sha256 projectRoot
      (packageWalkFilter host.manifestFromPath fs projectRoot config) previousIndex fs) {}

/-- The snapshot of a collected file map. -/
def snapshotOfFiles (files : List AspRustDevGateSnapshotFile) :
    Except String AspRustDevGateSnapshot :=
  match sumByteCounts files with
  | none => .error "dev-gate snapshot byte count overflow"
  | some byteCount =>
      match host.filesEncoder.encode files with
      | .error error => .error ("serialize dev-gate snapshot files: " ++ error)
      | .ok bytes => .ok ⟨contentDigest host.sha256 bytes, files.length, byteCount, files⟩

/-- The snapshot with a previous index, and the index that is to replace it. -/
def computeSnapshot (projectRoot : Path) (config : AspRustConfig)
    (previousIndex : AspRustSnapshotDigestIndex) :
    Except String (AspRustDevGateSnapshot × AspRustSnapshotDigestIndex) :=
  match fs.canonicalize projectRoot with
  | none => .error "canonicalize dev-gate project root: No such file or directory (os error 2)"
  | some projectRoot => do
      let collected ← collectSnapshot host fs projectRoot config previousIndex
      let snapshot ← snapshotOfFiles host collected.files.values
      return (snapshot, ⟨snapshotDigestIndexSchemaId, snapshotDigestIndexSchemaVersion,
        collected.nextIndex⟩)

/-- The snapshot without a cache: every file is read. -/
def snapshotDevGateInputs (projectRoot : Path) (config : AspRustConfig) :
    Except String AspRustDevGateSnapshot :=
  (computeSnapshot host fs projectRoot config {}).map Prod.fst

end Compute

/-! ## Inversion -/

section Inversion

variable {host : SnapshotHost} {fs : FileSystem} {root : Path} {config : AspRustConfig}
variable {snapshot : AspRustDevGateSnapshot}

/-- What the snapshot of a file list is. -/
theorem snapshotOfFiles_eq_ok {files : List AspRustDevGateSnapshotFile} :
    snapshotOfFiles host files = .ok snapshot ↔
      ∃ byteCount bytes, sumByteCounts files = some byteCount ∧
        host.filesEncoder.encode files = .ok bytes ∧
        snapshot = ⟨contentDigest host.sha256 bytes, files.length, byteCount, files⟩ := by
  unfold snapshotOfFiles
  constructor
  · intro h
    split at h
    · simp at h
    · next byteCount hcount =>
        split at h
        · simp at h
        · next bytes hbytes => exact ⟨byteCount, bytes, hcount, hbytes, (Except.ok.inj h).symm⟩
  · rintro ⟨byteCount, bytes, hcount, hbytes, rfl⟩
    rw [hcount, hbytes]

/-- **A computed snapshot, taken apart**: the canonical root, what was collected
there, the snapshot of that, and the next index. -/
theorem computeSnapshot_eq_ok {previousIndex nextIndex : AspRustSnapshotDigestIndex} :
    computeSnapshot host fs root config previousIndex = .ok (snapshot, nextIndex) ↔
      ∃ canonical collected, fs.canonicalize root = some canonical ∧
        collectSnapshot host fs canonical config previousIndex = .ok collected ∧
        snapshotOfFiles host collected.files.values = .ok snapshot ∧
        nextIndex = ⟨snapshotDigestIndexSchemaId, snapshotDigestIndexSchemaVersion,
          collected.nextIndex⟩ := by
  unfold computeSnapshot
  constructor
  · intro h
    split at h
    · simp at h
    · next canonical hcanonical =>
        obtain ⟨collected, hcollected, h⟩ := Except.bind_eq_ok.mp h
        obtain ⟨other, hother, h⟩ := Except.bind_eq_ok.mp h
        obtain ⟨rfl, rfl⟩ := Prod.mk.inj (Except.ok.inj h)
        exact ⟨canonical, collected, hcanonical, hcollected, hother, rfl⟩
  · rintro ⟨canonical, collected, hcanonical, hcollected, hfiles, rfl⟩
    rw [hcanonical]
    exact Except.bind_eq_ok.mpr ⟨collected, hcollected,
      Except.bind_eq_ok.mpr ⟨snapshot, hfiles, rfl⟩⟩

theorem snapshotDevGateInputs_eq_ok :
    snapshotDevGateInputs host fs root config = .ok snapshot ↔
      ∃ nextIndex, computeSnapshot host fs root config {} = .ok (snapshot, nextIndex) := by
  unfold snapshotDevGateInputs
  rw [Except.map_eq_ok]
  constructor
  · rintro ⟨⟨taken, nextIndex⟩, hcompute, rfl⟩
    exact ⟨nextIndex, hcompute⟩
  · rintro ⟨nextIndex, hcompute⟩
    exact ⟨(snapshot, nextIndex), hcompute, rfl⟩

end Inversion

end AspRust.DevGate
