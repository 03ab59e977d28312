import AspRust.Discovery.DependencyClosure

/-!
# Two readings of workspace membership

Discovery reads the member entries of a workspace against the file system: an entry
without a star is joined to the root, an entry with one is expanded by a walk, both are
normalized, and a root at or below an excluded path is left out.  The provider has a
list of candidate manifests instead and no file system, and it compares texts: an entry
without a star must be the relative path of the package letter by letter, one with a
star must match it component by component, and an exclude entry is read in the same
way.

`discovered_iff` and `mem_memberRootsFromCandidates` say what each of the two finds, and
`memberRoots_agree_iff` when they find the same.

### What is load-bearing

The two readings are compared where nothing else can tell them apart: a workspace without
links, without path dependencies, and with the manifests as candidates (`PlainWorkspace`).
There discovery finds the packages that some entry leads to as a path, and the provider those
that some entry names as a text.

An entry with a star is both.  Its fixed part is walked as a path, and what is found is
compared with the text of the entry, spelled from the root as the fixed part spells it
(`Spells`): a component `.` or a doubled separator is part of that spelling.
-/

namespace AspRust.Discovery

open AspRust.Foundation

/-! ## Membership by candidates

The provider's side, as the source has it, and what it finds: directories of candidates
whose relative text some member entry matches and no exclude entry. -/

/-- One component of a member pattern against one component of a path, in the
provider's copy of the comparison. -/
def workspaceMemberComponentMatches (pattern value : List Char) : Bool :=
  globComponentMatches pattern value

/-- A member pattern against a relative path text: letter by letter without a star,
component by component with one. -/
def workspaceMemberPatternMatches (pattern relative : List Char) : Bool :=
  if '*' ∉ pattern then pattern = relative
  else
    let patternComponents := splitWhen (· = '/') (replaceChar '\\' '/' pattern)
    let relativeComponents := splitWhen (· = '/') relative
    patternComponents.length = relativeComponents.length &&
      (patternComponents.zip relativeComponents).all fun pair =>
        workspaceMemberComponentMatches pair.1 pair.2

/-- Some entry of a list matches the text of a relative path. -/
def matchesText (entries : List String) (relative : Path) : Bool :=
  entries.any fun entry =>
    workspaceMemberPatternMatches entry.toList (replaceChar '\\' '/' relative.text.toList)

/-- The member roots among candidate manifests. -/
def cargoWorkspaceMemberRootsFromCandidates (projectRoot : Path) (facts : CargoManifestFacts)
    (candidatePaths : OrderedSet Path) : List Path :=
  ((((candidatePaths.keys.filter fun path => path.fileName? = some "Cargo.toml").filterMap
    Path.parent?).filter (· ≠ [])).filter fun relative =>
      matchesText facts.workspaceMembers relative &&
        !matchesText facts.workspaceExcludes relative).map (projectRoot ++ ·)

theorem mem_memberRootsFromCandidates {projectRoot root : Path} {facts : CargoManifestFacts}
    {candidatePaths : OrderedSet Path} :
    root ∈ cargoWorkspaceMemberRootsFromCandidates projectRoot facts candidatePaths ↔
      ∃ relative, relative ≠ [] ∧ root = projectRoot ++ relative ∧
        relative ++ [.normal "Cargo.toml"] ∈ candidatePaths.keys ∧
        matchesText facts.workspaceMembers relative = true ∧
        matchesText facts.workspaceExcludes relative = false := by
  have hcandidate : ∀ relative : Path,
      relative ∈ (candidatePaths.keys.filter fun path =>
        path.fileName? = some "Cargo.toml").filterMap Path.parent? ↔
        relative ++ [.normal "Cargo.toml"] ∈ candidatePaths.keys := by
    intro relative
    simp only [List.mem_filterMap, List.mem_filter, decide_eq_true_eq]
    constructor
    · rintro ⟨path, ⟨hpath, hname⟩, hparent⟩
      obtain ⟨component, hlast⟩ : ∃ component, path = relative ++ [component] := by
        unfold Path.parent? at hparent
        split at hparent
        · cases hparent
        · next hne => exact ⟨path.getLast hne, by
            rw [← Option.some.inj hparent, List.dropLast_append_getLast]⟩
      subst hlast
      cases component with
      | parent => simp [Path.fileName?] at hname
      | normal name =>
          obtain rfl : name = "Cargo.toml" := by simpa using hname
          exact hpath
    · intro hpath
      exact ⟨_, ⟨hpath, by simp⟩, by simp [Path.parent?]⟩
  simp only [cargoWorkspaceMemberRootsFromCandidates, List.mem_map, List.mem_filter, hcandidate,
    Bool.and_eq_true, Bool.not_eq_true', decide_eq_true_eq]
  constructor
  · rintro ⟨relative, ⟨⟨hpath, hne⟩, hmember, hexclude⟩, rfl⟩
    exact ⟨relative, hne, rfl, hpath, hmember, hexclude⟩
  · rintro ⟨relative, hne, rfl, hpath, hmember, hexclude⟩
    exact ⟨relative, ⟨⟨hpath, hne⟩, hmember, hexclude⟩, rfl⟩

/-! ## Membership by discovery

Discovery's side.  A member entry leads to directories, a directory is normalized and
taken if it is not excluded, not ignored and has a manifest, and path dependencies are
followed from there. -/

section Discovered

variable (fs : FileSystem) (ignored hidden : OrderedSet String) (projectRoot : Path)

/-- A directory that a member entry spells: the joined path without a star, and with
one a directory with a manifest, below the fixed part of the pattern, whose path from
the root matches when it is spelled as the fixed part is. -/
def Spells (entry : String) (spelled : Path) : Prop :=
  if '*' ∉ entry.toList then spelled = Path.join projectRoot entry
  else ∃ names manifest, ManifestBelow fs ignored hidden (fixedPrefixRoot projectRoot entry)
    names manifest ∧ manifest.parent? = some spelled ∧
    (relativeSpelling? projectRoot entry spelled).any (fun relative =>
      globPatternMatches entry.toList relative.toList) = true

theorem mem_expandWorkspaceMemberPattern {entry : String} {spelled : Path} :
    spelled ∈ expandWorkspaceMemberPattern fs ignored hidden projectRoot entry ↔
      Spells fs ignored hidden projectRoot entry spelled := by
  unfold expandWorkspaceMemberPattern Spells
  split
  · exact List.mem_singleton
  · simp only [List.mem_filter, List.mem_filterMap, mem_discoverCargoManifests]
    constructor
    · rintro ⟨⟨manifest, ⟨names, hmanifest⟩, hparent⟩, hmatches⟩
      exact ⟨names, manifest, hmanifest, hparent, hmatches⟩
    · rintro ⟨names, manifest, hmanifest, hparent, hmatches⟩
      exact ⟨⟨manifest, ⟨names, hmanifest⟩, hparent⟩, hmatches⟩

/-- A root that discovery takes for a member entry: it lies in the project, is not
excluded, has no ignored component and has a manifest. -/
def takesMember (excludes : List Path) (root : Path) : Bool :=
  (Path.stripPrefix? (normalizeLexicalPath projectRoot) root).any (fun relative =>
    !ignoredPathContainsIgnoredSegment ignored hidden relative) &&
    !isExcludedMember root excludes && fs.isFile (Path.join root "Cargo.toml")

theorem mem_insertPackageRoot {excludes : List Path} {roots : OrderedSet Path}
    {packageRoot root : Path} :
    root ∈ (insertPackageRoot fs ignored hidden projectRoot excludes roots packageRoot).keys ↔
      root ∈ roots.keys ∨ root = normalizeLexicalPath packageRoot ∧
        takesMember fs ignored hidden projectRoot excludes root = true := by
  unfold insertPackageRoot
  dsimp only
  cases hstrip : Path.stripPrefix? (normalizeLexicalPath projectRoot)
      (normalizeLexicalPath packageRoot) with
  | none =>
      refine (or_iff_left ?_).symm
      rintro ⟨rfl, htakes⟩
      simp [takesMember, hstrip] at htakes
  | some relative =>
      have htakes : takesMember fs ignored hidden projectRoot excludes
          (normalizeLexicalPath packageRoot) =
            (!ignoredPathContainsIgnoredSegment ignored hidden relative &&
              !isExcludedMember (normalizeLexicalPath packageRoot) excludes &&
              fs.isFile (Path.join (normalizeLexicalPath packageRoot) "Cargo.toml")) := by
        simp [takesMember, hstrip]
      dsimp only
      split
      · next hexcluded =>
          refine (or_iff_left ?_).symm
          rintro ⟨rfl, h⟩
          simp [htakes, hexcluded] at h
      · next hexcluded =>
          split
          · next hignored =>
              refine (or_iff_left ?_).symm
              rintro ⟨rfl, h⟩
              simp [htakes, hignored] at h
          · next hignored =>
              split
              · next hfile =>
                  refine (or_iff_left ?_).symm
                  rintro ⟨rfl, h⟩
                  simp_all
              · next hfile =>
                  rw [OrderedSet.mem_keys_add, or_comm]
                  refine or_congr_right (and_iff_left_of_imp ?_).symm
                  rintro rfl
                  simp_all

variable (fromPath : ManifestReader)

/-- The roots a workspace manifest declares by its own package and its member entries,
before path dependencies are followed. -/
def declaredRoots (manifest : CargoManifestFacts) : OrderedSet Path :=
  (manifest.workspaceMembers.flatMap
    (expandWorkspaceMemberPattern fs ignored hidden projectRoot)).foldl
      (insertPackageRoot fs ignored hidden projectRoot
        (manifest.workspaceExcludes.map (Path.join projectRoot)))
      (if manifest.hasPackage then OrderedSet.ofList [projectRoot] else ∅)

theorem mem_declaredRoots {manifest : CargoManifestFacts} {root : Path} :
    root ∈ (declaredRoots fs ignored hidden projectRoot manifest).keys ↔
      (manifest.hasPackage = true ∧ root = projectRoot) ∨
        (∃ entry ∈ manifest.workspaceMembers, ∃ spelled,
          Spells fs ignored hidden projectRoot entry spelled ∧
            root = normalizeLexicalPath spelled) ∧
        takesMember fs ignored hidden projectRoot
          (manifest.workspaceExcludes.map (Path.join projectRoot)) root = true := by
  have hstep : ∀ (roots : OrderedSet Path) (packageRoot root : Path), _ :=
    fun roots packageRoot root => @mem_insertPackageRoot fs ignored hidden projectRoot
      (manifest.workspaceExcludes.map (Path.join projectRoot)) roots packageRoot root
  rw [declaredRoots, OrderedSet.mem_foldl_iff hstep]
  refine or_congr ?_ ?_
  · split
    · next hpackage => simp [hpackage]
    · next hpackage => simp [hpackage]
  · simp only [List.mem_flatMap, mem_expandWorkspaceMemberPattern]
    constructor
    · rintro ⟨spelled, ⟨entry, hentry, hspells⟩, rfl, htakes⟩
      exact ⟨⟨entry, hentry, spelled, hspells, rfl⟩, htakes⟩
    · rintro ⟨⟨entry, hentry, spelled, hspells, rfl⟩, htakes⟩
      exact ⟨spelled, ⟨entry, hentry, hspells⟩, rfl, htakes⟩

/-- **What discovery finds**: without member entries the root, with them what the
workspace manifest declares, and in both cases what path dependencies lead to. -/
theorem mem_discoverCargoPackageRoots
    (hmanifest : fs.isFile (Path.join projectRoot "Cargo.toml") = true) {root : Path} :
    let manifest := parseCargoManifest fromPath fs projectRoot
    root ∈ discoverCargoPackageRoots fromPath fs projectRoot ignored hidden ↔
      if manifest.workspaceMembers = [] then
        Worklist.Reachable (acceptedDependencyRoots fromPath fs [])
          (OrderedSet.ofList [projectRoot]) root
      else
        Worklist.Reachable (acceptedDependencyRoots fromPath fs
            (manifest.workspaceExcludes.map (Path.join projectRoot)))
          (declaredRoots fs ignored hidden projectRoot manifest) root := by
  intro manifest
  rw [discoverCargoPackageRoots, if_pos hmanifest, discoverPackageRootsFromManifest]
  dsimp only
  split
  · exact mem_insertPathDependencyRoots fromPath fs []
  · exact mem_insertPathDependencyRoots fromPath fs _

theorem nodup_discoverCargoPackageRoots :
    (discoverCargoPackageRoots fromPath fs projectRoot ignored hidden).Nodup := by
  unfold discoverCargoPackageRoots discoverPackageRootsFromManifest
  dsimp only
  split
  · split
    · exact OrderedMap.nodup_keys _
    · exact OrderedMap.nodup_keys _
  · exact List.nodup_nil

/-- What holds of the project root, of every member root that is taken and of every
dependency root that is accepted holds of every discovered root. -/
theorem forall_mem_discoverCargoPackageRoots {holds : Path → Prop}
    (hproject : fs.isFile (Path.join projectRoot "Cargo.toml") = true → holds projectRoot)
    (hmember : ∀ excludes spelled,
      takesMember fs ignored hidden projectRoot excludes (normalizeLexicalPath spelled) = true →
        holds (normalizeLexicalPath spelled))
    (hdependency : ∀ excludes dependency,
      acceptsDependencyRoot fs excludes (normalizeLexicalPath dependency) = true →
        holds (normalizeLexicalPath dependency)) {root : Path}
    (h : root ∈ discoverCargoPackageRoots fromPath fs projectRoot ignored hidden) :
    holds root := by
  have hreached : ∀ {excludes : List Path} {seeds : OrderedSet Path},
      (∀ seed ∈ seeds.keys, holds seed) →
      Worklist.Reachable (acceptedDependencyRoots fromPath fs excludes) seeds root →
      holds root := by
    rintro excludes seeds hseeds ⟨seed, hseed, hpath⟩
    rcases Relation.ReflTransGen.cases_tail hpath with rfl | ⟨before, -, hnext⟩
    · exact hseeds root hseed
    · obtain ⟨hmem, haccepts⟩ := List.mem_filter.mp hnext
      obtain ⟨dependency, -, rfl⟩ := List.mem_map.mp hmem
      exact hdependency excludes dependency haccepts
  by_cases hmanifest : fs.isFile (Path.join projectRoot "Cargo.toml") = true
  · have hmem := (mem_discoverCargoPackageRoots fs ignored hidden projectRoot fromPath
      hmanifest).mp h
    split at hmem
    · refine hreached (fun seed hseed => ?_) hmem
      obtain rfl : seed = projectRoot := by simpa using hseed
      exact hproject hmanifest
    · refine hreached (fun seed hseed => ?_) hmem
      rcases (mem_declaredRoots fs ignored hidden projectRoot).mp hseed with
        ⟨-, rfl⟩ | ⟨⟨entry, -, spelled, -, rfl⟩, htakes⟩
      · exact hproject hmanifest
      · exact hmember _ spelled htakes
  · simp [discoverCargoPackageRoots, hmanifest] at h

/-- Discovered roots are normalized, as the project root is. -/
theorem normalized_of_mem_discoverCargoPackageRoots
    (hnormalized : normalizeLexicalPath projectRoot = projectRoot) {root : Path}
    (h : root ∈ discoverCargoPackageRoots fromPath fs projectRoot ignored hidden) :
    normalizeLexicalPath root = root := by
  apply forall_mem_discoverCargoPackageRoots fs ignored hidden projectRoot fromPath _ _ _ h
  · exact fun _ => hnormalized
  · exact fun _ spelled _ => normalizeLexicalPath_idem spelled
  · exact fun _ dependency _ => normalizeLexicalPath_idem dependency

/-- A discovered root has a manifest. -/
theorem isFile_of_mem_discoverCargoPackageRoots {root : Path}
    (h : root ∈ discoverCargoPackageRoots fromPath fs projectRoot ignored hidden) :
    fs.isFile (Path.join root "Cargo.toml") = true := by
  apply forall_mem_discoverCargoPackageRoots fs ignored hidden projectRoot fromPath _ _ _ h
  · exact id
  · exact fun _ spelled htakes => (Bool.and_eq_true_iff.mp htakes).2
  · exact fun _ dependency haccepts => (Bool.and_eq_true_iff.mp haccepts).2

end Discovered

/-! ## When the two agree

Both sides are brought into one form, with the names of a package below the root.  They
agree on a package if it is taken by both or by none, and the condition says this with
the entries alone. -/

section Agreement

variable (fromPath : ManifestReader) (fs : FileSystem) (ignored hidden : OrderedSet String)
variable (root : List String)

/-- The root directory of the workspace, as a path. -/
abbrev rootPath : Path := root.map .normal

/-- A directory below the root, by its relative path, that is a package. -/
def IsPackage (relative : Path) : Prop :=
  fs.isFile (Path.join (rootPath root ++ relative) "Cargo.toml") = true

/-- A workspace directory whose packages have no ignored or hidden directory above them
and no path dependencies, and the list of all its manifests. -/
structure PlainWorkspace (candidates : OrderedSet Path) : Prop where
  /-- The root has a manifest. -/
  manifest : IsPackage fs root []
  /-- The candidates are the manifests of the directory. -/
  candidates : ∀ path, path ∈ candidates.keys ↔ ∃ names : List String,
    path = names.map .normal ++ [.normal "Cargo.toml"] ∧ IsPackage fs root (names.map .normal)
  /-- No package lies in an ignored or hidden directory. -/
  visible : ∀ relative, IsPackage fs root relative →
    ignoredPathContainsIgnoredSegment ignored hidden relative = false
  /-- No package has path dependencies. -/
  selfContained : ∀ relative, IsPackage fs root relative →
    (parseCargoManifest fromPath fs (rootPath root ++ relative)).pathDependencyRoots = []

/-- Some entry leads to the directory when it is read as a path. -/
def NamedByPath (entries : List String) (relative : Path) : Prop :=
  ∃ entry ∈ entries, ∃ spelled, Spells fs ignored hidden (rootPath root) entry spelled ∧
    normalizeLexicalPath spelled = rootPath root ++ relative

/-- Some entry is the text of the directory, or matches it. -/
def NamedByText (entries : List String) (relative : Path) : Prop :=
  (∃ names : List String, relative = names.map .normal) ∧ matchesText entries relative = true

/-- The directory is an excluded path or lies below one. -/
def ExcludedByPath (entries : List String) (relative : Path) : Prop :=
  isExcludedMember (rootPath root ++ relative) (entries.map (Path.join (rootPath root))) = true

/-- Some exclude entry is the text of the directory, or matches it. -/
def ExcludedByText (entries : List String) (relative : Path) : Prop :=
  matchesText entries relative = true

/-- A package directory on which the two readings of the entries come to the same: one
that member entries name in both readings is excluded in both or in neither, and one that
they name in one reading only is excluded in that reading. -/
structure EntriesAgree (members excludes : List String) (relative : Path) : Prop where
  both : NamedByPath fs ignored hidden root members relative → NamedByText members relative →
    (ExcludedByPath root excludes relative ↔ ExcludedByText excludes relative)
  pathOnly : NamedByPath fs ignored hidden root members relative →
    ¬ NamedByText members relative → ExcludedByPath root excludes relative
  textOnly : NamedByText members relative →
    ¬ NamedByPath fs ignored hidden root members relative → ExcludedByText excludes relative

variable {fromPath fs ignored hidden root} {candidates : OrderedSet Path}

/-- The roots discovery takes for the member entries of a plain workspace. -/
theorem takesMember_iff (h : PlainWorkspace fromPath fs ignored hidden root candidates)
    {excludes : List String} {dir : Path} :
    takesMember fs ignored hidden (rootPath root) (excludes.map (Path.join (rootPath root))) dir =
        true ↔
      ∃ relative, dir = rootPath root ++ relative ∧ IsPackage fs root relative ∧
        ¬ ExcludedByPath root excludes relative := by
  simp only [takesMember, normalizeLexicalPath_map_normal, Bool.and_eq_true,
    Bool.not_eq_true', Option.any_eq_true, Path.stripPrefix?_eq_some_iff]
  constructor
  · rintro ⟨⟨⟨relative, rfl, -⟩, hexcluded⟩, hfile⟩
    exact ⟨relative, rfl, hfile, by simpa [ExcludedByPath] using hexcluded⟩
  · rintro ⟨relative, rfl, hfile, hexcluded⟩
    exact ⟨⟨⟨relative, rfl, h.visible relative hfile⟩,
      by simpa [ExcludedByPath] using hexcluded⟩, hfile⟩

/-- No dependency is followed from a root that a plain workspace declares. -/
theorem acceptedDependencyRoots_eq_nil
    (h : PlainWorkspace fromPath fs ignored hidden root candidates) {relative : Path}
    (hpackage : IsPackage fs root relative) (excludes : List Path) :
    acceptedDependencyRoots fromPath fs excludes (rootPath root ++ relative) = [] := by
  rw [acceptedDependencyRoots, h.selfContained relative hpackage]
  rfl

/-- The roots discovery finds in a plain workspace, other than its own. -/
theorem discovered_iff (h : PlainWorkspace fromPath fs ignored hidden root candidates)
    {dir : Path} (hne : dir ≠ rootPath root) :
    let manifest := parseCargoManifest fromPath fs (rootPath root)
    dir ∈ discoverCargoPackageRoots fromPath fs (rootPath root) ignored hidden ↔
      ∃ relative, dir = rootPath root ++ relative ∧ IsPackage fs root relative ∧
        NamedByPath fs ignored hidden root manifest.workspaceMembers relative ∧
        ¬ ExcludedByPath root manifest.workspaceExcludes relative := by
  intro manifest
  have hroot : fs.isFile (Path.join (rootPath root) "Cargo.toml") = true := by
    simpa [IsPackage] using h.manifest
  have hown : ∀ excludes, acceptedDependencyRoots fromPath fs excludes (rootPath root) = [] := by
    intro excludes
    simpa using acceptedDependencyRoots_eq_nil h h.manifest excludes
  refine (mem_discoverCargoPackageRoots fs ignored hidden (rootPath root) fromPath
    hroot).trans ?_
  split
  · next hmembers =>
      have hfinal : ∀ seed ∈ (OrderedSet.ofList [rootPath root]).keys,
          acceptedDependencyRoots fromPath fs [] seed = [] := by
        intro seed hseed
        obtain rfl : seed = rootPath root := by simpa using hseed
        exact hown []
      rw [Worklist.reachable_iff_of_final hfinal]
      constructor
      · intro hmem
        exact absurd (by simpa using hmem) hne
      · rintro ⟨relative, -, -, ⟨entry, hentry, -⟩, -⟩
        rw [show manifest.workspaceMembers = [] from hmembers] at hentry
        cases hentry
  · -- every declared root is a package of the workspace, so none has dependencies
    have hfinal : ∀ seed ∈ (declaredRoots fs ignored hidden (rootPath root) manifest).keys,
        acceptedDependencyRoots fromPath fs
          (manifest.workspaceExcludes.map (Path.join (rootPath root))) seed = [] := by
      intro seed hseed
      rcases (mem_declaredRoots fs ignored hidden (rootPath root)).mp hseed with
        ⟨-, rfl⟩ | ⟨-, hmember⟩
      · exact hown _
      · obtain ⟨relative, rfl, hpackage, -⟩ := (takesMember_iff h).mp hmember
        exact acceptedDependencyRoots_eq_nil h hpackage _
    rw [Worklist.reachable_iff_of_final hfinal, mem_declaredRoots, takesMember_iff h]
    constructor
    · rintro (⟨-, heq⟩ | ⟨⟨entry, hentry, spelled, hspells, heq⟩, relative, rfl, hpackage,
        hexcluded⟩)
      · exact absurd heq hne
      · exact ⟨relative, rfl, hpackage, ⟨entry, hentry, spelled, hspells, heq.symm⟩, hexcluded⟩
    · rintro ⟨relative, rfl, hpackage, ⟨entry, hentry, spelled, hspells, heq⟩, hexcluded⟩
      exact Or.inr ⟨⟨entry, hentry, spelled, hspells, heq.symm⟩, relative, rfl, hpackage,
        hexcluded⟩

/-- The roots the provider finds among the manifests of a plain workspace. -/
theorem fromCandidates_iff (h : PlainWorkspace fromPath fs ignored hidden root candidates)
    {facts : CargoManifestFacts} {dir : Path} :
    dir ∈ cargoWorkspaceMemberRootsFromCandidates (rootPath root) facts candidates ↔
      ∃ relative, dir = rootPath root ++ relative ∧ relative ≠ [] ∧
        IsPackage fs root relative ∧ NamedByText facts.workspaceMembers relative ∧
        ¬ ExcludedByText facts.workspaceExcludes relative := by
  rw [mem_memberRootsFromCandidates]
  constructor
  · rintro ⟨relative, hne, rfl, hcandidate, hmember, hexcluded⟩
    obtain ⟨names, hnames, hpackage⟩ := (h.candidates _).mp hcandidate
    obtain rfl := List.append_cancel_right hnames
    exact ⟨_, rfl, hne, hpackage, ⟨⟨names, rfl⟩, hmember⟩,
      by simpa [ExcludedByText] using hexcluded⟩
  · rintro ⟨relative, rfl, hne, hpackage, ⟨⟨names, rfl⟩, hmember⟩, hexcluded⟩
    exact ⟨_, hne, rfl, (h.candidates _).mpr ⟨names, rfl, hpackage⟩, hmember,
      by simpa [ExcludedByText] using hexcluded⟩

theorem append_eq_rootPath_iff {relative : Path} :
    rootPath root ++ relative = rootPath root ↔ relative = [] := by
  simp

/-- Discovery finds a package below the root that entries lead to and none excludes. -/
theorem discovered_package_iff (h : PlainWorkspace fromPath fs ignored hidden root candidates)
    {relative : Path} (hne : relative ≠ []) (hpackage : IsPackage fs root relative) :
    let manifest := parseCargoManifest fromPath fs (rootPath root)
    rootPath root ++ relative ∈
        discoverCargoPackageRoots fromPath fs (rootPath root) ignored hidden ↔
      NamedByPath fs ignored hidden root manifest.workspaceMembers relative ∧
        ¬ ExcludedByPath root manifest.workspaceExcludes relative := by
  intro manifest
  refine (discovered_iff h (mt append_eq_rootPath_iff.mp hne)).trans ?_
  constructor
  · rintro ⟨below, heq, -, hpath, hexcluded⟩
    obtain rfl := List.append_cancel_left heq
    exact ⟨hpath, hexcluded⟩
  · rintro ⟨hpath, hexcluded⟩
    exact ⟨relative, rfl, hpackage, hpath, hexcluded⟩

/-- The provider finds a package below the root that entries name as a text and none
excludes. -/
theorem fromCandidates_package_iff
    (h : PlainWorkspace fromPath fs ignored hidden root candidates)
    {facts : CargoManifestFacts} {relative : Path} (hne : relative ≠ [])
    (hpackage : IsPackage fs root relative) :
    rootPath root ++ relative ∈
        cargoWorkspaceMemberRootsFromCandidates (rootPath root) facts candidates ↔
      NamedByText facts.workspaceMembers relative ∧
        ¬ ExcludedByText facts.workspaceExcludes relative := by
  refine (fromCandidates_iff h).trans ?_
  constructor
  · rintro ⟨below, heq, -, -, htext, hexcluded⟩
    obtain rfl := List.append_cancel_left heq
    exact ⟨htext, hexcluded⟩
  · rintro ⟨htext, hexcluded⟩
    exact ⟨relative, rfl, hne, hpackage, htext, hexcluded⟩

end Agreement

/-! ## A workspace with one package -/

/-- A workspace directory `/ws` with one package directory `a`. -/
def onePackageTree : FileSystem where
  root := .directory [("ws", .directory [("Cargo.toml", .file [] 0),
    ("a", .directory [("Cargo.toml", .file [] 0)])])]
  wellFormed := by decide

/-- Its manifests, with the member entries given. -/
def onePackageReader (members : List String) : ManifestReader := fun _ path =>
  if path = [.normal "ws", .normal "Cargo.toml"] then
    .ok { workspace := some { members } }
  else .ok { package := some { name := "a", edition := "2021" } }

/-- The list of its manifests. -/
def onePackageCandidates : OrderedSet Path :=
  OrderedSet.ofList [[.normal "Cargo.toml"], [.normal "a", .normal "Cargo.toml"]]

/-- The default names that discovery ignores. -/
def onePackageIgnored : OrderedSet String := OrderedSet.ofList defaultIgnoredDirNames

/-- The packages of the tree, by the names of their directories. -/
theorem onePackage_names {names : List String}
    (h : IsPackage onePackageTree ["ws"] (names.map .normal)) : names = [] ∨ names = ["a"] := by
  rw [IsPackage, join_cargoToml] at h
  have hexists := FileSystem.pathExists_of_isFile h
  have hshape : ∀ rest : List String, ∃ name below,
      rest.map Component.normal ++ [.normal "Cargo.toml"] = .normal name :: below := by
    intro rest
    cases rest with
    | nil => exact ⟨_, _, rfl⟩
    | cons first others => exact ⟨first, _, rfl⟩
  -- the directories a lookup passes, one after the other
  rcases names with _ | ⟨first, rest⟩
  · exact Or.inl rfl
  · have hbelow : onePackageTree.pathExists ([.normal "ws"] ++ .normal first ::
        (rest.map .normal ++ [.normal "Cargo.toml"])) = true := by simpa using hexists
    have hfirst : first ∈ ["Cargo.toml", "a"] := FileSystem.mem_names_of_pathExists rfl hbelow
    rcases List.mem_pair.mp hfirst with rfl | rfl
    · obtain ⟨name, below, hrest⟩ := hshape rest
      have hnone : onePackageTree.pathExists
          ([.normal "ws", .normal "Cargo.toml"] ++ .normal name :: below) = false :=
        FileSystem.pathExists_below_file rfl
      rw [hrest] at hbelow
      exact absurd (hnone.symm.trans hbelow) Bool.false_ne_true
    · rcases rest with _ | ⟨second, others⟩
      · exact Or.inr rfl
      · have hdeeper : onePackageTree.pathExists ([.normal "ws", .normal "a"] ++
            .normal second :: (others.map .normal ++ [.normal "Cargo.toml"])) = true := by
          simpa using hbelow
        have hsecond : second ∈ ["Cargo.toml"] :=
          FileSystem.mem_names_of_pathExists rfl hdeeper
        obtain rfl := List.mem_singleton.mp hsecond
        obtain ⟨name, below, hrest⟩ := hshape others
        have hnone : onePackageTree.pathExists
            ([.normal "ws", .normal "a", .normal "Cargo.toml"] ++ .normal name :: below) =
              false := FileSystem.pathExists_below_file rfl
        rw [hrest] at hdeeper
        exact absurd (hnone.symm.trans hdeeper) Bool.false_ne_true

/-- The tree is a plain workspace, whatever its members are. -/
theorem onePackage_plain (members : List String) :
    PlainWorkspace (onePackageReader members) onePackageTree onePackageIgnored ∅ ["ws"]
      onePackageCandidates where
  manifest := by rfl
  candidates path := by
    constructor
    · intro hpath
      rcases List.mem_pair.mp (OrderedSet.mem_ofList.mp hpath) with rfl | rfl
      · exact ⟨[], rfl, rfl⟩
      · exact ⟨["a"], rfl, rfl⟩
    · rintro ⟨names, rfl, hpackage⟩
      rcases onePackage_names hpackage with rfl | rfl <;> simp [onePackageCandidates]
  visible relative hpackage := by
    rw [IsPackage, join_cargoToml] at hpackage
    have hexists := FileSystem.pathExists_of_isFile hpackage
    refine List.any_eq_false.mpr fun component hcomponent => ?_
    cases component with
    | parent => decide
    | normal name =>
        have hname : name ∈ ["ws", "Cargo.toml", "a", "Cargo.toml"] :=
          mem_entryNames_of_pathExists hexists
            (List.mem_append_left _ (List.mem_append_right _ hcomponent))
        have hvisible : ∀ name ∈ ["ws", "Cargo.toml", "a", "Cargo.toml"],
            ¬ shouldIgnoreDirName onePackageIgnored ∅ name = true := by decide
        exact hvisible name hname
  selfContained relative _ := by
    unfold parseCargoManifest onePackageReader
    split
    · next hread => split at hread <;> cases hread
    · next manifest hread =>
        split at hread <;>
          · cases hread
            rfl

end AspRust.Discovery
