import AspRust.Resolution.DependencyEdges

/-!
# Containment of a resolution in its workspace

A root is admitted on the strength of its normalized relative path.  Normalization lets
a `..` that nothing is left to take back take back the `..` before it, so a path that
climbs twice out of the workspace is read as one that never left it, and a path that
climbs three times as one that climbed once.

A path that does not climb is inside the workspace, and so is one that climbs and comes
back along the last names of the workspace.  Every other path is outside, and is
admitted all the same if a candidate manifest stands where its cancelled form points
(`contained_iff_not_misread`).

### What is load-bearing

Inside and outside are read off the path as it is written, by `climb`: how far it goes above
its start, and the names below.  The cancelled form is the one that normalization gives, with
the same names and the climbing steps taken away in pairs.  Both have to be inside, the place
that the manifest names and the place that is looked at.

The condition is in closed form, about the climbing steps, the names, the candidates and the
exclude entries of one root.  What a whole resolution looks at is a list of such roots.
-/

namespace AspRust.Resolution

open AspRust.Foundation AspRust.Discovery

/-- A place that is, with `.` and `..` resolved, the workspace or below it.  Nothing is
above the root of the file system; a relative place that climbs further than the
workspace does is not below it. -/
def Inside (workspace location : Location) : Prop :=
  location.absolute = workspace.absolute ∧
    (Path.climb workspace.components).names <+: (Path.climb location.components).names ∧
    (workspace.absolute = true ∨
      (Path.climb location.components).ups = (Path.climb workspace.components).ups)

/-- From some steps above the workspace the names lead back into it. -/
def Returns (workspace : Location) (climb : Climb) : Prop :=
  (Path.climb workspace.components).names.drop
      ((Path.climb workspace.components).names.length - climb.ups) <+: climb.names ∧
    (workspace.absolute = true ∨ climb.ups ≤ (Path.climb workspace.components).names.length)

/-- A path below the workspace text is inside exactly when it leads back from where it
climbs to. -/
theorem inside_append_iff {workspace : Location} {rest : Path} :
    Inside workspace (workspace.append rest) ↔ Returns workspace (Path.climb rest) := by
  have hnames : ∀ (own names : List String) (ups : ℕ),
      own <+: own.take (own.length - ups) ++ names ↔ own.drop (own.length - ups) <+: names := by
    intro own names ups
    have hshared : own.take (own.length - ups) ++ own.drop (own.length - ups) <+:
        own.take (own.length - ups) ++ names ↔ own.drop (own.length - ups) <+: names :=
      List.prefix_append_right_inj _
    rwa [List.take_append_drop] at hshared
  simp only [Inside, Returns, Location.append, Path.climb_append, true_and]
  rw [hnames]
  refine and_congr_right fun _ => or_congr_right ?_
  omega

theorem climb_leftParents (ups : ℕ) : Path.climb (leftParents ups) = ⟨ups % 2, []⟩ := by
  unfold leftParents
  split
  · next hodd => rw [hodd]; rfl
  · next hodd =>
      have heven : ups % 2 = 0 := by omega
      rw [heven]
      rfl

/-- Where the normalized form of a path leads. -/
theorem climb_normalizeRelativePath (path : Path) :
    Path.climb (normalizeRelativePath path) =
      ⟨(Path.climb path).ups % 2, (Path.climb path).names⟩ := by
  rw [normalizeRelativePath_eq, Path.climb_append, Path.climb_map_normal, climb_leftParents]
  simp

section OneRoot

variable (workspace packageRoot : Location) (candidatePaths : OrderedSet Path)
  (workspaceExcludes : List String)

/-- If a root is admitted, then it is inside the workspace, and so is the place it is
admitted at. -/
def Contained : Prop :=
  ∀ relativeRoot, admittedWorkspacePackageRoot workspace packageRoot candidatePaths
      workspaceExcludes = some relativeRoot →
    Inside workspace packageRoot ∧ Inside workspace (workspace.append relativeRoot)

/-- A root that climbs out of the workspace and does not come back, either as it is
written or after pairs of climbing steps are cancelled, while a candidate manifest that
no exclude entry matches stands at its cancelled form. -/
def Misread : Prop :=
  ∃ rest, packageRoot = workspace.append rest ∧
    ¬ (Returns workspace (Path.climb rest) ∧
      Returns workspace ⟨(Path.climb rest).ups % 2, (Path.climb rest).names⟩) ∧
    manifestOf (leftParents (Path.climb rest).ups ++
      (Path.climb rest).names.map Component.normal) ∈ candidatePaths.keys ∧
    matchesText workspaceExcludes (leftParents (Path.climb rest).ups ++
      (Path.climb rest).names.map Component.normal) = false

theorem contained_iff_not_misread :
    Contained workspace packageRoot candidatePaths workspaceExcludes ↔
      ¬ Misread workspace packageRoot candidatePaths workspaceExcludes := by
  constructor
  · rintro hcontained ⟨rest, hroot, houtside, hcandidate, hexcluded⟩
    rw [← normalizeRelativePath_eq] at hcandidate hexcluded
    obtain ⟨hinside, hplace⟩ := hcontained (normalizeRelativePath rest)
      (admittedWorkspacePackageRoot_eq_some_iff.mpr ⟨rest, hroot, rfl, hcandidate, hexcluded⟩)
    rw [hroot, inside_append_iff] at hinside
    rw [inside_append_iff, climb_normalizeRelativePath] at hplace
    exact houtside ⟨hinside, hplace⟩
  · intro hread relativeRoot hadmitted
    obtain ⟨rest, rfl, rfl, hcandidate, hexcluded⟩ :=
      admittedWorkspacePackageRoot_eq_some_iff.mp hadmitted
    rw [inside_append_iff, inside_append_iff, climb_normalizeRelativePath]
    rw [normalizeRelativePath_eq] at hcandidate hexcluded
    by_contra houtside
    exact hread ⟨rest, rfl, houtside, hcandidate, hexcluded⟩

end OneRoot

section Run

variable (host : CargoHost) (workspace : Location) (input : ProjectResolutionInput)

/-- A root that a resolution looks at: a seed, or a path dependency of an admitted
root. -/
def LooksAt (root : Location) : Prop :=
  AdmissionWorklist.Offered (admitRoot host workspace input)
    (dependencyRoots host workspace input) (seedRoots host workspace input) root

/-- **Containment.**  A path dependency of a package is admitted only inside the
workspace, exactly when it is not misread.  Root by root this gives the same of a whole
resolution: all roots that it looks at are contained exactly when it misreads none of
them. -/
theorem resolution_contained_iff :
    (∀ (packageRoot : Location) path candidatePaths workspaceExcludes,
      Contained workspace (packageRoot.join path) candidatePaths workspaceExcludes ↔
        ¬ Misread workspace (packageRoot.join path) candidatePaths workspaceExcludes) ∧
    ((∀ root, LooksAt host workspace input root →
        Contained workspace root (candidatePaths input)
          (rootFacts host workspace input).1.workspaceExcludes) ↔
      ∀ root, LooksAt host workspace input root →
        ¬ Misread workspace root (candidatePaths input)
          (rootFacts host workspace input).1.workspaceExcludes) := by
  refine ⟨fun packageRoot path candidates excludes =>
    contained_iff_not_misread workspace (packageRoot.join path) candidates excludes, ?_⟩
  exact forall₂_congr fun root _ => contained_iff_not_misread workspace root (candidatePaths input)
    (rootFacts host workspace input).1.workspaceExcludes

end Run

/-! ## A path that climbs twice -/

/-- A package `app` that depends on `x` two directories above, and a package `x` of its own
workspace. -/
def climbingHost : CargoHost where
  completedManifest root _ _ :=
    if root = processDirectory then
      some { package := some ⟨"app", "2024"⟩
             dependencies := OrderedMap.insert ∅ "x" { path := some "../../x" } }
    else if root = ⟨false, [.normal "x"]⟩ then some { package := some ⟨"x", "2024"⟩ }
    else none
  isFile _ := false
  fileDigest _ := none
  digestHex text := text

def climbingInput : ProjectResolutionInput := ⟨"blake3:0", ["Cargo.toml", "x/Cargo.toml"]⟩

/-- **The outside path is taken for the package of the workspace.** -/
theorem climbingPath_admitted :
    ¬ ∀ root, LooksAt climbingHost processDirectory climbingInput root →
      Contained processDirectory root (candidatePaths climbingInput)
        (rootFacts climbingHost processDirectory climbingInput).1.workspaceExcludes := by
  intro hcontained
  have hlooks : LooksAt climbingHost processDirectory climbingInput
      (processDirectory.join "../../x") := Or.inl (by decide)
  have hadmitted : admittedWorkspacePackageRoot processDirectory
      (processDirectory.join "../../x") (candidatePaths climbingInput)
      (rootFacts climbingHost processDirectory climbingInput).1.workspaceExcludes =
      some [.normal "x"] := by decide
  obtain ⟨⟨-, -, habsolute | hups⟩, -⟩ := hcontained _ hlooks _ hadmitted
  · cases habsolute
  · exact absurd hups (by decide)

end AspRust.Resolution
