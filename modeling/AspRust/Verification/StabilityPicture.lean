import AspRust.Foundation.FirstMatch
import AspRust.Verification.PlannedTasks
import AspRust.Verification.ProfileIndex

/-!
# Stability pictures

A stability picture says which evidence of stability an owner has to give.  Hints and baselines
may declare a picture of their own, and a record of the plan is shown with the picture of the
hint or baseline that it comes from, or with a default picture.

The planner decides which module a configured path names: an absolute path is that of the
module, and another one is relative to the project or else to the package.  The picture of a
record is found in another way: its owner is compared with the configured paths, as they are or
relative to the package, and the first one that fits is taken, whether it declares a picture or
not.  Both ways compare components, so that a path may fit in one of them only because of how
the root of the project is written.

`stabilityPictures_agree_iff` says when the two ways lead to the same picture.  What can go
wrong is what can go wrong with first matches in general: the entry that the planner resolves
is missed, it is shadowed by an earlier match, or a match is taken that the planner resolves to
another module.

### What is load-bearing

The condition does not speak of the picture that is returned.  It is about which entries
name the owner in the project (`NamedInProject`, by the paths of the modules) and which
name it from its package (`NamedFromPackage`, by the path of the record), both closed forms
over components (`resolvesToOwner_iff`, `configPathMatchesRecord_iff`).

Two roots matter.  With an absolute project root a relative path is never the path of a
module; with the root `.` it may be, since the paths of the modules are relative then and a
hint `./src/api.rs` is the path of the record letter by letter.  Paths that carry whether
they are absolute (`OsPath`) keep the two apart.
-/

namespace AspRust.Verification

open AspRust.Foundation

/-! ## Records

The stability tasks of a plan as records, sorted, each with its owner, its package and
its evidence. -/

/-- A stability task of a plan. -/
structure RustVerificationStabilityRecord where
  fingerprint : String
  state : RustVerificationTaskState
  phase : RustVerificationPhase
  packageRoot : OsPath
  ownerPath : OsPath
  ownerNamespace : List String
  skill : Option String
  contractRef : Option String
  requiredEvidenceKeys : List String
  taskEvidence : List RustVerificationEvidence
  receiptSummary : Option String
  receiptEvidenceUri : Option String
  receiptObservedAt : Option String
  receiptEvidence : List RustVerificationEvidence
deriving DecidableEq

structure RustVerificationStabilityIndex where
  projectRoot : OsPath
  records : List RustVerificationStabilityRecord

def RustVerificationStabilityRecord.ofTask (task : RustVerificationTask OsPath) :
    RustVerificationStabilityRecord where
  fingerprint := task.fingerprint
  state := task.state
  phase := task.phase
  packageRoot := task.packageRoot
  ownerPath := task.ownerPath
  ownerNamespace := task.ownerNamespace
  skill := task.skillBinding.map RustVerificationSkillBinding.compactLabel
  contractRef := task.skillContractRef
  requiredEvidenceKeys := task.requiredEvidence.map (·.key)
  taskEvidence := task.evidence
  receiptSummary := task.receiptSummary
  receiptEvidenceUri := task.receiptEvidenceUri
  receiptObservedAt := task.receiptObservedAt
  receiptEvidence := task.receiptEvidence

def RustVerificationStabilityRecord.receiptEvidenceValue
    (record : RustVerificationStabilityRecord) (key : String) : Option String :=
  (record.receiptEvidence.find? fun evidence => evidence.label = key).map (·.value)

/-- Records are listed by owner and fingerprint. -/
def stabilityRecordLe (left right : RustVerificationStabilityRecord) : Prop :=
  toLex (left.ownerPath, left.fingerprint) ≤ toLex (right.ownerPath, right.fingerprint)

instance stabilityRecordLe.decidableRel : DecidableRel stabilityRecordLe := fun _ _ =>
  inferInstanceAs (Decidable (toLex _ ≤ toLex _))

def buildRustVerificationStabilityIndex (plan : RustVerificationPlan OsPath) :
    RustVerificationStabilityIndex where
  projectRoot := plan.projectRoot
  records := ((plan.tasks.filter fun task => task.kind = .stability).map
    RustVerificationStabilityRecord.ofTask).insertionSort stabilityRecordLe

/-! ## Pictures

What a picture demands, and what a record is shown with: warnings where the
configuration of the picture is doubtful, and the next actions. -/

namespace RustVerificationStabilityPictureConfig

/-- The picture that demands all evidence there is. -/
def standard : RustVerificationStabilityPictureConfig where
  requireLongRunningSimulation := true
  requirePerformanceInterface := true
  requireResourceDelta := true
  requireStateGrowth := true
  requireDeterminism := true
  requireStabilityArtifact := true
  minIterations := none
  minDurationSeconds := none

def requiredReceiptEvidenceKeys (config : RustVerificationStabilityPictureConfig) :
    List String :=
  (if config.requireLongRunningSimulation then ["stability_command", "iteration_window"]
    else []) ++
  (if config.requirePerformanceInterface then ["latency_distribution"] else []) ++
  (if config.requireResourceDelta then ["resource_delta"] else []) ++
  (if config.requireStateGrowth then ["state_growth"] else []) ++
  (if config.requireDeterminism then ["determinism"] else []) ++
  (if config.requireStabilityArtifact then ["stability_artifact"] else [])

end RustVerificationStabilityPictureConfig

structure RustVerificationStabilityPictureConfigWarning where
  key : String
  message : String
deriving DecidableEq, Repr

/-- The warnings about settings that have no effect. -/
def RustVerificationStabilityPictureConfig.review
    (config : RustVerificationStabilityPictureConfig) :
    List RustVerificationStabilityPictureConfigWarning :=
  (if config.requiredReceiptEvidenceKeys = [] then
    [⟨"no_required_axes", "stability picture has no required evidence axes"⟩] else []) ++
  (if !config.requireLongRunningSimulation && config.minIterations.isSome then
    [⟨"min_iterations_without_long_run",
      "min_iterations is ignored unless long-running simulation is required"⟩] else []) ++
  (if !config.requireLongRunningSimulation && config.minDurationSeconds.isSome then
    [⟨"min_duration_without_long_run",
      "min_duration_seconds is ignored unless long-running simulation is required"⟩] else [])

def stabilityPictureNextActions (config : RustVerificationStabilityPictureConfig)
    (missingEvidenceKeys : List String) : List String :=
  (if missingEvidenceKeys.any fun key => key = "stability_command" || key = "iteration_window" then
    ["add long-running simulation receipt" ++
      ((config.minIterations.map fun iterations =>
        " iterations>=" ++ toString iterations).getD "") ++
      ((config.minDurationSeconds.map fun seconds =>
        " duration_s>=" ++ toString seconds).getD "")] else []) ++
  (if "latency_distribution" ∈ missingEvidenceKeys then
    ["add performance interface latency distribution"] else []) ++
  (if "resource_delta" ∈ missingEvidenceKeys then ["add resource growth evidence"] else []) ++
  (if "state_growth" ∈ missingEvidenceKeys then ["add state growth evidence"] else []) ++
  (if "determinism" ∈ missingEvidenceKeys then ["add deterministic replay evidence"] else []) ++
  (if "stability_artifact" ∈ missingEvidenceKeys then ["persist stability artifact"] else [])

structure RustVerificationStabilityPictureRecord where
  fingerprint : String
  state : RustVerificationTaskState
  packageRoot : OsPath
  ownerPath : OsPath
  requiredEvidenceKeys : List String
  missingEvidenceKeys : List String
  configWarnings : List RustVerificationStabilityPictureConfigWarning
  nextActions : List String
deriving DecidableEq

structure RustVerificationStabilityPicture where
  projectRoot : OsPath
  config : RustVerificationStabilityPictureConfig
  records : List RustVerificationStabilityPictureRecord
deriving DecidableEq

/-- A record under a picture. -/
def RustVerificationStabilityPictureRecord.ofRecord (record : RustVerificationStabilityRecord)
    (config : RustVerificationStabilityPictureConfig) :
    RustVerificationStabilityPictureRecord :=
  let missingEvidenceKeys := config.requiredReceiptEvidenceKeys.filter fun key =>
    record.receiptEvidenceValue key = none
  { fingerprint := record.fingerprint
    state := record.state
    packageRoot := record.packageRoot
    ownerPath := record.ownerPath
    requiredEvidenceKeys := config.requiredReceiptEvidenceKeys
    missingEvidenceKeys := missingEvidenceKeys
    configWarnings := config.review
    nextActions := stabilityPictureNextActions config missingEvidenceKeys }

/-! ## The picture of a record

The lookup of the source: baselines first and then hints, in each list the first entry
that matches, whether it has a picture or not. -/

/-- Whether a configured path is that of the owner, as it is or below the package. -/
def configPathMatchesRecord (ownerPath : OsPath) (record : RustVerificationStabilityRecord) :
    Bool :=
  record.ownerPath = ownerPath ||
    (OsPath.stripPrefix? record.packageRoot record.ownerPath).any fun relative =>
      relative = ownerPath

def profileHintMatchesRecord (hint : RustVerificationProfileHint)
    (record : RustVerificationStabilityRecord) : Bool :=
  configPathMatchesRecord hint.osPath record

/-- Whether the record comes from a baseline with this route. -/
def carriesApiPath (baseline : RustVerificationApiPathBaseline)
    (record : RustVerificationStabilityRecord) : Bool :=
  record.taskEvidence.any fun evidence =>
    evidence.label = "api_path" && evidence.value = baseline.apiEvidenceValue

def apiPathBaselineMatchesRecord (baseline : RustVerificationApiPathBaseline)
    (record : RustVerificationStabilityRecord) : Bool :=
  configPathMatchesRecord baseline.osPath record && carriesApiPath baseline record

def stabilityPictureConfigForRecord (record : RustVerificationStabilityRecord)
    (policy : RustVerificationPolicy) (defaultConfig : RustVerificationStabilityPictureConfig) :
    RustVerificationStabilityPictureConfig :=
  (((policy.apiPathBaselines.find? fun baseline =>
      apiPathBaselineMatchesRecord baseline record).bind (·.stabilityPicture)).or
    ((policy.profileHints.find? fun hint =>
      profileHintMatchesRecord hint record).bind (·.stabilityPicture))).getD defaultConfig

/-- The picture of a plan.  Its own requirements are those of the first record. -/
def buildRustVerificationStabilityPictureWithPolicy (plan : RustVerificationPlan OsPath)
    (policy : RustVerificationPolicy) (defaultConfig : RustVerificationStabilityPictureConfig) :
    RustVerificationStabilityPicture :=
  let index := buildRustVerificationStabilityIndex plan
  { projectRoot := index.projectRoot
    config := (index.records.head?.map fun record =>
      stabilityPictureConfigForRecord record policy defaultConfig).getD .standard
    records := index.records.map fun record =>
      RustVerificationStabilityPictureRecord.ofRecord record
        (stabilityPictureConfigForRecord record policy defaultConfig) }

/-! ## Two readings of a configured path

The reading of the planner and that of the lookup, both said by the components of
paths.  They share the case that the path leads to the owner below the package. -/

section Agreement

variable (projectRoot : OsPath) (package : RustVerificationPackageAnalysis)
  (policy : RustVerificationPolicy) (record : RustVerificationStabilityRecord)

/-- The source modules of an analysed package under their paths. -/
def analysisLookup : RustVerificationModuleLookup (ProfileModuleFacts OsPath) :=
  RustVerificationModuleLookup.new ProfileModuleFacts.path projectRoot package.packageRoot
    (sourceModules package.modules)

/-- The paths of the source modules of a package. -/
def sourceModulePaths : List OsPath := (sourceModules package.modules).map (·.path)

/-- The planner takes a configured path for the owner of the record. -/
def ResolvesToOwner (ownerPath : OsPath) : Prop :=
  ((analysisLookup projectRoot package).getConfigPath ownerPath).map (·.path) =
    some record.ownerPath

instance ResolvesToOwner.decidablePred :
    DecidablePred (ResolvesToOwner projectRoot package record) := fun _ =>
  inferInstanceAs (Decidable (_ = _))

/-- The components of the owner are those of the base and then those of the path. -/
def NamedBelow (base owner path : OsPath) : Prop :=
  owner.components = base.components ++ path.components

instance NamedBelow.decidablePred (base owner : OsPath) : DecidablePred (NamedBelow base owner) :=
  fun _ => inferInstanceAs (Decidable (_ = _))

/-- The path is that of the owner, or leads to it from the package. -/
def NamedFromPackage (path : OsPath) : Prop :=
  record.ownerPath = path ∨ NamedBelow record.packageRoot record.ownerPath path

instance NamedFromPackage.decidablePred : DecidablePred (NamedFromPackage record) :=
  fun _ => inferInstanceAs (Decidable (_ ∨ _))

/-- The owner is a source module.  An absolute path is that of the owner; another one leads to
it from the project, or from the package while it leads to nothing else from the project. -/
def NamedInProject (path : OsPath) : Prop :=
  record.ownerPath ∈ sourceModulePaths package ∧
    if path.isAbsolute then record.ownerPath = path
    else NamedBelow projectRoot record.ownerPath path ∨
      NamedBelow package.packageRoot record.ownerPath path ∧
        ∀ other ∈ sourceModulePaths package, ¬ NamedBelow projectRoot other path

instance NamedInProject.decidablePred : DecidablePred (NamedInProject projectRoot package record) :=
  fun path => inferInstanceAs (Decidable (record.ownerPath ∈ sourceModulePaths package ∧
    if path.isAbsolute then record.ownerPath = path
    else NamedBelow projectRoot record.ownerPath path ∨
      NamedBelow package.packageRoot record.ownerPath path ∧
        ∀ other ∈ sourceModulePaths package, ¬ NamedBelow projectRoot other path))

variable {record} in
/-- The picture matcher reads a path as it is or from the package. -/
theorem configPathMatchesRecord_iff {path : OsPath} :
    configPathMatchesRecord path record = true ↔ NamedFromPackage record path := by
  unfold configPathMatchesRecord NamedFromPackage NamedBelow
  rw [Bool.or_eq_true, decide_eq_true_eq, Option.any_eq_true]
  refine or_congr Iff.rfl ⟨?_, ?_⟩
  · rintro ⟨relative, hrelative, hpath⟩
    rw [← of_decide_eq_true hpath]
    exact OsPath.stripPrefix?_eq_some_iff.mp hrelative
  · intro howner
    exact ⟨path, OsPath.stripPrefix?_eq_some_iff.mpr howner, decide_eq_true rfl⟩

/-- The module under a key has this key, and modules of one key have one path. -/
theorem map_path_get?_keepFirst {modules : List (ProfileModuleFacts OsPath)}
    {key : OsPath → Option OsPath} (hkey : ∀ first second k, key first = some k →
      key second = some k → first = second) {k owner : OsPath} :
    ((OrderedMap.keepFirst (fun module : ProfileModuleFacts OsPath => key module.path)
        modules).get? k).map (·.path) = some owner ↔
      owner ∈ modules.map (·.path) ∧ key owner = some k := by
  rw [OrderedMap.get?_keepFirst]
  constructor
  · intro h
    obtain ⟨module, hfind, rfl⟩ := Option.map_eq_some_iff.mp h
    exact ⟨List.mem_map_of_mem (List.mem_of_find?_eq_some hfind),
      by simpa using List.find?_some hfind⟩
  · rintro ⟨hmem, howner⟩
    obtain ⟨module, hmodule, rfl⟩ := List.mem_map.mp hmem
    cases hfind : modules.find? fun other => key other.path = some k with
    | none => exact absurd howner (by simpa using List.find?_eq_none.mp hfind module hmodule)
    | some found =>
        have hfound : key found.path = some k := by simpa using List.find?_some hfind
        rw [Option.map_some, hkey found.path module.path k hfound howner]

/-- The module that is indexed under what is left of its path below a base. -/
theorem map_path_getRelative {modules : List (ProfileModuleFacts OsPath)}
    {base path owner : OsPath} :
    ((OrderedMap.keepFirst (fun module : ProfileModuleFacts OsPath =>
        OsPath.stripPrefix? base module.path) modules).get? path).map (·.path) = some owner ↔
      owner ∈ modules.map (·.path) ∧ NamedBelow base owner path := by
  rw [map_path_get?_keepFirst]
  · exact and_congr_right fun _ => OsPath.stripPrefix?_eq_some_iff
  · intro first second rest hfirst hsecond
    exact OsPath.components_injective ((OsPath.stripPrefix?_eq_some_iff.mp hfirst).trans
      (OsPath.stripPrefix?_eq_some_iff.mp hsecond).symm)

/-- The planner reads an absolute path as it is, and another one from the project or else from
the package. -/
theorem resolvesToOwner_iff {path : OsPath} :
    ResolvesToOwner projectRoot package record path ↔
      NamedInProject projectRoot package record path := by
  unfold ResolvesToOwner NamedInProject RustVerificationModuleLookup.getConfigPath
  split
  · refine (map_path_get?_keepFirst fun first second key hfirst hsecond => ?_).trans ?_
    · exact Option.some.inj (hfirst.trans hsecond.symm)
    · exact and_congr_right fun _ => Option.some_inj
  · rw [Option.map_or, Option.or_eq_some_iff]
    show (_ ∨ _ ∧ _) ↔ _
    have hproject : ((analysisLookup projectRoot package).projectRelative.get? path).map
        (·.path) = none ↔ ∀ other ∈ sourceModulePaths package,
          ¬ NamedBelow projectRoot other path := by
      rw [← not_iff_not, ← ne_eq, Option.ne_none_iff_exists']
      push Not
      exact exists_congr fun other => map_path_getRelative
    rw [hproject, analysisLookup, RustVerificationModuleLookup.new, map_path_getRelative,
      map_path_getRelative]
    constructor
    · rintro (⟨howner, hbelow⟩ | ⟨hother, howner, hbelow⟩)
      · exact ⟨howner, Or.inl hbelow⟩
      · exact ⟨howner, Or.inr ⟨hbelow, hother⟩⟩
    · rintro ⟨howner, hbelow | ⟨hbelow, hother⟩⟩
      · exact Or.inl ⟨howner, hbelow⟩
      · exact Or.inr ⟨hother, howner, hbelow⟩

/-! ## Agreement

Entries are compared by a list of first matches (`Foundation.FirstMatch`).  The
agreement is asked for with every default picture, since a default that happens to be
the right one would hide a missed entry. -/

/-- What a baseline or a hint says about pictures. -/
structure PictureEntry where
  ownerPath : OsPath
  stabilityPicture : Option RustVerificationStabilityPictureConfig

/-- The baselines with the route of a record, and the hints. -/
def pictureEntries : List (List PictureEntry) :=
  [(policy.apiPathBaselines.filter fun baseline => carriesApiPath baseline record).map
      fun baseline => ⟨baseline.osPath, baseline.stabilityPicture⟩,
    policy.profileHints.map fun hint => ⟨hint.osPath, hint.stabilityPicture⟩]

/-- The pictures that are declared for a record, by entries with some owners. -/
def declaredPictures (isOwner : OsPath → Prop) [DecidablePred isOwner] :
    List RustVerificationStabilityPictureConfig :=
  FirstMatch.declared (fun entry => isOwner entry.ownerPath) PictureEntry.stabilityPicture
    (pictureEntries policy record)

/-- The record has the only picture that is declared for it where the planner looks, or the
default picture if there is none. -/
structure PictureAgrees (defaultConfig : RustVerificationStabilityPictureConfig) : Prop where
  lone : ∀ config,
    declaredPictures policy record (ResolvesToOwner projectRoot package record) = [config] →
    stabilityPictureConfigForRecord record policy defaultConfig = config
  silent :
    declaredPictures policy record (ResolvesToOwner projectRoot package record) = [] →
    stabilityPictureConfigForRecord record policy defaultConfig = defaultConfig

/-- The entries that name the owner from its package lead to what the entries declare that name
it in the project. -/
structure PictureReached : Prop where
  /-- No entry with a picture that names the owner in the project is missed. -/
  notMissed : ¬ FirstMatch.Missed (fun entry => NamedFromPackage record entry.ownerPath)
    (fun entry => NamedInProject projectRoot package record entry.ownerPath)
    PictureEntry.stabilityPicture (pictureEntries policy record)
  /-- No such entry is shadowed by an earlier one that names the owner from its package. -/
  notShadowed : ¬ FirstMatch.Shadowed (fun entry => NamedFromPackage record entry.ownerPath)
    (fun entry => NamedInProject projectRoot package record entry.ownerPath)
    PictureEntry.stabilityPicture (pictureEntries policy record)
  /-- No entry with a picture of its own names the owner from its package only, and something
  else in the project. -/
  notMistaken : ¬ FirstMatch.Mistaken (fun entry => NamedFromPackage record entry.ownerPath)
    (fun entry => NamedInProject projectRoot package record entry.ownerPath)
    PictureEntry.stabilityPicture (pictureEntries policy record)

/-- The picture of a record is that of the first entry that names its owner from the package. -/
theorem stabilityPictureConfigForRecord_eq
    (defaultConfig : RustVerificationStabilityPictureConfig) :
    stabilityPictureConfigForRecord record policy defaultConfig =
      (FirstMatch.found? (fun entry => NamedFromPackage record entry.ownerPath)
        PictureEntry.stabilityPicture (pictureEntries policy record)).getD defaultConfig := by
  have hmatches : ∀ path, configPathMatchesRecord path record =
      decide (NamedFromPackage record path) := by
    intro path
    exact Bool.eq_iff_iff.mpr (configPathMatchesRecord_iff.trans decide_eq_true_iff.symm)
  have hbaselines : ∀ baselines : List RustVerificationApiPathBaseline,
      baselines.find? (fun baseline => apiPathBaselineMatchesRecord baseline record) =
        (baselines.filter fun baseline => carriesApiPath baseline record).find?
          fun baseline => decide (NamedFromPackage record baseline.osPath) := by
    intro baselines
    rw [List.find?_filter]
    congr 1
    funext baseline
    rw [apiPathBaselineMatchesRecord, hmatches, Bool.and_comm, Bool.decide_and,
      Bool.decide_eq_true, Bool.decide_eq_true]
  rw [pictureEntries, FirstMatch.found?_pair, FirstMatch.bind_find?_map, FirstMatch.bind_find?_map]
  unfold stabilityPictureConfigForRecord profileHintMatchesRecord
  simp only [hbaselines, hmatches]

theorem declaredPictures_resolves :
    declaredPictures policy record (ResolvesToOwner projectRoot package record) =
      declaredPictures policy record (NamedInProject projectRoot package record) := by
  have hread : ResolvesToOwner projectRoot package record =
      NamedInProject projectRoot package record := by
    funext path
    exact propext (resolvesToOwner_iff projectRoot package record)
  congr

/-- A configuration is found for every default exactly if an entry declares it. -/
theorem forall_getD_eq_iff {C : Type*} [Nontrivial C] {found : Option C} {config : C} :
    (∀ defaultConfig, found.getD defaultConfig = config) ↔ found = some config := by
  constructor
  · intro h
    cases found with
    | none =>
        obtain ⟨other, hother⟩ := exists_ne config
        exact absurd (h other) hother
    | some value => exact congrArg some (h config)
  · rintro rfl defaultConfig
    rfl

/-- No configuration is found exactly if every default is returned. -/
theorem forall_getD_eq_self_iff {C : Type*} [Nontrivial C] {found : Option C} :
    (∀ defaultConfig, found.getD defaultConfig = defaultConfig) ↔ found = none := by
  constructor
  · intro h
    cases found with
    | none => rfl
    | some value =>
        obtain ⟨other, hother⟩ := exists_ne value
        exact absurd (h other).symm hother
  · rintro rfl defaultConfig
    rfl

instance RustVerificationStabilityPictureConfig.nontrivial :
    Nontrivial RustVerificationStabilityPictureConfig :=
  ⟨.standard, { RustVerificationStabilityPictureConfig.standard with minIterations := some 0 },
    by decide⟩

/-- The readings lead to one picture, whatever the default is, exactly if the first match has
what is declared, provided this is one picture at most. -/
theorem forall_pictureAgrees_iff :
    (∀ defaultConfig, PictureAgrees projectRoot package policy record defaultConfig) ↔
      ((declaredPictures policy record (NamedInProject projectRoot package record)).length ≤ 1 →
        FirstMatch.found? (fun entry => NamedFromPackage record entry.ownerPath)
            PictureEntry.stabilityPicture (pictureEntries policy record) =
          (declaredPictures policy record
            (NamedInProject projectRoot package record)).head?) := by
  have hagrees : (∀ defaultConfig,
      PictureAgrees projectRoot package policy record defaultConfig) ↔
      (∀ config, declaredPictures policy record (NamedInProject projectRoot package record) =
          [config] →
        FirstMatch.found? (fun entry => NamedFromPackage record entry.ownerPath)
          PictureEntry.stabilityPicture (pictureEntries policy record) = some config) ∧
      (declaredPictures policy record (NamedInProject projectRoot package record) = [] →
        FirstMatch.found? (fun entry => NamedFromPackage record entry.ownerPath)
          PictureEntry.stabilityPicture (pictureEntries policy record) = none) := by
    rw [← declaredPictures_resolves]
    constructor
    · intro h
      refine ⟨fun config hlone => forall_getD_eq_iff.mp fun defaultConfig => ?_,
        fun hsilent => forall_getD_eq_self_iff.mp fun defaultConfig => ?_⟩
      · rw [← stabilityPictureConfigForRecord_eq]
        exact (h defaultConfig).lone config hlone
      · rw [← stabilityPictureConfigForRecord_eq]
        exact (h defaultConfig).silent hsilent
    · rintro ⟨hlone, hsilent⟩ defaultConfig
      refine ⟨fun config hdeclared => ?_, fun hdeclared => ?_⟩
      · rw [stabilityPictureConfigForRecord_eq, hlone config hdeclared, Option.getD_some]
      · rw [stabilityPictureConfigForRecord_eq, hsilent hdeclared, Option.getD_none]
  rw [hagrees]
  generalize declaredPictures policy record (NamedInProject projectRoot package record) = pictures
  cases pictures with
  | nil => simp
  | cons first rest =>
      cases rest with
      | nil => simp
      | cons second others => simp

/-- One record: the readings lead to one picture exactly if it is reached, provided that one
picture is declared at most. -/
theorem pictureAgrees_iff :
    (∀ defaultConfig, PictureAgrees projectRoot package policy record defaultConfig) ↔
      ((declaredPictures policy record (NamedInProject projectRoot package record)).length ≤ 1 →
        PictureReached projectRoot package policy record) := by
  rw [forall_pictureAgrees_iff]
  refine forall_congr' fun hlone => (FirstMatch.found?_eq_head?_iff hlone).trans ?_
  constructor
  · rintro ⟨hmissed, hshadowed, hmistaken⟩
    exact ⟨hmissed, hshadowed, hmistaken⟩
  · rintro ⟨hmissed, hshadowed, hmistaken⟩
    exact ⟨hmissed, hshadowed, hmistaken⟩

end Agreement

/-- **Pictures agree with the planner** in all records of a plan, exactly if the lookup
goes wrong in none of three ways for the records with one declared picture at most: no
entry with a picture is missed or stands behind another one, and no picture is taken
from an entry that the planner does not resolve to the owner (`PictureReached`).

Both readings of an entry are by paths, from the project root and from the package root,
and neither is taken to be absolute. -/
theorem stabilityPictures_agree_iff (plan : RustVerificationPlan OsPath)
    (policy : RustVerificationPolicy) (packages : List RustVerificationPackageAnalysis) :
    (∀ defaultConfig, ∀ record ∈ (buildRustVerificationStabilityIndex plan).records,
        ∀ package ∈ packages, package.packageRoot = record.packageRoot →
          PictureAgrees plan.projectRoot package policy record defaultConfig) ↔
      ∀ record ∈ (buildRustVerificationStabilityIndex plan).records,
        ∀ package ∈ packages, package.packageRoot = record.packageRoot →
          (declaredPictures policy record
            (NamedInProject plan.projectRoot package record)).length ≤ 1 →
          PictureReached plan.projectRoot package policy record := by
  constructor
  · intro h record hrecord package hmem hpackage
    exact (pictureAgrees_iff plan.projectRoot package policy record).mp fun defaultConfig =>
      h defaultConfig record hrecord package hmem hpackage
  · intro h defaultConfig record hrecord package hmem hpackage
    exact (pictureAgrees_iff plan.projectRoot package policy record).mpr
      (h record hrecord package hmem hpackage) defaultConfig

/-- Where each record has one picture at most and this is reached, the picture of the plan shows
all records with the pictures that are declared for them. -/
theorem stabilityPicture_records_of_reached (plan : RustVerificationPlan OsPath)
    (policy : RustVerificationPolicy) (defaultConfig : RustVerificationStabilityPictureConfig)
    (packageOf : RustVerificationStabilityRecord → RustVerificationPackageAnalysis)
    (hlone : ∀ record ∈ (buildRustVerificationStabilityIndex plan).records,
      (declaredPictures policy record
        (NamedInProject plan.projectRoot (packageOf record) record)).length ≤ 1)
    (hreached : ∀ record ∈ (buildRustVerificationStabilityIndex plan).records,
      PictureReached plan.projectRoot (packageOf record) policy record) :
    (buildRustVerificationStabilityPictureWithPolicy plan policy defaultConfig).records =
      (buildRustVerificationStabilityIndex plan).records.map fun record =>
        RustVerificationStabilityPictureRecord.ofRecord record
          ((declaredPictures policy record
            (NamedInProject plan.projectRoot (packageOf record) record)).head?.getD
              defaultConfig) := by
  refine List.map_congr_left fun record hrecord => ?_
  have hfound := (FirstMatch.found?_eq_head?_iff (hlone record hrecord)).mpr
    ⟨(hreached record hrecord).notMissed, (hreached record hrecord).notShadowed,
      (hreached record hrecord).notMistaken⟩
  rw [stabilityPictureConfigForRecord_eq, hfound]
  rfl

/-! ## A workspace -/

/-- A member of a workspace with one source module. -/
def apiMember : RustReasoningTreeFacts where
  packageRoot := Path.parse "/w/crates/api"
  modules :=
    [{ path := Path.parse "/w/crates/api/src/api.rs"
       namespaceComponents := ["src", "api"]
       importSummary := ⟨0, []⟩
       isSourceModule := true }]
  ownerBranches := []

/-- The member as it is analysed, with its paths as they are written. -/
def apiAnalysis : RustVerificationPackageAnalysis where
  packageRoot := OsPath.rooted apiMember.packageRoot
  modules := apiMember.modules.map fun module =>
    { path := OsPath.rooted module.path
      namespaceComponents := module.namespaceComponents
      isSourceModule := module.isSourceModule }
  ownerBranches := []
  cargoDependencies := []

/-- A plan with its paths as they are written. -/
def RustVerificationPlan.rooted (plan : RustVerificationPlan) : RustVerificationPlan OsPath :=
  { plan with
    projectRoot := OsPath.rooted plan.projectRoot
    tasks := plan.tasks.map fun task =>
      { task with
        packageRoot := OsPath.rooted task.packageRoot
        ownerPath := OsPath.rooted task.ownerPath } }

/-- A picture that demands an artifact only. -/
def artifactPicture : RustVerificationStabilityPictureConfig where
  requireLongRunningSimulation := false
  requirePerformanceInterface := false
  requireResourceDelta := false
  requireStateGrowth := false
  requireDeterminism := false
  requireStabilityArtifact := true
  minIterations := none
  minDurationSeconds := none

/-- The module is named from the root of the workspace. -/
def workspacePolicy : RustVerificationPolicy where
  profileHints :=
    [{ ownerPath := "crates/api/src/api.rs"
       responsibilities := OrderedSet.ofList [.availabilityCritical]
       taskKinds := some (OrderedSet.ofList [.stability])
       taskContractOverrides := ∅
       stabilityPicture := some artifactPicture
       rationale := some "long running" }]

/-- The record that is planned for the hint is not shown with the picture of the hint. -/
theorem stabilityPicture_differs_of_workspace :
    let plan := (planRustVerificationFromAnalysis (Path.parse "/w") workspacePolicy
      [apiMember]).rooted
    ∃ record ∈ (buildRustVerificationStabilityIndex plan).records,
      apiAnalysis.packageRoot = record.packageRoot ∧
      ¬ PictureAgrees plan.projectRoot apiAnalysis workspacePolicy record .standard := by
  intro plan
  have hrecord : ∃ record ∈ (buildRustVerificationStabilityIndex plan).records,
      apiAnalysis.packageRoot = record.packageRoot ∧
      declaredPictures workspacePolicy record
        (ResolvesToOwner plan.projectRoot apiAnalysis record) = [artifactPicture] ∧
      stabilityPictureConfigForRecord record workspacePolicy .standard ≠ artifactPicture := by
    decide +kernel
  obtain ⟨record, hmem, hpackage, hdeclared, hconfig⟩ := hrecord
  exact ⟨record, hmem, hpackage, fun hagrees => hconfig (hagrees.lone _ hdeclared)⟩

end AspRust.Verification
