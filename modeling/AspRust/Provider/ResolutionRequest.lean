import AspRust.Foundation.Json
import AspRust.Foundation.PathText
import AspRust.Resolution.Accounting

/-!
# Requests for a project resolution

The provider answers a request for the resolution of the project in its working directory.
A request is refused when its identity is another one, and when the owners that it names
are not paths of ordinary names, each named once.  Otherwise the answer is a response, in
one of three states: the resolution, that the provider does not apply, or why the
resolution failed.

### What is load-bearing

A request is refused for its own texts and owners before anything of the workspace is looked at.
An acceptable one is answered from the candidates that it names: the states are told apart by
the candidates and the seeds of the search (`AnswersCandidates`), and the identity in the answer
is the provider's own.  That a resolution comes to an end for every workspace is
`Resolution.Accounting`.
-/

namespace AspRust.Provider

open AspRust.Foundation AspRust.Resolution

/-! ## Requests and responses -/

/-- Which files of the candidates are asked for. -/
inductive ProjectResolutionCollectionScope where
  | completeGeneration
  | explicitOwners (ownerPaths : List String)
deriving DecidableEq

structure ProviderProjectResolutionRequest where
  schemaId : String
  schemaVersion : String
  languageId : String
  providerId : String
  candidateBase : String
  collectionScope : ProjectResolutionCollectionScope
  input : ProjectResolutionInput

inductive ProviderProjectResolutionState where
  | resolved
  | notApplicable
  | failed
deriving DecidableEq, Repr

structure ProviderProjectResolutionFailure where
  reasonKind : String
  message : String
  nextAction : String
deriving DecidableEq, Repr

structure ProviderProjectResolutionResponse where
  schemaId : String
  schemaVersion : String
  languageId : String
  providerId : String
  state : ProviderProjectResolutionState
  scope : Option ProjectResolution
  failure : Option ProviderProjectResolutionFailure

/-- How the process ends that answers one request. -/
inductive ResolutionExit where
  | success
  | two
deriving DecidableEq, Repr

/-! ## Answers -/

/-- The owners are relative paths of ordinary names, and no two of them are one path. -/
def explicitOwnersAdmitted (ownerPaths : List String) : Bool :=
  !ownerPaths.isEmpty &&
    (ownerPaths.all fun path => !Path.isAbsolute path &&
      (Path.components path).all fun component =>
        match component with
        | .normal _ => true
        | _ => false) &&
    decide (ownerPaths.map Path.components).Nodup

/-- Check a request. -/
def validateRequest (request : ProviderProjectResolutionRequest) : Except String Unit :=
  if request.schemaId ≠ "agent.semantic-protocols.provider-project-resolution-request" ∨
      request.schemaVersion ≠ "1" then
    .error ("unsupported project-resolution request schema: " ++ request.schemaId ++ "@" ++
      request.schemaVersion)
  else if request.languageId ≠ "rust" ∨ request.providerId ≠ "asp-rust" then
    .error ("project-resolution provider mismatch: language=" ++ request.languageId ++
      " provider=" ++ request.providerId)
  else if request.candidateBase ≠ "." ∨ request.input.candidateGenerationDigest = "" then
    .error "project-resolution requires candidateBase=. and candidateGeneration.digest"
  else
    match request.collectionScope with
    | .completeGeneration => .ok ()
    | .explicitOwners ownerPaths =>
        if explicitOwnersAdmitted ownerPaths then .ok ()
        else .error ("explicit-owners collectionScope requires unique normalized " ++
          "workspace-relative ownerPaths")

/-- What a response says about an error. -/
def failureFromError (error : ProjectResolutionError) : ProviderProjectResolutionFailure where
  reasonKind :=
    match error with
    | .notApplicable _ => "provider-not-applicable"
    | .projectEntryMissing _ => "project-entry-missing"
    | .projectEntryInvalid _ => "project-entry-invalid"
  message := error.describe
  nextAction := "refresh-project-resolution-candidates-or-select-project-entry"

/-- The working directory, as the path `.` names it. -/
def candidateBase : Location := ⟨false, []⟩

/-- Answer a decoded request. -/
def handleProjectResolutionRequest (host : CargoHost) (request : ProviderProjectResolutionRequest) :
    Outcome (ProviderProjectResolutionResponse × ResolutionExit) :=
  let response (state : ProviderProjectResolutionState) (scope : Option ProjectResolution)
      (failure : Option ProviderProjectResolutionFailure) : ProviderProjectResolutionResponse :=
    { schemaId := "agent.semantic-protocols.provider-project-resolution-response"
      schemaVersion := "1"
      languageId := request.languageId
      providerId := request.providerId
      state, scope, failure }
  match validateRequest request with
  | .error message => .error (.returned message)
  | .ok () => do
      match ← resolveCargoProjectResolution host candidateBase request.input with
      | .ok resolution => .ok (response .resolved (some resolution) none, .success)
      | .error (.notApplicable _) => .ok (response .notApplicable none none, .success)
      | .error error => .ok (response .failed none (some (failureFromError error)), .two)

/-- The name of a state on the wire. -/
def ProviderProjectResolutionState.wireName : ProviderProjectResolutionState → String
  | .resolved => "resolved"
  | .notApplicable => "not-applicable"
  | .failed => "failed"

/-- The members of a failure on the wire. -/
def ProviderProjectResolutionFailure.toJson (failure : ProviderProjectResolutionFailure) : Json :=
  .object
    [("reasonKind", .string failure.reasonKind), ("message", .string failure.message),
      ("nextAction", .string failure.nextAction)]

/-- The members of a response on the wire; what is missing is left out. -/
def ProviderProjectResolutionResponse.members (encodeScope : ProjectResolution → Json)
    (response : ProviderProjectResolutionResponse) : List (String × Json) :=
  [("schemaId", .string response.schemaId), ("schemaVersion", .string response.schemaVersion),
      ("languageId", .string response.languageId), ("providerId", .string response.providerId),
      ("state", .string response.state.wireName)] ++
    (response.scope.toList.map fun scope => ("scope", encodeScope scope)) ++
    response.failure.toList.map fun failure => ("failure", failure.toJson)

/-! ## Which requests are accepted -/

/-- The owners that are named are different paths below the working directory: written out,
each is a list of ordinary names. -/
def OwnersApart : ProjectResolutionCollectionScope → Prop
  | .completeGeneration => True
  | .explicitOwners ownerPaths =>
      ownerPaths ≠ [] ∧ ∃ places : List (List String), places.Nodup ∧
        ownerPaths.map Path.components = places.map (List.map PathComponent.normal)

/-- A request that the provider takes for its own. -/
structure Acceptable (request : ProviderProjectResolutionRequest) : Prop where
  schemaId : request.schemaId = "agent.semantic-protocols.provider-project-resolution-request"
  schemaVersion : request.schemaVersion = "1"
  languageId : request.languageId = "rust"
  providerId : request.providerId = "asp-rust"
  candidateBase : request.candidateBase = "."
  generation : request.input.candidateGenerationDigest ≠ ""
  owners : OwnersApart request.collectionScope

/-- The check of a named owner: it is written with ordinary names only. -/
theorem isRelative_and_normal_iff {path : String} :
    (!Path.isAbsolute path && (Path.components path).all fun component =>
        match component with
        | .normal _ => true
        | _ => false) = true ↔
      Path.components path ∈ Set.range (List.map PathComponent.normal) := by
  rw [Set.range_list_map, Bool.and_eq_true, Bool.not_eq_true', List.all_eq_true]
  constructor
  · rintro ⟨-, hnormal⟩ component hcomponent
    have hcomponent := hnormal component hcomponent
    cases component with
    | normal name => exact ⟨name, rfl⟩
    | rootDir => cases hcomponent
    | curDir => cases hcomponent
    | parentDir => cases hcomponent
  · intro hnames
    constructor
    · by_contra habsolute
      rw [Bool.not_eq_false] at habsolute
      obtain ⟨name, hname⟩ := hnames .rootDir (by simp [Path.components, habsolute])
      cases hname
    · intro component hcomponent
      obtain ⟨name, rfl⟩ := hnames component hcomponent
      rfl

theorem explicitOwnersAdmitted_iff {ownerPaths : List String} :
    explicitOwnersAdmitted ownerPaths = true ↔ OwnersApart (.explicitOwners ownerPaths) := by
  unfold explicitOwnersAdmitted
  rw [Bool.and_eq_true, Bool.and_eq_true, decide_eq_true_eq, List.all_eq_true, and_assoc]
  simp only [isRelative_and_normal_iff]
  refine and_congr (by simp) ?_
  -- paths that are lists of names are so together
  have hplaces : (∀ path ∈ ownerPaths, Path.components path ∈
        Set.range (List.map PathComponent.normal)) ↔
      ownerPaths.map Path.components ∈ Set.range (List.map (List.map PathComponent.normal)) := by
    rw [Set.range_list_map (List.map PathComponent.normal)]
    exact List.forall_mem_map.symm
  rw [hplaces]
  constructor
  · rintro ⟨⟨places, hplaces⟩, hnodup⟩
    rw [← hplaces] at hnodup
    exact ⟨places, hnodup.of_map _, hplaces.symm⟩
  · rintro ⟨places, hnodup, hplaces⟩
    refine ⟨⟨places, hplaces.symm⟩, ?_⟩
    rw [hplaces]
    exact hnodup.map (List.map_injective_iff.mpr fun _ _ => PathComponent.normal.inj)

/-- **The check of a request** is passed by the acceptable ones. -/
theorem validateRequest_eq_ok_iff {request : ProviderProjectResolutionRequest} :
    validateRequest request = .ok () ↔ Acceptable request := by
  have howners : (match request.collectionScope with
      | .completeGeneration => Except.ok ()
      | .explicitOwners ownerPaths =>
          if explicitOwnersAdmitted ownerPaths then .ok ()
          else .error ("explicit-owners collectionScope requires unique normalized " ++
            "workspace-relative ownerPaths") : Except String Unit) = .ok () ↔
      OwnersApart request.collectionScope := by
    cases request.collectionScope with
    | completeGeneration => simp [OwnersApart]
    | explicitOwners ownerPaths =>
        dsimp only
        rw [← explicitOwnersAdmitted_iff]
        by_cases hadmitted : explicitOwnersAdmitted ownerPaths = true
        · exact iff_of_true (if_pos hadmitted) hadmitted
        · exact iff_of_false (by rw [if_neg hadmitted]; exact nofun) hadmitted
  unfold validateRequest
  constructor
  · intro h
    split at h
    · cases h
    · next hschema =>
        split at h
        · cases h
        · next hprovider =>
            split at h
            · cases h
            · next hbase =>
                rw [not_or, not_not, not_not] at hschema hprovider
                rw [not_or, not_not] at hbase
                exact ⟨hschema.1, hschema.2, hprovider.1, hprovider.2, hbase.1, hbase.2,
                  howners.mp h⟩
  · rintro ⟨hschema, hversion, hlanguage, hprovider, hbase, hgeneration, h⟩
    rw [if_neg (by simp [hschema, hversion]), if_neg (by simp [hlanguage, hprovider]),
      if_neg (by simp [hbase, hgeneration])]
    exact howners.mpr h

/-! ## Every acceptable request is answered -/

/-- What a response has in each state. -/
structure Consistent (response : ProviderProjectResolutionResponse) (exit : ResolutionExit) :
    Prop where
  /-- A resolution comes with the state that says so, and with no other. -/
  scope_iff : response.scope.isSome = true ↔ response.state = .resolved
  /-- A failure comes with the state that says so, and with no other. -/
  failure_iff : response.failure.isSome = true ↔ response.state = .failed
  /-- The process fails exactly when the resolution does. -/
  exit_iff : exit = .two ↔ response.state = .failed

/-- A resolution is that of the candidates: its graph accounts, once for each, for the least
set of package roots and for what the packages declare, and each target has its scope. -/
structure Resolves (host : CargoHost) (input : ProjectResolutionInput)
    (resolution : ProjectResolution) (roots : List Location) : Prop where
  generation : resolution.candidateGenerationDigest = input.candidateGenerationDigest
  roots_nodup : roots.Nodup
  mem_roots_iff : ∀ root, root ∈ roots ↔
    AdmissionWorklist.Admitted (admitRoot host candidateBase input)
      (dependencyRoots host candidateBase input) (seedRoots host candidateBase input) root
  accounted : Accounted host candidateBase input roots resolution.packageGraph
  scopes : resolution.sourceScopes.map (fun scope => (scope.packageId, scope.targetId)) =
    resolution.packageGraph.packages.flatMap fun package =>
      package.targets.map fun target => (package.packageId, target.targetId)

/-- A response answers a request for some candidates. -/
structure AnswersCandidates (host : CargoHost) (input : ProjectResolutionInput)
    (response : ProviderProjectResolutionResponse) (exit : ResolutionExit) : Prop where
  /-- The provider does not apply where no candidate is a manifest. -/
  notApplicable_iff : response.state = .notApplicable ↔
    ∀ path ∈ (candidatePaths input).keys, path.fileName? ≠ some "Cargo.toml"
  /-- A project is resolved where the manifest of the workspace is a candidate and leads to
  a package: its own, a member, or a dependency by path. -/
  resolved_iff : response.state = .resolved ↔
    manifestOf [] ∈ (candidatePaths input).keys ∧ seedRoots host candidateBase input ≠ []
  consistent : Consistent response exit
  /-- A failure says which of the two conditions is missing. -/
  reason : ∀ failure ∈ response.failure, failure.reasonKind =
    if manifestOf [] ∈ (candidatePaths input).keys then "project-entry-invalid"
    else "project-entry-missing"
  scope : ∀ resolution ∈ response.scope, ∃ roots, Resolves host input resolution roots

/-- The resolution at the admitted roots is that of the candidates. -/
theorem resolves_resolutionOf {host : CargoHost} {input : ProjectResolutionInput}
    {roots : OrderedSet Location} (hroots : packageRoots host candidateBase input = .ok roots) :
    Resolves host input (resolutionOf host candidateBase input roots) roots.keys := by
  obtain ⟨other, hother, hadmitted⟩ := exists_packageRoots host candidateBase input
  obtain rfl := Except.ok.inj (hroots.symm.trans hother)
  refine ⟨rfl, roots.nodup_keys, hadmitted,
    accounted_packageGraph host candidateBase input fun root => (hadmitted root).mp, ?_⟩
  show List.map _ (List.flatMap _ _) = List.flatMap _ _
  rw [List.map_flatMap]
  simp only [List.map_map]
  rfl

theorem fileName?_manifestOf (packageRoot : Path) :
    (manifestOf packageRoot).fileName? = some "Cargo.toml" := by
  simp [manifestOf]

/-- **Every request is refused or answered.**  The requests that are not acceptable are
refused, each with the text of its check.  An acceptable one is answered under the
identity of the provider, for every workspace: the search for the packages always ends,
and the response is that of the candidates.

What the response says of a resolved project is `Accounted`: each admitted root and each
declared dependency, once. -/
theorem handleProjectResolutionRequest_spec (host : CargoHost)
    (request : ProviderProjectResolutionRequest) :
    (¬ Acceptable request → ∃ message, validateRequest request = .error message ∧
      handleProjectResolutionRequest host request = .error (.returned message)) ∧
    (Acceptable request → ∃ response exit,
      handleProjectResolutionRequest host request = .ok (response, exit) ∧
        response.languageId = "rust" ∧ response.providerId = "asp-rust" ∧
        AnswersCandidates host request.input response exit) := by
  constructor
  · intro hrefused
    cases hvalid : validateRequest request with
    | error message =>
        refine ⟨message, rfl, ?_⟩
        simp only [handleProjectResolutionRequest, hvalid]
    | ok checked => exact absurd (validateRequest_eq_ok_iff.mp hvalid) hrefused
  · intro hacceptable
    have hvalid := validateRequest_eq_ok_iff.mpr hacceptable
    have hmanifest : ∀ {path : Path}, path = manifestOf [] → path.fileName? = some "Cargo.toml" := by
      rintro path rfl
      exact fileName?_manifestOf []
    unfold handleProjectResolutionRequest
    rw [hvalid]
    dsimp only
    rcases resolveCargoProjectResolution_cases host candidateBase request.input with
      ⟨hnone, hanswer⟩ | ⟨⟨path, hpath, hname⟩, hentry, hanswer⟩ | ⟨hentry, hseeds, hanswer⟩ |
      ⟨hentry, hseeds, roots, hroots, hanswer⟩
    all_goals rw [hanswer]
    · refine ⟨_, _, rfl, hacceptable.languageId, hacceptable.providerId, ?_⟩
      have hentry : manifestOf [] ∉ (candidatePaths request.input).keys :=
        fun h => hnone _ h (hmanifest rfl)
      exact ⟨by simpa using hnone, by simp [hentry], ⟨by simp, by simp, by simp⟩, by simp, by simp⟩
    · refine ⟨_, _, rfl, hacceptable.languageId, hacceptable.providerId, ?_⟩
      exact ⟨by simpa using ⟨path, hpath, hname⟩, by simp [hentry], ⟨by simp, by simp, by simp⟩,
        by simp [hentry, failureFromError], by simp⟩
    · refine ⟨_, _, rfl, hacceptable.languageId, hacceptable.providerId, ?_⟩
      exact ⟨by simpa using ⟨_, hentry, hmanifest rfl⟩, by simp [hseeds],
        ⟨by simp, by simp, by simp⟩, by simp [hentry, failureFromError], by simp⟩
    · refine ⟨_, _, rfl, hacceptable.languageId, hacceptable.providerId, ?_⟩
      refine ⟨by simpa using ⟨_, hentry, hmanifest rfl⟩, by simp [hentry, hseeds],
        ⟨by simp, by simp, by simp⟩, by simp, ?_⟩
      rintro resolution ⟨⟩
      exact ⟨roots.keys, resolves_resolutionOf hroots⟩

end AspRust.Provider
