import AspRust.Verification.ProfileIndex

/-!
# When the advice of the profile index goes quiet

The index recommends a hint for every owner that needs action.  When all of them are appended
to the hints of the policy and the index is built again, it should have nothing more to say.

What is suggested does not depend on the hints, so only the lookup of hints can go wrong: an
owner may already have a hint under the key that decides, and a hint before it stays in front;
two owners may be recommended one path, and only the first of the recommendations counts; and
a recommendation may be filed where its owner is not looked up.  `advice_goesQuiet_iff` says
that these are the only ways.

### What is load-bearing

`suggestions` is what the index has before hints are looked up.  It is the same for the
policy before and after (`suggestions_withHints`), so the question is one of lookups under
several keys, and `Foundation.LayeredLookup` answers it for each owner: it is decided under
the first of its keys that has an entry.

A recommended hint carries all responsibilities that are suggested, so an owner is quiet
when its own recommendation is found, and also when another one with enough
responsibilities is.
-/

namespace AspRust.Verification

open AspRust.Foundation

section Advice

variable (projectRoot : OsPath) (packages : List RustVerificationPackageAnalysis)
  (policy : RustVerificationPolicy)

/-! ## Suggestions and hints

The index is split: the suggestions, which come from the modules, and what a hint makes
of a suggestion.  The keys of an owner are its paths in up to three spellings. -/

/-- What is suggested for the owners of a project, in the order of the index. -/
def suggestions : List ProfileSuggestion :=
  (packages.flatMap (packageSuggestions projectRoot policy)).insertionSort suggestionLe

/-- The hints decide only the states of candidates. -/
theorem candidates_eq :
    (buildRustVerificationProfileIndex projectRoot packages policy).candidates =
      (suggestions projectRoot packages policy).map
        (profileCandidate projectRoot policy.profileHints) := by
  have hmap : packages.flatMap (collectPackageCandidates projectRoot policy) =
      (packages.flatMap (packageSuggestions projectRoot policy)).map
        (profileCandidate projectRoot policy.profileHints) := by
    rw [List.map_flatMap]
    rfl
  have hsort := List.map_insertionSort suggestionLe
    (fun left right : RustVerificationProfileCandidate =>
      suggestionLe left.toProfileSuggestion right.toProfileSuggestion)
    (profileCandidate projectRoot policy.profileHints)
    (packages.flatMap (packageSuggestions projectRoot policy)) (fun _ _ _ _ => Iff.rfl)
  rw [suggestions, hsort, ← hmap]
  rfl

/-- The suggestions for a project are the same under other hints. -/
theorem suggestions_withHints (hints : List RustVerificationProfileHint) :
    suggestions projectRoot packages { policy with profileHints := hints } =
      suggestions projectRoot packages policy := rfl

/-- The paths under which a hint for an owner is looked up, in their order. -/
def hintKeys (packageRoot ownerPath : OsPath) : List OsPath :=
  ([ownerPath].filter (·.isAbsolute)) ++
    ((OsPath.stripPrefix? projectRoot ownerPath).toList ++
      (OsPath.stripPrefix? packageRoot ownerPath).toList).filter fun path => !path.isAbsolute

/-- The first hint with a path and a property of its path is the first hint with that path,
or none. -/
theorem find?_hint {hints : List RustVerificationProfileHint} {path : OsPath}
    {key : RustVerificationProfileHint → Option OsPath} (admitted : OsPath → Bool)
    (hkey : ∀ hint, key hint = if admitted hint.osPath then some hint.osPath else none) :
    (OrderedMap.keepFirst key hints).get? path =
      if admitted path then
        LayeredLookup.filed? RustVerificationProfileHint.osPath hints path else none := by
  have hiff : ∀ hint : RustVerificationProfileHint,
      key hint = some path ↔ admitted path = true ∧ hint.osPath = path := by
    intro hint
    rw [hkey]
    by_cases hadmitted : admitted hint.osPath = true
    · rw [if_pos hadmitted, Option.some.injEq]
      exact ⟨fun hpath => ⟨hpath ▸ hadmitted, hpath⟩, fun h => h.2⟩
    · rw [if_neg hadmitted]
      exact ⟨fun h => absurd h (by simp), fun h => absurd (h.2 ▸ h.1) hadmitted⟩
  rw [OrderedMap.get?_keepFirst]
  by_cases hadmitted : admitted path = true
  · rw [if_pos hadmitted, LayeredLookup.filed?]
    congr 1
    funext hint
    exact decide_eq_decide.mpr ((hiff hint).trans (and_iff_right hadmitted))
  · rw [if_neg hadmitted, List.find?_eq_none]
    intro hint _ h
    exact hadmitted ((hiff hint).mp (of_decide_eq_true h)).1

/-- A hint for an owner is looked up under several keys. -/
theorem get_eq_lookup (hints : List RustVerificationProfileHint) (packageRoot ownerPath : OsPath) :
    (ProfileHintLookup.new hints).get projectRoot packageRoot ownerPath =
      LayeredLookup.lookup RustVerificationProfileHint.osPath
        (hintKeys projectRoot packageRoot ownerPath) hints := by
  have habsolute : (ProfileHintLookup.new hints).absolute.get? ownerPath =
      ([ownerPath].filter (·.isAbsolute)).findSome?
        (LayeredLookup.filed? RustVerificationProfileHint.osPath hints) := by
    rw [ProfileHintLookup.new, find?_hint OsPath.isAbsolute fun hint => rfl]
    by_cases h : ownerPath.isAbsolute = true
    · simp [h]
    · simp [h]
  have hrelative : ∀ path? : Option OsPath,
      path?.bind (ProfileHintLookup.new hints).relative.get? =
        (path?.toList.filter fun path => !path.isAbsolute).findSome?
          (LayeredLookup.filed? RustVerificationProfileHint.osPath hints) := by
    intro path?
    cases path? with
    | none => rfl
    | some path =>
        have hget : (ProfileHintLookup.new hints).relative.get? path =
            if !path.isAbsolute then
              LayeredLookup.filed? RustVerificationProfileHint.osPath hints path else none := by
          refine find?_hint (fun path => !path.isAbsolute) fun hint => ?_
          cases hint.osPath.isAbsolute <;> rfl
        rw [Option.bind_some, hget]
        by_cases h : path.isAbsolute = true
        · simp [h]
        · simp [h]
  unfold ProfileHintLookup.get LayeredLookup.lookup hintKeys
  rw [List.filter_append, List.findSome?_append, List.findSome?_append, habsolute, hrelative,
    hrelative]

/-! ## The condition

For one owner, and about the hints before anything is appended: under which key it is
decided, whether a hint is there already, and which recommendation would be the first
there. -/

/-- The owner has no hint, or one that does not cover what is suggested. -/
def NeedsAction (hints : List RustVerificationProfileHint) (suggestion : ProfileSuggestion) :
    Bool :=
  (profileCandidate projectRoot hints suggestion).requiresAction

/-- The owners that need action, in the order of the index. -/
def ownersInNeed : List ProfileSuggestion :=
  (suggestions projectRoot packages policy).filter (NeedsAction projectRoot policy.profileHints)

/-- The first key of an owner under which a hint of the policy is filed, or the hint that is
recommended for an owner in need. -/
def IsDecidingKey (suggestion : ProfileSuggestion) (key : OsPath) : Prop :=
  LayeredLookup.FirstFiled id (hintKeys projectRoot suggestion.packageRoot suggestion.ownerPath)
    (policy.profileHints.map RustVerificationProfileHint.osPath ++
      (ownersInNeed projectRoot packages policy).map ProfileSuggestion.hintPath) key

/-- A hint of the policy is filed under the key. -/
def HasHint (key : OsPath) : Prop :=
  LayeredLookup.IsFiled RustVerificationProfileHint.osPath policy.profileHints key

/-- Why nothing is left to say about an owner once the recommended hints are appended. -/
structure GoesQuiet (suggestion : ProfileSuggestion) : Prop where
  /-- Something is filed where an owner in need is looked up. -/
  reached : NeedsAction projectRoot policy.profileHints suggestion = true →
    ∃ key, IsDecidingKey projectRoot packages policy suggestion key
  /-- No hint that is there already decides about an owner in need. -/
  fresh : NeedsAction projectRoot policy.profileHints suggestion = true →
    ∀ key, IsDecidingKey projectRoot packages policy suggestion key → ¬ HasHint policy key
  /-- Where a recommendation decides, the first owner in need that it is made for suggests all
  that this owner suggests. -/
  covered : ∀ key, IsDecidingKey projectRoot packages policy suggestion key →
    ¬ HasHint policy key → ∀ first,
      (ownersInNeed projectRoot packages policy).find? (fun owner => owner.hintPath = key) =
        some first →
      isSubset suggestion.suggestedResponsibilities first.suggestedResponsibilities = true

/-! ## The second index

The index with the recommended hints appended.  The lookup is one in the hints of the
policy and, where these have nothing under a key, in the recommendations. -/

/-- Nothing is to be done about an owner exactly if its hint covers what is suggested. -/
theorem needsAction_eq_false_iff {hints : List RustVerificationProfileHint}
    {suggestion : ProfileSuggestion} :
    NeedsAction projectRoot hints suggestion = false ↔
      ∃ hint, LayeredLookup.lookup RustVerificationProfileHint.osPath
          (hintKeys projectRoot suggestion.packageRoot suggestion.ownerPath) hints = some hint ∧
        isSubset suggestion.suggestedResponsibilities hint.responsibilities = true := by
  rw [← get_eq_lookup]
  unfold NeedsAction RustVerificationProfileCandidate.requiresAction profileCandidate
  cases (ProfileHintLookup.new hints).get projectRoot suggestion.packageRoot
      suggestion.ownerPath with
  | none => simp [profileCandidateState, RustVerificationProfileCandidateState.requiresAction]
  | some hint =>
      by_cases hsubset :
          isSubset suggestion.suggestedResponsibilities hint.responsibilities = true
      · simp [profileCandidateState, hsubset,
          RustVerificationProfileCandidateState.requiresAction]
      · simp [profileCandidateState, hsubset,
          RustVerificationProfileCandidateState.requiresAction]

/-- The hint that is recommended for an owner. -/
def recommendation (suggestion : ProfileSuggestion) : RustVerificationProfileHint :=
  (profileCandidate projectRoot policy.profileHints suggestion).toProfileHint

theorem osPath_recommendation (suggestion : ProfileSuggestion) :
    (recommendation projectRoot policy suggestion).osPath = suggestion.hintPath :=
  OsPath.ofText_text suggestion.hintPath

theorem isSubset_recommendation (responsibilities : OrderedSet RustOwnerResponsibility)
    (suggestion : ProfileSuggestion) :
    isSubset responsibilities (recommendation projectRoot policy suggestion).responsibilities =
      isSubset responsibilities suggestion.suggestedResponsibilities := by
  have hsame : (recommendation projectRoot policy suggestion).responsibilities =
      suggestion.suggestedResponsibilities := by
    refine OrderedSet.ext_keys fun responsibility => ?_
    rw [recommendation, RustVerificationProfileCandidate.toProfileHint, OrderedSet.ofList,
      OrderedSet.mem_foldl_add]
    exact or_iff_right List.not_mem_nil
  rw [hsame]

theorem activeProfileHints_eq :
    (buildRustVerificationProfileIndex projectRoot packages policy).activeProfileHints =
      (ownersInNeed projectRoot packages policy).map (recommendation projectRoot policy) := by
  unfold RustVerificationProfileIndex.activeProfileHints
    RustVerificationProfileIndex.activeCandidates
  rw [candidates_eq, List.filter_map, List.map_map]
  rfl

/-- The first recommendation under a key is that for the first owner in need with that
recommended path. -/
theorem filed?_recommendations (key : OsPath) :
    LayeredLookup.filed? RustVerificationProfileHint.osPath
        ((ownersInNeed projectRoot packages policy).map (recommendation projectRoot policy)) key =
      ((ownersInNeed projectRoot packages policy).find? fun owner => owner.hintPath = key).map
        (recommendation projectRoot policy) := by
  rw [LayeredLookup.filed?, List.find?_map]
  congr 2
  funext owner
  rw [Function.comp_apply, osPath_recommendation]

theorem isDecidingKey_iff {suggestion : ProfileSuggestion} {key : OsPath} :
    IsDecidingKey projectRoot packages policy suggestion key ↔
      LayeredLookup.FirstFiled RustVerificationProfileHint.osPath
        (hintKeys projectRoot suggestion.packageRoot suggestion.ownerPath)
        (policy.profileHints ++
          (ownersInNeed projectRoot packages policy).map (recommendation projectRoot policy))
        key := by
  have hpaths : (policy.profileHints ++ (ownersInNeed projectRoot packages policy).map
      (recommendation projectRoot policy)).map RustVerificationProfileHint.osPath =
        policy.profileHints.map RustVerificationProfileHint.osPath ++
          (ownersInNeed projectRoot packages policy).map ProfileSuggestion.hintPath := by
    rw [List.map_append, List.map_map]
    congr 2
    funext owner
    exact osPath_recommendation projectRoot policy owner
  rw [IsDecidingKey, ← hpaths, LayeredLookup.firstFiled_map]

/-- Where a recommendation decides, it is that for some owner in need. -/
theorem exists_recommended {suggestion : ProfileSuggestion} {key : OsPath}
    (hkey : IsDecidingKey projectRoot packages policy suggestion key)
    (hfresh : ¬ HasHint policy key) :
    ∃ first, (ownersInNeed projectRoot packages policy).find? (fun owner =>
        owner.hintPath = key) = some first ∧
      LayeredLookup.lookup RustVerificationProfileHint.osPath
        (hintKeys projectRoot suggestion.packageRoot suggestion.ownerPath)
        (policy.profileHints ++
          (ownersInNeed projectRoot packages policy).map (recommendation projectRoot policy)) =
        some (recommendation projectRoot policy first) := by
  have hdeciding := (isDecidingKey_iff projectRoot packages policy).mp hkey
  obtain ⟨-, -, -, hfiled, -⟩ := hdeciding
  have hnew := (LayeredLookup.isFiled_append.mp hfiled).resolve_left hfresh
  obtain ⟨hint, hhint⟩ := LayeredLookup.exists_filed? hnew
  rw [LayeredLookup.lookup_append_of_new ((isDecidingKey_iff projectRoot packages policy).mp hkey)
    hfresh]
  rw [filed?_recommendations] at hhint ⊢
  obtain ⟨first, hfirst, rfl⟩ := Option.map_eq_some_iff.mp hhint
  rw [hfirst]
  exact ⟨first, rfl, rfl⟩

/-- Appending the recommendations settles an owner exactly if it goes quiet. -/
theorem needsAction_append_iff (suggestion : ProfileSuggestion) :
    NeedsAction projectRoot (policy.profileHints ++
        (ownersInNeed projectRoot packages policy).map (recommendation projectRoot policy))
        suggestion = false ↔
      GoesQuiet projectRoot packages policy suggestion := by
  rw [needsAction_eq_false_iff]
  constructor
  · rintro ⟨hint, hlookup, hsubset⟩
    refine ⟨fun _ => ?_, fun hneeds key hkey hold => ?_, fun key hkey hfresh first hfirst => ?_⟩
    · have hsome : LayeredLookup.lookup RustVerificationProfileHint.osPath
          (hintKeys projectRoot suggestion.packageRoot suggestion.ownerPath)
          (policy.profileHints ++ (ownersInNeed projectRoot packages policy).map
            (recommendation projectRoot policy)) ≠ none := by
        rw [hlookup]
        exact Option.some_ne_none hint
      obtain ⟨key, hkey⟩ := LayeredLookup.exists_firstFiled
        (not_not.mp (mt LayeredLookup.lookup_eq_none_iff.mpr hsome))
      exact ⟨key, (isDecidingKey_iff projectRoot packages policy).mpr hkey⟩
    · -- the old hint decided before, and it did not cover the suggestion
      have hdeciding := (isDecidingKey_iff projectRoot packages policy).mp hkey
      rw [LayeredLookup.lookup_append_of_old hdeciding hold] at hlookup
      have hquiet := (needsAction_eq_false_iff projectRoot).mpr ⟨hint, hlookup, hsubset⟩
      rw [hquiet] at hneeds
      cases hneeds
    · obtain ⟨found, hfound, hnew⟩ := exists_recommended projectRoot packages policy hkey hfresh
      obtain rfl : found = first := Option.some.inj (hfound.symm.trans hfirst)
      rw [hlookup] at hnew
      rwa [Option.some.inj hnew, isSubset_recommendation] at hsubset
  · intro hquiet
    -- where no old hint decides, a recommendation covers the suggestion
    have hnew : ∀ key, IsDecidingKey projectRoot packages policy suggestion key →
        ¬ HasHint policy key →
        ∃ hint, LayeredLookup.lookup RustVerificationProfileHint.osPath
            (hintKeys projectRoot suggestion.packageRoot suggestion.ownerPath)
            (policy.profileHints ++ (ownersInNeed projectRoot packages policy).map
              (recommendation projectRoot policy)) = some hint ∧
          isSubset suggestion.suggestedResponsibilities hint.responsibilities = true := by
      intro key hkey hfresh
      obtain ⟨first, hfirst, hlookup⟩ :=
        exists_recommended projectRoot packages policy hkey hfresh
      refine ⟨_, hlookup, ?_⟩
      rw [isSubset_recommendation]
      exact hquiet.covered key hkey hfresh first hfirst
    cases hneeds : NeedsAction projectRoot policy.profileHints suggestion with
    | true =>
        obtain ⟨key, hkey⟩ := hquiet.reached hneeds
        exact hnew key hkey (hquiet.fresh hneeds key hkey)
    | false =>
        obtain ⟨hint, hlookup, hsubset⟩ := (needsAction_eq_false_iff projectRoot).mp hneeds
        have hsome : LayeredLookup.lookup RustVerificationProfileHint.osPath
            (hintKeys projectRoot suggestion.packageRoot suggestion.ownerPath)
            policy.profileHints ≠ none := by
          rw [hlookup]
          exact Option.some_ne_none hint
        obtain ⟨filedKey, hmem, hfiled⟩ :=
          not_not.mp (mt LayeredLookup.lookup_eq_none_iff.mpr hsome)
        obtain ⟨key, hkey⟩ := LayeredLookup.exists_firstFiled
          ⟨filedKey, hmem, LayeredLookup.isFiled_append.mpr (Or.inl hfiled)⟩
        by_cases hold : HasHint policy key
        · exact ⟨hint, by rw [LayeredLookup.lookup_append_of_old hkey hold, hlookup], hsubset⟩
        · exact hnew key ((isDecidingKey_iff projectRoot packages policy).mpr hkey) hold

theorem isClear_iff :
    (buildRustVerificationProfileIndex projectRoot packages policy).isClear = true ↔
      ∀ suggestion ∈ suggestions projectRoot packages policy,
        NeedsAction projectRoot policy.profileHints suggestion = false := by
  unfold RustVerificationProfileIndex.isClear RustVerificationProfileIndex.activeCandidates
  rw [decide_eq_true_eq, candidates_eq, List.filter_map, List.map_eq_nil_iff,
    List.filter_eq_nil_iff]
  simp only [Function.comp_apply, Bool.not_eq_true]
  rfl

/-- A policy that took the recommended hints is not asked for hints again, whether or not the
advice is quiet: the index asks only a policy without any. -/
theorem needsProfileConfiguration_append :
    (buildRustVerificationProfileIndex projectRoot packages
        { policy with
          profileHints := policy.profileHints ++
            (buildRustVerificationProfileIndex projectRoot packages
              policy).activeProfileHints }).needsProfileConfiguration = false := by
  rw [RustVerificationProfileIndex.needsProfileConfiguration, Bool.and_eq_false_iff]
  by_cases hnone : policy.profileHints ++
      (buildRustVerificationProfileIndex projectRoot packages policy).activeProfileHints = []
  · right
    obtain ⟨hhints, hactive⟩ := List.append_eq_nil_iff.mp hnone
    rw [Bool.not_eq_false', hnone, ← hhints]
    exact decide_eq_true (List.map_eq_nil_iff.mp hactive)
  · left
    exact decide_eq_false fun hcount => hnone (List.length_eq_zero_iff.mp hcount)

/-- **The advice goes quiet** after the recommended hints have been appended to the
policy, exactly if it goes quiet about each owner.

An owner is looked up under up to three spellings of its path, and of several hints
under one spelling the first counts.  So an appended hint is heard unless one of the
policy is filed before it, under the same path or under one that is tried earlier. -/
theorem advice_goesQuiet_iff :
    (buildRustVerificationProfileIndex projectRoot packages
        { policy with
          profileHints := policy.profileHints ++
            (buildRustVerificationProfileIndex projectRoot packages
              policy).activeProfileHints }).isClear = true ↔
      ∀ suggestion ∈ suggestions projectRoot packages policy,
        GoesQuiet projectRoot packages policy suggestion := by
  rw [isClear_iff, suggestions_withHints, activeProfileHints_eq]
  exact forall₂_congr fun suggestion _ =>
    needsAction_append_iff projectRoot packages policy suggestion

end Advice

/-- A package with a module that uses the file system. -/
def filePackage : RustVerificationPackageAnalysis where
  packageRoot := OsPath.ofText "/p"
  modules :=
    [{ path := OsPath.ofText "/p/src/api.rs"
       namespaceComponents := ["src", "api"]
       productionExternalImports := [["std", "fs"]] }]
  ownerBranches := []
  cargoDependencies := []

/-- A hint for the module that says less than what is suggested. -/
def driftingPolicy : RustVerificationPolicy where
  profileHints := [⟨"src/api.rs", OrderedSet.ofList [.publicApi], none, ∅, none, none⟩]

/-- The advice stays about an owner with a drifting hint: the recommended hint is behind it. -/
theorem advice_stays_of_drift :
    (buildRustVerificationProfileIndex (OsPath.ofText "/p") [filePackage]
        { driftingPolicy with
          profileHints := driftingPolicy.profileHints ++
            (buildRustVerificationProfileIndex (OsPath.ofText "/p") [filePackage]
              driftingPolicy).activeProfileHints }).isClear = false := by
  decide +kernel

end AspRust.Verification
