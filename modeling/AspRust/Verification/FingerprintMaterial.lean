import AspRust.Foundation.LabelledFields
import AspRust.Verification.Planner

/-!
# What fingerprints keep apart

The text that is hashed is a row of `label=value;` fields, and nothing in a value is
escaped.  Two tasks can therefore have one text although they differ: a value may hold
what looks like the next field, a file name may hold a backslash where another has a
directory, and a method may end in what another baseline has at the start of its path.

`Legible` says when a task is free of this, and `fingerprintMaterial_keeps_apart` that
the texts of legible tasks differ whenever the tasks do.

### How the text is read back

The labels of the fields come in a fixed order, and those of a requirement or an item of
evidence may repeat.  A value is free to hold `;`, as long as what follows the `;` does not
look like a field.  That is what `Foundation.LabelledFields` calls plain, and there the
text is read field by field; the contract of a skill comes last, and may be anything.

The routes of one owner are told apart by less than that: method and path are written
with a space between them, so it is enough that no method has a space
(`apiPathTaskInput_material_eq_iff` says what happens when one has).
-/

namespace AspRust.Verification

open AspRust.Foundation LabelledFields

/-- What a fingerprint is meant to keep apart. -/
structure TaskIdentity where
  kind : RustVerificationTaskKind
  packageRoot : Path
  ownerPath : Path
  line : Option ℕ
  requirementKeys : List String
  evidence : List RustVerificationEvidence
  skillContractMaterial : Option String
deriving DecidableEq

theorem RustVerificationTaskKind.key_injective :
    Function.Injective RustVerificationTaskKind.key := by
  intro first second h
  cases first <;> cases second <;> first | rfl | simp [RustVerificationTaskKind.key] at h

namespace VerificationFingerprintInput

variable (source : VerificationFingerprintInput)

/-- What a task is about.  The owner counts as a path, however it is spelled. -/
def identity : TaskIdentity where
  kind := source.kind
  packageRoot := source.packageRoot
  ownerPath := Path.parse source.ownerPath
  line := source.line
  requirementKeys := source.requiredEvidence.map (·.key)
  evidence := source.evidence
  skillContractMaterial := source.skillContractMaterial

/-- The fields of the text. -/
def fields : List (List Char × List Char) :=
  [("kind".toList, source.kind.key.toList), ("package".toList, source.packageLabel),
    ("owner".toList, shownPath source.relativeOwner)] ++
  ((source.line.toList.map fun line => ("line".toList, Nat.toDigits 10 line)) ++
    ((source.requiredEvidence.map fun requirement => ("requires".toList, requirement.key.toList)) ++
      source.evidence.map fun fact => (fact.label.toList, fact.value.toList)))

/-- A task whose text can be read only one way: no value goes on with an `=` after a `;`,
the paths shown have no backslash, and the labels of the evidence are those of no other
field. -/
structure Legible : Prop where
  package_written : ∀ component ∈ source.packageRoot, Path.IsWritten component
  owner_absolute : Path.isAbsolute source.ownerPath = true
  package_slashes : '\\' ∉ source.relativePackage.toList
  owner_slashes : '\\' ∉ source.relativeOwner.toList
  package_quiet : Quiet '=' ';' source.relativePackage.toList
  owner_quiet : Quiet '=' ';' source.relativeOwner.toList
  requirement_quiet : ∀ requirement ∈ source.requiredEvidence, Quiet '=' ';' requirement.key.toList
  evidence_quiet : ∀ fact ∈ source.evidence, Quiet '=' ';' fact.value.toList
  evidence_label : ∀ fact ∈ source.evidence, IsLabel '=' ';' fact.label.toList
  evidence_apart : ∀ fact ∈ source.evidence,
    fact.label ≠ "line" ∧ fact.label ≠ "requires" ∧ fact.label ≠ "skill_contract"

/-! ## The text as fields

The material is written as a list of labelled values.  Where the task is legible, the
values are plain for the labels that may follow them, which is what reading field by
field asks for. -/

theorem lineMaterial_eq : source.lineMaterial = fieldsText '=' ';'
    (source.line.toList.map fun line => ("line".toList, Nat.toDigits 10 line)) := by
  unfold lineMaterial
  cases source.line with
  | none => rfl
  | some line => simp [fieldText]

theorem requirementMaterial_eq : source.requirementMaterial = fieldsText '=' ';'
    (source.requiredEvidence.map fun requirement =>
      ("requires".toList, requirement.key.toList)) := by
  rw [requirementMaterial, fieldsText, List.flatMap_map]
  congr 1

theorem evidenceMaterial_eq : source.evidenceMaterial = fieldsText '=' ';'
    (source.evidence.map fun fact => (fact.label.toList, fact.value.toList)) := by
  rw [evidenceMaterial, fieldsText, List.flatMap_map]
  rfl

/-- The three fields every text starts with. -/
theorem heading_eq (kind package owner rest : List Char) :
    "kind=".toList ++ kind ++ ";package=".toList ++ package ++ ";owner=".toList ++ owner ++
      [';'] ++ rest =
    fieldsText '=' ';' [("kind".toList, kind), ("package".toList, package),
      ("owner".toList, owner)] ++ rest := by
  simp [fieldText]

theorem material_eq_fieldsText :
    source.material = fieldsText '=' ';' source.fields ++ source.skillMaterial := by
  have hheading := heading_eq source.kind.key.toList source.packageLabel
    (shownPath source.relativeOwner) (source.lineMaterial ++ (source.requirementMaterial ++
      (source.evidenceMaterial ++ source.skillMaterial)))
  unfold material fields
  rw [fieldsText_append, fieldsText_append, fieldsText_append, ← lineMaterial_eq,
    ← requirementMaterial_eq, ← evidenceMaterial_eq]
  simp only [List.append_assoc] at hheading ⊢
  exact hheading

variable {source}

theorem shownPath_of_notMem {text : String} (h : '\\' ∉ text.toList) :
    shownPath text = text.toList := by
  have hsame : ∀ c ∈ text.toList, (if c = '\\' then '/' else c) = c := by
    intro c hc
    rw [if_neg]
    rintro rfl
    exact h hc
  exact (List.map_congr_left hsame).trans (List.map_id' _)

/-- The fields before the skill contract do not have its label. -/
theorem label_ne_of_mem_fields (h : source.Legible) {field : List Char × List Char}
    (hfield : field ∈ source.fields) : field.1 ≠ "skill_contract".toList := by
  simp only [fields, List.mem_append, List.mem_cons, List.not_mem_nil, or_false, List.mem_map]
    at hfield
  rcases hfield with (rfl | rfl | rfl) | ⟨line, -, rfl⟩ | ⟨requirement, -, rfl⟩ | ⟨fact, hfact, rfl⟩
  · simp
  · simp
  · simp
  · simp
  · simp
  · intro hlabel
    exact (h.evidence_apart fact hfact).2.2 (String.toList_injective hlabel)

theorem plain_of_mem_fields (h : source.Legible) {field : List Char × List Char}
    (hfield : field ∈ source.fields) : Plain '=' ';' field := by
  simp only [fields, List.mem_append, List.mem_cons, List.not_mem_nil, or_false, List.mem_map]
    at hfield
  rcases hfield with (rfl | rfl | rfl) | ⟨line, -, rfl⟩ | ⟨requirement, hmem, rfl⟩ | ⟨fact, hmem, rfl⟩
  · refine ⟨⟨by simp, by simp⟩, quiet_of_stop_notMem ?_⟩
    cases source.kind <;> simp [RustVerificationTaskKind.key]
  · refine ⟨⟨by simp, by simp⟩, ?_⟩
    show Quiet '=' ';' source.packageLabel
    unfold packageLabel
    split
    · exact quiet_of_stop_notMem (by simp)
    · rw [shownPath_of_notMem h.package_slashes]
      exact h.package_quiet
  · refine ⟨⟨by simp, by simp⟩, ?_⟩
    show Quiet '=' ';' (shownPath source.relativeOwner)
    rw [shownPath_of_notMem h.owner_slashes]
    exact h.owner_quiet
  · refine ⟨⟨by simp, by simp⟩, quiet_of_stop_notMem ?_⟩
    intro hstop
    have hdigit := Nat.isDigit_of_mem_toDigits (by omega) (by omega) hstop
    simp at hdigit
  · exact ⟨⟨by simp, by simp⟩, h.requirement_quiet requirement hmem⟩
  · exact ⟨h.evidence_label fact hmem, h.evidence_quiet fact hmem⟩

/-- The skill contract closes the fields, or nothing does. -/
theorem closes_skillMaterial (source : VerificationFingerprintInput)
    {other : VerificationFingerprintInput} (h : other.Legible) :
    Closes '=' ';' other.fields source.skillMaterial := by
  unfold skillMaterial
  split
  · next contract hcontract =>
      refine Or.inr ⟨"skill_contract".toList, contract.toList ++ [';'], ⟨by simp, by simp⟩, by simp,
        fun field hfield => label_ne_of_mem_fields h hfield⟩
  · exact Or.inl rfl

/-! ## Reading the text back

Equal texts have equal fields, and from the fields the identity is put together: kind,
package, owner, line, requirements, evidence, and the contract of the skill at the end. -/

/-- The package is found again from its label. -/
theorem join_packageLabel (h : source.Legible) :
    Path.join source.projectRoot (String.ofList source.packageLabel) = source.packageRoot := by
  have hshown := shownPath_of_notMem h.package_slashes
  have hroot : ∀ text : String, text.toList = ['.'] →
      Path.join source.projectRoot text = source.projectRoot := by
    intro text htext
    simp [Path.join, Path.isAbsolute, Path.parse, htext, splitWhen, Path.component?]
  cases hstrip : Path.stripPrefix? source.projectRoot source.packageRoot with
  | some rest =>
      have hpackage := Path.stripPrefix?_eq_some_iff.mp hstrip
      have htext : source.relativePackage = rest.text := by rw [relativePackage, hstrip]
      have hwritten : ∀ component ∈ rest, Path.IsWritten component := by
        intro component hcomponent
        exact h.package_written component (hpackage ▸ List.mem_append_right _ hcomponent)
      rw [htext] at hshown
      rw [packageLabel, htext, hshown]
      split
      · next hempty =>
          have hrest : rest = [] := by
            rw [← Path.parse_text hwritten, Path.parse, hempty]
            rfl
          rw [hroot _ (String.toList_ofList), hpackage, hrest, List.append_nil]
      · rw [String.ofList_toList, Path.join, Path.isAbsolute_text hwritten,
          Path.parse_text hwritten, hpackage]
        rfl
  | none =>
      have htext : source.relativePackage = source.packageRoot.display := by
        rw [relativePackage, hstrip]
      have habsolute := Path.isAbsolute_display source.packageRoot
      have hnonempty : source.packageRoot.display.toList ≠ [] := by
        intro hempty
        simp [Path.isAbsolute, hempty] at habsolute
      rw [htext] at hshown
      rw [packageLabel, htext, hshown, if_neg hnonempty, String.ofList_toList, Path.join,
        habsolute, if_pos rfl, Path.parse_display, Path.parse_text h.package_written]

/-- The owner is found again from its spelling below the package. -/
theorem join_relativeOwner (h : source.Legible) :
    Path.join source.packageRoot source.relativeOwner = Path.parse source.ownerPath := by
  unfold relativeOwner
  cases hrelative : Path.relativeText? source.packageRoot source.ownerPath with
  | some rest =>
      rw [Option.getD_some, Path.join, Path.isAbsolute_of_relativeText? hrelative,
        Path.parse_of_relativeText? hrelative]
      rfl
  | none => rw [Option.getD_none, Path.join, if_pos h.owner_absolute]

theorem skillContractMaterial_inj {first second : VerificationFingerprintInput}
    (h : first.skillMaterial = second.skillMaterial) :
    first.skillContractMaterial = second.skillContractMaterial := by
  unfold skillMaterial at h
  cases hfirst : first.skillContractMaterial with
  | none =>
      cases hsecond : second.skillContractMaterial with
      | none => rfl
      | some contract => simp [hfirst, hsecond] at h
  | some contract =>
      cases hsecond : second.skillContractMaterial with
      | none => simp [hfirst, hsecond] at h
      | some contract' =>
          simp only [hfirst, hsecond, List.append_assoc] at h
          have htext := List.append_cancel_right (List.append_cancel_left h)
          rw [String.toList_injective htext]

/-- The fields of legible tasks of one project determine what the tasks are about. -/
theorem identity_eq_of_fields_eq {first second : VerificationFingerprintInput}
    (hroot : first.projectRoot = second.projectRoot) (hfirst : first.Legible)
    (hsecond : second.Legible) (hfields : first.fields = second.fields)
    (hskill : first.skillMaterial = second.skillMaterial) :
    first.identity = second.identity := by
  simp only [fields, List.cons_append, List.nil_append, List.cons.injEq, Prod.mk.injEq,
    true_and] at hfields
  obtain ⟨hkind, hpackage, howner, hrest⟩ := hfields
  have hpackageRoot : first.packageRoot = second.packageRoot := by
    rw [← join_packageLabel hfirst, ← join_packageLabel hsecond, hroot, hpackage]
  have hownerPath : Path.parse first.ownerPath = Path.parse second.ownerPath := by
    rw [shownPath_of_notMem hfirst.owner_slashes, shownPath_of_notMem hsecond.owner_slashes]
      at howner
    rw [← join_relativeOwner hfirst, ← join_relativeOwner hsecond, hpackageRoot,
      String.toList_injective howner]
  -- the line, the requirements and the evidence follow each other under different labels
  have hevidence : ∀ {source : VerificationFingerprintInput}, source.Legible →
      ∀ field ∈ source.evidence.map fun fact => (fact.label.toList, fact.value.toList),
        field.1 ≠ "line".toList ∧ field.1 ≠ "requires".toList := by
    intro source hsource field hfield
    obtain ⟨fact, hfact, rfl⟩ := List.mem_map.mp hfield
    have hapart := hsource.evidence_apart fact hfact
    exact ⟨fun hlabel => hapart.1 (String.toList_injective hlabel),
      fun hlabel => hapart.2.1 (String.toList_injective hlabel)⟩
  have hafter : ∀ {source : VerificationFingerprintInput}, source.Legible →
      ∀ field ∈ (source.requiredEvidence.map fun requirement =>
          ("requires".toList, requirement.key.toList)) ++
        source.evidence.map fun fact => (fact.label.toList, fact.value.toList),
        field.1 ≠ "line".toList := by
    intro source hsource field hfield
    rcases List.mem_append.mp hfield with hrequirement | hfact
    · obtain ⟨requirement, -, rfl⟩ := List.mem_map.mp hrequirement
      simp
    · exact (hevidence hsource field hfact).1
  obtain ⟨hline, hrest⟩ := leading_inj (by simp) (by simp) (hafter hfirst) (hafter hsecond) hrest
  obtain ⟨hkeys, hfacts⟩ := leading_inj (by simp) (by simp)
    (fun field hfield => (hevidence hfirst field hfield).2)
    (fun field hfield => (hevidence hsecond field hfield).2) hrest
  have hlines : first.line = second.line := by
    cases hl : first.line with
    | none => cases hl' : second.line <;> simp_all
    | some line =>
        cases hl' : second.line with
        | none => simp [hl, hl'] at hline
        | some line' =>
            simp only [hl, hl', Option.toList_some, List.map_cons, List.map_nil, List.cons.injEq,
              Prod.mk.injEq, true_and, and_true] at hline
            rw [← Nat.ofDigitChars_toDigits (n := line) (by omega : 1 < 10) (by omega), hline,
              Nat.ofDigitChars_toDigits (by omega) (by omega)]
  have hrequirements : first.requiredEvidence.map (·.key) =
      second.requiredEvidence.map (·.key) := by
    have hinjective : Function.Injective fun key : String => ("requires".toList, key.toList) := by
      intro key key' h
      exact String.toList_injective (Prod.ext_iff.mp h).2
    refine List.map_injective_iff.mpr hinjective ?_
    rw [List.map_map, List.map_map]
    exact hkeys
  have hfactsEq : first.evidence = second.evidence := by
    refine List.map_injective_iff.mpr ?_ hfacts
    intro fact fact' h
    obtain ⟨hlabel, hvalue⟩ := Prod.ext_iff.mp h
    cases fact
    cases fact'
    exact RustVerificationEvidence.mk.injEq .. ▸
      ⟨String.toList_injective hlabel, String.toList_injective hvalue⟩
  have hkinds : first.kind = second.kind :=
    RustVerificationTaskKind.key_injective (String.toList_injective hkind)
  simp only [identity, hkinds, hpackageRoot, hownerPath, hlines, hrequirements, hfactsEq,
    skillContractMaterial_inj hskill]

/-- **The texts of legible tasks of one project are as different as the tasks.** -/
theorem identity_eq_of_material_eq {first second : VerificationFingerprintInput}
    (hroot : first.projectRoot = second.projectRoot) (hfirst : first.Legible)
    (hsecond : second.Legible) (h : first.material = second.material) :
    first.identity = second.identity := by
  rw [material_eq_fieldsText, material_eq_fieldsText] at h
  obtain ⟨hfields, hskill⟩ := fieldsText_append_inj (by decide)
    (fun field hfield => plain_of_mem_fields hfirst hfield)
    (fun field hfield => plain_of_mem_fields hsecond hfield)
    (closes_skillMaterial first hsecond) (closes_skillMaterial second hfirst) h
  exact identity_eq_of_fields_eq hroot hfirst hsecond hfields hskill

/-- Texts that differ in the value of the first fact only agree when the values do. -/
theorem material_first_evidence_inj (source : VerificationFingerprintInput)
    {label value value' : String} {rest : List RustVerificationEvidence} :
    ({ source with evidence := ⟨label, value⟩ :: rest }).material =
      ({ source with evidence := ⟨label, value'⟩ :: rest }).material ↔ value = value' := by
  constructor
  · intro h
    simp only [material_eq_fieldsText, fields, List.map_cons, fieldsText_append,
      List.append_assoc] at h
    have hfacts := List.append_cancel_left (List.append_cancel_left (List.append_cancel_left h))
    simp only [fieldsText_cons, fieldText, List.append_assoc] at hfacts
    have hvalue := List.append_cancel_left hfacts
    simp only [List.cons_append, List.cons.injEq, true_and, List.append_assoc] at hvalue
    exact String.toList_injective (List.append_cancel_right hvalue)
  · intro h
    rw [h]

end VerificationFingerprintInput

/-! ## API path baselines

Two baselines of one owner differ in method and path only, so their texts differ in one
value.  That value joins both with a space, and it is the same for two routes exactly if
one method overruns the other. -/

/-- The text that is hashed for the task of one kind a baseline asks for. -/
def apiPathTaskInput (projectRoot packageRoot : Path) (policy : RustVerificationPolicy)
    (module : RustReasoningModuleFacts) (kind : RustVerificationTaskKind)
    (baseline : RustVerificationApiPathBaseline) : VerificationFingerprintInput :=
  (apiPathTaskSpec module baseline policy kind).fingerprintInput projectRoot packageRoot policy

/-- A method that goes on, after a space, with the start of another route's path. -/
def Overruns (method path method' path' : String) : Prop :=
  ∃ middle : String, method' = method ++ " " ++ middle ∧ path = middle ++ " " ++ path'

/-- A method and a path are read off the route when the methods have no space. -/
theorem route_inj {method path method' path' : String} (hmethod : ' ' ∉ method.toList)
    (hmethod' : ' ' ∉ method'.toList) (h : method ++ " " ++ path = method' ++ " " ++ path') :
    method = method' ∧ path = path' := by
  have htext := congrArg String.toList h
  simp only [String.toList_append, List.append_assoc] at htext
  obtain ⟨hsame, hrest⟩ := label_inj hmethod hmethod' htext
  exact ⟨String.toList_injective hsame, String.toList_injective hrest⟩

/-- Two routes have one text exactly when they are the same or one method overruns the
other. -/
theorem route_eq_iff {method path method' path' : String} :
    method ++ " " ++ path = method' ++ " " ++ path' ↔
      (method = method' ∧ path = path') ∨ Overruns method path method' path' ∨
        Overruns method' path' method path := by
  constructor
  · intro h
    have htext := congrArg String.toList h
    simp only [String.toList_append, List.append_assoc] at htext
    have hover : ∀ {m p m' p' : String} {overlap : List Char}, m'.toList = m.toList ++ overlap →
        ' ' :: p.toList = overlap ++ ' ' :: p'.toList →
        (m = m' ∧ p = p') ∨ Overruns m p m' p' := by
      intro m p m' p' overlap hmethod hpath
      cases overlap with
      | nil =>
          obtain hrest : p.toList = p'.toList := by simpa using hpath
          rw [List.append_nil] at hmethod
          exact Or.inl ⟨String.toList_injective hmethod.symm, String.toList_injective hrest⟩
      | cons space middle =>
          obtain ⟨rfl, hrest⟩ : ' ' = space ∧ p.toList = middle ++ ' ' :: p'.toList := by
            simpa using hpath
          refine Or.inr ⟨String.ofList middle, ?_, ?_⟩
          · exact String.toList_injective (by simp [hmethod])
          · exact String.toList_injective (by simp [hrest])
    rcases List.append_eq_append_iff.mp htext with ⟨overlap, hlong, hcover⟩ | ⟨overlap, hlong, hcover⟩
    · rcases hover hlong hcover with hsame | hoverruns
      · exact Or.inl hsame
      · exact Or.inr (Or.inl hoverruns)
    · rcases hover hlong hcover with hsame | hoverruns
      · exact Or.inl ⟨hsame.1.symm, hsame.2.symm⟩
      · exact Or.inr (Or.inr hoverruns)
  · rintro (⟨rfl, rfl⟩ | ⟨middle, rfl, rfl⟩ | ⟨middle, rfl, rfl⟩)
    · rfl
    · simp [String.append_assoc]
    · simp [String.append_assoc]

theorem Overruns.method_ne {method path method' path' : String}
    (h : Overruns method path method' path') : method ≠ method' := by
  obtain ⟨middle, hmethod, -⟩ := h
  intro hsame
  have hlength := congrArg (fun text => text.toList.length) (hsame.trans hmethod)
  simp at hlength

/-- The tasks of two baselines that differ in the route only have one text exactly when
the routes have. -/
theorem apiPathTaskInput_material_eq_iff {projectRoot packageRoot : Path}
    {policy : RustVerificationPolicy} {module : RustReasoningModuleFacts}
    {kind : RustVerificationTaskKind} {baseline : RustVerificationApiPathBaseline}
    {method path method' path' : String} :
    (apiPathTaskInput projectRoot packageRoot policy module kind
        { baseline with method := method, path := path }).material =
      (apiPathTaskInput projectRoot packageRoot policy module kind
        { baseline with method := method', path := path' }).material ↔
      method ++ " " ++ path = method' ++ " " ++ path' :=
  VerificationFingerprintInput.material_first_evidence_inj
    (apiPathTaskInput projectRoot packageRoot policy module kind baseline)

/-- Legible tasks of baselines with one text show the same route. -/
theorem apiEvidenceValue_eq_of_material_eq {projectRoot packageRoot : Path}
    {policy : RustVerificationPolicy} {module : RustReasoningModuleFacts}
    {kind kind' : RustVerificationTaskKind} {first second : RustVerificationApiPathBaseline}
    (hfirst : (apiPathTaskInput projectRoot packageRoot policy module kind first).Legible)
    (hsecond : (apiPathTaskInput projectRoot packageRoot policy module kind' second).Legible)
    (h : (apiPathTaskInput projectRoot packageRoot policy module kind first).material =
      (apiPathTaskInput projectRoot packageRoot policy module kind' second).material) :
    first.apiEvidenceValue = second.apiEvidenceValue := by
  have hroot : (apiPathTaskInput projectRoot packageRoot policy module kind first).projectRoot =
      (apiPathTaskInput projectRoot packageRoot policy module kind' second).projectRoot := rfl
  have hidentity :=
    VerificationFingerprintInput.identity_eq_of_material_eq hroot hfirst hsecond h
  have hevidence := congrArg (fun identity => identity.evidence.head?) hidentity
  have hfact : (⟨"api_path", first.apiEvidenceValue⟩ : RustVerificationEvidence) =
      ⟨"api_path", second.apiEvidenceValue⟩ := Option.some.inj hevidence
  exact (RustVerificationEvidence.mk.injEq .. ▸ hfact).2

/-- **Where fingerprints keep tasks apart.**  The texts of legible tasks of one project
differ whenever the tasks do.  So do those of two routes of one owner, when no method
has a space; for baselines that differ in nothing else, the texts of different routes
differ exactly when no method overruns the other.

Fields are joined with separators and without escapes, so a text with a separator in it
can be read in two ways.  Legible is what excludes that, field by field. -/
theorem fingerprintMaterial_keeps_apart (projectRoot packageRoot : Path)
    (policy : RustVerificationPolicy) (module : RustReasoningModuleFacts)
    (kind : RustVerificationTaskKind) :
    (∀ first second : VerificationFingerprintInput, first.projectRoot = projectRoot →
      second.projectRoot = projectRoot → first.Legible → second.Legible →
      first.identity ≠ second.identity → utf8 first.material ≠ utf8 second.material) ∧
    (∀ (kind' : RustVerificationTaskKind) (first second : RustVerificationApiPathBaseline),
      (apiPathTaskInput projectRoot packageRoot policy module kind first).Legible →
      (apiPathTaskInput projectRoot packageRoot policy module kind' second).Legible →
      ' ' ∉ first.method.toList → ' ' ∉ second.method.toList →
      (first.method, first.path) ≠ (second.method, second.path) →
      utf8 (apiPathTaskInput projectRoot packageRoot policy module kind first).material ≠
        utf8 (apiPathTaskInput projectRoot packageRoot policy module kind' second).material) ∧
    (∀ (baseline : RustVerificationApiPathBaseline) (method path method' path' : String),
      ((method, path) ≠ (method', path') →
        utf8 (apiPathTaskInput projectRoot packageRoot policy module kind
            { baseline with method := method, path := path }).material ≠
          utf8 (apiPathTaskInput projectRoot packageRoot policy module kind
            { baseline with method := method', path := path' }).material) ↔
      ¬ Overruns method path method' path' ∧ ¬ Overruns method' path' method path) := by
  refine ⟨?_, ?_, ?_⟩
  · intro first second hroot hroot' hfirst hsecond hdiffer hbytes
    exact hdiffer (VerificationFingerprintInput.identity_eq_of_material_eq
      (hroot.trans hroot'.symm) hfirst hsecond (utf8_injective hbytes))
  · intro kind' first second hfirst hsecond hmethod hmethod' hdiffer hbytes
    have hroute := apiEvidenceValue_eq_of_material_eq hfirst hsecond (utf8_injective hbytes)
    obtain ⟨hsame, hpath⟩ := route_inj hmethod hmethod' hroute
    exact hdiffer (Prod.ext hsame hpath)
  · intro baseline method path method' path'
    rw [ne_eq, ne_eq, not_imp_not, utf8_injective.eq_iff, apiPathTaskInput_material_eq_iff,
      route_eq_iff, Prod.mk.injEq]
    constructor
    · intro h
      exact ⟨fun hover => hover.method_ne (h (Or.inr (Or.inl hover))).1,
        fun hover => hover.method_ne (h (Or.inr (Or.inr hover))).1.symm⟩
    · rintro ⟨hfirst, hsecond⟩ (hsame | hover | hover)
      · exact hsame
      · exact absurd hover hfirst
      · exact absurd hover hsecond

/-- The library of a package at `/p`. -/
def libraryModule : RustReasoningModuleFacts where
  path := [.normal "p", .normal "src", .normal "lib.rs"]
  namespaceComponents := []
  importSummary := ⟨0, []⟩
  isSourceModule := true

/-- A baseline of the library for one route. -/
def routeBaseline (method path : String) : RustVerificationApiPathBaseline where
  ownerPath := "src/lib.rs"
  method := method
  path := path
  responsibilities := OrderedSet.ofList [.publicApi]
  taskKinds := none
  taskContractOverrides := ∅
  stabilityPicture := none
  rationale := none

/-- The stress task of the library for one route. -/
def routeInput (method path : String) : VerificationFingerprintInput :=
  apiPathTaskInput [.normal "p"] [.normal "p"] {} libraryModule .stress (routeBaseline method path)

theorem routeInput_material_eq_iff {method path method' path' : String} :
    (routeInput method path).material = (routeInput method' path').material ↔
      method ++ " " ++ path = method' ++ " " ++ path' :=
  @apiPathTaskInput_material_eq_iff [.normal "p"] [.normal "p"] {} libraryModule .stress
    (routeBaseline "" "") method path method' path'

/-- A task of the library with some evidence. -/
def evidenceInput (evidence : List RustVerificationEvidence) : VerificationFingerprintInput where
  kind := .stress
  projectRoot := [.normal "p"]
  packageRoot := [.normal "p"]
  ownerPath := "/p/src/lib.rs"
  line := none
  requiredEvidence := []
  evidence := evidence
  skillContractMaterial := none

theorem routeInput_legible : (routeInput "GET" "/a").Legible := by
  constructor <;> decide

/-- Two routes are kept apart, and so are two tasks with different evidence. -/
theorem distinctRoutes_keep_apart :
    utf8 (routeInput "GET" "/a").material ≠ utf8 (evidenceInput []).material ∧
      utf8 (routeInput "GET" "/a").material ≠ utf8 (routeInput "PUT" "/a").material := by
  constructor
  · refine (fingerprintMaterial_keeps_apart [.normal "p"] [.normal "p"] {} libraryModule
      .stress).1 _ _ rfl rfl routeInput_legible ?_ ?_
    · constructor <;> decide
    · intro hidentity
      have hevidence := congrArg (fun identity => identity.evidence.length) hidentity
      simp [VerificationFingerprintInput.identity, evidenceInput, routeInput, apiPathTaskInput,
        apiPathTaskSpec, VerificationTaskSpec.fingerprintInput, apiPathBaselineEvidence] at hevidence
  · refine (fingerprintMaterial_keeps_apart [.normal "p"] [.normal "p"] {} libraryModule
      .stress).2.1 _ _ _ routeInput_legible ?_ ?_ ?_ ?_
    · constructor <;> decide
    · decide
    · decide
    · decide

/-- **Separators confuse tasks.**  The method `GET /A` with the path `B` and the method `GET`
with the path `/A B` give one text, and so do a rationale that ends in `;skill=load` and
a rationale followed by the skill `load`. -/
theorem separators_confuse_tasks :
    ((routeBaseline "GET /A" "B").method, (routeBaseline "GET /A" "B").path) ≠
        ((routeBaseline "GET" "/A B").method, (routeBaseline "GET" "/A B").path) ∧
      utf8 (routeInput "GET /A" "B").material = utf8 (routeInput "GET" "/A B").material ∧
      (evidenceInput [⟨"rationale", "hot;skill=load"⟩]).identity ≠
        (evidenceInput [⟨"rationale", "hot"⟩, ⟨"skill", "load"⟩]).identity ∧
      utf8 (evidenceInput [⟨"rationale", "hot;skill=load"⟩]).material =
        utf8 (evidenceInput [⟨"rationale", "hot"⟩, ⟨"skill", "load"⟩]).material := by
  refine ⟨by decide, ?_, by decide, ?_⟩
  · exact congrArg utf8 (routeInput_material_eq_iff.mpr (by decide))
  · refine congrArg utf8 ?_
    decide

end AspRust.Verification
