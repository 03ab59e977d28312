import AspRust.Review.ReviewPacket
import AspRust.Foundation.Separated

/-!
# Isolation of receipts

Evidence for one finding must not clear another one, and two actions must not share an id.
Both rest on ids that are made of texts with characters left out: the id of a candidate is a
sanitized path, and the id of an action holds the words of its target.

`receipts_isolated_iff` says when this goes well: exactly if two findings of one rule at one
line never have different paths with the same words, and the other targets of actions are
told apart by their words.

### What is load-bearing

The condition is about words: two texts give one id exactly when they have the same words.  A
finding is cleared through its candidate, so isolation of receipts is a matter of candidates of
one rule and line; actions have targets of other kinds as well, and those are told apart by
their words or not at all.
-/

namespace AspRust.Review

open AspRust.Foundation AspRust.Discovery

/-! ## Ids of actions

The id of an action is the stem of its kind, the words of its target, and for a receipt
the kind of the receipt, with dots in between.  None of these parts has a dot, so an id
determines each of them. -/

theorem dot_notMem_sanitizeIdPart (value : List Char) : '.' ∉ sanitizeIdPart value := by
  intro hdot
  rcases Words.mem_of_mem_tidy hdot with hmem | hdash
  · obtain ⟨c, -, hc⟩ := List.mem_map.mp hmem
    unfold wordChar at hc
    split at hc
    · next halphanum =>
        -- a letter in lower case is a letter
        by_cases hupper : c.isUpper = true
        · have hlower := (toLower_of_isUpper hupper).1
          rw [hc] at hlower
          cases hlower
        · rw [toLower_of_not_isUpper hupper] at hc
          rw [hc] at halphanum
          cases halphanum
    · cases hc
  · exact absurd hdash (by decide)

theorem sanitizeIdPart_eq_iff {first second : List Char} :
    sanitizeIdPart first = sanitizeIdPart second ↔ textWords first = textWords second :=
  Words.tidy_eq_iff

theorem idStem_injective : Function.Injective RustReviewPacketActionKind.idStem := by
  intro first second
  cases first <;> cases second <;> decide

theorem dot_notMem_idStem (kind : RustReviewPacketActionKind) : '.' ∉ kind.idStem.toList := by
  cases kind <;> decide

theorem receiptKindId_injective : Function.Injective receiptKindId := by
  intro first second
  cases first <;> cases second <;> decide

/-- Texts before and after the first dot. -/
theorem append_dot_inj {first second before after : List Char} (hfirst : '.' ∉ first)
    (hsecond : '.' ∉ second) (h : first ++ '.' :: before = second ++ '.' :: after) :
    first = second ∧ before = after := by
  have hmarker : ∀ {piece : List Char}, '.' ∉ piece → ¬ ['.'] <:+: piece :=
    fun hfree hinside => hfree (hinside.subset List.mem_cons_self)
  have hdistinctive : Separated.Distinctive ['.'] := List.not_mem_nil
  exact Separated.append_marker_inj hdistinctive (hmarker hfirst) (hmarker hsecond) h

/-- Receipts are run, and nothing else is done with a tool. -/
def ReviewActionRequest.IsTyped (request : ReviewActionRequest) : Prop :=
  request.receiptKind.isSome = true ↔ request.kind = .runReceipt

/-- The id of an action tells its kind, its receipt and the words of its target. -/
theorem actionId_eq_iff {first second : ReviewActionRequest} (hfirst : first.IsTyped)
    (hsecond : second.IsTyped) :
    first.actionId = second.actionId ↔
      first.kind = second.kind ∧ first.receiptKind = second.receiptKind ∧
        textWords first.target.toList = textWords second.target.toList := by
  unfold ReviewActionRequest.actionId
  rw [String.ofList_inj, ← sanitizeIdPart_eq_iff]
  constructor
  · intro h
    obtain ⟨hstem, hrest⟩ := append_dot_inj (dot_notMem_idStem _) (dot_notMem_idStem _) h
    have hkind := idStem_injective (String.toList_inj.mp hstem)
    refine ⟨hkind, ?_⟩
    have hsome : first.receiptKind.isSome = true ↔ second.receiptKind.isSome = true := by
      rw [ReviewActionRequest.IsTyped] at hfirst hsecond
      rw [hfirst, hsecond, hkind]
    cases hfirstKind : first.receiptKind with
    | none =>
        cases hsecondKind : second.receiptKind with
        | none =>
            rw [hfirstKind, hsecondKind] at hrest
            exact ⟨rfl, by simpa using hrest⟩
        | some kind =>
            rw [hfirstKind, hsecondKind] at hsome
            exact absurd (hsome.mpr rfl) Bool.false_ne_true
    | some kind =>
        cases hsecondKind : second.receiptKind with
        | none =>
            rw [hfirstKind, hsecondKind] at hsome
            exact absurd (hsome.mp rfl) Bool.false_ne_true
        | some other =>
            rw [hfirstKind, hsecondKind] at hrest
            obtain ⟨hpart, hid⟩ := append_dot_inj (dot_notMem_sanitizeIdPart _)
              (dot_notMem_sanitizeIdPart _) hrest
            exact ⟨congrArg some (receiptKindId_injective (String.toList_inj.mp hid)), hpart⟩
  · rintro ⟨hkind, hreceipt, hpart⟩
    rw [hkind, hreceipt, hpart]

/-! ## Targets of actions

Each kind of action has its targets, and different targets need different words.  For
actions on candidates the targets are ids of candidates, so this is a condition on
findings; the other kinds have targets of their own. -/

/-- Texts of a list with the same words are the same. -/
def ToldApartByWords (texts : List String) : Prop :=
  ∀ first ∈ texts, ∀ second ∈ texts,
    textWords first.toList = textWords second.toList → first = second

/-- What the actions of a kind may be about. -/
def actionTargets (input : RustReviewPacketInput) : RustReviewPacketActionKind → List String
  | .verifyInvariant | .runReceipt =>
      input.report.invariantCandidates.map RustInvariantCandidate.invariantId
  | .inspectBehavior =>
      (input.behaviorSnapshots.filter fun snapshot => snapshot.status ≠ .matched).map
        RustBehaviorSnapshot.snapshotId
  | .refreshWaiver =>
      (input.waivers.filter fun waiver => waiver.status ≠ .current).map
        RustReviewPacketWaiver.waiverId
  | .addressDeterminism =>
      (input.determinismReadiness.filter fun readiness =>
        readiness.status = .needsInjection).map RustDeterminismReadiness.readinessId
  | .inspectProof =>
      (input.proofPilots.filter fun proof => proof.status = .failed).map
        RustFormalProofPilot.proofId

/-- The snapshots that are looked at are those that do not match. -/
theorem map_snapshotId_changedBehavior (snapshots : List RustBehaviorSnapshot) :
    (snapshots.filterMap changedBehavior).map RustReviewPacketChangedBehavior.snapshotId =
      (snapshots.filter fun snapshot => snapshot.status ≠ .matched).map
        RustBehaviorSnapshot.snapshotId := by
  induction snapshots with
  | nil => rfl
  | cons snapshot rest ih =>
      rw [List.filterMap_cons, List.filter_cons]
      cases hstatus : snapshot.status <;>
        simp [changedBehavior, behaviorStatus, hstatus] <;> simpa using ih

theorem mem_missingReceipts_iff {input : RustReviewPacketInput}
    {missing : RustReviewPacketMissingReceipt} :
    missing ∈ missingReceipts input ↔
      ∃ candidate ∈ input.report.invariantCandidates,
        missing ∈ missingReceiptsForCandidate candidate (passedReceiptEvidence input.receipts)
          (currentWaiverEvidence input.waivers) :=
  List.mem_flatMap

theorem invariantId_of_mem_missing {candidate : RustInvariantCandidate}
    {receiptEvidence waiverEvidence : List (String × RustReviewPacketReceiptKind)}
    {missing : RustReviewPacketMissingReceipt}
    (h : missing ∈ missingReceiptsForCandidate candidate receiptEvidence waiverEvidence) :
    missing.invariantId = candidate.invariantId := by
  obtain ⟨kind, -, rfl⟩ := List.mem_map.mp h
  rfl

/-- An action is about a target of its kind. -/
theorem target_mem_of_mem_requestedActions {input : RustReviewPacketInput}
    {request : ReviewActionRequest} (h : request ∈ requestedActions input) :
    request.IsTyped ∧ request.target ∈ actionTargets input request.kind := by
  unfold requestedActions reviewActionRequests at h
  simp only [List.mem_append, List.mem_map] at h
  rcases h with ((((⟨invariant, hmem, rfl⟩ | ⟨missing, hmem, rfl⟩) | ⟨behavior, hmem, rfl⟩) |
    ⟨waiver, hmem, rfl⟩) | ⟨readiness, hmem, rfl⟩) | ⟨proof, hmem, rfl⟩
  · refine ⟨by simp [ReviewActionRequest.IsTyped, verifyInvariantRequest], ?_⟩
    obtain ⟨candidate, hcandidate, rfl⟩ := List.mem_map.mp hmem
    exact List.mem_map_of_mem hcandidate
  · refine ⟨by simp [ReviewActionRequest.IsTyped, runReceiptRequest], ?_⟩
    obtain ⟨candidate, hcandidate, hmissing⟩ := mem_missingReceipts_iff.mp hmem
    exact List.mem_map.mpr ⟨candidate, hcandidate, (invariantId_of_mem_missing hmissing).symm⟩
  · refine ⟨by simp [ReviewActionRequest.IsTyped, inspectBehaviorRequest], ?_⟩
    have htarget := List.mem_map_of_mem (f := RustReviewPacketChangedBehavior.snapshotId) hmem
    rwa [map_snapshotId_changedBehavior] at htarget
  · exact ⟨by simp [ReviewActionRequest.IsTyped, refreshWaiverRequest],
      List.mem_map_of_mem hmem⟩
  · exact ⟨by simp [ReviewActionRequest.IsTyped, addressDeterminismRequest],
      List.mem_map_of_mem hmem⟩
  · exact ⟨by simp [ReviewActionRequest.IsTyped, inspectProofRequest],
      List.mem_map_of_mem hmem⟩

/-- For each target there is an action that needs no tool. -/
theorem exists_request_of_target {input : RustReviewPacketInput}
    {kind : RustReviewPacketActionKind} (hkind : kind ≠ .runReceipt) {target : String}
    (h : target ∈ actionTargets input kind) :
    ∃ request ∈ requestedActions input,
      request.kind = kind ∧ request.target = target ∧ request.receiptKind = none := by
  unfold requestedActions reviewActionRequests
  simp only [List.mem_append, List.mem_map]
  cases kind with
  | runReceipt => exact absurd rfl hkind
  | verifyInvariant =>
      obtain ⟨candidate, hcandidate, rfl⟩ := List.mem_map.mp h
      refine ⟨_, Or.inl (Or.inl (Or.inl (Or.inl (Or.inl
        ⟨changedInvariant input.projectRoot candidate, ?_, rfl⟩)))), rfl, rfl, rfl⟩
      exact List.mem_map_of_mem hcandidate
  | inspectBehavior =>
      rw [actionTargets, ← map_snapshotId_changedBehavior] at h
      obtain ⟨behavior, hbehavior, rfl⟩ := List.mem_map.mp h
      exact ⟨_, Or.inl (Or.inl (Or.inl (Or.inr ⟨behavior, hbehavior, rfl⟩))), rfl, rfl, rfl⟩
  | refreshWaiver =>
      obtain ⟨waiver, hwaiver, rfl⟩ := List.mem_map.mp h
      exact ⟨_, Or.inl (Or.inl (Or.inr ⟨waiver, hwaiver, rfl⟩)), rfl, rfl, rfl⟩
  | addressDeterminism =>
      obtain ⟨readiness, hreadiness, rfl⟩ := List.mem_map.mp h
      exact ⟨_, Or.inl (Or.inr ⟨readiness, hreadiness, rfl⟩), rfl, rfl, rfl⟩
  | inspectProof =>
      obtain ⟨proof, hproof, rfl⟩ := List.mem_map.mp h
      exact ⟨_, Or.inr ⟨proof, hproof, rfl⟩, rfl, rfl, rfl⟩

/-- Actions of different kinds, targets or receipts have different ids. -/
def DistinctActions (input : RustReviewPacketInput) : Prop :=
  ∀ first ∈ requestedActions input, ∀ second ∈ requestedActions input,
    (first.kind, first.target, first.receiptKind) ≠
      (second.kind, second.target, second.receiptKind) →
    first.action.actionId ≠ second.action.actionId

theorem distinctActions_iff {input : RustReviewPacketInput} :
    DistinctActions input ↔ ∀ kind, ToldApartByWords (actionTargets input kind) := by
  constructor
  · intro h
    have hother : ∀ kind, kind ≠ .runReceipt → ToldApartByWords (actionTargets input kind) := by
      intro kind hkind first hfirst second hsecond hwords
      obtain ⟨request, hrequest, hrequestKind, rfl, hnone⟩ :=
        exists_request_of_target hkind hfirst
      obtain ⟨request', hrequest', hrequestKind', rfl, hnone'⟩ :=
        exists_request_of_target hkind hsecond
      by_contra hne
      refine h request hrequest request' hrequest' (fun hkey => hne ?_) ?_
      · exact congrArg (fun key => key.2.1) hkey
      · exact (actionId_eq_iff (target_mem_of_mem_requestedActions hrequest).1
          (target_mem_of_mem_requestedActions hrequest').1).mpr
            ⟨hrequestKind.trans hrequestKind'.symm, hnone.trans hnone'.symm, hwords⟩
    intro kind
    by_cases hkind : kind = .runReceipt
    · -- receipts are run for the candidates that are verified
      subst hkind
      exact hother .verifyInvariant (by decide)
    · exact hother kind hkind
  · intro h first hfirst second hsecond hne hid
    obtain ⟨htyped, htarget⟩ := target_mem_of_mem_requestedActions hfirst
    obtain ⟨htyped', htarget'⟩ := target_mem_of_mem_requestedActions hsecond
    obtain ⟨hkind, hreceipt, hwords⟩ := (actionId_eq_iff htyped htyped').mp hid
    rw [hkind] at htarget
    have hsame := h second.kind first.target htarget second.target htarget' hwords
    exact hne (by rw [hkind, hreceipt, hsame])

/-! ## Missing receipts

What is missing, without the lists that the packet goes through: a receipt that the rule
requires, that no passed receipt gives, and that no current waiver lifts. -/

/-- The input of a packet for the findings of a run. -/
def ReviewEvidence.input (evidence : ReviewEvidence) (findings : List AspRustFinding) :
    RustReviewPacketInput where
  toReviewEvidence := evidence
  report := AspRustReport.ofFindings findings

section Findings

variable (findings : List AspRustFinding) (evidence : ReviewEvidence) (finding : AspRustFinding)
  (kind : RustReviewPacketReceiptKind)

/-- The packet lists a receipt as missing for the id of the finding. -/
def IsMissing : Prop :=
  ∃ missing ∈ (buildRustReviewPacket (evidence.input findings)).missingReceipts,
    missing.invariantId = invariantId finding ∧ missing.receiptKind = kind

/-- The catalog requires a receipt for the rule of the finding. -/
def IsRequired : Prop :=
  ∃ spec, invariantSpec finding.ruleId = some spec ∧ kind ∈ spec.requiredReceipts.map receiptKind

/-- A receipt of the tool has passed and names the finding. -/
def HasPassed : Prop :=
  ∃ receipt ∈ evidence.receipts, receipt.status = .passed ∧ receiptToolKind receipt.tool = kind ∧
    invariantId finding ∈ receipt.candidateIds

/-- A waiver of the receipt is current and names the finding. -/
def IsWaived : Prop :=
  ∃ waiver ∈ evidence.waivers, waiver.status = .current ∧
    waiver.invariantId = invariantId finding ∧ waiver.receiptKind = kind

variable {findings evidence finding kind}

theorem mem_passedReceiptEvidence_iff :
    (invariantId finding, kind) ∈ passedReceiptEvidence evidence.receipts ↔
      HasPassed evidence finding kind := by
  unfold passedReceiptEvidence HasPassed
  simp only [List.mem_flatMap, List.mem_filter, decide_eq_true_eq, List.mem_map, Prod.mk.injEq]
  constructor
  · rintro ⟨receipt, ⟨hreceipt, hpassed⟩, candidateId, hid, rfl, hkind⟩
    exact ⟨receipt, hreceipt, hpassed, hkind, hid⟩
  · rintro ⟨receipt, hreceipt, hpassed, hkind, hid⟩
    exact ⟨receipt, ⟨hreceipt, hpassed⟩, invariantId finding, hid, rfl, hkind⟩

theorem mem_currentWaiverEvidence_iff :
    (invariantId finding, kind) ∈ currentWaiverEvidence evidence.waivers ↔
      IsWaived evidence finding kind := by
  unfold currentWaiverEvidence IsWaived
  simp only [List.mem_map, List.mem_filter, decide_eq_true_eq, Prod.mk.injEq, and_assoc]

theorem mem_invariantCandidates_iff {candidate : RustInvariantCandidate} :
    candidate ∈ (evidence.input findings).report.invariantCandidates ↔
      ∃ finding ∈ findings, invariantCandidateFromFinding finding = some candidate :=
  List.mem_filterMap

/-- The candidate of a finding has the id of the finding and the receipts of its rule. -/
theorem candidate_spec {candidate : RustInvariantCandidate}
    (h : invariantCandidateFromFinding finding = some candidate) :
    candidate.invariantId = invariantId finding ∧
      ∃ spec, invariantSpec finding.ruleId = some spec ∧
        candidate.requiredReceipts = spec.requiredReceipts := by
  obtain ⟨spec, hspec, rfl⟩ := Option.map_eq_some_iff.mp h
  exact ⟨rfl, spec, hspec, rfl⟩

theorem isCatalogRule_of_candidate {candidate : RustInvariantCandidate}
    (h : invariantCandidateFromFinding finding = some candidate) :
    IsCatalogRule finding.ruleId := by
  obtain ⟨-, spec, hspec, -⟩ := candidate_spec h
  exact isSome_invariantSpec_iff.mp (Option.isSome_of_eq_some hspec)

theorem mem_missingReceiptsForCandidate_iff {candidate : RustInvariantCandidate}
    {receiptEvidence waiverEvidence : List (String × RustReviewPacketReceiptKind)} :
    (∃ missing ∈ missingReceiptsForCandidate candidate receiptEvidence waiverEvidence,
        missing.receiptKind = kind) ↔
      kind ∈ candidate.requiredReceipts.map receiptKind ∧
        (candidate.invariantId, kind) ∉ receiptEvidence ∧
        (candidate.invariantId, kind) ∉ waiverEvidence := by
  unfold missingReceiptsForCandidate
  constructor
  · rintro ⟨missing, hmissing, rfl⟩
    obtain ⟨found, hfound, rfl⟩ := List.mem_map.mp hmissing
    obtain ⟨hrequired, hopen⟩ := List.mem_filter.mp hfound
    rw [Bool.and_eq_true, decide_eq_true_eq, decide_eq_true_eq] at hopen
    exact ⟨hrequired, hopen⟩
  · rintro ⟨hrequired, hopen⟩
    refine ⟨_, List.mem_map.mpr ⟨kind, List.mem_filter.mpr ⟨hrequired, ?_⟩, rfl⟩, rfl⟩
    rw [Bool.and_eq_true, decide_eq_true_eq, decide_eq_true_eq]
    exact hopen

/-- **A receipt is missing** for a finding of the catalog exactly if it is required, no receipt of
the tool has passed for its id, and no current waiver names its id. -/
theorem isMissing_iff (hfinding : finding ∈ findings) (hrule : IsCatalogRule finding.ruleId) :
    IsMissing findings evidence finding kind ↔
      IsRequired finding kind ∧ ¬ HasPassed evidence finding kind ∧
        ¬ IsWaived evidence finding kind := by
  rw [← mem_passedReceiptEvidence_iff, ← mem_currentWaiverEvidence_iff]
  constructor
  · rintro ⟨missing, hmissing, hid, hkind⟩
    obtain ⟨candidate, hcandidate, hmem⟩ := mem_missingReceipts_iff.mp hmissing
    obtain ⟨other, -, hother⟩ := mem_invariantCandidates_iff.mp hcandidate
    obtain ⟨hotherId, spec, hspec, hreceipts⟩ := candidate_spec hother
    have hsameId : candidate.invariantId = invariantId finding :=
      (invariantId_of_mem_missing hmem).symm.trans hid
    -- the id tells the rule, so the same receipts are required
    have hsameRule : other.ruleId = finding.ruleId :=
      (textWords_invariantId_inj (isCatalogRule_of_candidate hother) hrule
        (by rw [← hotherId, hsameId])).1
    have hopen := mem_missingReceiptsForCandidate_iff.mp ⟨missing, hmem, hkind⟩
    rw [hsameId, hreceipts] at hopen
    exact ⟨⟨spec, hsameRule ▸ hspec, hopen.1⟩, hopen.2⟩
  · rintro ⟨⟨spec, hspec, hrequired⟩, hopen⟩
    have hcandidate : invariantCandidateFromFinding finding ≠ none := by
      rw [invariantCandidateFromFinding, hspec]
      exact Option.some_ne_none _
    obtain ⟨candidate, hcandidate⟩ := Option.ne_none_iff_exists'.mp hcandidate
    obtain ⟨hid, spec', hspec', hreceipts⟩ := candidate_spec hcandidate
    obtain rfl : spec = spec' := Option.some.inj (hspec.symm.trans hspec')
    rw [← hid] at hopen
    rw [← hreceipts] at hrequired
    obtain ⟨missing, hmissing, hkind⟩ :=
      mem_missingReceiptsForCandidate_iff.mpr ⟨hrequired, hopen⟩
    refine ⟨missing, mem_missingReceipts_iff.mpr ⟨candidate, ?_, hmissing⟩, ?_, hkind⟩
    · exact mem_invariantCandidates_iff.mpr ⟨finding, hfinding, hcandidate⟩
    · exact (invariantId_of_mem_missing hmissing).trans hid

end Findings

/-! ## Isolation

Isolation has a part that always holds, since evidence is looked up by the id that it
names, and two parts that hold where different things have different ids. -/

/-- Two findings are at the same path: written in one way or another, or both nowhere. -/
def SamePath (first second : AspRustFinding) : Prop :=
  first.location.path.map OsPath.ofText = second.location.path.map OsPath.ofText

/-- Two findings have one rule, one path and one line. -/
def SameFinding (first second : AspRustFinding) : Prop :=
  first.ruleId = second.ruleId ∧ SamePath first second ∧
    first.location.line = second.location.line

/-- Everything that a receipt or waiver of some evidence names is another finding. -/
def ConcernsOthers (findings : List AspRustFinding) (finding : AspRustFinding)
    (receipts : List RustVerificationExecutionReceipt) (waivers : List RustReviewPacketWaiver) :
    Prop :=
  ∀ id, ((∃ receipt ∈ receipts, id ∈ receipt.candidateIds) ∨
      ∃ waiver ∈ waivers, id = waiver.invariantId) →
    ∃ other ∈ findings, IsCatalogRule other.ruleId ∧ ¬ SameFinding other finding ∧
      id = invariantId other

/-- Evidence with more receipts and waivers. -/
def ReviewEvidence.extend (evidence : ReviewEvidence)
    (receipts : List RustVerificationExecutionReceipt) (waivers : List RustReviewPacketWaiver) :
    ReviewEvidence :=
  { evidence with
    receipts := evidence.receipts ++ receipts
    waivers := evidence.waivers ++ waivers }

section Isolation

variable (findings : List AspRustFinding) (evidence : ReviewEvidence)

/-- Findings, receipts and actions are kept apart. -/
structure ReceiptsIsolated : Prop where
  /-- Different findings have different ids. -/
  distinctIds : ∀ first ∈ findings, ∀ second ∈ findings, IsCatalogRule first.ruleId →
    IsCatalogRule second.ruleId → ¬ SameFinding first second →
    invariantId first ≠ invariantId second
  /-- A receipt is missing exactly if it is required and nothing that names the finding clears
  it. -/
  missing : ∀ finding ∈ findings, IsCatalogRule finding.ruleId → ∀ kind,
    (IsMissing findings evidence finding kind ↔
      IsRequired finding kind ∧ ¬ HasPassed evidence finding kind ∧
        ¬ IsWaived evidence finding kind)
  /-- Evidence for other findings clears nothing. -/
  isolated : ∀ finding ∈ findings, IsCatalogRule finding.ruleId → ∀ receipts waivers,
    ConcernsOthers findings finding receipts waivers → ∀ kind,
      (IsMissing findings (evidence.extend receipts waivers) finding kind ↔
        IsMissing findings evidence finding kind)
  /-- Different actions have different ids. -/
  distinctActions : DistinctActions (evidence.input findings)

/-- The texts that ids are made of keep their differences. -/
structure TextsTellApart : Prop where
  /-- Two findings of one rule at one line whose paths have the same words are at one path, and
  it is written in the same way as far as ids show. -/
  places : ∀ first ∈ findings, ∀ second ∈ findings, IsCatalogRule first.ruleId →
    first.ruleId = second.ruleId → first.location.line = second.location.line →
    textWords (pathText first.location) = textWords (pathText second.location) →
    SamePath first second ∧ sanitizeCandidateId (pathText first.location) =
      sanitizeCandidateId (pathText second.location)
  /-- The other targets of actions are told apart by their words. -/
  targets : ∀ kind ∈ [RustReviewPacketActionKind.inspectBehavior, .refreshWaiver,
    .addressDeterminism, .inspectProof],
      ToldApartByWords (actionTargets (evidence.input findings) kind)

variable {findings evidence}

theorem mem_verifyTargets_iff {target : String} :
    target ∈ actionTargets (evidence.input findings) .verifyInvariant ↔
      ∃ finding ∈ findings, IsCatalogRule finding.ruleId ∧ invariantId finding = target := by
  rw [actionTargets, List.mem_map]
  constructor
  · rintro ⟨candidate, hcandidate, rfl⟩
    obtain ⟨finding, hfinding, hsome⟩ := mem_invariantCandidates_iff.mp hcandidate
    exact ⟨finding, hfinding, isCatalogRule_of_candidate hsome, (candidate_spec hsome).1.symm⟩
  · rintro ⟨finding, hfinding, hrule, rfl⟩
    have hsome : (invariantCandidateFromFinding finding).isSome = true := by
      rw [invariantCandidateFromFinding, Option.isSome_map]
      exact isSome_invariantSpec_iff.mpr hrule
    obtain ⟨candidate, hcandidate⟩ := Option.isSome_iff_exists.mp hsome
    exact ⟨candidate, mem_invariantCandidates_iff.mpr ⟨finding, hfinding, hcandidate⟩,
      (candidate_spec hcandidate).1⟩

/-- Evidence that names only other findings clears nothing, if other findings have other ids. -/
theorem isMissing_extend_iff {finding : AspRustFinding} (hfinding : finding ∈ findings)
    (hrule : IsCatalogRule finding.ruleId)
    (hids : ∀ other ∈ findings, IsCatalogRule other.ruleId → ¬ SameFinding other finding →
      invariantId other ≠ invariantId finding)
    {receipts : List RustVerificationExecutionReceipt} {waivers : List RustReviewPacketWaiver}
    (hothers : ConcernsOthers findings finding receipts waivers)
    (kind : RustReviewPacketReceiptKind) :
    IsMissing findings (evidence.extend receipts waivers) finding kind ↔
      IsMissing findings evidence finding kind := by
  have hforeign : ¬ ((∃ receipt ∈ receipts, invariantId finding ∈ receipt.candidateIds) ∨
      ∃ waiver ∈ waivers, invariantId finding = waiver.invariantId) := by
    intro hnamed
    obtain ⟨other, hother, hotherRule, hdiffers, hid⟩ := hothers _ hnamed
    exact hids other hother hotherRule hdiffers hid.symm
  have hpassed : HasPassed (evidence.extend receipts waivers) finding kind ↔
      HasPassed evidence finding kind := by
    constructor
    · rintro ⟨receipt, hreceipt, hstatus, hkind, hid⟩
      rcases List.mem_append.mp hreceipt with hold | hnew
      · exact ⟨receipt, hold, hstatus, hkind, hid⟩
      · exact absurd (Or.inl ⟨receipt, hnew, hid⟩) hforeign
    · rintro ⟨receipt, hreceipt, h⟩
      exact ⟨receipt, List.mem_append_left _ hreceipt, h⟩
  have hwaived : IsWaived (evidence.extend receipts waivers) finding kind ↔
      IsWaived evidence finding kind := by
    constructor
    · rintro ⟨waiver, hwaiver, hstatus, hid, hkind⟩
      rcases List.mem_append.mp hwaiver with hold | hnew
      · exact ⟨waiver, hold, hstatus, hid, hkind⟩
      · exact absurd (Or.inr ⟨waiver, hnew, hid.symm⟩) hforeign
    · rintro ⟨waiver, hwaiver, h⟩
      exact ⟨waiver, List.mem_append_left _ hwaiver, h⟩
  rw [isMissing_iff hfinding hrule, isMissing_iff hfinding hrule, hpassed, hwaived]

end Isolation

/-- **Receipts are isolated** exactly if the texts that ids are made of tell findings
and targets apart.  An id of an action keeps only the words of a text, so two texts of
the same words share one; that evidence which names no id of a finding changes nothing
for it holds in any case. -/
theorem receipts_isolated_iff (findings : List AspRustFinding) (evidence : ReviewEvidence) :
    ReceiptsIsolated findings evidence ↔ TextsTellApart findings evidence := by
  constructor
  · intro h
    have htargets := distinctActions_iff.mp h.distinctActions
    refine ⟨?_, fun kind _ => htargets kind⟩
    intro first hfirst second hsecond hrule hsameRule hline hwords
    have hsecondRule : IsCatalogRule second.ruleId := hsameRule ▸ hrule
    have hidWords : textWords (invariantId first).toList =
        textWords (invariantId second).toList := by
      rw [textWords_invariantId, textWords_invariantId, hsameRule, hwords, hline]
    have hid : invariantId first = invariantId second :=
      htargets .verifyInvariant _ (mem_verifyTargets_iff.mpr ⟨first, hfirst, hrule, rfl⟩) _
        (mem_verifyTargets_iff.mpr ⟨second, hsecond, hsecondRule, rfl⟩) hidWords
    refine ⟨?_, (invariantId_eq_iff hsameRule hline).mp hid⟩
    by_contra hpath
    exact h.distinctIds first hfirst second hsecond hrule hsecondRule
      (fun hsame => hpath hsame.2.1) hid
  · intro h
    -- ids with the same words are the same, and of one finding
    have hsame : ∀ first ∈ findings, ∀ second ∈ findings, IsCatalogRule first.ruleId →
        IsCatalogRule second.ruleId →
        textWords (invariantId first).toList = textWords (invariantId second).toList →
        SameFinding first second ∧ invariantId first = invariantId second := by
      intro first hfirst second hsecond hrule hrule' hwords
      obtain ⟨hsameRule, hpathWords, hline⟩ := textWords_invariantId_inj hrule hrule' hwords
      obtain ⟨hpath, htext⟩ :=
        h.places first hfirst second hsecond hrule hsameRule hline hpathWords
      exact ⟨⟨hsameRule, hpath, hline⟩, (invariantId_eq_iff hsameRule hline).mpr htext⟩
    have hids : ∀ first ∈ findings, ∀ second ∈ findings, IsCatalogRule first.ruleId →
        IsCatalogRule second.ruleId → ¬ SameFinding first second →
        invariantId first ≠ invariantId second := by
      intro first hfirst second hsecond hrule hrule' hdiffers hid
      exact hdiffers (hsame first hfirst second hsecond hrule hrule' (by rw [hid])).1
    have hverify : ToldApartByWords
        (actionTargets (evidence.input findings) .verifyInvariant) := by
      intro target htarget target' htarget' hwords
      obtain ⟨first, hfirst, hrule, rfl⟩ := mem_verifyTargets_iff.mp htarget
      obtain ⟨second, hsecond, hrule', rfl⟩ := mem_verifyTargets_iff.mp htarget'
      exact (hsame first hfirst second hsecond hrule hrule' hwords).2
    refine ⟨hids, fun finding hfinding hrule kind => isMissing_iff hfinding hrule, ?_, ?_⟩
    · intro finding hfinding hrule receipts waivers hothers kind
      refine isMissing_extend_iff hfinding hrule (fun other hother hotherRule hdiffers => ?_)
        hothers kind
      exact hids other hother finding hfinding hotherRule hrule hdiffers
    · refine distinctActions_iff.mpr fun kind => ?_
      cases kind with
      | verifyInvariant => exact hverify
      | runReceipt => exact hverify
      | inspectBehavior => exact h.targets _ (by decide)
      | refreshWaiver => exact h.targets _ (by decide)
      | addressDeterminism => exact h.targets _ (by decide)
      | inspectProof => exact h.targets _ (by decide)

/-- A finding at the first line of a file. -/
def findingAt (path : String) : AspRustFinding where
  ruleId := "RUST-AGENT-API-TYPE-012"
  packId := "rust.agent_policy"
  severity := .warning
  title := ""
  summary := ""
  location := ⟨some path, 1, 0⟩
  requirement := ""
  label := ""
  labels := ∅

/-- A directory and a dotted file name give one id: a receipt for the one file clears the
other. -/
theorem receipts_not_isolated :
    let findings := [findingAt "src/a/b.rs", findingAt "src/a.b.rs"]
    ¬ ReceiptsIsolated findings { projectRoot := "." } := by
  intro findings h
  refine h.distinctIds (findingAt "src/a/b.rs") List.mem_cons_self (findingAt "src/a.b.rs")
    (List.mem_cons_of_mem _ List.mem_cons_self) (by decide) (by decide) ?_ ?_
  · rintro ⟨-, hpath, -⟩
    revert hpath
    unfold SamePath
    decide +kernel
  · decide +kernel

end AspRust.Review
