import AspRust.Discovery.Config
import AspRust.Foundation.OrderedMap
import AspRust.Foundation.OsPath
import AspRust.Foundation.Words

/-!
# Invariant candidates

Some rules of the policy stand for an invariant.  A finding of such a rule becomes a candidate,
under an id that is made of the rule, the path and the line of the finding.  The id has
no characters but letters, digits and `-`, `_`, `.`, `:`; each other character becomes a dot,
and letters become lower case.

The path of a finding is kept as it is written, since the id is made of its text.

### Design notes

The rules of the catalog and their candidates are a table, and the id of a candidate is computed
from the rule, the path and the line, without a look at the table.  Sanitizing replaces
characters one by one and then tidies the dots (`Foundation.Words`), so what is left of a path
is its words.
-/

namespace AspRust.Review

open AspRust.Foundation AspRust.Discovery

structure SourceLocation where
  path : Option String
  line : ℕ
  column : ℕ
deriving DecidableEq, Repr

/-- A finding, as far as candidates depend on it. -/
structure AspRustFinding where
  ruleId : String
  packId : String
  severity : RustDiagnosticSeverity
  title : String
  summary : String
  location : SourceLocation
  requirement : String
  label : String
  labels : OrderedMap String String
deriving DecidableEq

inductive RustInvariantKind where
  | primitiveIdentifierBoundary
  | publicDataPrimitiveFields
  | anonymousTupleApiSurface
  | primitiveTypeAliasBoundary
  | stringlyStateBoundary
  | parserFact
  | publicApiShape
  | moduleReasoningTree
  | dependencyGraphAcyclicity
  | custom
deriving DecidableEq, Repr

inductive RustInvariantCandidateStatus where
  | candidate
  | accepted
  | verified
  | waived
  | stale
deriving DecidableEq, Repr

inductive RustInvariantReceiptKind where
  | cargoCheck
  | cargoTest
  | clippy
  | expectTest
  | proptest
  | cargoFuzz
  | kani
  | creusot
  | verus
  | waiver
deriving DecidableEq, Repr

inductive RustInvariantEvidenceKind where
  | finding
  | parserFact
  | receipt
  | proof
  | custom
deriving DecidableEq, Repr

structure RustInvariantEvidence where
  kind : RustInvariantEvidenceKind
  summary : String
  location : Option SourceLocation
  fields : OrderedMap String String
deriving DecidableEq

structure RustInvariantCandidate where
  invariantId : String
  sourceRuleId : String
  rulePackId : String
  kind : RustInvariantKind
  status : RustInvariantCandidateStatus
  severity : RustDiagnosticSeverity
  title : String
  hypothesis : String
  location : SourceLocation
  evidence : List RustInvariantEvidence
  requiredReceipts : List RustInvariantReceiptKind
  proofTargets : List RustInvariantKind
  fields : OrderedMap String String
deriving DecidableEq

/-! ## The catalog

The rules that stand for an invariant, with the kind, the text and the receipts of the
invariant, as the source lists them. -/

structure InvariantSpec where
  kind : RustInvariantKind
  hypothesis : String
  requiredReceipts : List RustInvariantReceiptKind
  proofTargets : List RustInvariantKind
deriving DecidableEq, Repr

def baseReceipts : List RustInvariantReceiptKind := [.cargoCheck, .cargoTest, .clippy]

def behaviorReceipts : List RustInvariantReceiptKind :=
  [.cargoCheck, .cargoTest, .clippy, .expectTest]

/-- The rules that stand for an invariant, and what they stand for. -/
def invariantCatalog : List (String × InvariantSpec) :=
  [("RUST-AGENT-API-TYPE-012",
      { kind := .primitiveIdentifierBoundary
        hypothesis := "Public identifier parameters should cross API boundaries as " ++
          "owner-named types or documented raw boundaries."
        requiredReceipts := baseReceipts
        proofTargets := [.publicApiShape] }),
    ("RUST-AGENT-DATA-FIELD-020",
      { kind := .publicDataPrimitiveFields
        hypothesis := "Public data structs with several semantic primitive fields should " ++
          "expose named domain fields or documented raw DTO boundaries."
        requiredReceipts := baseReceipts
        proofTargets := [.publicApiShape] }),
    ("RUST-AGENT-API-SHAPE-023",
      { kind := .anonymousTupleApiSurface
        hypothesis := "Public APIs should not expose anonymous tuple payloads when named " ++
          "structs, enums, or newtypes can carry field intent."
        requiredReceipts := behaviorReceipts
        proofTargets := [.publicApiShape] }),
    ("RUST-AGENT-API-TYPE-ALIAS-027",
      { kind := .primitiveTypeAliasBoundary
        hypothesis := "Public semantic aliases over primitive carriers should become named " ++
          "newtype or struct boundaries."
        requiredReceipts := baseReceipts
        proofTargets := [.publicApiShape] }),
    ("RUST-AGENT-DATA-STATE-028",
      { kind := .stringlyStateBoundary
        hypothesis := "Public stringly state fields should become enums, newtypes, or typed " ++
          "catalog boundaries."
        requiredReceipts := behaviorReceipts
        proofTargets := [.publicApiShape] })]

def invariantSpec (ruleId : String) : Option InvariantSpec :=
  (invariantCatalog.find? fun entry => entry.1 = ruleId).map Prod.snd

/-! ## Ids

An id is a text that is sanitized as a whole: the rule, the path and the line, joined by
colons.  A finding without a path has `unknown` in its place. -/

/-- A character of an id. -/
def candidateChar (c : Char) : Char :=
  if c.isUpper then c.toLower
  else if c.isLower || c.isDigit || c = '-' || c = '_' || c = '.' || c = ':' then c
  else '.'

def sanitizeCandidateId (raw : List Char) : List Char := raw.map candidateChar

/-- The path of a finding as it enters the id. -/
def pathText (location : SourceLocation) : List Char :=
  ((location.path.map fun path => replaceChar '\\' '/' path.toList).getD "unknown".toList)

def invariantId (finding : AspRustFinding) : String :=
  String.ofList (sanitizeCandidateId (finding.ruleId.toList ++ ':' :: (pathText finding.location ++
    ':' :: Nat.toDigits 10 finding.location.line)))

def invariantCandidateFromFinding (finding : AspRustFinding) : Option RustInvariantCandidate :=
  (invariantSpec finding.ruleId).map fun spec =>
    { invariantId := invariantId finding
      sourceRuleId := finding.ruleId
      rulePackId := finding.packId
      kind := spec.kind
      status := .candidate
      severity := finding.severity
      title := finding.title
      hypothesis := spec.hypothesis
      location := finding.location
      evidence :=
        [{ kind := .finding
           summary := finding.summary
           location := some finding.location
           fields := ((∅ : OrderedMap String String).insert "requirement"
             finding.requirement).insert "label" finding.label }]
      requiredReceipts := spec.requiredReceipts
      proofTargets := spec.proofTargets
      fields := finding.labels.insert "sourceRuleId" finding.ruleId }

def invariantCandidatesFromFindings (findings : List AspRustFinding) :
    List RustInvariantCandidate :=
  findings.filterMap invariantCandidateFromFinding

/-! ## What an id tells

The words of an id are those of the rule, of the path and of the line, in this order.
The first five words tell the rules of the catalog apart and the line is one word, so
the rule, the words of the path and the line can be read back. -/

/-- A character of a word: an ASCII letter in lower case, or a digit.  What is between words
becomes a dash. -/
def wordChar (c : Char) : Char := if c.isAlphanum then c.toLower else '-'

/-- The words of a text: its runs of ASCII letters and digits, in lower case. -/
def textWords (text : List Char) : List (List Char) := Words.words '-' (text.map wordChar)

theorem toLower_of_not_isUpper {c : Char} (h : ¬ c.isUpper = true) : c.toLower = c := by
  have hrange : ¬ (c.val ≥ 65 ∧ c.val ≤ 90) := fun hrange => h (decide_eq_true hrange)
  exact dif_neg hrange

theorem range_of_isUpper {c : Char} (h : c.isUpper = true) : 65 ≤ c.toNat ∧ c.toNat ≤ 90 := by
  have hvalue : c.val ≥ 65 ∧ c.val ≤ 90 := of_decide_eq_true h
  exact ⟨UInt32.le_iff_toNat_le.mp hvalue.1, UInt32.le_iff_toNat_le.mp hvalue.2⟩

/-- An upper case letter is one of twenty-six. -/
theorem toLower_of_isUpper {c : Char} (h : c.isUpper = true) :
    c.toLower.isAlphanum = true ∧ c.toLower.toLower = c.toLower := by
  have hall : ∀ n < 26, (Char.ofNat (65 + n)).toLower.isAlphanum = true ∧
      (Char.ofNat (65 + n)).toLower.toLower = (Char.ofNat (65 + n)).toLower := by decide
  have hrange := range_of_isUpper h
  have hc : c = Char.ofNat (65 + (c.toNat - 65)) := by
    rw [Nat.add_sub_cancel' hrange.1, Char.ofNat_toNat]
  rw [hc]
  exact hall (c.toNat - 65) (by omega)

/-- What sanitizing does to a character does not change the words. -/
theorem wordChar_candidateChar (c : Char) : wordChar (candidateChar c) = wordChar c := by
  unfold candidateChar
  split
  · next hupper =>
      have halphanum : c.isAlphanum = true := by
        show ((c.isUpper || c.isLower) || c.isDigit) = true
        rw [hupper]
        rfl
      obtain ⟨hlower, hidempotent⟩ := toLower_of_isUpper hupper
      rw [wordChar, wordChar, if_pos hlower, if_pos halphanum, hidempotent]
  · next hupper =>
      split
      · rfl
      · next hkept =>
          simp only [Bool.or_eq_true, decide_eq_true_eq, not_or, Bool.not_eq_true] at hkept hupper
          have halphanum : c.isAlphanum = false := by
            show ((c.isUpper || c.isLower) || c.isDigit) = false
            simp [hupper, hkept]
          rw [wordChar, wordChar, halphanum]
          rfl

theorem textWords_sanitizeCandidateId (raw : List Char) :
    textWords (sanitizeCandidateId raw) = textWords raw := by
  unfold textWords sanitizeCandidateId
  rw [List.map_map]
  congr 1
  refine List.map_congr_left fun c _ => ?_
  exact wordChar_candidateChar c

theorem textWords_append_colon (before after : List Char) :
    textWords (before ++ ':' :: after) = textWords before ++ textWords after := by
  unfold textWords
  rw [List.map_append, List.map_cons]
  exact Words.words_append_separator _ _

theorem textWords_toDigits (n : ℕ) : textWords (Nat.toDigits 10 n) = [Nat.toDigits 10 n] := by
  have hdigit : ∀ c ∈ Nat.toDigits 10 n, c.isDigit = true :=
    fun c hc => Nat.isDigit_of_mem_toDigits (by decide) (by decide) hc
  have hmap : (Nat.toDigits 10 n).map wordChar = Nat.toDigits 10 n := by
    refine (List.map_congr_left fun c hc => ?_).trans (List.map_id _)
    have hnotUpper : ¬ c.isUpper = true := by
      intro hupper
      have hrange := (range_of_isUpper hupper).1
      have hdigit := hdigit c hc
      simp only [Char.isDigit, Bool.and_eq_true, decide_eq_true_eq, UInt32.le_iff_toNat_le,
        ge_iff_le] at hdigit
      have hnine : '9'.val.toNat = 57 := rfl
      have hvalue : c.toNat = c.val.toNat := rfl
      omega
    have halphanum : c.isAlphanum = true := by simp [Char.isAlphanum, hdigit c hc]
    rw [wordChar, if_pos halphanum, toLower_of_not_isUpper hnotUpper]
    rfl
  rw [textWords, hmap, Words.words_of_notMem _ Nat.toDigits_ne_nil]
  intro hdash
  exact absurd (hdigit _ hdash) (by decide)

/-- The words of an id are those of the rule, the path and the line. -/
theorem textWords_invariantId (finding : AspRustFinding) :
    textWords (invariantId finding).toList =
      textWords finding.ruleId.toList ++
        (textWords (pathText finding.location) ++ [Nat.toDigits 10 finding.location.line]) := by
  rw [invariantId, String.toList_ofList, textWords_sanitizeCandidateId, textWords_append_colon,
    textWords_append_colon, textWords_toDigits]

/-- A rule of the catalog. -/
def IsCatalogRule (ruleId : String) : Prop := ruleId ∈ invariantCatalog.map Prod.fst

instance IsCatalogRule.decidablePred : DecidablePred IsCatalogRule := fun _ =>
  inferInstanceAs (Decidable (_ ∈ _))

theorem isSome_invariantSpec_iff {ruleId : String} :
    (invariantSpec ruleId).isSome = true ↔ IsCatalogRule ruleId := by
  unfold invariantSpec IsCatalogRule
  rw [Option.isSome_map, List.find?_isSome, List.mem_map]
  simp only [decide_eq_true_eq]

/-- The first five words tell the rules of the catalog apart. -/
theorem catalogRule_eq_of_take {first second : String} (hfirst : IsCatalogRule first)
    (hsecond : IsCatalogRule second)
    (h : (textWords first.toList).take 5 = (textWords second.toList).take 5) :
    first = second := by
  have hall : ∀ first ∈ invariantCatalog.map Prod.fst,
      ∀ second ∈ invariantCatalog.map Prod.fst,
        (textWords first.toList).take 5 = (textWords second.toList).take 5 → first = second := by
    decide +kernel
  exact hall first hfirst second hsecond h

theorem five_le_length_textWords {ruleId : String} (h : IsCatalogRule ruleId) :
    5 ≤ (textWords ruleId.toList).length := by
  have hall : ∀ ruleId ∈ invariantCatalog.map Prod.fst,
      5 ≤ (textWords ruleId.toList).length := by decide +kernel
  exact hall ruleId h

/-- Ids with the same words are of findings with one rule, one line, and paths with the same
words. -/
theorem textWords_invariantId_inj {first second : AspRustFinding}
    (hfirst : IsCatalogRule first.ruleId) (hsecond : IsCatalogRule second.ruleId)
    (h : textWords (invariantId first).toList = textWords (invariantId second).toList) :
    first.ruleId = second.ruleId ∧
      textWords (pathText first.location) = textWords (pathText second.location) ∧
      first.location.line = second.location.line := by
  rw [textWords_invariantId, textWords_invariantId] at h
  have hrule : first.ruleId = second.ruleId := by
    refine catalogRule_eq_of_take hfirst hsecond ?_
    have htake := congrArg (List.take 5) h
    rwa [List.take_append_of_le_length (five_le_length_textWords hfirst),
      List.take_append_of_le_length (five_le_length_textWords hsecond)] at htake
  rw [hrule] at h
  obtain ⟨hpath, hline⟩ := List.append_inj' (List.append_cancel_left h) rfl
  refine ⟨hrule, hpath, ?_⟩
  rw [← Nat.ofDigitChars_toDigits (n := first.location.line) (b := 10) (by decide) (by decide),
    List.singleton_inj.mp hline, Nat.ofDigitChars_toDigits (by decide) (by decide)]

/-- Findings with one rule and line have one id exactly if their paths are sanitized to the
same text. -/
theorem invariantId_eq_iff {first second : AspRustFinding} (hrule : first.ruleId = second.ruleId)
    (hline : first.location.line = second.location.line) :
    invariantId first = invariantId second ↔
      sanitizeCandidateId (pathText first.location) =
        sanitizeCandidateId (pathText second.location) := by
  unfold invariantId sanitizeCandidateId
  rw [String.ofList_inj, hrule, hline, List.map_append, List.map_append, List.append_cancel_left_eq,
    List.map_cons, List.map_cons, List.cons_inj_right, List.map_append, List.map_append,
    List.append_cancel_right_eq]

end AspRust.Review
