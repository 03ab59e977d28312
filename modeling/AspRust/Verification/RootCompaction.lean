import AspRust.Foundation.JsonPieces
import AspRust.Foundation.Replacement
import AspRust.Verification.ReportWrite

/-!
# Compaction of the project root

Reports are meant to be the same on every machine, so the project root is replaced by a
placeholder in what is written.  What is meant is a change of string values: a value that
is a path at or below the root has the root replaced.  What is done is a textual replacement
in the JSON text, for the root as it is, as JSON writes it, and both again with slashes.

`compactProjectRoot_spec` says when the two agree: if wherever a spelling stands in the text,
it stands at the beginning of a value that is at or below the root.  Where JSON writes the
root as it is this is the only way, unless the placeholder is the root itself.

Which characters end a component depends on the platform and is a parameter.

### How the equivalence comes about

A stage replaces one spelling of the root in the JSON text.  Cut at the quotes, the text is
a list of pieces, and a value that is at or below the root begins with the spelling.  If the
spelling stands nowhere else, replacing it in the text is replacing it in those values
(`replaceAll_stageText`); the stages follow one another because a placeholder brings no new
occurrence (`StagesClear`).

The converse needs to tell the stages apart, and can only for a root that JSON writes as it
is (`IsPlain`): then all four candidates are one, and a replacement at a wrong place is seen
in the result.
-/

namespace AspRust.Verification

open AspRust.Foundation AspRust.Foundation.Json

section Spec

variable (isSeparator : Char → Bool) (config : RustVerificationReportWriteConfig)

/-! ## What is meant

A value is at or below the root if it is the root, or goes on behind it where the root
ends with a separator or the rest begins with one.  Such a value is to have the root
replaced, and no other value and no key is to change. -/

/-- What follows the root in a value that is at or below it. -/
def rootRest? (root value : List Char) : Option (List Char) :=
  let rest := value.drop root.length
  if root.isPrefixOf value &&
      (rest.isEmpty || rest.head?.any isSeparator || root.getLast?.any isSeparator) then
    some rest
  else none

/-- The root as it is, and with slashes where backslashes are separators. -/
def rootSpellings : List String :=
  if isSeparator '\\' then
    [config.projectRoot, String.ofList (replaceChar '\\' '/' config.projectRoot.toList)]
  else [config.projectRoot]

/-- A value with the root replaced, if it is at or below one of some spellings of the root. -/
def compactValue (spellings : List String) (value : String) : String :=
  match spellings.findSome? fun root => rootRest? isSeparator root.toList value.toList with
  | some rest => config.projectRootPlaceholder ++ String.ofList rest
  | none => value

/-- A payload with the root replaced in every value that is at or below it. -/
def compactPayload (payload : Json) : Json :=
  if config.projectRoot = "" then payload
  else payload.mapStrings (compactValue isSeparator config (rootSpellings isSeparator config))

/-- The compacted text is that of the compacted payload. -/
def CompactsValues (payload : Json) : Prop :=
  compactProjectRoot config (String.ofList payload.text) =
    String.ofList (compactPayload isSeparator config payload).text

/-! ## Stages

One stage for each spelling of the root that is looked for, in the order of the source.
A stage is clear if the spelling begins in the text only inside the root at the front of
a value of that kind. -/

/-- The spellings that are among some replaced texts. -/
def spelledIn (done : List String) : List String :=
  (rootSpellings isSeparator config).filter fun root => jsonStringFragment root ∈ done

/-- A piece once some texts are replaced as is meant. -/
def stagePiece (done : List String) (piece : Piece) : Piece :=
  piece.mapValue (compactValue isSeparator config (spelledIn isSeparator config done))

/-- The text of some pieces once some texts are replaced as is meant. -/
def stageText (done : List String) (pieces : List Piece) : List Char :=
  piecesText (pieces.map (stagePiece isSeparator config done))

/-- A piece is a value at or below the root, in the spelling that is replaced. -/
def IsRootValue (candidate : String) (piece : Piece) : Prop :=
  ∃ value, piece = .value value ∧ ∃ root ∈ rootSpellings isSeparator config,
    jsonStringFragment root = candidate ∧
      (rootRest? isSeparator root.toList value.toList).isSome = true

/-- Wherever the candidate begins in a piece, it begins in the root at the front of a value at or
below it. -/
def PieceClear (done : List String) (candidate : String) (piece : Piece) (back : List Piece) :
    Prop :=
  ∀ before after, (stagePiece isSeparator config done piece).text ++
      stageText isSeparator config done back = before ++ (candidate.toList ++ after) →
    before.length < (stagePiece isSeparator config done piece).text.length →
    IsRootValue isSeparator config candidate piece ∧
      0 < before.length ∧ before.length ≤ candidate.toList.length

/-- All pieces are clear. -/
def StageClear (done : List String) (candidate : String) (pieces : List Piece) : Prop :=
  ∀ front piece back, pieces = front ++ piece :: back →
    PieceClear isSeparator config done candidate piece back

/-- Every stage of a run is clear. -/
def StagesClear (done candidates : List String) (pieces : List Piece) : Prop :=
  ∀ front candidate back, candidates = front ++ candidate :: back →
    StageClear isSeparator config (done ++ front) candidate pieces

/-- The root has nothing that JSON escapes. -/
def IsPlain : Prop := jsonStringFragment config.projectRoot = config.projectRoot

/-- Compaction does what is meant: there is no root, or the placeholder is a plain root itself,
or every stage is clear. -/
def Compactable (payload : Json) : Prop :=
  config.projectRoot = "" ∨
    IsPlain config ∧ config.projectRootPlaceholder = config.projectRoot ∨
    StagesClear isSeparator config [] (projectRootCompactionCandidates config.projectRoot).keys
      payload.pieces

variable {isSeparator config}

/-! ## Spellings

All spellings are equally long, so a value is at or below the root in one of them only,
and with one rest. -/

theorem rootRest?_eq_some {root value rest : List Char}
    (h : rootRest? isSeparator root value = some rest) : value = root ++ rest := by
  unfold rootRest? at h
  dsimp only at h
  split at h
  · next hroot =>
      obtain rfl := Option.some.inj h
      rw [Bool.and_eq_true, List.isPrefixOf_iff_prefix] at hroot
      exact (List.prefix_append_drop hroot.1)
  · cases h

theorem length_rootSpelling {root : String} (h : root ∈ rootSpellings isSeparator config) :
    root.toList.length = config.projectRoot.toList.length := by
  unfold rootSpellings at h
  split at h
  · rcases List.mem_cons.mp h with rfl | hslashes
    · rfl
    · rw [List.mem_singleton.mp hslashes, String.toList_ofList, replaceChar, List.length_map]
  · rw [List.mem_singleton.mp h]

/-- A value is at or below the root in one spelling only. -/
theorem rootSpelling_unique {first second : String} {value rest rest' : List Char}
    (hfirst : first ∈ rootSpellings isSeparator config)
    (hsecond : second ∈ rootSpellings isSeparator config)
    (h : rootRest? isSeparator first.toList value = some rest)
    (h' : rootRest? isSeparator second.toList value = some rest') :
    first = second ∧ rest = rest' := by
  have hlength : first.toList.length = second.toList.length :=
    (length_rootSpelling hfirst).trans (length_rootSpelling hsecond).symm
  have happend : first.toList ++ rest = second.toList ++ rest' :=
    (rootRest?_eq_some h).symm.trans (rootRest?_eq_some h')
  obtain ⟨hroot, hrest⟩ := List.append_inj happend hlength
  exact ⟨String.toList_inj.mp hroot, hrest⟩

theorem compactValue_of_none {spellings : List String} {value : String}
    (h : ∀ root ∈ spellings, rootRest? isSeparator root.toList value.toList = none) :
    compactValue isSeparator config spellings value = value := by
  have hnone : (spellings.findSome? fun root =>
      rootRest? isSeparator root.toList value.toList) = none := List.findSome?_eq_none_iff.mpr h
  rw [compactValue, hnone]

theorem compactValue_of_some {spellings : List String} {value root : String} {rest : List Char}
    (hspellings : ∀ root ∈ spellings, root ∈ rootSpellings isSeparator config)
    (hroot : root ∈ spellings)
    (hrest : rootRest? isSeparator root.toList value.toList = some rest) :
    compactValue isSeparator config spellings value =
      config.projectRootPlaceholder ++ String.ofList rest := by
  have hsome : (spellings.findSome? fun root =>
      rootRest? isSeparator root.toList value.toList) = some rest := by
    cases hfound : spellings.findSome? fun root =>
        rootRest? isSeparator root.toList value.toList with
    | none =>
        have hno := List.findSome?_eq_none_iff.mp hfound root hroot
        rw [hrest] at hno
        cases hno
    | some found =>
        obtain ⟨other, hother, hotherRest⟩ := List.exists_of_findSome?_eq_some hfound
        exact congrArg some (rootSpelling_unique (hspellings other hother)
          (hspellings root hroot) hotherRest hrest).2
  rw [compactValue, hsome]

theorem mem_spelledIn_iff {done : List String} {root : String} :
    root ∈ spelledIn isSeparator config done ↔
      root ∈ rootSpellings isSeparator config ∧ jsonStringFragment root ∈ done := by
  rw [spelledIn, List.mem_filter, decide_eq_true_eq]

/-! ## Fragments

A value stands in the text as JSON writes it, character by character, so the text of a
path is the text of the root and that of the rest. -/

theorem toList_jsonStringFragment (value : String) :
    (jsonStringFragment value).toList = value.toList.flatMap escapeChar := String.toList_ofList

theorem stringText_eq (value : String) :
    stringText value = '"' :: ((jsonStringFragment value).toList ++ ['"']) := by
  rw [stringText, toList_jsonStringFragment]

theorem toList_jsonStringFragment_append (first : String) (second : List Char) :
    (jsonStringFragment (first ++ String.ofList second)).toList =
      (jsonStringFragment first).toList ++ second.flatMap escapeChar := by
  rw [toList_jsonStringFragment, toList_jsonStringFragment, String.toList_append,
    String.toList_ofList, List.flatMap_append]

/-! ## One stage

The text is cut at the quotes of its values.  Where the pieces are clear, a replacement
in the text is one in each piece, and a piece has the root at its front or not at all. -/

/-- Only values at or below the root change when one more text is replaced. -/
theorem stagePiece_of_not_root {done : List String} {candidate : String} {piece : Piece}
    (h : ¬ IsRootValue isSeparator config candidate piece) :
    stagePiece isSeparator config (done ++ [candidate]) piece =
      stagePiece isSeparator config done piece := by
  cases piece with
  | mark text => rfl
  | key name => rfl
  | value value =>
      have hnone : ∀ root ∈ rootSpellings isSeparator config,
          jsonStringFragment root = candidate →
          rootRest? isSeparator root.toList value.toList = none := by
        intro root hroot hcandidate
        by_contra hsome
        exact h ⟨value, rfl, root, hroot, hcandidate, Option.isSome_iff_ne_none.mpr hsome⟩
      show Piece.value (compactValue isSeparator config
          (spelledIn isSeparator config (done ++ [candidate])) value) =
        Piece.value (compactValue isSeparator config (spelledIn isSeparator config done) value)
      congr 1
      by_cases hdone : ∃ root ∈ spelledIn isSeparator config done,
          (rootRest? isSeparator root.toList value.toList).isSome = true
      · obtain ⟨root, hroot, hsome⟩ := hdone
        obtain ⟨rest, hrest⟩ := Option.isSome_iff_exists.mp hsome
        have hmore : root ∈ spelledIn isSeparator config (done ++ [candidate]) := by
          obtain ⟨hspelling, hmem⟩ := mem_spelledIn_iff.mp hroot
          exact mem_spelledIn_iff.mpr ⟨hspelling, List.mem_append_left _ hmem⟩
        rw [compactValue_of_some (fun _ hmem => (mem_spelledIn_iff.mp hmem).1) hmore hrest,
          compactValue_of_some (fun _ hmem => (mem_spelledIn_iff.mp hmem).1) hroot hrest]
      · have hbefore : ∀ root ∈ spelledIn isSeparator config done,
            rootRest? isSeparator root.toList value.toList = none := by
          intro root hroot
          by_contra hsome
          exact hdone ⟨root, hroot, Option.isSome_iff_ne_none.mpr hsome⟩
        rw [compactValue_of_none hbefore, compactValue_of_none]
        intro root hroot
        obtain ⟨hspelling, hmem⟩ := mem_spelledIn_iff.mp hroot
        rcases List.mem_append.mp hmem with hold | hnew
        · exact hbefore root (mem_spelledIn_iff.mpr ⟨hspelling, hold⟩)
        · exact hnone root hspelling (List.mem_singleton.mp hnew)

/-- The text of a value at or below the root, before and after it is replaced. -/
theorem text_stagePiece_of_root {done : List String} {candidate : String} {piece : Piece}
    (hdone : candidate ∉ done) (h : IsRootValue isSeparator config candidate piece) :
    ∃ rest : List Char,
      (stagePiece isSeparator config done piece).text =
        '"' :: (candidate.toList ++ (rest ++ ['"'])) ∧
      (stagePiece isSeparator config (done ++ [candidate]) piece).text =
        '"' :: ((jsonStringFragment config.projectRootPlaceholder).toList ++ (rest ++ ['"'])) := by
  obtain ⟨value, rfl, root, hroot, rfl, hsome⟩ := h
  obtain ⟨rest, hrest⟩ := Option.isSome_iff_exists.mp hsome
  have hvalue : (jsonStringFragment value).toList =
      (jsonStringFragment root).toList ++ rest.flatMap escapeChar := by
    rw [toList_jsonStringFragment, rootRest?_eq_some hrest, List.flatMap_append,
      toList_jsonStringFragment]
  have hbefore : compactValue isSeparator config (spelledIn isSeparator config done) value =
      value := by
    refine compactValue_of_none fun other hother => ?_
    by_contra hnamed
    obtain ⟨otherRest, hotherRest⟩ := Option.ne_none_iff_exists'.mp hnamed
    obtain ⟨hspelling, hmem⟩ := mem_spelledIn_iff.mp hother
    obtain ⟨rfl, -⟩ := rootSpelling_unique hspelling hroot hotherRest hrest
    exact hdone hmem
  have hafter : compactValue isSeparator config
      (spelledIn isSeparator config (done ++ [jsonStringFragment root])) value =
        config.projectRootPlaceholder ++ String.ofList rest := by
    refine compactValue_of_some (fun _ hmem => (mem_spelledIn_iff.mp hmem).1) ?_ hrest
    exact mem_spelledIn_iff.mpr ⟨hroot, List.mem_append_right _ List.mem_cons_self⟩
  refine ⟨rest.flatMap escapeChar, ?_, ?_⟩
  · show stringText (compactValue isSeparator config (spelledIn isSeparator config done) value) = _
    rw [hbefore, stringText_eq, hvalue, List.append_assoc]
  · show stringText (compactValue isSeparator config
      (spelledIn isSeparator config (done ++ [jsonStringFragment root])) value) = _
    rw [hafter, stringText_eq, toList_jsonStringFragment_append, List.append_assoc]

/-- **One stage.**  Where all pieces are clear, replacing a text in the JSON text is replacing it
in the values at or below the root. -/
theorem replaceAll_stageText {done : List String} {candidate : String} {pieces : List Piece}
    (hcandidate : candidate.toList ≠ []) (hdone : candidate ∉ done)
    (hclear : StageClear isSeparator config done candidate pieces) :
    replaceAll candidate.toList (jsonStringFragment config.projectRootPlaceholder).toList
        (stageText isSeparator config done pieces) =
      stageText isSeparator config (done ++ [candidate]) pieces := by
  induction pieces with
  | nil => rfl
  | cons piece rest ih =>
      have hrest := ih fun front other back h => hclear (piece :: front) other back (by rw [h]; rfl)
      have hpiece : PieceClear isSeparator config done candidate piece rest :=
        hclear [] piece rest rfl
      have hsplit : ∀ done, stageText isSeparator config done (piece :: rest) =
          (stagePiece isSeparator config done piece).text ++
            stageText isSeparator config done rest := fun done => by
        rw [stageText, List.map_cons, piecesText_cons]
        rfl
      rw [hsplit, hsplit, ← hrest]
      by_cases hroot : IsRootValue isSeparator config candidate piece
      · obtain ⟨tail, hbefore, hafter⟩ := text_stagePiece_of_root hdone hroot
        -- what follows the root is clear, and so is the quote before it
        have hquote : ¬ candidate.toList <+: '"' :: (candidate.toList ++ (tail ++ ['"'] ++
            stageText isSeparator config done rest)) := by
          rintro ⟨after, hafter⟩
          have h := hpiece [] after (by rw [hbefore, List.nil_append, hafter]; simp) (by
            rw [hbefore]
            exact Nat.succ_pos _)
          exact absurd h.2.1 (lt_irrefl 0)
        have htail : ∀ front back, tail ++ ['"'] = front ++ back → back ≠ [] →
            ¬ candidate.toList <+: back ++ stageText isSeparator config done rest := by
          rintro front back hsplit hback ⟨after, hafter⟩
          have hlength := congrArg List.length hsplit
          have hpos := List.length_pos_of_ne_nil hback
          have h := hpiece ('"' :: (candidate.toList ++ front)) after (by
            rw [hbefore, hsplit, List.cons_append, List.append_assoc, List.append_assoc, ← hafter]
            simp) (by
            rw [hbefore, hsplit]
            simp only [List.length_cons, List.length_append]
            omega)
          have hlate := h.2.2
          simp only [List.length_cons, List.length_append] at hlate
          omega
        rw [hbefore, hafter, List.cons_append, List.append_assoc, replaceAll_cons hquote,
          replaceAll_append hcandidate, replaceAll_append_of_clear htail, List.cons_append,
          List.append_assoc, List.append_assoc, List.append_assoc]
      · have hchunk : ∀ front back,
            (stagePiece isSeparator config done piece).text = front ++ back → back ≠ [] →
            ¬ candidate.toList <+: back ++ stageText isSeparator config done rest := by
          rintro front back hsplit hback ⟨after, hafter⟩
          have hpos := List.length_pos_of_ne_nil hback
          refine hroot (hpiece front after ?_ ?_).1
          · rw [hsplit, List.append_assoc, ← hafter]
          · rw [hsplit, List.length_append]
            omega
        rw [replaceAll_append_of_clear hchunk, stagePiece_of_not_root hroot]

/-! ## All stages

A stage leaves the values of the later spellings as they were, so the next one finds a
text of the same form. -/

theorem stagePiece_nil (piece : Piece) : stagePiece isSeparator config [] piece = piece := by
  cases piece with
  | mark text => rfl
  | key name => rfl
  | value value =>
      show Piece.value (compactValue isSeparator config (spelledIn isSeparator config []) value) = _
      rw [compactValue_of_none]
      intro root hroot
      exact absurd (mem_spelledIn_iff.mp hroot).2 List.not_mem_nil

theorem stageText_nil (pieces : List Piece) :
    stageText isSeparator config [] pieces = piecesText pieces := by
  unfold stageText
  congr 1
  refine (List.map_congr_left fun piece _ => ?_).trans (List.map_id pieces)
  exact stagePiece_nil piece

/-- **All stages.**  The replacements are made one after the other. -/
theorem foldl_replacePattern {done candidates : List String} {pieces : List Piece}
    (hnonempty : ∀ candidate ∈ candidates, candidate.toList ≠ [])
    (hnodup : (done ++ candidates).Nodup)
    (hclear : StagesClear isSeparator config done candidates pieces) :
    candidates.foldl (fun compacted candidate => replacePattern candidate
        (jsonStringFragment config.projectRootPlaceholder) compacted)
        (String.ofList (stageText isSeparator config done pieces)) =
      String.ofList (stageText isSeparator config (done ++ candidates) pieces) := by
  induction candidates generalizing done with
  | nil => rw [List.foldl_nil, List.append_nil]
  | cons candidate rest ih =>
      have hdone : candidate ∉ done := fun hmem =>
        (List.nodup_append.mp hnodup).2.2 candidate hmem candidate List.mem_cons_self rfl
      have hstage := replaceAll_stageText (hnonempty candidate List.mem_cons_self) hdone
        (by simpa using hclear [] candidate rest rfl)
      have hassoc : done ++ candidate :: rest = done ++ [candidate] ++ rest := by simp
      rw [List.foldl_cons, hassoc, ← ih]
      · congr 1
        show String.ofList (replaceAll candidate.toList
          (jsonStringFragment config.projectRootPlaceholder).toList
          (String.ofList (stageText isSeparator config done pieces)).toList) = _
        rw [String.toList_ofList, hstage]
      · exact fun other hother => hnonempty other (List.mem_cons_of_mem _ hother)
      · rw [← hassoc]
        exact hnodup
      · intro front other back hsplit
        have h := hclear (candidate :: front) other back (by rw [hsplit, List.cons_append])
        rwa [List.append_assoc]

/-! ## Enough -/

theorem replaceChar_ne_nil {text : List Char} (h : text ≠ []) (old new : Char) :
    replaceChar old new text ≠ [] := fun hnil => h (List.map_eq_nil_iff.mp hnil)

theorem escapeChar_ne_nil (c : Char) : escapeChar c ≠ [] := by
  unfold escapeChar
  repeat' split
  all_goals exact List.cons_ne_nil _ _

theorem jsonStringFragment_ne_empty {value : String} (h : value ≠ "") :
    jsonStringFragment value ≠ "" := by
  intro hempty
  have hnil := congrArg String.toList hempty
  rw [toList_jsonStringFragment] at hnil
  cases hvalue : value.toList with
  | nil => exact h (String.toList_eq_nil_iff.mp hvalue)
  | cons c rest =>
      rw [hvalue, List.flatMap_cons] at hnil
      exact escapeChar_ne_nil c (List.append_eq_nil_iff.mp hnil).1

theorem mem_candidates_iff {root candidate : String} :
    candidate ∈ (projectRootCompactionCandidates root).keys ↔
      (candidate = root ∨ candidate = jsonStringFragment root ∨
        candidate = String.ofList (replaceChar '\\' '/' root.toList) ∨
        candidate = jsonStringFragment (String.ofList (replaceChar '\\' '/' root.toList))) ∧
      candidate ≠ "" := by
  unfold projectRootCompactionCandidates
  rw [OrderedSet.mem_ofList, List.mem_filter, decide_eq_true_eq]
  simp only [List.mem_cons, List.not_mem_nil, or_false]

/-- Once all candidates are replaced, every spelling of the root is. -/
theorem spelledIn_candidates (hroot : config.projectRoot ≠ "") :
    spelledIn isSeparator config (projectRootCompactionCandidates config.projectRoot).keys =
      rootSpellings isSeparator config := by
  refine List.filter_eq_self.mpr fun root hmem => decide_eq_true (mem_candidates_iff.mpr ?_)
  have hspelling : root = config.projectRoot ∨
      root = String.ofList (replaceChar '\\' '/' config.projectRoot.toList) := by
    unfold rootSpellings at hmem
    split at hmem
    · rcases List.mem_cons.mp hmem with h | h
      · exact Or.inl h
      · exact Or.inr (List.mem_singleton.mp h)
    · exact Or.inl (List.mem_singleton.mp hmem)
  rcases hspelling with rfl | rfl
  · exact ⟨Or.inr (Or.inl rfl), jsonStringFragment_ne_empty hroot⟩
  · refine ⟨Or.inr (Or.inr (Or.inr rfl)), jsonStringFragment_ne_empty fun hempty => ?_⟩
    have hnil := congrArg String.toList hempty
    rw [String.toList_ofList] at hnil
    exact replaceChar_ne_nil (fun h => hroot (String.toList_eq_nil_iff.mp h)) _ _ hnil

theorem compactPayload_text (hroot : config.projectRoot ≠ "") (payload : Json) :
    (compactPayload isSeparator config payload).text =
      stageText isSeparator config (projectRootCompactionCandidates config.projectRoot).keys
        payload.pieces := by
  rw [compactPayload, if_neg hroot, text_eq_piecesText, pieces_mapStrings, stageText]
  unfold stagePiece
  rw [spelledIn_candidates hroot]

theorem compactsValues_of_stagesClear (hroot : config.projectRoot ≠ "") {payload : Json}
    (hclear : StagesClear isSeparator config []
      (projectRootCompactionCandidates config.projectRoot).keys payload.pieces) :
    CompactsValues isSeparator config payload := by
  have hnonempty : ∀ candidate ∈ (projectRootCompactionCandidates config.projectRoot).keys,
      candidate.toList ≠ [] := fun candidate hmem hnil =>
    (mem_candidates_iff.mp hmem).2 (String.toList_eq_nil_iff.mp hnil)
  have hrun := foldl_replacePattern hnonempty
    (by simpa using (projectRootCompactionCandidates config.projectRoot).nodup_keys) hclear
  rw [stageText_nil, ← text_eq_piecesText, List.nil_append] at hrun
  rw [CompactsValues, compactProjectRoot, if_neg hroot, compactPayload_text hroot, hrun]

/-! ## Plain roots

A root that JSON writes as it is has no backslash either, so all spellings that are
looked for are one, and there is one stage. -/

/-- What JSON writes as it is has characters that JSON writes as they are. -/
theorem escapeChar_eq_of_flatMap_eq {text : List Char} (h : text.flatMap escapeChar = text) :
    ∀ c ∈ text, escapeChar c = [c] := by
  have hlonger : ∀ text : List Char, text.length ≤ (text.flatMap escapeChar).length := by
    intro text
    induction text with
    | nil => exact le_rfl
    | cons c rest ih =>
        have hpos := List.length_pos_of_ne_nil (escapeChar_ne_nil c)
        rw [List.flatMap_cons, List.length_append, List.length_cons]
        omega
  have hsingle : ∀ c, (escapeChar c).length ≤ 1 → escapeChar c = [c] := by
    intro c hlength
    unfold escapeChar at hlength ⊢
    repeat' split at hlength
    all_goals simp_all
  induction text with
  | nil => exact fun c hc => absurd hc List.not_mem_nil
  | cons first rest ih =>
      rw [List.flatMap_cons] at h
      have hlength := congrArg List.length h
      rw [List.length_append, List.length_cons] at hlength
      have hfirst := hsingle first (by have := hlonger rest; omega)
      rw [hfirst, List.singleton_append, List.cons_inj_right] at h
      intro c hc
      rcases List.mem_cons.mp hc with rfl | hmem
      · exact hfirst
      · exact ih h c hmem

theorem escapeChar_of_isPlain (hplain : IsPlain config) :
    ∀ c ∈ config.projectRoot.toList, escapeChar c = [c] := by
  refine escapeChar_eq_of_flatMap_eq ?_
  rw [← toList_jsonStringFragment]
  exact congrArg String.toList hplain

theorem quote_notMem_of_isPlain (hplain : IsPlain config) : '"' ∉ config.projectRoot.toList :=
  fun hmem => absurd (escapeChar_of_isPlain hplain '"' hmem) (by decide)

theorem replaceChar_of_isPlain (hplain : IsPlain config) :
    String.ofList (replaceChar '\\' '/' config.projectRoot.toList) = config.projectRoot := by
  have hsame : replaceChar '\\' '/' config.projectRoot.toList = config.projectRoot.toList := by
    refine (List.map_congr_left fun c hc => if_neg ?_).trans (List.map_id _)
    rintro rfl
    exact absurd (escapeChar_of_isPlain hplain '\\' hc) (by decide)
  rw [hsame, String.ofList_toList]

/-- Only a plain root itself is written as it is. -/
theorem jsonStringFragment_eq_iff_of_isPlain (hplain : IsPlain config) {value : String} :
    jsonStringFragment value = config.projectRoot ↔ value = config.projectRoot := by
  constructor
  · intro h
    have htext : value.toList.flatMap escapeChar = config.projectRoot.toList := by
      rw [← toList_jsonStringFragment, h]
    have hsingle : ∀ c ∈ value.toList, escapeChar c = [c] := by
      intro c hc
      have hkept : ∀ d ∈ escapeChar c, escapeChar d = [d] := fun d hd =>
        escapeChar_of_isPlain hplain d (htext ▸ List.mem_flatMap.mpr ⟨c, hc, hd⟩)
      by_contra hescaped
      refine absurd (hkept '\\' ?_) (by decide)
      unfold escapeChar at hescaped ⊢
      repeat' split
      all_goals simp_all
    have hsame : value.toList.flatMap escapeChar = value.toList :=
      (List.flatMap_congr hsingle).trans (List.flatMap_singleton' _)
    exact String.toList_inj.mp (hsame.symm.trans htext)
  · rintro rfl
    exact hplain

/-- A plain root is the only candidate. -/
theorem candidates_of_isPlain (hroot : config.projectRoot ≠ "") (hplain : IsPlain config) :
    (projectRootCompactionCandidates config.projectRoot).keys = [config.projectRoot] := by
  have hfragment : jsonStringFragment config.projectRoot = config.projectRoot := hplain
  have hset : projectRootCompactionCandidates config.projectRoot =
      OrderedSet.ofList [config.projectRoot] := by
    refine OrderedSet.ext_keys fun candidate => ?_
    rw [mem_candidates_iff, OrderedSet.mem_ofList, List.mem_singleton,
      replaceChar_of_isPlain hplain, hfragment]
    constructor
    · rintro ⟨h | h | h | h, -⟩ <;> exact h
    · rintro rfl
      exact ⟨Or.inl rfl, hroot⟩
  rw [hset]
  rfl

theorem mem_rootSpellings_of_isPlain (hplain : IsPlain config) {root : String} :
    root ∈ rootSpellings isSeparator config ↔ root = config.projectRoot := by
  unfold rootSpellings
  rw [replaceChar_of_isPlain hplain]
  split
  · rw [List.mem_pair, or_self]
  · exact List.mem_singleton

/-! ## Texts between quotes

The converse counts occurrences.  The text is a list of segments that end with a quote,
with the root at the front of some as a mark; a replacement changes exactly the marks if
and only if the root occurs nowhere else. -/

/-- What the quotes of a value enclose, with the root at its front as a mark. -/
def valueSegment (isSeparator : Char → Bool) (root : List Char) (value : String) : Segment :=
  match rootRest? isSeparator root value.toList with
  | some rest => ⟨true, rest.flatMap escapeChar⟩
  | none => ⟨false, (jsonStringFragment value).toList⟩

/-- What the quotes of keys and values divide the text of some pieces into. -/
def quoteSegments (isSeparator : Char → Bool) (root : List Char) :
    List Char → List Piece → List Segment
  | front, [] => [⟨false, front⟩]
  | front, .mark text :: rest => quoteSegments isSeparator root (front ++ text) rest
  | front, .key name :: rest =>
      ⟨false, front⟩ :: ⟨false, (jsonStringFragment name).toList⟩ ::
        quoteSegments isSeparator root [] rest
  | front, .value content :: rest =>
      ⟨false, front⟩ :: valueSegment isSeparator root content ::
        quoteSegments isSeparator root [] rest

theorem fragment_of_rootRest? (hplain : IsPlain config) {value : String} {rest : List Char}
    (h : rootRest? isSeparator config.projectRoot.toList value.toList = some rest) :
    (jsonStringFragment value).toList =
      config.projectRoot.toList ++ rest.flatMap escapeChar := by
  have hfragment : jsonStringFragment config.projectRoot = config.projectRoot := hplain
  calc (jsonStringFragment value).toList
      = (config.projectRoot.toList ++ rest).flatMap escapeChar := by
        rw [toList_jsonStringFragment, rootRest?_eq_some h]
    _ = (jsonStringFragment config.projectRoot).toList ++ rest.flatMap escapeChar := by
        rw [List.flatMap_append, toList_jsonStringFragment]
    _ = config.projectRoot.toList ++ rest.flatMap escapeChar := by rw [hfragment]

/-- The text of some pieces is that of its parts, with the root in the place of marks. -/
theorem text_quoteSegments (hplain : IsPlain config) (pieces : List Piece) (front : List Char) :
    front ++ (piecesText pieces ++ ['"']) =
      segmentsText '"' config.projectRoot.toList
        (quoteSegments isSeparator config.projectRoot.toList front pieces) := by
  induction pieces generalizing front with
  | nil => simp [quoteSegments, segmentsText]
  | cons piece rest ih =>
      cases piece with
      | mark text =>
          rw [quoteSegments, ← ih, piecesText_cons, Piece.text]
          simp
      | key name =>
          rw [quoteSegments, segmentsText_cons, segmentsText_cons, ← ih, piecesText_cons,
            Piece.text, stringText_eq]
          simp
      | value content =>
          rw [quoteSegments, segmentsText_cons, segmentsText_cons, ← ih, piecesText_cons,
            Piece.text, stringText_eq, valueSegment]
          cases hrest : rootRest? isSeparator config.projectRoot.toList content.toList with
          | none => simp
          | some tail =>
              rw [fragment_of_rootRest? hplain hrest]
              simp

theorem compactValue_of_isPlain (hplain : IsPlain config) (value : String) :
    compactValue isSeparator config
        (spelledIn isSeparator config [config.projectRoot]) value =
      match rootRest? isSeparator config.projectRoot.toList value.toList with
      | some rest => config.projectRootPlaceholder ++ String.ofList rest
      | none => value := by
  have hspelled : ∀ root, root ∈ spelledIn isSeparator config [config.projectRoot] ↔
      root = config.projectRoot := by
    intro root
    rw [mem_spelledIn_iff, mem_rootSpellings_of_isPlain hplain, List.mem_singleton]
    refine ⟨And.left, fun h => ⟨h, ?_⟩⟩
    rw [h]
    exact hplain
  cases hrest : rootRest? isSeparator config.projectRoot.toList value.toList with
  | none =>
      refine compactValue_of_none fun root hroot => ?_
      rw [(hspelled root).mp hroot, hrest]
  | some rest =>
      exact compactValue_of_some (fun _ hmem => (mem_spelledIn_iff.mp hmem).1)
        ((hspelled _).mpr rfl) hrest

/-- What is meant is the text of the parts, with the placeholder in the place of marks. -/
theorem stageText_quoteSegments (hplain : IsPlain config) (pieces : List Piece)
    (front : List Char) :
    front ++ (stageText isSeparator config [config.projectRoot] pieces ++ ['"']) =
      segmentsText '"' (jsonStringFragment config.projectRootPlaceholder).toList
        (quoteSegments isSeparator config.projectRoot.toList front pieces) := by
  induction pieces generalizing front with
  | nil => simp [quoteSegments, segmentsText, stageText]
  | cons piece rest ih =>
      have hsplit : stageText isSeparator config [config.projectRoot] (piece :: rest) =
          (stagePiece isSeparator config [config.projectRoot] piece).text ++
            stageText isSeparator config [config.projectRoot] rest := by
        rw [stageText, List.map_cons, piecesText_cons]
        rfl
      cases piece with
      | mark text =>
          rw [quoteSegments, ← ih, hsplit, stagePiece, Piece.mapValue, Piece.text]
          simp
      | key name =>
          rw [quoteSegments, segmentsText_cons, segmentsText_cons, ← ih, hsplit, stagePiece,
            Piece.mapValue, Piece.text, stringText_eq]
          simp
      | value content =>
          rw [quoteSegments, segmentsText_cons, segmentsText_cons, ← ih, hsplit, stagePiece,
            Piece.mapValue, Piece.text, stringText_eq, valueSegment,
            compactValue_of_isPlain hplain]
          cases hrest : rootRest? isSeparator config.projectRoot.toList content.toList with
          | none => simp
          | some tail =>
              rw [toList_jsonStringFragment_append]
              simp

/-- **Plain roots**: what is meant comes out if the placeholder is the root, or if the root stands
nowhere but at the front of values at or below it. -/
theorem compactsValues_iff_of_isPlain (hroot : config.projectRoot ≠ "") (hplain : IsPlain config)
    (payload : Json) :
    CompactsValues isSeparator config payload ↔
      config.projectRootPlaceholder = config.projectRoot ∨
      ∀ segment ∈ quoteSegments isSeparator config.projectRoot.toList [] payload.pieces,
        ¬ config.projectRoot.toList <:+: segment.content := by
  have hpattern : config.projectRoot.toList ≠ [] :=
    fun hnil => hroot (String.toList_eq_nil_iff.mp hnil)
  have hquote := quote_notMem_of_isPlain hplain
  have hdone : CompactsValues isSeparator config payload ↔
      replaceAll config.projectRoot.toList
          (jsonStringFragment config.projectRootPlaceholder).toList (piecesText payload.pieces) =
        stageText isSeparator config [config.projectRoot] payload.pieces := by
    rw [CompactsValues, compactProjectRoot, if_neg hroot, compactPayload_text hroot,
      candidates_of_isPlain hroot hplain, List.foldl_cons, List.foldl_nil, text_eq_piecesText]
    show String.ofList (replaceAll _ _ (String.ofList (piecesText payload.pieces)).toList) = _ ↔ _
    rw [String.toList_ofList, String.ofList_inj]
  have hending : ∀ text, replaceAll config.projectRoot.toList
      (jsonStringFragment config.projectRootPlaceholder).toList (text ++ ['"']) =
        replaceAll config.projectRoot.toList
          (jsonStringFragment config.projectRootPlaceholder).toList text ++ ['"'] := fun text => by
    rw [replaceAll_append_cons_of_notMem hpattern hquote, replaceAll_nil]
  rw [hdone, ← List.append_left_inj ['"'], ← hending,
    ← List.nil_append (piecesText payload.pieces ++ ['"']), text_quoteSegments hplain,
    ← List.nil_append (stageText isSeparator config [config.projectRoot] payload.pieces ++ ['"']),
    stageText_quoteSegments hplain, replaceAll_segmentsText_iff hpattern hquote,
    String.toList_inj, jsonStringFragment_eq_iff_of_isPlain hplain]

/-! ## Where a plain root stands

Back from counting to places: if there is no other occurrence, the root begins nowhere
but at the front of a value at or below it. -/

/-- A text without quotes that begins between quotes stands between them. -/
theorem prefix_of_quoted {pattern content tail before after : List Char}
    (hpattern : pattern ≠ []) (hquote : '"' ∉ pattern)
    (h : '"' :: (content ++ '"' :: tail) = before ++ (pattern ++ after))
    (hbefore : before.length < content.length + 2) :
    ∃ front back, before = '"' :: front ∧ content = front ++ back ∧ pattern <+: back := by
  have hhead : ∀ rest, '"' :: rest ≠ pattern ++ after := by
    intro rest heq
    obtain ⟨first, others, rfl⟩ := List.exists_cons_of_ne_nil hpattern
    exact hquote ((List.cons_eq_cons.mp heq).1 ▸ List.mem_cons_self)
  cases before with
  | nil => exact absurd h (hhead _)
  | cons c front =>
      rw [List.cons_append] at h
      obtain ⟨rfl, hrest⟩ := List.cons_eq_cons.mp h
      rcases List.append_eq_append_iff.mp hrest with ⟨more, hfront, hmore⟩ | ⟨back, hcontent, hback⟩
      · -- the text would begin at the closing quote or after it
        have hlength := congrArg List.length hfront
        rw [List.length_append] at hlength
        rw [List.length_cons] at hbefore
        have hnil : more = [] := List.length_eq_zero_iff.mp (by omega)
        rw [hnil, List.nil_append] at hmore
        exact absurd hmore (hhead tail)
      · have hbegin : pattern <+: back ++ '"' :: tail := ⟨after, hback⟩
        exact ⟨front, back, rfl, hcontent, prefix_of_prefix_append_cons hquote hbegin⟩

/-- The first part goes up to the first quote. -/
theorem exists_lead (root : List Char) (pieces : List Piece) (front : List Char) :
    ∃ lead after, piecesText pieces ++ ['"'] = lead ++ '"' :: after ∧
      ∃ segment ∈ quoteSegments isSeparator root front pieces, segment.content = front ++ lead := by
  induction pieces generalizing front with
  | nil => exact ⟨[], [], rfl, ⟨false, front⟩, List.mem_singleton.mpr rfl, by simp⟩
  | cons piece rest ih =>
      cases piece with
      | mark text =>
          obtain ⟨lead, after, htext, segment, hmem, hcontent⟩ := ih (front ++ text)
          refine ⟨text ++ lead, after, ?_, segment, hmem, by rw [hcontent, List.append_assoc]⟩
          rw [piecesText_cons, List.append_assoc, htext, List.append_assoc]
          rfl
      | key name =>
          exact ⟨[], ((jsonStringFragment name).toList ++ ['"']) ++ piecesText rest ++ ['"'],
            by rw [piecesText_cons, Piece.text, stringText_eq]; rfl,
            ⟨false, front⟩, List.mem_cons_self, by simp⟩
      | value content =>
          exact ⟨[], ((jsonStringFragment content).toList ++ ['"']) ++ piecesText rest ++ ['"'],
            by rw [piecesText_cons, Piece.text, stringText_eq]; rfl,
            ⟨false, front⟩, List.mem_cons_self, by simp⟩

theorem stageClear_cons {done : List String} {candidate : String} {piece : Piece}
    {rest : List Piece} (hpiece : PieceClear isSeparator config done candidate piece rest)
    (hrest : StageClear isSeparator config done candidate rest) :
    StageClear isSeparator config done candidate (piece :: rest) := by
  intro front other back hsplit
  cases front with
  | nil =>
      obtain ⟨rfl, rfl⟩ := List.cons_eq_cons.mp hsplit
      exact hpiece
  | cons first front => exact hrest front other back (List.cons_eq_cons.mp hsplit).2

/-- If the root stands nowhere but at the marks, all pieces are clear. -/
theorem stageClear_of_quoteSegments (hroot : config.projectRoot ≠ "") (hplain : IsPlain config)
    {pieces : List Piece} {front : List Char}
    (h : ∀ segment ∈ quoteSegments isSeparator config.projectRoot.toList front pieces,
      ¬ config.projectRoot.toList <:+: segment.content) :
    StageClear isSeparator config [] config.projectRoot pieces := by
  have hpattern : config.projectRoot.toList ≠ [] :=
    fun hnil => hroot (String.toList_eq_nil_iff.mp hnil)
  have hquote := quote_notMem_of_isPlain hplain
  induction pieces generalizing front with
  | nil => exact fun front piece back hsplit => absurd hsplit (by simp)
  | cons piece rest ih =>
      cases piece with
      | mark text =>
          refine stageClear_cons ?_ (ih h)
          intro before after heq hlength
          rw [stagePiece_nil, stageText_nil, Piece.text] at heq
          rw [stagePiece_nil, Piece.text] at hlength
          obtain ⟨lead, tail, hlead, segment, hmem, hcontent⟩ :=
            @exists_lead isSeparator config.projectRoot.toList rest (front ++ text)
          obtain ⟨back, rfl, hback⟩ : ∃ back, text = before ++ back ∧
              config.projectRoot.toList ++ after = back ++ piecesText rest := by
            rcases List.append_eq_append_iff.mp heq with ⟨more, hmore, -⟩ | ⟨back, htext, hback⟩
            · rw [hmore, List.length_append] at hlength
              omega
            · exact ⟨back, htext, hback⟩
          have hbegin : config.projectRoot.toList <+: (back ++ lead) ++ '"' :: tail := by
            rw [List.append_assoc, ← hlead, ← List.append_assoc, ← hback, List.append_assoc]
            exact List.prefix_append _ _
          refine absurd ?_ (h segment hmem)
          rw [hcontent, ← List.append_assoc, List.append_assoc _ back]
          exact (prefix_of_prefix_append_cons hquote hbegin).isInfix.trans
            (List.suffix_append _ _).isInfix
      | key name =>
          refine stageClear_cons ?_
            (ih fun segment hmem => h segment (List.mem_cons_of_mem _ (List.mem_cons_of_mem _ hmem)))
          intro before after heq hlength
          rw [stagePiece_nil, stageText_nil, Piece.text, stringText_eq, List.cons_append,
            List.append_assoc] at heq
          rw [stagePiece_nil, Piece.text, stringText_eq, List.length_cons, List.length_append]
            at hlength
          obtain ⟨ahead, back, -, hname, hback⟩ := prefix_of_quoted hpattern hquote heq hlength
          refine absurd ?_ (h _ (List.mem_cons_of_mem _ List.mem_cons_self))
          rw [hname]
          exact hback.isInfix.trans (List.suffix_append _ _).isInfix
      | value content =>
          refine stageClear_cons ?_
            (ih fun segment hmem => h segment (List.mem_cons_of_mem _ (List.mem_cons_of_mem _ hmem)))
          intro before after heq hlength
          rw [stagePiece_nil, stageText_nil, Piece.text, stringText_eq, List.cons_append,
            List.append_assoc] at heq
          rw [stagePiece_nil, Piece.text, stringText_eq, List.length_cons, List.length_append]
            at hlength
          obtain ⟨ahead, back, rfl, hcontent, hback⟩ :=
            prefix_of_quoted hpattern hquote heq hlength
          have hsegment := h _ (List.mem_cons_of_mem _ List.mem_cons_self)
          unfold valueSegment at hsegment
          cases hrest : rootRest? isSeparator config.projectRoot.toList content.toList with
          | none =>
              rw [hrest] at hsegment
              refine absurd ?_ hsegment
              rw [hcontent]
              exact hback.isInfix.trans (List.suffix_append _ _).isInfix
          | some tail =>
              rw [hrest] at hsegment
              refine ⟨⟨content, rfl, config.projectRoot,
                (mem_rootSpellings_of_isPlain hplain).mpr rfl, hplain, ?_⟩, Nat.succ_pos _, ?_⟩
              · rw [hrest]
                rfl
              · rw [List.length_cons, Nat.succ_le_iff]
                by_contra hlate
                -- what begins behind the root at the front stands in what follows it
                rw [fragment_of_rootRest? hplain hrest] at hcontent
                rcases List.append_eq_append_iff.mp hcontent with
                  ⟨between, hahead, htail⟩ | ⟨between, hshort, hafter⟩
                · refine hsegment ?_
                  show config.projectRoot.toList <:+: tail.flatMap escapeChar
                  rw [htail]
                  exact hback.isInfix.trans (List.suffix_append _ _).isInfix
                · have hlengths := congrArg List.length hshort
                  rw [List.length_append] at hlengths
                  have hnil : between = [] := List.length_eq_zero_iff.mp (by omega)
                  rw [hnil, List.nil_append] at hafter
                  refine hsegment ?_
                  show config.projectRoot.toList <:+: tail.flatMap escapeChar
                  rw [← hafter]
                  exact hback.isInfix

/-! ## The condition -/

/-- **Compaction of the project root** changes exactly the values at or below the root
if wherever a spelling of the root stands, it stands at the front of such a value.  For
a root that JSON writes as it is nothing else is enough, apart from a placeholder that
is the root.

The replacement is made in the text of the document and not in its values, so a path
that goes on with the name of the root, a key, or a longer text can be hit as well. -/
theorem compactProjectRoot_spec (isSeparator : Char → Bool)
    (config : RustVerificationReportWriteConfig) (payload : Json) :
    (Compactable isSeparator config payload → CompactsValues isSeparator config payload) ∧
      (IsPlain config → CompactsValues isSeparator config payload →
        Compactable isSeparator config payload) := by
  by_cases hroot : config.projectRoot = ""
  · refine ⟨fun _ => ?_, fun _ _ => Or.inl hroot⟩
    rw [CompactsValues, compactProjectRoot, if_pos hroot, compactPayload, if_pos hroot]
  · constructor
    · rintro (hempty | ⟨hplain, hplaceholder⟩ | hclear)
      · exact absurd hempty hroot
      · exact (compactsValues_iff_of_isPlain hroot hplain payload).mpr (Or.inl hplaceholder)
      · exact compactsValues_of_stagesClear hroot hclear
    · intro hplain hcompacts
      rcases (compactsValues_iff_of_isPlain hroot hplain payload).mp hcompacts with
        hplaceholder | hsegments
      · exact Or.inr (Or.inl ⟨hplain, hplaceholder⟩)
      · refine Or.inr (Or.inr ?_)
        rw [candidates_of_isPlain hroot hplain]
        intro front candidate back hsplit
        -- a plain root is replaced in one stage
        rcases List.append_eq_singleton_iff.mp hsplit.symm with ⟨rfl, hcons⟩ | ⟨-, hcons⟩
        · obtain ⟨rfl, -⟩ := List.cons_eq_cons.mp hcons
          exact stageClear_of_quoteSegments hroot hplain hsegments
        · exact absurd hcons (List.cons_ne_nil _ _)

/-- A sibling whose name merely goes on from that of the root is changed too. -/
theorem compactProjectRoot_sibling :
    ¬ CompactsValues (fun c => c = '/') ⟨"/srv/app", [], [], "$CRATE_ROOT"⟩
      (.string "/srv/app2/x") := by
  unfold CompactsValues
  decide +kernel

/-- A value below the root meets the condition. -/
theorem compactProjectRoot_below :
    Compactable (fun c => c = '/') ⟨"/srv/app", [], [], "$CRATE_ROOT"⟩
      (.string "/srv/app/src") := by
  refine (compactProjectRoot_spec _ _ _).2 (by unfold IsPlain; decide +kernel) ?_
  unfold CompactsValues
  decide +kernel

end Spec

end AspRust.Verification
