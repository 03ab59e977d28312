import Mathlib.Data.List.DropRight
import AspRust.Foundation.PathText

/-!
# The spelling of what follows a base

Stripping a base from a path works on components, but the result is still shown as it
was written: of `/p//src/./a.rs` the part below `/p` is `src/./a.rs`.  Only what stands
for no component at the two ends of that part is dropped.  `relativeText?` is that
spelling, and `parse_of_relativeText?` says that nothing is lost: the base and the
components of the spelling are the components of the path.

### Use

`relativeText?` is what the source shows after it has stripped a base, and
`parse_of_relativeText?` is what is known of it.  A caller that compares texts has the spelling;
one that compares places parses it.
-/

namespace AspRust.Foundation

/-- Pieces joined by a character that none of them holds are found again. -/
theorem splitWhen_intercalate {c : Char} {pieces : List (List Char)} (hne : pieces ≠ [])
    (hfree : ∀ piece ∈ pieces, c ∉ piece) :
    splitWhen (· = c) ([c].intercalate pieces) = pieces := by
  have hclean : ∀ piece ∈ pieces, ∀ d ∈ piece, decide (d = c) = false := by
    intro piece hpiece d hd
    exact decide_eq_false fun hdc => hfree piece hpiece (hdc ▸ hd)
  induction pieces with
  | nil => exact absurd rfl hne
  | cons piece rest ih =>
      have hpiece := hclean piece List.mem_cons_self
      cases rest with
      | nil =>
          rw [List.intercalate_singleton]
          exact splitWhen_of_notMem hpiece
      | cons second others =>
          have hrest := ih (by simp) (fun other hother => hfree other (List.mem_cons_of_mem _ hother))
            fun other hother => hclean other (List.mem_cons_of_mem _ hother)
          rw [List.intercalate_cons_cons, List.append_assoc, List.singleton_append,
            splitWhen_append_cons hpiece (by simp), hrest]

namespace Path

/-- A component that is read back from its text. -/
def IsWritten (component : Component) : Prop :=
  component? (componentText component).toList = some component ∧
    '/' ∉ (componentText component).toList

instance (component : Component) : Decidable (IsWritten component) :=
  inferInstanceAs (Decidable (_ ∧ _))

theorem toList_text (path : Path) :
    path.text.toList = ['/'].intercalate (path.map fun component =>
      (componentText component).toList) := by
  rw [text, String.toList_intercalate, List.map_map]
  rfl

/-- **The text of a path is read back.** -/
theorem parse_text {path : Path} (h : ∀ component ∈ path, IsWritten component) :
    parse path.text = path := by
  by_cases hne : path = []
  · subst hne
    rfl
  · have hpieces : splitWhen (· = '/') path.text.toList =
        path.map fun component => (componentText component).toList := by
      rw [toList_text]
      refine splitWhen_intercalate (by simpa using hne) ?_
      intro piece hpiece
      obtain ⟨component, hcomponent, rfl⟩ := List.mem_map.mp hpiece
      exact (h component hcomponent).2
    rw [parse, hpieces, List.filterMap_map]
    have hall : ∀ component ∈ path,
        (component? ∘ fun component => (componentText component).toList) component =
          some component := fun component hcomponent => (h component hcomponent).1
    rw [List.filterMap_congr hall, List.filterMap_some]

/-- The text of a path that is read back does not start with a slash. -/
theorem isAbsolute_text {path : Path} (h : ∀ component ∈ path, IsWritten component) :
    isAbsolute path.text = false := by
  cases path with
  | nil => decide
  | cons component rest =>
      obtain ⟨hread, hfree⟩ := h component List.mem_cons_self
      have htext := toList_text (component :: rest)
      cases hfirst : (componentText component).toList with
      | nil =>
          rw [hfirst] at hread
          simp [component?] at hread
      | cons first letters =>
          have hhead : (Path.text (component :: rest)).toList.head? = some first := by
            rw [htext]
            cases rest with
            | nil => simp [hfirst]
            | cons second more => simp [List.intercalate_cons_cons, hfirst]
          have hslash : first ≠ '/' := by
            intro hsame
            exact hfree (by rw [hfirst, hsame]; exact List.mem_cons_self)
          simpa [isAbsolute, hhead] using hslash

/-- A slash in front adds no component. -/
theorem parse_display (path : Path) : parse path.display = parse path.text := by
  have htext : path.display.toList = '/' :: path.text.toList := by
    simp [display]
  rw [parse, htext]
  show List.filterMap component? (splitWhen _ ([] ++ '/' :: path.text.toList)) = _
  rw [splitWhen_append_cons (by simp) (by simp)]
  rfl

theorem isAbsolute_display (path : Path) : isAbsolute path.display = true := by
  simp [isAbsolute, display]

/-! ## Adding to a text -/

/-- A path buffer after a text is pushed: an absolute text replaces it, and a slash is
written unless there is one, or nothing, in front. -/
def pushText (base text : String) : String :=
  if isAbsolute text then text
  else if base = "" || base.toList.getLast? = some '/' then base ++ text
  else base ++ "/" ++ text

/-- A path buffer after components are pushed one by one. -/
def pushTexts (base : String) (path : Path) : String :=
  path.foldl (fun text component => pushText text (componentText component)) base

/-! ## Stripping a base -/

/-- The pieces that follow a number of components. -/
def dropComponents : ℕ → List (List Char) → List (List Char)
  | 0, pieces => pieces
  | _ + 1, [] => []
  | count + 1, piece :: rest =>
      match component? piece with
      | none => dropComponents (count + 1) rest
      | some _ => dropComponents count rest

/-- Pieces without those at the two ends that stand for no component. -/
def trimPieces (pieces : List (List Char)) : List (List Char) :=
  (pieces.dropWhile fun piece => (component? piece).isNone).rdropWhile fun piece =>
    (component? piece).isNone

/-- The spelling of what follows a base in an absolute text. -/
def relativeText? (base : Path) (text : String) : Option String :=
  if isAbsolute text && base.isPrefixOf (parse text) then
    some (String.ofList (['/'].intercalate
      (trimPieces (dropComponents base.length (splitWhen (· = '/') text.toList)))))
  else none

theorem filterMap_dropComponents (count : ℕ) (pieces : List (List Char)) :
    (dropComponents count pieces).filterMap component? =
      (pieces.filterMap component?).drop count := by
  induction pieces generalizing count with
  | nil => cases count <;> rfl
  | cons piece rest ih =>
      cases count with
      | zero => rfl
      | succ count =>
          cases hpiece : component? piece with
          | none =>
              rw [dropComponents, hpiece, List.filterMap_cons_none hpiece]
              exact ih (count + 1)
          | some component =>
              rw [dropComponents, hpiece, List.filterMap_cons_some hpiece, List.drop_succ_cons]
              exact ih count

theorem mem_of_mem_dropComponents {count : ℕ} {pieces : List (List Char)} {piece : List Char}
    (h : piece ∈ dropComponents count pieces) : piece ∈ pieces := by
  induction pieces generalizing count with
  | nil => cases count <;> exact h
  | cons first rest ih =>
      cases count with
      | zero => exact h
      | succ count =>
          rw [dropComponents] at h
          split at h
          · exact List.mem_cons_of_mem _ (ih h)
          · exact List.mem_cons_of_mem _ (ih h)

/-- Pieces that stand for no component may be dropped in front. -/
theorem filterMap_dropWhile_isNone (pieces : List (List Char)) :
    (pieces.dropWhile fun piece => (component? piece).isNone).filterMap component? =
      pieces.filterMap component? := by
  induction pieces with
  | nil => rfl
  | cons piece rest ih =>
      rw [List.dropWhile_cons]
      cases hpiece : component? piece with
      | none => simpa [hpiece] using ih
      | some component => simp

theorem filterMap_trimPieces (pieces : List (List Char)) :
    (trimPieces pieces).filterMap component? = pieces.filterMap component? := by
  rw [trimPieces, List.rdropWhile, List.filterMap_reverse, filterMap_dropWhile_isNone,
    ← List.filterMap_reverse, List.reverse_reverse, filterMap_dropWhile_isNone]

theorem mem_of_mem_trimPieces {pieces : List (List Char)} {piece : List Char}
    (h : piece ∈ trimPieces pieces) : piece ∈ pieces := by
  have hfront := (List.rdropWhile_prefix _ _).subset h
  exact (List.dropWhile_suffix _).subset hfront

/-- The first piece left stands for a component. -/
theorem component?_of_trimPieces_eq_cons {pieces rest : List (List Char)} {piece : List Char}
    (h : trimPieces pieces = piece :: rest) : (component? piece).isNone = false := by
  obtain ⟨tail, htail⟩ := List.rdropWhile_prefix (fun piece => (component? piece).isNone)
    (pieces.dropWhile fun piece => (component? piece).isNone)
  rw [trimPieces] at h
  rw [h, List.cons_append] at htail
  have hhead := List.head?_dropWhile_not (fun piece => (component? piece).isNone) pieces
  rw [← htail, List.head?_cons] at hhead
  simpa using hhead

section Stripped

variable {base : Path} {text rest : String}

/-- The pieces of which a relative text is made. -/
theorem exists_pieces_of_relativeText? (h : relativeText? base text = some rest) :
    ∃ pieces : List (List Char), rest.toList = ['/'].intercalate pieces ∧
      (∀ piece ∈ pieces, '/' ∉ piece) ∧
      (∀ piece others, pieces = piece :: others → (component? piece).isNone = false) ∧
      base ++ pieces.filterMap component? = parse text := by
  unfold relativeText? at h
  split at h
  · next hbase =>
      rw [Bool.and_eq_true, List.isPrefixOf_iff_prefix] at hbase
      obtain ⟨after, hafter⟩ := hbase.2
      refine ⟨trimPieces (dropComponents base.length (splitWhen (· = '/') text.toList)),
        ?_, ?_, ?_, ?_⟩
      · rw [← Option.some.inj h, String.toList_ofList]
      · intro piece hpiece hslash
        have hmem := mem_of_mem_dropComponents (mem_of_mem_trimPieces hpiece)
        simpa using separator_notMem_of_mem_splitWhen hmem '/' hslash
      · intro piece others hpieces
        exact component?_of_trimPieces_eq_cons hpieces
      · rw [filterMap_trimPieces, filterMap_dropComponents]
        show base ++ (parse text).drop base.length = parse text
        rw [← hafter, List.drop_left]
  · cases h

/-- **A base and the spelling of what follows it make up the path.** -/
theorem parse_of_relativeText? (h : relativeText? base text = some rest) :
    parse text = base ++ parse rest := by
  obtain ⟨pieces, hrest, hfree, -, hparse⟩ := exists_pieces_of_relativeText? h
  have hpieces : parse rest = pieces.filterMap component? := by
    by_cases hne : pieces = []
    · subst hne
      rw [parse, hrest]
      rfl
    · rw [parse, hrest, splitWhen_intercalate hne hfree]
  rw [hpieces, hparse]

/-- What follows a base is relative. -/
theorem isAbsolute_of_relativeText? (h : relativeText? base text = some rest) :
    isAbsolute rest = false := by
  obtain ⟨pieces, hrest, hfree, hfront, -⟩ := exists_pieces_of_relativeText? h
  cases pieces with
  | nil => simp [isAbsolute, hrest]
  | cons piece others =>
      have hcomponent := hfront piece others rfl
      cases piece with
      | nil => simp [component?] at hcomponent
      | cons first letters =>
          have hhead : rest.toList.head? = some first := by
            rw [hrest]
            cases others with
            | nil => simp
            | cons second more => simp [List.intercalate_cons_cons]
          have hslash : first ≠ '/' := by
            intro hfirst
            exact hfree _ List.mem_cons_self (hfirst ▸ List.mem_cons_self)
          simpa [isAbsolute, hhead] using hslash

end Stripped

end Path

example : Path.relativeText? (Path.parse "/p") "/p//src/./a.rs/" = some "src/./a.rs" := by decide

end AspRust.Foundation
