import AspRust.Foundation.Path

/-!
# Spellings of a path

A path library compares two texts by their components.  A leading `.` is a
component of its own there, while one further on is dropped, so `./a` and `a` are
different paths although they name one place.  `components` lists what is compared,
and `normalNames` what is left when only ordinary names count.

Joining ordinary names by slashes loses nothing: `parse_joinNames` reads them back.
-/

namespace AspRust.Foundation

/-- A component of a path as it is written. -/
inductive PathComponent where
  | rootDir
  | curDir
  | parentDir
  | normal (name : String)
deriving DecidableEq, Repr

namespace Path

/-- A relative text that starts with the component `.`. -/
def startsWithCurDir (text : String) : Bool :=
  !isAbsolute text && (splitWhen (· = '/') text.toList).head? = some ['.']

/-- A component of the path as it is written. -/
def written : Component → PathComponent
  | .parent => .parentDir
  | .normal name => .normal name

/-- The components by which a text is compared with others. -/
def components (text : String) : List PathComponent :=
  (if isAbsolute text then [.rootDir] else if startsWithCurDir text then [.curDir] else []) ++
    (parse text).map written

/-- The ordinary names of a path. -/
def normalNames (path : Path) : List String :=
  path.filterMap fun component =>
    match component with
    | .normal name => some name
    | .parent => none

/-- Names joined by slashes. -/
def joinNames (names : List String) : String := "/".intercalate names

theorem written_injective : Function.Injective written := by
  intro first second h
  cases first <;> cases second <;> simp_all [written]

/-! ## Names of a parsed path -/

/-- A text that is one component, and an ordinary one. -/
def IsName (name : String) : Prop :=
  component? name.toList = some (.normal name) ∧ '/' ∉ name.toList

/-- The pieces of a text have no separator in them. -/
theorem separator_notMem_of_mem_splitWhen {separator : Char → Bool} {text piece : List Char}
    (h : piece ∈ splitWhen separator text) : ∀ c ∈ piece, separator c = false := by
  induction text generalizing piece with
  | nil =>
      rw [splitWhen, List.mem_singleton] at h
      simp [h]
  | cons head rest ih =>
      rw [splitWhen] at h
      split at h
      · rcases List.mem_cons.mp h with rfl | h
        · simp
        · exact ih h
      · next hhead =>
          cases hpieces : splitWhen separator rest with
          | nil =>
              rw [hpieces] at h
              obtain rfl := List.mem_singleton.mp h
              simpa using hhead
          | cons first others =>
              rw [hpieces] at h ih
              rcases List.mem_cons.mp h with rfl | h
              · intro c hc
                rcases List.mem_cons.mp hc with rfl | hc
                · simpa using hhead
                · exact ih List.mem_cons_self c hc
              · exact ih (List.mem_cons_of_mem _ h)

theorem isName_of_mem_parse {text name : String} (h : Component.normal name ∈ parse text) :
    IsName name := by
  obtain ⟨piece, hpiece, hname⟩ := List.mem_filterMap.mp h
  have hfree := separator_notMem_of_mem_splitWhen hpiece
  have hsame : name.toList = piece := by
    unfold component? at hname
    split at hname
    · cases hname
    · split at hname
      · cases hname
      · simp only [Option.some.injEq, Component.normal.injEq] at hname
        rw [← hname, String.toList_ofList]
  refine ⟨by rw [hsame, hname], fun hmem => ?_⟩
  rw [hsame] at hmem
  simpa using hfree '/' hmem

theorem isName_of_mem_normalNames {text name : String} (h : name ∈ normalNames (parse text)) :
    IsName name := by
  obtain ⟨component, hmem, hname⟩ := List.mem_filterMap.mp h
  cases component with
  | parent => cases hname
  | normal other =>
      cases hname
      exact isName_of_mem_parse hmem

/-- **Joined names are read back.** -/
theorem parse_joinNames {names : List String} (h : ∀ name ∈ names, IsName name) :
    parse (joinNames names) = names.map .normal := by
  have hfree : ∀ name ∈ names, ∀ c ∈ name.toList, decide (c = '/') = false := by
    intro name hname c hc
    refine decide_eq_false fun hslash => ?_
    exact (h name hname).2 (hslash ▸ hc)
  induction names with
  | nil => rfl
  | cons name rest ih =>
      have hname := (h name List.mem_cons_self).1
      have hclean := hfree name List.mem_cons_self
      cases rest with
      | nil =>
          rw [joinNames, String.intercalate_singleton, parse, splitWhen_of_notMem hclean]
          simp [hname]
      | cons second others =>
          have hrest := ih (fun other hother => h other (List.mem_cons_of_mem _ hother))
            fun other hother => hfree other (List.mem_cons_of_mem _ hother)
          have htext : (joinNames (name :: second :: others)).toList =
              name.toList ++ '/' :: (joinNames (second :: others)).toList := by
            simp [joinNames, String.intercalate_cons_cons]
          rw [parse, htext, splitWhen_append_cons hclean (by simp), List.filterMap_cons, hname]
          rw [parse] at hrest
          simp [hrest]

/-- A path of ordinary names is determined by the join of them. -/
theorem joinNames_normalNames_inj {first second : String}
    (hfirst : Component.parent ∉ parse first) (hsecond : Component.parent ∉ parse second) :
    joinNames (normalNames (parse first)) = joinNames (normalNames (parse second)) ↔
      parse first = parse second := by
  have hnames : ∀ {path : Path}, Component.parent ∉ path →
      (normalNames path).map Component.normal = path := by
    intro path hpath
    induction path with
    | nil => rfl
    | cons component rest ih =>
        cases component with
        | parent => exact absurd List.mem_cons_self hpath
        | normal name =>
            have hrest := ih fun hmem => hpath (List.mem_cons_of_mem _ hmem)
            simp only [normalNames, List.filterMap_cons, List.map_cons, List.cons.injEq, true_and]
            exact hrest
  constructor
  · intro h
    have hparse := congrArg parse h
    rw [parse_joinNames fun _ => isName_of_mem_normalNames,
      parse_joinNames fun _ => isName_of_mem_normalNames, hnames hfirst, hnames hsecond] at hparse
    exact hparse
  · intro h
    rw [h]

/-- Relative texts are compared by whether they start with `.`, and by what is
parsed. -/
theorem components_eq_iff {first second : String} (hfirst : isAbsolute first = false)
    (hsecond : isAbsolute second = false) :
    components first = components second ↔
      startsWithCurDir first = startsWithCurDir second ∧ parse first = parse second := by
  have hmap : ∀ {a b : Path}, a.map written = b.map written ↔ a = b :=
    (List.map_injective_iff.mpr written_injective).eq_iff
  have hcur : ∀ a b : Path, PathComponent.curDir :: a.map written ≠ b.map written := by
    intro a b h
    cases b with
    | nil => cases h
    | cons component rest => cases component <;> simp [written] at h
  simp only [components, hfirst, hsecond, Bool.false_eq_true, if_false]
  cases startsWithCurDir first <;> cases startsWithCurDir second
  · simp [hmap]
  · simp [(hcur _ _).symm]
  · simp [hcur]
  · simp [hmap]

end Path

example : Path.components "./a//b/./c" =
    [.curDir, .normal "a", .normal "b", .normal "c"] := by decide

end AspRust.Foundation
