import AspRust.Foundation.PathText
import AspRust.Foundation.RelativeText
import Mathlib.Data.Prod.Lex

/-!
# Paths of the operating system

A path buffer is absolute, starts with `.`, or does neither, and then has components that can
be written.  `OsPath` carries that as a field, so every path has a text, and the text is read
back (`ofText_text`).

Paths are compared, ordered and stripped by their components.  The empty path is a beginning
of every path.

### What is load-bearing

The lead of a path, what it starts with, is kept apart from the components behind it.  A
component `.` can only stand at the very beginning, as the standard library has it: everywhere
else it is dropped when a text is read.  So `./src` and `src` are two paths, and `src/./a` and
`src/a` are one.
-/

namespace AspRust.Foundation

/-- The place of a component in the order of components. -/
def PathComponent.rank : PathComponent → ℕ ×ₗ String
  | .rootDir => toLex (0, "")
  | .curDir => toLex (1, "")
  | .parentDir => toLex (2, "")
  | .normal name => toLex (3, name)

theorem PathComponent.rank_injective : Function.Injective PathComponent.rank := by
  intro first second h
  have hpair := Prod.mk.inj (toLex.injective h)
  cases first <;> cases second <;> simp_all [rank]

instance PathComponent.linearOrder : LinearOrder PathComponent :=
  LinearOrder.lift' PathComponent.rank PathComponent.rank_injective

/-- How a path starts. -/
inductive PathLead where
  | root
  | current
  | plain
deriving DecidableEq, Repr

def PathLead.components : PathLead → List PathComponent
  | .root => [.rootDir]
  | .current => [.curDir]
  | .plain => []

/-- A path that can be written. -/
@[ext]
structure OsPath where
  lead : PathLead
  body : Path
  written : ∀ component ∈ body, Path.IsWritten component

namespace OsPath

/-- The components by which paths are compared. -/
def components (path : OsPath) : List PathComponent :=
  path.lead.components ++ path.body.map Path.written

/-- Only the lead of a path gives the root or the current directory as a component. -/
theorem ne_of_map_written_eq_cons {body : Path} {component : PathComponent}
    {rest : List PathComponent} (h : body.map Path.written = component :: rest) :
    component ≠ .rootDir ∧ component ≠ .curDir := by
  obtain ⟨first, others, -, rfl, -⟩ := List.map_eq_cons_iff.mp h
  cases first <;> exact ⟨by simp [Path.written], by simp [Path.written]⟩

theorem components_injective : Function.Injective components := by
  have hmap : Function.Injective (List.map Path.written) :=
    List.map_injective_iff.mpr Path.written_injective
  intro first second h
  obtain ⟨firstLead, firstBody, hfirst⟩ := first
  obtain ⟨secondLead, secondBody, hsecond⟩ := second
  unfold components at h
  cases firstLead <;> cases secondLead <;> simp only [PathLead.components, List.nil_append,
    List.cons_append, List.cons.injEq, true_and, reduceCtorEq, false_and] at h
  case root.root => exact OsPath.ext rfl (hmap h)
  case current.current => exact OsPath.ext rfl (hmap h)
  case plain.plain => exact OsPath.ext rfl (hmap h)
  case root.plain => exact absurd rfl (ne_of_map_written_eq_cons h.symm).1
  case current.plain => exact absurd rfl (ne_of_map_written_eq_cons h.symm).2
  case plain.root => exact absurd rfl (ne_of_map_written_eq_cons h).1
  case plain.current => exact absurd rfl (ne_of_map_written_eq_cons h).2

instance linearOrder : LinearOrder OsPath := LinearOrder.lift' components components_injective

def isAbsolute (path : OsPath) : Bool := path.lead = .root

/-- What remains of a path after a leading part. -/
def stripPrefix? (base path : OsPath) : Option OsPath :=
  if base.lead = path.lead ∧ base.body <+: path.body then
    some ⟨.plain, path.body.drop base.body.length, fun component hcomponent =>
      path.written component (List.mem_of_mem_drop hcomponent)⟩
  else if base.lead = .plain ∧ base.body = [] then some path
  else none

/-- A path is stripped exactly of what it begins with. -/
theorem stripPrefix?_eq_some_iff {base path rest : OsPath} :
    stripPrefix? base path = some rest ↔
      path.components = base.components ++ rest.components := by
  have hsound : ∀ {found}, stripPrefix? base path = some found →
      path.components = base.components ++ found.components := by
    intro found h
    unfold stripPrefix? at h
    split at h
    · next hprefix =>
        obtain ⟨hlead, tail, htail⟩ := hprefix
        obtain rfl := Option.some.inj h
        simp only [components, PathLead.components, List.nil_append, ← htail, List.drop_left,
          List.map_append, hlead, List.append_assoc]
    · split at h
      · next hempty =>
          obtain rfl := Option.some.inj h
          simp [components, hempty.1, hempty.2, PathLead.components]
      · cases h
  refine ⟨hsound, fun h => ?_⟩
  have hfound : ∃ found, stripPrefix? base path = some found := by
    unfold stripPrefix?
    by_cases hlead : base.lead = path.lead
    · have hbody : base.body <+: path.body := by
        rw [components, components, hlead, List.append_assoc] at h
        rw [← List.prefix_map_iff_of_injective Path.written_injective]
        exact ⟨_, (List.append_cancel_left h).symm⟩
      exact ⟨_, if_pos ⟨hlead, hbody⟩⟩
    · have hempty : base.lead = .plain ∧ base.body = [] := by
        obtain ⟨lead, body, hwritten⟩ := base
        obtain ⟨pathLead, pathBody, hpath⟩ := path
        unfold components at h
        cases lead <;> cases pathLead <;> simp only [PathLead.components, List.nil_append,
          List.cons_append, List.cons.injEq, true_and, reduceCtorEq, false_and,
          not_true_eq_false] at h hlead
        case root.plain => exact absurd rfl (ne_of_map_written_eq_cons h).1
        case current.plain => exact absurd rfl (ne_of_map_written_eq_cons h).2
        all_goals
          cases body with
          | nil => exact ⟨rfl, rfl⟩
          | cons first others => cases first <;> simp [Path.written] at h
      exact ⟨_, by rw [if_neg fun hprefix => hlead hprefix.1, if_pos hempty]⟩
  obtain ⟨found, hfound⟩ := hfound
  rw [hfound, components_injective (List.append_cancel_left ((hsound hfound).symm.trans h))]

/-! ## Texts -/

theorem isWritten_of_mem_parse {text : String} {component : Component}
    (h : component ∈ Path.parse text) : Path.IsWritten component := by
  cases component with
  | parent => decide
  | normal name => exact Path.isName_of_mem_parse h

/-- The path that a text names. -/
def ofText (text : String) : OsPath where
  lead :=
    if Path.isAbsolute text then .root
    else if Path.startsWithCurDir text then .current else .plain
  body := Path.parse text
  written := fun _ => isWritten_of_mem_parse

/-- The absolute path with some components. -/
def rooted (path : Path) : OsPath := ofText path.display

/-- A text of the path. -/
def text (path : OsPath) : String :=
  match path.lead with
  | .root => path.body.display
  | .current => "./" ++ path.body.text
  | .plain => path.body.text

/-- Components that can be written do not start with the component `.`. -/
theorem startsWithCurDir_text {body : Path} (h : ∀ component ∈ body, Path.IsWritten component) :
    Path.startsWithCurDir body.text = false := by
  cases body with
  | nil => decide
  | cons first rest =>
      have hpieces : splitWhen (· = '/') (Path.text (first :: rest)).toList =
          (first :: rest).map fun component => (Path.componentText component).toList := by
        rw [Path.toList_text]
        refine splitWhen_intercalate (by simp) ?_
        intro piece hpiece
        obtain ⟨component, hcomponent, rfl⟩ := List.mem_map.mp hpiece
        exact (h component hcomponent).2
      rw [Path.startsWithCurDir, hpieces, List.map_cons, List.head?_cons,
        Bool.and_eq_false_iff]
      refine Or.inr (decide_eq_false fun hdot => ?_)
      have hread := (h first List.mem_cons_self).1
      rw [Option.some.inj hdot] at hread
      cases hread

theorem parse_current (body : Path) : Path.parse ("./" ++ body.text) = Path.parse body.text := by
  have htext : ("./" ++ body.text).toList = ['.'] ++ '/' :: body.text.toList := by
    rw [String.toList_append]
    rfl
  rw [Path.parse, htext, splitWhen_append_cons (by simp) (by simp)]
  rfl

theorem startsWithCurDir_current (body : Path) :
    Path.isAbsolute ("./" ++ body.text) = false ∧
      Path.startsWithCurDir ("./" ++ body.text) = true := by
  have htext : ("./" ++ body.text).toList = ['.'] ++ '/' :: body.text.toList := by
    rw [String.toList_append]
    rfl
  have habsolute : Path.isAbsolute ("./" ++ body.text) = false := by
    rw [Path.isAbsolute, htext]
    rfl
  refine ⟨habsolute, ?_⟩
  rw [Path.startsWithCurDir, habsolute, htext, splitWhen_append_cons (by simp) (by simp)]
  rfl

/-- **The text of a path is read back.** -/
theorem ofText_text (path : OsPath) : ofText path.text = path := by
  obtain ⟨lead, body, hbody⟩ := path
  unfold text
  cases lead with
  | root =>
      refine OsPath.ext ?_ ?_
      · exact if_pos (Path.isAbsolute_display body)
      · exact (Path.parse_display body).trans (Path.parse_text hbody)
  | current =>
      obtain ⟨habsolute, hcurrent⟩ := startsWithCurDir_current body
      refine OsPath.ext ?_ ?_
      · rw [ofText, habsolute, hcurrent]
        rfl
      · exact (parse_current body).trans (Path.parse_text hbody)
  | plain =>
      refine OsPath.ext ?_ ?_
      · rw [ofText, Path.isAbsolute_text hbody, startsWithCurDir_text hbody]
        rfl
      · exact Path.parse_text hbody

end OsPath

end AspRust.Foundation
