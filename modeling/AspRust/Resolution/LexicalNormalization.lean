import AspRust.Foundation.WrittenPath
import AspRust.Parser.ModuleReachability
import AspRust.Resolution.Containment

/-!
# Three lexical normalizations

The repository normalizes paths without asking the file system in three places, and each
has its own copy of the loop.  All of them drop `.` and let `..` pop the component before
it.  They differ where there is nothing to pop: `normalize_lexical_path` and
`normalize_relative_path` keep the `..` then, `normalize_rust_path` drops it, and
`normalize_relative_path`, which is for relative paths, also drops a root.

A `..` that was kept is popped by the next one, so that `../..` becomes the empty path.
Hence a path that climbs above its start twice no longer leads where it did, and for
`normalize_rust_path` one that climbs once.  `normalization_correct_iff` says that this is
all that goes wrong: an absolute path keeps its place, and so does every path that climbs
no further than that.

The other modules use these functions on what stands behind the root or the start of a
path; `normalizeLexicalPath_lead`, `normalizeRustPath_lead` and
`normalizeRelativePath_lead` say that this is what they do there.

### What is load-bearing

`climb` is the reading of a path that the three loops are compared with: it keeps how far a
path climbs as a number, so nothing is lost.  The loops keep it as components, and forget it
when a component is popped that was itself a `..`.
-/

namespace AspRust.Normalization

open AspRust.Foundation

/-! ## The three loops -/

/-- Pop a component, or keep the `..` if there is none to pop. -/
def popOrKeep (normalized : WrittenPath) : WrittenPath :=
  let popped := normalized.pop
  if popped.1 then popped.2 else normalized.push .parentDir

def normalizeLexicalPath (path : WrittenPath) : WrittenPath :=
  path.foldl (fun normalized component =>
    match component with
    | .curDir => normalized
    | .parentDir => popOrKeep normalized
    | other => normalized.push other) []

def normalizeRustPath (path : WrittenPath) : WrittenPath :=
  path.foldl (fun normalized component =>
    match component with
    | .curDir => normalized
    | .parentDir => normalized.pop.2
    | other => normalized.push other) []

def normalizeRelativePath (path : WrittenPath) : WrittenPath :=
  path.foldl (fun normalized component =>
    match component with
    | .curDir | .rootDir => normalized
    | .parentDir => popOrKeep normalized
    | .normal name => normalized.push (.normal name)) []

/-! ## What they do behind the root or the start -/

open WrittenPath

theorem popOrKeep_lead (absolute : Bool) (path : Path) :
    popOrKeep (lead absolute ++ path.map Path.written) =
      lead absolute ++ (if path = [] then [.parent] else path.dropLast).map Path.written := by
  rw [popOrKeep, pop_lead_append]
  by_cases hpath : path = []
  · subst hpath
    simp [push, Path.written]
  · simp [hpath]

/-- Two loops agree behind a lead when their steps do. -/
theorem foldl_lead {absolute : Bool} {step : WrittenPath → PathComponent → WrittenPath}
    {pathStep : Path → Component → Path}
    (hstep : ∀ (path : Path) (component : Component),
      step (lead absolute ++ path.map Path.written) (Path.written component) =
        lead absolute ++ (pathStep path component).map Path.written) (path before : Path) :
    (path.map Path.written).foldl step (lead absolute ++ before.map Path.written) =
      lead absolute ++ (path.foldl pathStep before).map Path.written := by
  induction path generalizing before with
  | nil => rfl
  | cons component rest ih =>
      rw [List.map_cons, List.foldl_cons, List.foldl_cons, hstep, ih]

theorem normalizeLexicalPath_lead (absolute : Bool) (path : Path) :
    normalizeLexicalPath (lead absolute ++ path.map Path.written) =
      lead absolute ++ (Discovery.normalizeLexicalPath path).map Path.written := by
  have hstart : normalizeLexicalPath (lead absolute) = lead absolute ++ [].map Path.written := by
    cases absolute <;> rfl
  rw [normalizeLexicalPath, List.foldl_append, ← normalizeLexicalPath, hstart]
  refine foldl_lead (fun before component => ?_) path []
  cases component with
  | parent => exact popOrKeep_lead absolute before
  | normal name => simp [push, Path.written]

theorem normalizeRustPath_lead (absolute : Bool) (path : Path) :
    normalizeRustPath (lead absolute ++ path.map Path.written) =
      lead absolute ++ (Parser.normalizeRustPath path).map Path.written := by
  have hstart : normalizeRustPath (lead absolute) = lead absolute ++ [].map Path.written := by
    cases absolute <;> rfl
  rw [normalizeRustPath, List.foldl_append, ← normalizeRustPath, hstart]
  refine foldl_lead (fun before component => ?_) path []
  cases component with
  | parent => exact congrArg Prod.snd (pop_lead_append absolute before)
  | normal name => simp [push, Path.written]

/-- A root in front is dropped, and what follows is normalized as a relative path. -/
theorem normalizeRelativePath_lead (absolute : Bool) (path : Path) :
    normalizeRelativePath (lead absolute ++ path.map Path.written) =
      (Resolution.normalizeRelativePath path).map Path.written := by
  have hstart : normalizeRelativePath (lead absolute) = lead false ++ [].map Path.written := by
    cases absolute <;> rfl
  rw [normalizeRelativePath, List.foldl_append, ← normalizeRelativePath, hstart]
  refine foldl_lead (fun before component => ?_) path []
  cases component with
  | parent => exact popOrKeep_lead false before
  | normal name => simp [push, Path.written]

/-- A `.` in front of a relative path changes nothing. -/
theorem normalize_components (text : String) :
    normalizeLexicalPath (Path.components text) =
        normalizeLexicalPath (lead (Path.isAbsolute text) ++ (Path.parse text).map Path.written) ∧
      normalizeRustPath (Path.components text) =
        normalizeRustPath (lead (Path.isAbsolute text) ++ (Path.parse text).map Path.written) ∧
      normalizeRelativePath (Path.components text) =
        normalizeRelativePath
          (lead (Path.isAbsolute text) ++ (Path.parse text).map Path.written) := by
  rw [Path.components]
  cases Path.isAbsolute text with
  | true => exact ⟨rfl, rfl, rfl⟩
  | false => cases Path.startsWithCurDir text <;> exact ⟨rfl, rfl, rfl⟩

/-! ## Places and repetition -/

/-- A normalization keeps the place of a path: from every directory, the result leads
where the path does. -/
def KeepsPlace (normalize : WrittenPath → WrittenPath) (path : WrittenPath) : Prop :=
  ∀ start, place start (normalize path) = place start path

/-- A second normalization changes nothing more. -/
def Settles (normalize : WrittenPath → WrittenPath) (path : WrittenPath) : Prop :=
  normalize (normalize path) = normalize path

theorem settles_normalizeLexicalPath (text : String) :
    Settles normalizeLexicalPath (Path.components text) := by
  unfold Settles
  rw [(normalize_components text).1, normalizeLexicalPath_lead, normalizeLexicalPath_lead,
    Discovery.normalizeLexicalPath_idem]

theorem settles_normalizeRustPath (text : String) :
    Settles normalizeRustPath (Path.components text) := by
  unfold Settles
  rw [(normalize_components text).2.1, normalizeRustPath_lead, normalizeRustPath_lead]
  have hnamed : Parser.leadsTo (Parser.leadsTo (Path.parse text)) =
      Parser.leadsTo (Path.parse text) := Parser.leadsTo_map_normal _
  simp only [Parser.normalizeRustPath_eq_leadsTo, hnamed]

theorem settles_normalizeRelativePath (text : String) :
    Settles normalizeRelativePath (Path.components text) := by
  unfold Settles
  rw [(normalize_components text).2.2, normalizeRelativePath_lead]
  have hagain := normalizeRelativePath_lead false
    (Resolution.normalizeRelativePath (Path.parse text))
  rw [show lead false = [] from rfl, List.nil_append] at hagain
  rw [hagain, Resolution.normalized_normalizeRelativePath]

theorem keepsPlace_normalizeLexicalPath_iff (text : String) :
    KeepsPlace normalizeLexicalPath (Path.components text) ↔
      (Path.isAbsolute text = true ∨ (Path.climb (Path.parse text)).ups ≤ 1) := by
  have hclimb := Resolution.climb_normalizeRelativePath (Path.parse text)
  rw [Resolution.normalizeRelativePath] at hclimb
  unfold KeepsPlace
  rw [(normalize_components text).1, normalizeLexicalPath_lead,
    forall_place_eq_iff (by rw [hclimb]), hclimb]
  refine or_congr_right ?_
  show (Path.climb (Path.parse text)).ups % 2 = (Path.climb (Path.parse text)).ups ↔ _
  omega

theorem keepsPlace_normalizeRustPath_iff (text : String) :
    KeepsPlace normalizeRustPath (Path.components text) ↔
      (Path.isAbsolute text = true ∨ (Path.climb (Path.parse text)).ups = 0) := by
  have hclimb : Path.climb (Parser.normalizeRustPath (Path.parse text)) =
      ⟨0, (Path.climb (Path.parse text)).names⟩ := by
    rw [Parser.normalizeRustPath_eq_leadsTo, Parser.leadsTo, Path.climb_map_normal]
  unfold KeepsPlace
  rw [(normalize_components text).2.1, normalizeRustPath_lead,
    forall_place_eq_iff (by rw [hclimb]), hclimb]
  exact or_congr_right eq_comm

theorem keepsPlace_normalizeRelativePath_iff {text : String}
    (hrelative : Path.isAbsolute text = false) :
    KeepsPlace normalizeRelativePath (Path.components text) ↔
      (Path.climb (Path.parse text)).ups ≤ 1 := by
  -- without a root to drop, this is the loop of `normalize_lexical_path`
  have hsame : normalizeRelativePath (Path.components text) =
      normalizeLexicalPath (Path.components text) := by
    rw [(normalize_components text).2.2, (normalize_components text).1, normalizeRelativePath_lead,
      normalizeLexicalPath_lead, hrelative]
    rfl
  have hlexical := keepsPlace_normalizeLexicalPath_iff text
  unfold KeepsPlace at hlexical ⊢
  rw [hsame, hlexical, hrelative]
  simp

/-- **When normalization keeps the place of a path.**  An absolute path keeps it, and a
relative one does exactly if it does not climb too far above its start: not at all for
`normalize_rust_path`, and at most once for the two others.  A second normalization
never changes anything.

The place is where the path leads from a directory, with names taken as directories and
no links.  So it is the same from every directory, or it differs from some. -/
theorem normalization_correct_iff (text : String) :
    (KeepsPlace normalizeLexicalPath (Path.components text) ∧
          Settles normalizeLexicalPath (Path.components text) ↔
        Path.isAbsolute text = true ∨ (Path.climb (Path.parse text)).ups ≤ 1) ∧
      (KeepsPlace normalizeRustPath (Path.components text) ∧
          Settles normalizeRustPath (Path.components text) ↔
        Path.isAbsolute text = true ∨ (Path.climb (Path.parse text)).ups = 0) ∧
      (Path.isAbsolute text = false →
        (KeepsPlace normalizeRelativePath (Path.components text) ∧
            Settles normalizeRelativePath (Path.components text) ↔
          (Path.climb (Path.parse text)).ups ≤ 1)) := by
  refine ⟨?_, ?_, fun hrelative => ?_⟩
  · rw [keepsPlace_normalizeLexicalPath_iff]
    exact and_iff_left (settles_normalizeLexicalPath text)
  · rw [keepsPlace_normalizeRustPath_iff]
    exact and_iff_left (settles_normalizeRustPath text)
  · rw [keepsPlace_normalizeRelativePath_iff hrelative]
    exact and_iff_left (settles_normalizeRelativePath text)

/-- One step above the start is kept. -/
theorem sibling_keeps_place :
    Path.isAbsolute "./a/../../b" = false ∧
      KeepsPlace normalizeRelativePath (Path.components "./a/../../b") ∧
      Settles normalizeRelativePath (Path.components "./a/../../b") :=
  ⟨by decide, ((normalization_correct_iff "./a/../../b").2.2 (by decide)).mpr (by decide)⟩

/-- From `/a/b`, the path `../..` leads to the root, and what two of the normalizations
make of it leads to `/a/b`.  The third one does the same to `..`. -/
theorem twice_above_start_lost :
    place ["a", "b"] (Path.components "../..") = [] ∧
      place ["a", "b"] (normalizeLexicalPath (Path.components "../..")) = ["a", "b"] ∧
      place ["a", "b"] (normalizeRelativePath (Path.components "../..")) = ["a", "b"] ∧
      place ["a", "b"] (Path.components "..") = ["a"] ∧
      place ["a", "b"] (normalizeRustPath (Path.components "..")) = ["a", "b"] := by
  decide

end AspRust.Normalization
