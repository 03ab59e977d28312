import AspRust.Foundation.LexicalResolution
import AspRust.Foundation.PathText

/-!
# Paths as they are written

A path buffer holds the components that were pushed to it.  Pushing the root starts the
path anew, and the last component can be popped unless it is the root or there is none.

Where a path leads depends on the directory it is read from.  Without symbolic links a
directory is the list of names from the root down to it, and `place` reads a path from
one: `.` stays, `..` goes to the parent, which for the root is the root itself, and the
root goes there from anywhere.  Whether something exists at the place is not asked.
-/

namespace AspRust.Foundation

/-- A path as the components it is written with. -/
abbrev WrittenPath := List PathComponent

namespace WrittenPath

/-! ## The path buffer -/

/-- The path without its last component; a root has no parent, and the empty path none. -/
def parent? (path : WrittenPath) : Option WrittenPath :=
  match path.getLast? with
  | none => none
  | some .rootDir => none
  | some _ => some path.dropLast

/-- Remove the last component, and report whether there was a parent to go to. -/
def pop (path : WrittenPath) : Bool × WrittenPath :=
  match parent? path with
  | none => (false, path)
  | some parent => (true, parent)

/-- Add a component; an absolute one replaces the path. -/
def push (path : WrittenPath) (component : PathComponent) : WrittenPath :=
  if component = .rootDir then [.rootDir] else path ++ [component]

/-- The root, for an absolute path, and otherwise nothing. -/
def lead (absolute : Bool) : WrittenPath := if absolute then [.rootDir] else []

theorem pop_lead (absolute : Bool) : pop (lead absolute) = (false, lead absolute) := by
  cases absolute <;> rfl

theorem pop_concat_written (path : WrittenPath) (component : Component) :
    pop (path ++ [Path.written component]) = (true, path) := by
  cases component <;> simp [pop, parent?, Path.written]

/-- Popping what stands behind the lead: the last component, if there is one. -/
theorem pop_lead_append (absolute : Bool) (path : Path) :
    pop (lead absolute ++ path.map Path.written) =
      (decide (path ≠ []), lead absolute ++ path.dropLast.map Path.written) := by
  induction path using List.reverseRecOn with
  | nil => simpa using pop_lead absolute
  | append_singleton rest last ih =>
      rw [List.map_append, List.map_singleton, ← List.append_assoc, pop_concat_written]
      simp

/-! ## Where a path leads -/

/-- One component, read from a directory. -/
def placeStep (place : List String) : PathComponent → List String
  | .rootDir => []
  | .curDir => place
  | .parentDir => place.dropLast
  | .normal name => place ++ [name]

/-- The directory or file a path leads to, read from a directory. -/
def place (start : List String) (path : WrittenPath) : List String := path.foldl placeStep start

/-- From a directory, a path first takes back names of the directory, and then goes down
along its own. -/
theorem place_map_written (start : List String) (path : Path) :
    place start (path.map Path.written) =
      start.take (start.length - (Path.climb path).ups) ++ (Path.climb path).names := by
  have hclimb : place start (path.map Path.written) =
      (Path.climb (start.map .normal ++ path)).names := by
    induction path using List.reverseRecOn with
    | nil =>
        rw [List.append_nil, Path.climb_map_normal]
        rfl
    | append_singleton rest last ih =>
        rw [← List.append_assoc, Path.climb_concat, place, List.map_append, List.foldl_append]
        change placeStep (place start (rest.map Path.written)) (Path.written last) = _
        rw [ih]
        cases last with
        | normal name => rfl
        | parent =>
            by_cases hnames : (Path.climb (start.map .normal ++ rest)).names = []
            · simp [placeStep, Path.written, Climb.step, hnames]
            · simp [placeStep, Path.written, Climb.step, hnames]
  rw [hclimb, Path.climb_append, Path.climb_map_normal]

/-- An absolute path is read from the root, whatever the directory is. -/
theorem place_lead_append (start : List String) (absolute : Bool) (path : WrittenPath) :
    place start (lead absolute ++ path) = place (if absolute then [] else start) path := by
  cases absolute <;> rfl

theorem place_components (start : List String) (text : String) :
    place start (Path.components text) =
      place start (lead (Path.isAbsolute text) ++ (Path.parse text).map Path.written) := by
  rw [Path.components]
  cases Path.isAbsolute text with
  | true => rfl
  | false => cases Path.startsWithCurDir text <;> rfl

/-- Two numbers of steps up are told apart by a directory that is deep enough. -/
theorem take_sub_eq_iff {m n : ℕ} :
    (∀ start : List String, start.take (start.length - m) = start.take (start.length - n)) ↔
      m = n := by
  constructor
  · intro h
    have hlength := congrArg List.length (h (List.replicate (m + n) ""))
    simp only [List.length_take, List.length_replicate] at hlength
    omega
  · rintro rfl start
    rfl

/-- Two paths with the same names below the place they climb to, one of them as it is
written: they lead to the same place from everywhere exactly if they are absolute or climb
equally far. -/
theorem forall_place_eq_iff {text : String} {path : Path}
    (hnames : (Path.climb path).names = (Path.climb (Path.parse text)).names) :
    (∀ start, place start (lead (Path.isAbsolute text) ++ path.map Path.written) =
        place start (Path.components text)) ↔
      (Path.isAbsolute text = true ∨
        (Path.climb path).ups = (Path.climb (Path.parse text)).ups) := by
  simp only [place_components, place_lead_append, place_map_written, hnames,
    List.append_cancel_right_eq]
  cases Path.isAbsolute text with
  | true => simp
  | false => simpa using take_sub_eq_iff

end WrittenPath

end AspRust.Foundation
