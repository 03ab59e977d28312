import AspRust.Foundation.Text
import Mathlib.Data.String.Basic
import Mathlib.Order.WithBot

/-!
# Lexical paths

A path is its list of components: `Component.parent` for `..`, and a name for
everything else.  Empty components and `.` are dropped when text is split, so
two spellings that differ only there are the same path, as they are for a path
library that compares components.  An absolute path lists what follows the
root; a relative one lists what follows its base.

Paths are ordered component by component, and `..` sorts before every name;
this is the order in which a sorted set of paths is walked.

### Design notes

A path is the list of its components, as the standard library iterates over them.  Comparisons
of the source are comparisons of components, so nothing is lost by forgetting the text; where a
text is shown, `display` writes one.  Code that depends on the spelling uses `RelativeText`.
-/

namespace AspRust.Foundation

/-- One component of a path. -/
inductive Component where
  /-- The component `..`. -/
  | parent
  /-- An ordinary name. -/
  | normal (name : String)
deriving DecidableEq, Repr

namespace Component

/-- The position of a component in the order of components: `..` first, then
the names in byte order. -/
def rank : Component → WithBot String
  | .parent => ⊥
  | .normal name => ↑name

theorem rank_injective : Function.Injective rank := by
  intro a b h
  cases a <;> cases b <;> simp_all [rank]

instance : LinearOrder Component := LinearOrder.lift' rank rank_injective

end Component

/-- A path as its list of components. -/
abbrev Path := List Component

instance : LawfulBEq Path := inferInstance

namespace Path

/-- The component a piece of text between two separators stands for. -/
def component? (piece : List Char) : Option Component :=
  if piece = [] ∨ piece = ['.'] then none
  else if piece = ['.', '.'] then some .parent
  else some (.normal (String.ofList piece))

/-- The components of a text, whether it is absolute or not. -/
def parse (text : String) : Path :=
  (splitWhen (· = '/') text.toList).filterMap component?

/-- A text names an absolute path when it starts with the separator. -/
def isAbsolute (text : String) : Bool := text.toList.head? = some '/'

/-- The text of one component. -/
def componentText : Component → String
  | .parent => ".."
  | .normal name => name

/-- The text of a relative path. -/
def text (path : Path) : String := "/".intercalate (path.map componentText)

/-- The text of an absolute path. -/
def display (path : Path) : String := "/" ++ path.text

/-- Join a text to a base: an absolute text replaces the base. -/
def join (base : Path) (text : String) : Path :=
  if isAbsolute text then parse text else base ++ parse text

/-- Drop the last component; the empty path has no parent. -/
def parent? (path : Path) : Option Path :=
  if path = [] then none else some path.dropLast

/-- The name a path ends in, when it ends in one. -/
def fileName? (path : Path) : Option String :=
  match path.getLast? with
  | some (.normal name) => some name
  | _ => none

/-- What remains of a path after a leading part. -/
def stripPrefix? (base path : Path) : Option Path :=
  if base.isPrefixOf path then some (path.drop base.length) else none

theorem stripPrefix?_append (base rest : Path) :
    stripPrefix? base (base ++ rest) = some rest := by
  simp [stripPrefix?]

theorem stripPrefix?_eq_some_iff {base path rest : Path} :
    stripPrefix? base path = some rest ↔ path = base ++ rest := by
  constructor
  · intro h
    unfold stripPrefix? at h
    split at h
    · next hbegin =>
        obtain ⟨tail, rfl⟩ := List.isPrefixOf_iff_prefix.mp hbegin
        simpa using h
    · simp at h
  · rintro rfl
    exact stripPrefix?_append base rest

/-- The extension of a file name: what follows its last dot, unless that dot
starts the name. -/
def extensionOf? (name : String) : Option String :=
  match (splitWhen (· = '.') name.toList).reverse with
  | after :: before :: rest =>
      if rest = [] ∧ before = [] then none else some (String.ofList after)
  | _ => none

/-- The extension of the last name of a path. -/
def extension? (path : Path) : Option String := (fileName? path).bind extensionOf?

/-- A file name without its extension and the dot before it. -/
def stemOf (name : String) : String :=
  match (splitWhen (· = '.') name.toList).reverse with
  | _ :: before :: rest =>
      if rest = [] ∧ before = [] then name
      else String.ofList (List.intercalate ['.'] (rest.reverse ++ [before]))
  | _ => name

/-- The last name of a path without its extension. -/
def fileStem? (path : Path) : Option String := (fileName? path).map stemOf

/-- The stem of a name with one dot in it. -/
theorem stemOf_append {name : String} {extension : List Char} (hname : name.toList ≠ [])
    (hdot : '.' ∉ name.toList) (hextension : '.' ∉ extension) :
    stemOf (name ++ String.ofList ('.' :: extension)) = name := by
  have hfree : ∀ {text : List Char}, '.' ∉ text → ∀ c ∈ text, decide (c = '.') = false := by
    intro text htext c hc
    simpa using fun h : c = '.' => htext (h ▸ hc)
  have hsplit : splitWhen (· = '.') (name ++ String.ofList ('.' :: extension)).toList =
      [name.toList, extension] := by
    rw [String.toList_append, String.toList_ofList,
      splitWhen_append_cons (hfree hdot) (by decide), splitWhen_of_notMem (hfree hextension)]
  rw [stemOf, hsplit]
  simp [hname]

@[simp] theorem fileName?_concat (path : Path) (name : String) :
    fileName? (path ++ [.normal name]) = some name := by
  simp [fileName?]

end Path

example : Path.parse "src/./bin//main.rs" = [.normal "src", .normal "bin", .normal "main.rs"] := by
  decide

example : Path.extensionOf? ".rs" = none ∧ Path.extensionOf? "a.b.RS" = some "RS" := by decide

end AspRust.Foundation
