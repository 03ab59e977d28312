import AspRust.Foundation.Json

/-!
# The pieces of a JSON text

The compact text of a value is a sequence of pieces: marks, which are punctuation, literals and
numbers, and the literals of keys and of string values.  A change of the string values of a
JSON value changes only pieces of the last kind (`pieces_mapStrings`).

### Why pieces

A textual replacement knows nothing of values.  Cut into pieces, the text shows where values
begin and end, and a change of a value is a change of one piece; what a replacement does to the
text can then be compared piece by piece.
-/

namespace AspRust.Foundation

namespace Json

/-- A part of a JSON text. -/
inductive Piece where
  | mark (text : List Char)
  | key (name : String)
  | value (content : String)
deriving DecidableEq, Repr

namespace Piece

def text : Piece → List Char
  | mark text => text
  | key name => stringText name
  | value content => stringText content

/-- Change the content of a string value. -/
def mapValue (f : String → String) : Piece → Piece
  | value content => value (f content)
  | mark text => mark text
  | key name => key name

end Piece

mutual

/-- The pieces of a value, in the order of its text. -/
def pieces : Json → List Piece
  | .null => [.mark ['n', 'u', 'l', 'l']]
  | .bool true => [.mark ['t', 'r', 'u', 'e']]
  | .bool false => [.mark ['f', 'a', 'l', 's', 'e']]
  | .number value => [.mark (Nat.toDigits 10 value)]
  | .string value => [.value value]
  | .array elements => .mark ['['] :: ((elementsPieces elements).tail ++ [.mark [']']])
  | .object members => .mark ['\x7b'] :: ((membersPieces members).tail ++ [.mark ['\x7d']])

/-- The pieces of the elements of an array, each after a comma. -/
def elementsPieces : List Json → List Piece
  | [] => []
  | element :: rest => .mark [','] :: (pieces element ++ elementsPieces rest)

/-- The pieces of the members of an object, each after a comma. -/
def membersPieces : List (String × Json) → List Piece
  | [] => []
  | (key, value) :: rest =>
      .mark [','] :: .key key :: .mark [':'] :: (pieces value ++ membersPieces rest)

end

mutual

/-- Change every string value, and nothing else. -/
def mapStrings (f : String → String) : Json → Json
  | .null => .null
  | .bool value => .bool value
  | .number value => .number value
  | .string value => .string (f value)
  | .array elements => .array (mapElements f elements)
  | .object members => .object (mapMembers f members)

def mapElements (f : String → String) : List Json → List Json
  | [] => []
  | element :: rest => mapStrings f element :: mapElements f rest

def mapMembers (f : String → String) : List (String × Json) → List (String × Json)
  | [] => []
  | (key, value) :: rest => (key, mapStrings f value) :: mapMembers f rest

end

/-- The text of some pieces. -/
def piecesText (pieces : List Piece) : List Char := pieces.flatMap Piece.text

@[simp]
theorem piecesText_nil : piecesText [] = [] := rfl

@[simp]
theorem piecesText_cons (piece : Piece) (rest : List Piece) :
    piecesText (piece :: rest) = piece.text ++ piecesText rest := List.flatMap_cons

@[simp]
theorem piecesText_append (first second : List Piece) :
    piecesText (first ++ second) = piecesText first ++ piecesText second := List.flatMap_append

/-- A comma at the front is dropped from the pieces as it is from the text. -/
theorem tail_piecesText {pieces : List Piece}
    (h : pieces = [] ∨ ∃ rest, pieces = .mark [','] :: rest) :
    piecesText pieces.tail = (piecesText pieces).tail := by
  rcases h with rfl | ⟨rest, rfl⟩
  · rfl
  · rfl

theorem elementsPieces_comma (elements : List Json) :
    elementsPieces elements = [] ∨ ∃ rest, elementsPieces elements = .mark [','] :: rest := by
  cases elements with
  | nil => exact Or.inl (by rw [elementsPieces])
  | cons element rest => exact Or.inr ⟨_, by rw [elementsPieces]⟩

theorem membersPieces_comma (members : List (String × Json)) :
    membersPieces members = [] ∨ ∃ rest, membersPieces members = .mark [','] :: rest := by
  cases members with
  | nil => exact Or.inl (by rw [membersPieces])
  | cons member rest => exact Or.inr ⟨_, by rw [membersPieces]⟩

mutual

/-- **The text of a value is that of its pieces.** -/
theorem text_eq_piecesText : ∀ value : Json, value.text = piecesText value.pieces
  | .null => by simp [text, pieces, Piece.text]
  | .bool true => by simp [text, pieces, Piece.text]
  | .bool false => by simp [text, pieces, Piece.text]
  | .number value => by simp [text, pieces, Piece.text]
  | .string value => by simp [text, pieces, Piece.text]
  | .array elements => by
      rw [text, pieces, piecesText_cons, piecesText_append,
        tail_piecesText (elementsPieces_comma elements), ← elementsText_eq_piecesText elements]
      rfl
  | .object members => by
      rw [text, pieces, piecesText_cons, piecesText_append,
        tail_piecesText (membersPieces_comma members), ← membersText_eq_piecesText members]
      rfl

theorem elementsText_eq_piecesText :
    ∀ elements : List Json, elementsText elements = piecesText (elementsPieces elements)
  | [] => by rw [elementsText, elementsPieces, piecesText_nil]
  | element :: rest => by
      rw [elementsText, elementsPieces, piecesText_cons, piecesText_append,
        ← text_eq_piecesText element, ← elementsText_eq_piecesText rest]
      rfl

theorem membersText_eq_piecesText :
    ∀ members : List (String × Json), membersText members = piecesText (membersPieces members)
  | [] => by rw [membersText, membersPieces, piecesText_nil]
  | (key, value) :: rest => by
      rw [membersText, membersPieces, piecesText_cons, piecesText_cons, piecesText_cons,
        piecesText_append, ← text_eq_piecesText value, ← membersText_eq_piecesText rest]
      rfl

end

mutual

/-- **Only pieces of string values change** when the string values of a value are changed. -/
theorem pieces_mapStrings (f : String → String) :
    ∀ value : Json, (mapStrings f value).pieces = value.pieces.map (Piece.mapValue f)
  | .null => by simp [mapStrings, pieces, Piece.mapValue]
  | .bool true => by simp [mapStrings, pieces, Piece.mapValue]
  | .bool false => by simp [mapStrings, pieces, Piece.mapValue]
  | .number value => by simp [mapStrings, pieces, Piece.mapValue]
  | .string value => by simp [mapStrings, pieces, Piece.mapValue]
  | .array elements => by
      rw [mapStrings, pieces, pieces, elementsPieces_mapElements f elements, List.map_cons,
        List.map_append, List.map_tail]
      rfl
  | .object members => by
      rw [mapStrings, pieces, pieces, membersPieces_mapMembers f members, List.map_cons,
        List.map_append, List.map_tail]
      rfl

theorem elementsPieces_mapElements (f : String → String) :
    ∀ elements : List Json,
      elementsPieces (mapElements f elements) = (elementsPieces elements).map (Piece.mapValue f)
  | [] => by rw [mapElements, elementsPieces, List.map_nil]
  | element :: rest => by
      rw [mapElements, elementsPieces, elementsPieces, pieces_mapStrings f element,
        elementsPieces_mapElements f rest, List.map_cons, List.map_append]
      rfl

theorem membersPieces_mapMembers (f : String → String) :
    ∀ members : List (String × Json),
      membersPieces (mapMembers f members) = (membersPieces members).map (Piece.mapValue f)
  | [] => by rw [mapMembers, membersPieces, List.map_nil]
  | (key, value) :: rest => by
      rw [mapMembers, membersPieces, membersPieces, pieces_mapStrings f value,
        membersPieces_mapMembers f rest, List.map_cons, List.map_cons, List.map_cons,
        List.map_append]
      rfl

end

end Json

end AspRust.Foundation
