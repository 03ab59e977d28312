import AspRust.Foundation.SelfCount
import AspRust.Foundation.Utf8

/-!
# JSON values and their compact text

`Json` is a JSON value whose numbers are natural; an object lists its members in
the order in which it is written.  `Json.text` is the compact text of a value,
with no white space between tokens, and `Json.encode` its bytes.

A member is written with the comma before it and the first comma is dropped, so
that the text of a list is a concatenation over its elements.
-/

namespace AspRust.Foundation

/-- A JSON value. -/
inductive Json where
  | null
  | bool (value : Bool)
  | number (value : ℕ)
  | string (value : String)
  | array (elements : List Json)
  | object (members : List (String × Json))

namespace Json

/-- One character of a string literal. -/
def escapeChar (c : Char) : List Char :=
  if c = '"' then ['\\', '"']
  else if c = '\\' then ['\\', '\\']
  else if c = '\x08' then ['\\', 'b']
  else if c = '\x0c' then ['\\', 'f']
  else if c = '\n' then ['\\', 'n']
  else if c = '\r' then ['\\', 'r']
  else if c = '\t' then ['\\', 't']
  else if c.toNat < 0x20 then
    ['\\', 'u', '0', '0', Nat.digitChar (c.toNat / 16), Nat.digitChar (c.toNat % 16)]
  else [c]

/-- A string literal. -/
def stringText (value : String) : List Char :=
  '"' :: (value.toList.flatMap escapeChar ++ ['"'])

mutual

/-- The compact text of a value. -/
def text : Json → List Char
  | .null => ['n', 'u', 'l', 'l']
  | .bool true => ['t', 'r', 'u', 'e']
  | .bool false => ['f', 'a', 'l', 's', 'e']
  | .number value => Nat.toDigits 10 value
  | .string value => stringText value
  | .array elements => '[' :: ((elementsText elements).tail ++ [']'])
  | .object members => '\x7b' :: ((membersText members).tail ++ ['\x7d'])

/-- The elements of an array, each after a comma. -/
def elementsText : List Json → List Char
  | [] => []
  | element :: rest => ',' :: (text element ++ elementsText rest)

/-- The members of an object, each after a comma. -/
def membersText : List (String × Json) → List Char
  | [] => []
  | (key, value) :: rest => ',' :: (stringText key ++ ':' :: (text value ++ membersText rest))

end

/-- The bytes of the compact text. -/
def encode (value : Json) : List UInt8 := utf8 value.text

/-- The value of a member; the first one with the key counts. -/
def member? (key : String) : Json → Option Json
  | .object members => (members.find? fun entry => entry.1 = key).map Prod.snd
  | _ => none

theorem length_encode (value : Json) : value.encode.length = utf8Length value.text :=
  length_utf8 value.text

/-- A number takes one byte for each digit. -/
theorem utf8Length_toDigits (value : ℕ) :
    utf8Length (Nat.toDigits 10 value) = decimalWidth value := by
  rw [decimalWidth]
  refine utf8Length_of_ascii fun c hc => ?_
  have hdigit := Nat.isDigit_of_mem_toDigits (by omega) (by omega) hc
  simp only [Char.isDigit, Bool.and_eq_true, decide_eq_true_eq, UInt32.le_iff_toNat_le] at hdigit
  exact le_trans hdigit.2 (by decide)

end Json

example : Json.text (.object [("a", .array [.number 10, .null]), ("b", .string "\n")]) =
    "\x7b\"a\":[10,null],\"b\":\"\\n\"\x7d".toList := by decide

end AspRust.Foundation
