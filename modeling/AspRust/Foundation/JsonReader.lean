import AspRust.Foundation.Json

/-!
# Reading JSON texts

A reader of compact JSON texts whose numbers are natural.  What is written for a value is
read back as the value, whatever stands behind it, as long as a number does not go on
(`readsBack_value`); so the text of a value tells the value (`read_text`), and a text that
was put together from the texts of values is read as what was put together.

The reader of one value is applied to the parts of an array or an object by `readList`,
so that a value inside another one is read with less fuel.

### What is load-bearing

A reader is right about a value in front of any rest (`ReadsBack`), which is the form that goes
through lists and objects.  Numbers are the exception: their end is where the digits end, so the
rest must not begin with a digit (`EndsNumber`), and in a compact text it never does.
-/

namespace AspRust.Foundation

namespace Json

section Reader

/-- The value of a hexadecimal digit. -/
def hexDigit? (c : Char) : Option ℕ :=
  if '0'.toNat ≤ c.toNat ∧ c.toNat ≤ '9'.toNat then some (c.toNat - '0'.toNat)
  else if 'a'.toNat ≤ c.toNat ∧ c.toNat ≤ 'f'.toNat then some (c.toNat - 'a'.toNat + 10)
  else if 'A'.toNat ≤ c.toNat ∧ c.toNat ≤ 'F'.toNat then some (c.toNat - 'A'.toNat + 10)
  else none

/-- The character that a short escape stands for. -/
def shortEscape? (c : Char) : Option Char :=
  if c = '"' ∨ c = '\\' ∨ c = '/' then some c
  else if c = 'b' then some '\x08'
  else if c = 'f' then some '\x0c'
  else if c = 'n' then some '\n'
  else if c = 'r' then some '\r'
  else if c = 't' then some '\t'
  else none

/-- The rest of a string literal, and what follows it. -/
def readString : List Char → Option (List Char × List Char)
  | '"' :: rest => some ([], rest)
  | '\\' :: 'u' :: a :: b :: c :: d :: rest => do
      let high ← hexDigit? a
      let upper ← hexDigit? b
      let lower ← hexDigit? c
      let low ← hexDigit? d
      let (content, after) ← readString rest
      some (Char.ofNat (((high * 16 + upper) * 16 + lower) * 16 + low) :: content, after)
  | '\\' :: c :: rest => do
      let escaped ← shortEscape? c
      let (content, after) ← readString rest
      some (escaped :: content, after)
  | c :: rest =>
      if c.toNat < 0x20 ∨ c = '\\' then none
      else do
        let (content, after) ← readString rest
        some (c :: content, after)
  | [] => none

/-- Parts between commas, up to the closing mark. -/
def readList {α : Type} (readOne : List Char → Option (α × List Char)) (close : Char) :
    ℕ → List Char → Option (List α × List Char)
  | 0, _ => none
  | count + 1, text => do
      let (first, rest) ← readOne text
      match rest with
      | [] => none
      | c :: rest =>
          if c = ',' then do
            let (others, after) ← readList readOne close count rest
            some (first :: others, after)
          else if c = close then some ([first], rest)
          else none

/-- The parts of an array or an object behind the opening mark. -/
def readParts {α : Type} (readOne : List Char → Option (α × List Char)) (close : Char)
    (text : List Char) : Option (List α × List Char) :=
  if text.head? = some close then some ([], text.tail)
  else readList readOne close text.length text

/-- A member of an object. -/
def readMember (readOne : List Char → Option (Json × List Char)) (text : List Char) :
    Option ((String × Json) × List Char) :=
  match text with
  | '"' :: rest => do
      let (key, rest) ← readString rest
      match rest with
      | ':' :: rest => do
          let (value, after) ← readOne rest
          some ((String.ofList key, value), after)
      | _ => none
  | _ => none

/-- What follows a literal. -/
def afterLiteral? (literal : List Char) (text : List Char) : Option (List Char) :=
  if literal <+: text then some (text.drop literal.length) else none

/-- A value, and what follows it. -/
def readValue : ℕ → List Char → Option (Json × List Char)
  | 0, _ => none
  | _ + 1, [] => none
  | fuel + 1, c :: rest =>
      if c = '"' then (readString rest).map fun (content, after) =>
        (.string (String.ofList content), after)
      else if c = '[' then (readParts (readValue fuel) ']' rest).map fun (elements, after) =>
        (.array elements, after)
      else if c = '\x7b' then
        (readParts (readMember (readValue fuel)) '\x7d' rest).map fun (members, after) =>
          (.object members, after)
      else if c = 'n' then (afterLiteral? ['u', 'l', 'l'] rest).map fun after => (.null, after)
      else if c = 't' then (afterLiteral? ['r', 'u', 'e'] rest).map fun after => (.bool true, after)
      else if c = 'f' then
        (afterLiteral? ['a', 'l', 's', 'e'] rest).map fun after => (.bool false, after)
      else if c.isDigit then
        some (.number (Nat.ofDigitChars 10 ((c :: rest).takeWhile Char.isDigit) 0),
          (c :: rest).dropWhile Char.isDigit)
      else none

/-- The value that a text is of. -/
def read (text : List Char) : Option Json :=
  (readValue text.length text).bind fun (value, after) => if after = [] then some value else none

end Reader

/-! ## String literals

Each escape of the writer is read back as its character, and the closing quote is the
first that is not escaped. -/

section Strings

theorem hexDigit?_digitChar {digit : ℕ} (h : digit < 16) :
    hexDigit? (Nat.digitChar digit) = some digit := by
  have hall : ∀ digit < 16, hexDigit? (Nat.digitChar digit) = some digit := by decide
  exact hall digit h

/-- A character is read back from its text. -/
theorem readString_escapeChar (c : Char) (rest : List Char) :
    readString (escapeChar c ++ rest) =
      (readString rest).map fun (content, after) => (c :: content, after) := by
  have hbind : ∀ {d : Char}, ((readString rest).bind fun (content, after) =>
      some (d :: content, after)) =
        (readString rest).map fun (content, after) => (d :: content, after) := by
    intro d
    cases readString rest <;> rfl
  unfold escapeChar
  by_cases hquote : c = '"'
  · subst hquote
    exact hbind
  by_cases hbackslash : c = '\\'
  · subst hbackslash
    exact hbind
  by_cases hbackspace : c = '\x08'
  · subst hbackspace
    exact hbind
  by_cases hfeed : c = '\x0c'
  · subst hfeed
    exact hbind
  by_cases hline : c = '\n'
  · subst hline
    exact hbind
  by_cases hreturn : c = '\r'
  · subst hreturn
    exact hbind
  by_cases htab : c = '\t'
  · subst htab
    exact hbind
  rw [if_neg hquote, if_neg hbackslash, if_neg hbackspace, if_neg hfeed, if_neg hline,
    if_neg hreturn, if_neg htab]
  by_cases hcontrol : c.toNat < 0x20
  · -- the last two of the four digits carry the character
    rw [if_pos hcontrol]
    have hlower := hexDigit?_digitChar (show c.toNat / 16 < 16 by omega)
    have hlow := hexDigit?_digitChar (show c.toNat % 16 < 16 by omega)
    have hzero : hexDigit? '0' = some 0 := rfl
    have hvalue : ((0 * 16 + 0) * 16 + c.toNat / 16) * 16 + c.toNat % 16 = c.toNat := by omega
    simp only [List.cons_append, List.nil_append, readString, hlower, hlow, hzero, bind,
      Option.bind_some, hvalue, Char.ofNat_toNat]
    exact hbind
  · rw [if_neg hcontrol, List.singleton_append, readString]
    · rw [if_neg (by simp [hcontrol, hbackslash])]
      exact hbind
    all_goals simp_all

/-- **A string is read back from its text.** -/
theorem readString_text (content rest : List Char) :
    readString (content.flatMap escapeChar ++ '"' :: rest) = some (content, rest) := by
  induction content with
  | nil => rfl
  | cons c content ih =>
      rw [List.flatMap_cons, List.append_assoc, readString_escapeChar, ih]
      rfl

end Strings

/-! ## Values

The reader is recursive with fuel, and the fuel that a text needs is no more than its
length.  A value is read back in front of any rest; for the parts of arrays and objects
the rest is a comma or a closing bracket, so a number ends there. -/

section Values

/-- What stands behind a value does not go on with a number. -/
def EndsNumber (rest : List Char) : Prop := ∀ c ∈ rest.head?, c.isDigit = false

/-- A reader reads the value back from its text, whatever stands behind it. -/
def ReadsBack {α : Type} (readOne : List Char → Option (α × List Char)) (a : α)
    (text : List Char) : Prop :=
  ∀ rest, EndsNumber rest → readOne (text ++ rest) = some (a, rest)

/-- The texts of some parts, each behind a comma. -/
def partsText {α : Type} (text : α → List Char) (parts : List α) : List Char :=
  parts.flatMap fun part => ',' :: text part

theorem elementsText_eq (elements : List Json) :
    elementsText elements = partsText text elements := by
  induction elements with
  | nil =>
      rw [elementsText]
      rfl
  | cons element rest ih =>
      rw [elementsText, ih]
      rfl

/-- The text of a member. -/
def memberText (member : String × Json) : List Char :=
  stringText member.1 ++ ':' :: text member.2

theorem membersText_eq (members : List (String × Json)) :
    membersText members = partsText memberText members := by
  induction members with
  | nil =>
      rw [membersText]
      rfl
  | cons member rest ih =>
      obtain ⟨key, value⟩ := member
      rw [membersText, ih]
      simp [partsText, memberText]

theorem length_le_partsText {α : Type} (text : α → List Char) (parts : List α) :
    parts.length ≤ (partsText text parts).length := by
  induction parts with
  | nil => exact Nat.le_refl _
  | cons part rest ih =>
      have hcons : partsText text (part :: rest) = ',' :: (text part ++ partsText text rest) := rfl
      simp only [hcons, List.length_cons, List.length_append]
      omega

variable {α : Type} {readOne : List Char → Option (α × List Char)} {partText : α → List Char}
  {close : Char}

theorem endsNumber_cons {c : Char} {rest : List Char} (h : c.isDigit = false) :
    EndsNumber (c :: rest) := by
  intro d hd
  obtain rfl := Option.some.inj hd
  exact h

/-- Parts are read back in turn. -/
theorem readList_partsText (hclose : close ≠ ',') (hdigit : close.isDigit = false) {first : α}
    {others : List α} (hparts : ∀ part ∈ first :: others, ReadsBack readOne part (partText part))
    {count : ℕ} (hcount : others.length < count) (rest : List Char) :
    readList readOne close count (partText first ++ (partsText partText others ++ close :: rest)) =
      some (first :: others, rest) := by
  induction others generalizing first count with
  | nil =>
      obtain ⟨count, rfl⟩ := Nat.exists_eq_succ_of_ne_zero (Nat.ne_of_gt hcount)
      have hfirst := hparts first List.mem_cons_self (close :: rest) (endsNumber_cons hdigit)
      rw [readList]
      show (readOne (partText first ++ close :: rest)).bind _ = _
      rw [hfirst]
      simp [hclose]
  | cons second others ih =>
      obtain ⟨count, rfl⟩ := Nat.exists_eq_succ_of_ne_zero (Nat.ne_of_gt
        (Nat.zero_lt_of_lt hcount))
      have hsplit : partsText partText (second :: others) ++ close :: rest =
          ',' :: (partText second ++ (partsText partText others ++ close :: rest)) := by
        simp [partsText]
      have hfirst := hparts first List.mem_cons_self
        (',' :: (partText second ++ (partsText partText others ++ close :: rest)))
        (endsNumber_cons rfl)
      have hlength : others.length < count := by
        rw [List.length_cons] at hcount
        omega
      have hothers := ih (fun part hpart => hparts part (List.mem_cons_of_mem _ hpart)) hlength
      rw [hsplit, readList, hfirst]
      simp [hothers]

/-- The parts of an array or an object are read back. -/
theorem readParts_partsText (hclose : close ≠ ',') (hdigit : close.isDigit = false)
    {parts : List α} (hparts : ∀ part ∈ parts, ReadsBack readOne part (partText part))
    (hbegin : ∀ part ∈ parts, (partText part).head? ≠ some close ∧ partText part ≠ [])
    (rest : List Char) :
    readParts readOne close ((partsText partText parts).tail ++ close :: rest) =
      some (parts, rest) := by
  cases parts with
  | nil => simp [readParts, partsText]
  | cons first others =>
      obtain ⟨hhead, hne⟩ := hbegin first List.mem_cons_self
      have htail : (partsText partText (first :: others)).tail ++ close :: rest =
          partText first ++ (partsText partText others ++ close :: rest) := by
        simp [partsText]
      have hnot : (partText first ++ (partsText partText others ++ close :: rest)).head? ≠
          some close := by
        rwa [List.head?_append_of_ne_nil _ hne]
      rw [htail, readParts, if_neg hnot]
      refine readList_partsText hclose hdigit hparts ?_ rest
      have hlength := length_le_partsText partText others
      simp only [List.length_append, List.length_cons]
      omega

/-- A member is read back when its value is. -/
theorem readsBack_member {readOne : List Char → Option (Json × List Char)} {key : String}
    {value : Json} (h : ReadsBack readOne value (text value)) :
    ReadsBack (readMember readOne) (key, value) (memberText (key, value)) := by
  intro rest hrest
  have htext : memberText (key, value) ++ rest =
      '"' :: (key.toList.flatMap escapeChar ++ '"' :: ':' :: (text value ++ rest)) := by
    simp [memberText, stringText]
  rw [htext]
  simp only [readMember, readString_text, bind, Option.bind_some, h rest hrest,
    String.ofList_toList]

theorem readsBack_string (fuel : ℕ) (value : String) :
    ReadsBack (readValue (fuel + 1)) (.string value) (stringText value) := by
  intro rest _
  rw [stringText, List.cons_append, List.append_assoc, List.singleton_append, readValue,
    if_pos rfl, readString_text]
  simp

theorem readsBack_number (fuel value : ℕ) :
    ReadsBack (readValue (fuel + 1)) (.number value) (Nat.toDigits 10 value) := by
  intro rest hrest
  have hdigits : ∀ c ∈ Nat.toDigits 10 value, c.isDigit = true :=
    fun c hc => Nat.isDigit_of_mem_toDigits (by decide) (by decide) hc
  have htake : (Nat.toDigits 10 value ++ rest).takeWhile Char.isDigit = Nat.toDigits 10 value := by
    rw [List.takeWhile_append_of_pos hdigits]
    cases rest with
    | nil => simp
    | cons c rest => simp [hrest c rfl]
  have hdrop : (Nat.toDigits 10 value ++ rest).dropWhile Char.isDigit = rest := by
    rw [List.dropWhile_append_of_pos hdigits]
    cases rest with
    | nil => rfl
    | cons c rest => simp [hrest c rfl]
  cases htext : Nat.toDigits 10 value with
  | nil => exact absurd htext Nat.toDigits_ne_nil
  | cons c others =>
      have hc := hdigits c (by rw [htext]; exact List.mem_cons_self)
      have hother : ∀ {d : Char}, d.isDigit = false → c ≠ d := by
        rintro d hd rfl
        rw [hd] at hc
        cases hc
      rw [htext, List.cons_append] at htake hdrop
      rw [List.cons_append, readValue, if_neg (hother rfl), if_neg (hother rfl),
        if_neg (hother rfl), if_neg (hother rfl), if_neg (hother rfl), if_neg (hother rfl),
        if_pos hc, htake, hdrop, ← htext, Nat.ofDigitChars_toDigits (by decide) (by decide)]

/-- The text of a value begins, and not with a closing bracket. -/
theorem text_begins (value : Json) : (text value).head? ≠ some ']' ∧ text value ≠ [] := by
  cases value with
  | null => decide
  | bool value => cases value <;> decide
  | number value =>
      rw [text]
      cases htext : Nat.toDigits 10 value with
      | nil => exact absurd htext Nat.toDigits_ne_nil
      | cons c others =>
          refine ⟨?_, List.cons_ne_nil _ _⟩
          have hc := Nat.isDigit_of_mem_toDigits (b := 10) (n := value) (c := c) (by decide)
            (by decide) (by rw [htext]; exact List.mem_cons_self)
          rintro h
          rw [Option.some.inj h] at hc
          cases hc
  | string value => simp [text, stringText]
  | array elements => simp [text]
  | object members => simp [text]

mutual

/-- **A value is read back from its text, whatever stands behind it.** -/
theorem readsBack_value : ∀ (value : Json) (fuel : ℕ), (text value).length ≤ fuel →
    ReadsBack (readValue fuel) value (text value)
  | value, 0, hfuel => absurd (List.eq_nil_of_length_eq_zero (Nat.le_zero.mp hfuel))
      (text_begins value).2
  | .null, fuel + 1, _ => fun rest _ => by
      simp [text, readValue, afterLiteral?]
  | .bool true, fuel + 1, _ => fun rest _ => by
      simp [text, readValue, afterLiteral?]
  | .bool false, fuel + 1, _ => fun rest _ => by
      simp [text, readValue, afterLiteral?]
  | .number value, fuel + 1, _ => by
      rw [text]
      exact readsBack_number fuel value
  | .string value, fuel + 1, _ => by
      rw [text]
      exact readsBack_string fuel value
  | .array elements, fuel + 1, hfuel => fun rest _ => by
      have hlength : (elementsText elements).length ≤ fuel := by
        simp only [text, List.length_cons, List.length_append, List.length_tail,
          List.length_nil] at hfuel
        omega
      have hparts := readParts_partsText (show ']' ≠ ',' by decide) (by decide)
        (readsBack_elements elements fuel hlength)
        (fun element _ => text_begins element) rest
      rw [text, elementsText_eq, List.cons_append, List.append_assoc, List.singleton_append,
        readValue]
      simp [hparts]
  | .object members, fuel + 1, hfuel => fun rest _ => by
      have hlength : (membersText members).length ≤ fuel := by
        simp only [text, List.length_cons, List.length_append, List.length_tail,
          List.length_nil] at hfuel
        omega
      have hparts := readParts_partsText (show '\x7d' ≠ ',' by decide) (by decide)
        (readsBack_members members fuel hlength)
        (fun member _ => by simp [memberText, stringText]) rest
      rw [text, membersText_eq, List.cons_append, List.append_assoc, List.singleton_append,
        readValue]
      simp [hparts]

theorem readsBack_elements : ∀ (elements : List Json) (fuel : ℕ),
    (elementsText elements).length ≤ fuel →
      ∀ element ∈ elements, ReadsBack (readValue fuel) element (text element)
  | [], _, _ => fun element hmem => absurd hmem List.not_mem_nil
  | first :: others, fuel, hfuel => fun element hmem => by
      simp only [elementsText, List.length_cons, List.length_append] at hfuel
      rcases List.mem_cons.mp hmem with heq | hmem
      · rw [heq]
        exact readsBack_value first fuel (by omega)
      · exact readsBack_elements others fuel (by omega) element hmem

theorem readsBack_members : ∀ (members : List (String × Json)) (fuel : ℕ),
    (membersText members).length ≤ fuel →
      ∀ member ∈ members, ReadsBack (readMember (readValue fuel)) member (memberText member)
  | [], _, _ => fun member hmem => absurd hmem List.not_mem_nil
  | (key, value) :: others, fuel, hfuel => fun member hmem => by
      simp only [membersText, List.length_cons, List.length_append] at hfuel
      rcases List.mem_cons.mp hmem with heq | hmem
      · rw [heq]
        exact readsBack_member (readsBack_value value fuel (by omega))
      · exact readsBack_members others fuel (by omega) member hmem

end

/-- **The text of a value is read as the value.** -/
theorem read_text (value : Json) : read (text value) = some value := by
  have hvalue := readsBack_value value (text value).length (Nat.le_refl _) []
    (by simp [EndsNumber])
  rw [List.append_nil] at hvalue
  rw [read, hvalue]
  rfl

end Values

end Json

end AspRust.Foundation
