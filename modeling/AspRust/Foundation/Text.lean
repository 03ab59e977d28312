import AspRust.Foundation.Outcome
import Mathlib.Algebra.GroupWithZero.Nat
import Mathlib.Data.List.Infix

/-!
# Texts and byte strings

The string operations of a systems language, as functions on lists of
characters and bytes: splitting, trimming, UTF-8 decoding, decimal parsing, and
the search for a byte pattern.  They follow the documented behaviour of the
operations a program calls, their error texts included.

Slicing and addition on machine-sized numbers can panic; `slice` and `usizeAdd`
keep that as an outcome, so that "does not panic" is something to prove.

### Design notes

Functions on texts are on lists of characters, since the proofs are by induction along them; a
`String` is turned into one where it comes in.  White space is the Unicode property that the
standard library uses, and decimal numbers are read as it reads them, with a sign in front and
an error for each way to fail.
-/

namespace AspRust.Foundation

/-! ## Splitting and trimming -/

/-- The pieces of a text between separators; one more than there are separators. -/
def splitWhen (separator : Char → Bool) : List Char → List (List Char)
  | [] => [[]]
  | c :: rest =>
      if separator c then [] :: splitWhen separator rest
      else
        match splitWhen separator rest with
        | [] => [[c]]
        | piece :: pieces => (c :: piece) :: pieces

theorem splitWhen_of_notMem {separator : Char → Bool} {text : List Char}
    (hfree : ∀ c ∈ text, separator c = false) : splitWhen separator text = [text] := by
  induction text with
  | nil => rfl
  | cons c rest ih =>
      rw [splitWhen, hfree c List.mem_cons_self,
        ih fun other hother => hfree other (List.mem_cons_of_mem _ hother)]
      rfl

/-- A piece without separators before a separator is the first piece. -/
theorem splitWhen_append_cons {separator : Char → Bool} {piece rest : List Char} {c : Char}
    (hfree : ∀ other ∈ piece, separator other = false) (hc : separator c = true) :
    splitWhen separator (piece ++ c :: rest) = piece :: splitWhen separator rest := by
  induction piece with
  | nil => rw [List.nil_append, splitWhen, if_pos hc]
  | cons head tail ih =>
      rw [List.cons_append, splitWhen, hfree head List.mem_cons_self,
        ih fun other hother => hfree other (List.mem_cons_of_mem _ hother)]
      rfl

/-- The pieces of a text between the matches of a non-empty pattern; `skip`
counts the characters of a match that are still to be passed. -/
def splitPatternFrom (pattern : List Char) : ℕ → List Char → List (List Char)
  | _, [] => [[]]
  | skip + 1, _ :: rest => splitPatternFrom pattern skip rest
  | 0, c :: rest =>
      if pattern.isPrefixOf (c :: rest) then
        [] :: splitPatternFrom pattern (pattern.length - 1) rest
      else
        match splitPatternFrom pattern 0 rest with
        | [] => [[c]]
        | piece :: pieces => (c :: piece) :: pieces

/-- The pieces of a text between the matches of a non-empty pattern. -/
def splitPattern (pattern text : List Char) : List (List Char) :=
  splitPatternFrom pattern 0 text

/-- The Unicode property `White_Space`. -/
def isWhitespace (c : Char) : Bool :=
  c.val ∈ [0x9, 0xA, 0xB, 0xC, 0xD, 0x20, 0x85, 0xA0, 0x1680, 0x2028, 0x2029, 0x202F,
    0x205F, 0x3000] || (0x2000 ≤ c.val && c.val ≤ 0x200A)

theorem not_isWhitespace_of_isDigit {c : Char} (h : c.isDigit = true) :
    isWhitespace c = false := by
  simp only [Char.isDigit, Bool.and_eq_true, decide_eq_true_eq, UInt32.le_iff_toNat_le] at h
  have hlow : 48 ≤ c.val.toNat := h.1
  have hhigh : c.val.toNat ≤ 57 := h.2
  have hne : ∀ n : UInt32, n.toNat < 48 ∨ 57 < n.toNat → c.val ≠ n := by
    rintro n hn rfl
    omega
  simp only [isWhitespace, Bool.or_eq_false_iff, Bool.and_eq_false_iff, decide_eq_false_iff_not,
    List.mem_cons, List.not_mem_nil, or_false, not_or]
  refine ⟨?_, Or.inl ?_⟩
  · refine ⟨?_, ?_, ?_, ?_, ?_, ?_, ?_, ?_, ?_, ?_, ?_, ?_, ?_, ?_⟩ <;> exact hne _ (by decide)
  · rw [UInt32.le_iff_toNat_le]
    change ¬ 0x2000 ≤ c.val.toNat
    omega

/-- The non-empty pieces of a text between white space. -/
def splitWhitespace (text : List Char) : List (List Char) :=
  (splitWhen isWhitespace text).filter (· ≠ [])

/-- A text without white space at its ends. -/
def trim (text : List Char) : List Char :=
  ((text.dropWhile isWhitespace).reverse.dropWhile isWhitespace).reverse

/-- The parts of a text before and after the first separator. -/
def splitOnce? (separator : Char) (text : List Char) : Option (List Char × List Char) :=
  if separator ∈ text then
    some (text.takeWhile (· ≠ separator), (text.dropWhile (· ≠ separator)).drop 1)
  else none

/-- The parts of a text before and after the last separator. -/
def rsplitOnce? (separator : Char) (text : List Char) : Option (List Char × List Char) :=
  (splitOnce? separator text.reverse).map fun parts => (parts.2.reverse, parts.1.reverse)

/-- What stands after the last separator is a part of the text. -/
theorem mem_of_rsplitOnce? {separator c : Char} {text : List Char}
    {parts : List Char × List Char} (h : rsplitOnce? separator text = some parts)
    (hc : c ∈ parts.2) : c ∈ text := by
  unfold rsplitOnce? splitOnce? at h
  split at h
  · obtain rfl := Option.some.inj h
    exact List.mem_reverse.mp ((List.takeWhile_sublist _).subset (List.mem_reverse.mp hc))
  · simp at h

/-- A text with every occurrence of one character replaced by another. -/
def replaceChar (old new : Char) (text : List Char) : List Char :=
  text.map fun c => if c = old then new else c

/-- Equality of texts up to the case of ASCII letters. -/
def eqIgnoreAsciiCase (left right : List Char) : Bool :=
  left.map Char.toLower = right.map Char.toLower

/-- A text without a character at its ends. -/
def trimMatches (c : Char) (text : List Char) : List Char :=
  ((text.dropWhile (· = c)).reverse.dropWhile (· = c)).reverse

/-- A line without the carriage return before its line feed. -/
def stripCarriageReturn (line : List Char) : List Char :=
  if line.getLast? = some '\r' then line.dropLast else line

/-- The lines of a text.  A line feed ends a line, and a carriage return before
it belongs to the ending; a last line needs no ending. -/
def lines (text : List Char) : List (List Char) :=
  let pieces := splitWhen (· = '\n') text
  pieces.dropLast.map stripCarriageReturn ++ (pieces.getLast?.toList.filter (· ≠ []))

/-! ## Machine numbers -/

/-- Hexadecimal digits are told apart. -/
theorem digitChar_injective {m n : ℕ} (hm : m < 16) (hn : n < 16)
    (h : Nat.digitChar m = Nat.digitChar n) : m = n := by
  have hall : ∀ a b : Fin 16, Nat.digitChar a = Nat.digitChar b → a = b := by decide
  exact Fin.val_eq_of_eq (hall ⟨m, hm⟩ ⟨n, hn⟩ h)

/-- The largest machine-sized unsigned number. -/
def usizeMax : ℕ := 2 ^ 64 - 1

/-- Addition that panics on overflow. -/
def usizeAdd (a b : ℕ) : Outcome ℕ :=
  if a + b ≤ usizeMax then .ok (a + b)
  else .error (.panicked "attempt to add with overflow")

/-- Addition that reports overflow. -/
def usizeCheckedAdd? (a b : ℕ) : Option ℕ :=
  if a + b ≤ usizeMax then some (a + b) else none

/-- Why a text is no machine-sized number. -/
inductive ParseIntError where
  | empty
  | invalidDigit
  | posOverflow
deriving DecidableEq, Repr

/-- The text of a number error. -/
def ParseIntError.describe : ParseIntError → String
  | .empty => "cannot parse integer from empty string"
  | .invalidDigit => "invalid digit found in string"
  | .posOverflow => "number too large to fit in target type"

/-- One more decimal digit; a character that is no digit is found before the
overflow is. -/
def pushDigit (value : ℕ) (c : Char) : Except ParseIntError ℕ :=
  if c.isDigit then
    let next := value * 10 + (c.toNat - '0'.toNat)
    if next ≤ usizeMax then .ok next else .error .posOverflow
  else .error .invalidDigit

/-- A machine-sized number from decimal text, with an optional plus sign. -/
def parseUsize : List Char → Except ParseIntError ℕ
  | [] => .error .empty
  | ['+'] => .error .invalidDigit
  | '+' :: digits => digits.foldlM pushDigit 0
  | digits => digits.foldlM pushDigit 0

/-! ## UTF-8 -/

/-- Where and how bytes stop being UTF-8: the length of the valid part, and the
length of the sequence that cannot be completed, unless input just ends. -/
structure Utf8Error where
  validUpTo : ℕ
  errorLen : Option ℕ
deriving DecidableEq, Repr

/-- The text of a decoding error. -/
def Utf8Error.describe (error : Utf8Error) : String :=
  match error.errorLen with
  | some errorLen =>
      s!"invalid utf-8 sequence of {errorLen} bytes from index {error.validUpTo}"
  | none => s!"incomplete utf-8 byte sequence from index {error.validUpTo}"

/-- A continuation byte. -/
def isContinuation (byte : UInt8) : Bool := 0x80 ≤ byte && byte ≤ 0xBF

/-- The second bytes a three-byte sequence may have: no overlong form and no
surrogate. -/
def isSecondOfThree (first second : UInt8) : Bool :=
  if first = 0xE0 then 0xA0 ≤ second && second ≤ 0xBF
  else if first = 0xED then 0x80 ≤ second && second ≤ 0x9F
  else isContinuation second

/-- The second bytes a four-byte sequence may have: no overlong form and
nothing above the last code point. -/
def isSecondOfFour (first second : UInt8) : Bool :=
  if first = 0xF0 then 0x90 ≤ second && second ≤ 0xBF
  else if first = 0xF4 then 0x80 ≤ second && second ≤ 0x8F
  else isContinuation second

/-- The code point of a sequence: the payload of its first byte, then six bits
of each continuation byte. -/
def codePoint (payload : ℕ) (continuation : List UInt8) : Char :=
  Char.ofNat (continuation.foldl (fun value byte => value * 64 + (byte.toNat - 0x80)) payload)

/-- Decode UTF-8, with the index of the first byte for errors. -/
def decodeUtf8From (index : ℕ) : List UInt8 → Except Utf8Error (List Char)
  | [] => .ok []
  | a :: rest =>
      if a < 0x80 then
        (codePoint a.toNat [] :: ·) <$> decodeUtf8From (index + 1) rest
      else if 0xC2 ≤ a && a ≤ 0xDF then
        match rest with
        | [] => .error ⟨index, none⟩
        | b :: rest =>
            if isContinuation b then
              (codePoint (a.toNat - 0xC0) [b] :: ·) <$> decodeUtf8From (index + 2) rest
            else .error ⟨index, some 1⟩
      else if 0xE0 ≤ a && a ≤ 0xEF then
        match rest with
        | [] => .error ⟨index, none⟩
        | b :: rest =>
            if isSecondOfThree a b then
              match rest with
              | [] => .error ⟨index, none⟩
              | c :: rest =>
                  if isContinuation c then
                    (codePoint (a.toNat - 0xE0) [b, c] :: ·) <$>
                      decodeUtf8From (index + 3) rest
                  else .error ⟨index, some 2⟩
            else .error ⟨index, some 1⟩
      else if 0xF0 ≤ a && a ≤ 0xF4 then
        match rest with
        | [] => .error ⟨index, none⟩
        | b :: rest =>
            if isSecondOfFour a b then
              match rest with
              | [] => .error ⟨index, none⟩
              | c :: rest =>
                  if isContinuation c then
                    match rest with
                    | [] => .error ⟨index, none⟩
                    | d :: rest =>
                        if isContinuation d then
                          (codePoint (a.toNat - 0xF0) [b, c, d] :: ·) <$>
                            decodeUtf8From (index + 4) rest
                        else .error ⟨index, some 3⟩
                  else .error ⟨index, some 2⟩
            else .error ⟨index, some 1⟩
      else .error ⟨index, some 1⟩

/-- The text that bytes encode. -/
def fromUtf8 (bytes : List UInt8) : Except Utf8Error (List Char) := decodeUtf8From 0 bytes

example : fromUtf8 [0x61, 0xC3, 0xA9, 0xE2, 0x82, 0xAC] = .ok ['a', 'é', '€'] := by decide

example : fromUtf8 [0x61, 0xED, 0xA0, 0x80] = .error ⟨1, some 1⟩ := by decide

/-! ## Byte patterns -/

section Patterns

variable {α : Type*} [DecidableEq α]

/-- The first position at which a pattern occurs. -/
def findSlice (pattern : List α) : List α → Option ℕ
  | [] => if pattern = [] then some 0 else none
  | x :: rest =>
      if pattern.isPrefixOf (x :: rest) then some 0
      else (findSlice pattern rest).map (· + 1)

/-- A pattern occurs somewhere in a list. -/
def containsSlice (pattern xs : List α) : Bool := (findSlice pattern xs).isSome

/-- A match found is found inside the list. -/
theorem findSlice_add_length_le {pattern xs : List α} {position : ℕ}
    (h : findSlice pattern xs = some position) :
    position + pattern.length ≤ xs.length := by
  induction xs generalizing position with
  | nil =>
      unfold findSlice at h
      split at h
      · next hnil =>
          obtain rfl : 0 = position := Option.some.inj h
          simp [hnil]
      · simp at h
  | cons x rest ih =>
      unfold findSlice at h
      split at h
      · next hbegin =>
          obtain rfl : 0 = position := Option.some.inj h
          simpa using (List.isPrefixOf_iff_prefix.mp hbegin).length_le
      · obtain ⟨earlier, hearlier, rfl⟩ := Option.map_eq_some_iff.mp h
        have := ih hearlier
        simp only [List.length_cons]
        omega

/-- More input does not move the first match. -/
theorem findSlice_append {pattern xs : List α} {position : ℕ}
    (h : findSlice pattern xs = some position) (ys : List α) :
    findSlice pattern (xs ++ ys) = some position := by
  induction xs generalizing position with
  | nil =>
      unfold findSlice at h
      split at h
      · next hnil =>
          subst hnil
          cases ys <;> simpa [findSlice] using h
      · simp at h
  | cons x rest ih =>
      unfold findSlice at h
      rw [List.cons_append, findSlice]
      split at h
      · next hbegin =>
          have hmore : pattern.isPrefixOf (x :: (rest ++ ys)) = true :=
            List.isPrefixOf_iff_prefix.mpr
              ((List.isPrefixOf_iff_prefix.mp hbegin).trans
                (List.prefix_append (x :: rest) ys))
          rw [if_pos hmore]
          exact h
      · next hbegin =>
          obtain ⟨earlier, hearlier, rfl⟩ := Option.map_eq_some_iff.mp h
          -- a match at the front would fit into `x :: rest` already
          have hlen := findSlice_add_length_le hearlier
          have hmore : ¬ pattern.isPrefixOf (x :: (rest ++ ys)) = true := by
            intro hfront
            refine hbegin (List.isPrefixOf_iff_prefix.mpr ?_)
            have hfront' : pattern <+: (x :: rest) ++ ys := by
              simpa using List.isPrefixOf_iff_prefix.mp hfront
            exact List.prefix_of_prefix_length_le hfront' (List.prefix_append _ _)
              (by simp only [List.length_cons]; omega)
          rw [if_neg hmore, ih hearlier]
          rfl

/-- The first match of a pattern whose last element is nowhere else, before the
match or in the pattern. -/
theorem findSlice_of_fresh_last {before start : List α} {last : α} (after : List α)
    (hbefore : last ∉ before) (hstart : last ∉ start) :
    findSlice (start ++ [last]) (before ++ (start ++ [last]) ++ after) = some before.length := by
  induction before with
  | nil =>
      have hbegin : (start ++ [last]).isPrefixOf ([] ++ (start ++ [last]) ++ after) = true :=
        List.isPrefixOf_iff_prefix.mpr (List.prefix_append _ _)
      cases hlist : [] ++ (start ++ [last]) ++ after with
      | nil => simp at hlist
      | cons x rest =>
          rw [findSlice, if_pos (hlist ▸ hbegin)]
          rfl
  | cons c rest ih =>
      have hnot : ¬ (start ++ [last]).isPrefixOf
          (c :: (rest ++ (start ++ [last]) ++ after)) = true := by
        intro hbegin
        -- such a match would end before the pattern does, so its last element would be
        -- before the pattern or in its start
        have hlong : start ++ [last] <+: (c :: rest ++ start) ++ (last :: after) := by
          simpa using List.isPrefixOf_iff_prefix.mp hbegin
        have hshort : start ++ [last] <+: c :: rest ++ start :=
          List.prefix_of_prefix_length_le hlong (List.prefix_append _ _) (by simp)
        have hmem : last ∈ c :: rest ++ start := hshort.subset (by simp)
        rcases List.mem_append.mp hmem with h | h
        · exact hbefore h
        · exact hstart h
      rw [List.cons_append, List.cons_append, findSlice, if_neg hnot,
        ih fun hmem => hbefore (List.mem_cons_of_mem _ hmem)]
      rfl

end Patterns

/-- The parts of a text before and after the first match of a pattern. -/
def splitOnceSlice? (pattern text : List Char) : Option (List Char × List Char) :=
  (findSlice pattern text).map fun index => (text.take index, text.drop (index + pattern.length))

theorem splitOnceSlice?_of_findSlice {pattern before after : List Char}
    (h : findSlice pattern (before ++ pattern ++ after) = some before.length) :
    splitOnceSlice? pattern (before ++ pattern ++ after) = some (before, after) := by
  rw [splitOnceSlice?, h, Option.map_some, List.append_assoc, List.take_left,
    ← List.append_assoc, ← List.length_append, List.drop_left]

/-- The parts of a text before and after the last match of a pattern. -/
def rsplitOnceSlice? (pattern text : List Char) : Option (List Char × List Char) :=
  (splitOnceSlice? pattern.reverse text.reverse).map fun parts =>
    (parts.2.reverse, parts.1.reverse)

/-! ## Slices -/

variable {α : Type*}

/-- The part of a list between two positions; out of range it panics. -/
def slice (xs : List α) (start stop : ℕ) : Outcome (List α) :=
  if start ≤ stop ∧ stop ≤ xs.length then .ok ((xs.drop start).take (stop - start))
  else .error (.panicked "range out of bounds for slice")

theorem slice_eq_ok {xs : List α} {start stop : ℕ} (hstart : start ≤ stop)
    (hstop : stop ≤ xs.length) :
    slice xs start stop = .ok ((xs.drop start).take (stop - start)) :=
  if_pos ⟨hstart, hstop⟩

end AspRust.Foundation
