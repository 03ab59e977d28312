import AspRust.Foundation.RelativeText
import AspRust.Foundation.Toml
import Mathlib.Data.List.TakeWhile

/-!
# A parser of plain TOML documents

`plainReader` reads the lines of a text one by one.  It takes no layout other than the
plain one, but it does all that is asked of a parser, so that `Reader` can be met.

### Why a parser

Theorems about a parser that is a parameter say nothing if no parser has the assumed laws.  This
one has them, and it is small enough to be followed: a document is its lines, and each kind of
line is read by itself.
-/

namespace AspRust.Foundation

namespace Toml

/-! ## Lines

A plain document has one line for each entry and each header, with blank lines between
its sections.  So it is read line by line, and a line by its first character. -/

/-- The character that an escape stands for. -/
def unescapeChar? (c : Char) : Option Char :=
  if c = '\\' then some '\\'
  else if c = '"' then some '"'
  else if c = 'n' then some '\n'
  else if c = 'r' then some '\r'
  else if c = 't' then some '\t'
  else none

/-- The text of a basic string whose closing quote ends the line. -/
def unquote? : List Char → Option (List Char)
  | [] => none
  | [c] => if c = '"' then some [] else none
  | c :: second :: rest =>
      if c = '\\' then do
        let escaped ← unescapeChar? second
        return escaped :: (← unquote? rest)
      else if c = '"' then none
      else do return c :: (← unquote? (second :: rest))

/-- A decimal number without leading zeros. -/
def readInteger? (text : List Char) : Option ℕ :=
  if Nat.toDigits 10 (Nat.ofDigitChars 10 text 0) = text then some (Nat.ofDigitChars 10 text 0)
  else none

def readScalar? : List Char → Option Scalar
  | [] => none
  | c :: rest =>
      if c = '"' then (unquote? rest).map fun text => .string (String.ofList text)
      else (readInteger? (c :: rest)).map .integer

def readHeader? (body : List Char) : Option Line :=
  if body.getLast? = some ']' then
    let path := (splitWhen (· = '.') body.dropLast).map String.ofList
    if ∀ key ∈ path, IsBare key then some (.header path) else none
  else none

def readEntry? (line : List Char) : Option Line :=
  let key := String.ofList (line.takeWhile isBareChar)
  match line.dropWhile isBareChar with
  | ' ' :: '=' :: ' ' :: value =>
      if IsBare key then (readScalar? value).map (.entry key) else none
  | _ => none

def readLine? : List Char → Option Line
  | [] => some .blank
  | c :: rest => if c = '[' then readHeader? rest else readEntry? (c :: rest)

/-- Gather lines: entries before the first header are those of the root. -/
def collect : List Line → Document
  | [] => {}
  | .blank :: rest => collect rest
  | .header path :: rest =>
      { sections := ⟨path, (collect rest).root⟩ :: (collect rest).sections }
  | .entry key value :: rest =>
      { root := (key, value) :: (collect rest).root, sections := (collect rest).sections }

/-- The document that a text is in the plain layout. -/
def readDocument? (text : List Char) : Option Document :=
  ((splitWhen (· = '\n') text).mapM readLine?).map collect

/-! ## Reading what was written

Each reader takes back what the renderer wrote for its kind: characters behind an
escape, texts, numbers, keys, headers, lines.  Lines are then collected into sections in
the order in which they were written. -/

theorem unquote?_cons {c : Char} {rest : List Char} (hslash : c ≠ '\\') (hquote : c ≠ '"')
    (hrest : rest ≠ []) : unquote? (c :: rest) = (unquote? rest).map (c :: ·) := by
  cases rest with
  | nil => exact absurd rfl hrest
  | cons second rest =>
      rw [unquote?, if_neg hslash, if_neg hquote]
      cases unquote? (second :: rest) <;> rfl

theorem unquote?_escape (text : List Char) :
    unquote? (text.flatMap escapeChar ++ ['"']) = some text := by
  induction text with
  | nil => rfl
  | cons c rest ih =>
      have hrest : rest.flatMap escapeChar ++ ['"'] ≠ [] := by simp
      rw [List.flatMap_cons, List.append_assoc, escapeChar]
      -- one case for each escape, and one for the other characters
      split_ifs with hslash hquote hnewline hreturn htab
      · subst hslash
        simp [unquote?, unescapeChar?, ih]
      · subst hquote
        simp [unquote?, unescapeChar?, ih]
      · subst hnewline
        simp [unquote?, unescapeChar?, ih]
      · subst hreturn
        simp [unquote?, unescapeChar?, ih]
      · subst htab
        simp [unquote?, unescapeChar?, ih]
      · rw [List.singleton_append, unquote?_cons hslash hquote hrest, ih]
        rfl

theorem readScalar?_text (scalar : Scalar) : readScalar? scalar.text = some scalar := by
  cases scalar with
  | string text =>
      rw [Scalar.text, readScalar?, if_pos rfl, unquote?_escape, Option.map_some,
        String.ofList_toList]
  | integer value =>
      have hdigits : Nat.ofDigitChars 10 (Nat.toDigits 10 value) 0 = value :=
        Nat.ofDigitChars_toDigits (by decide) (by decide)
      have hread : readInteger? (Nat.toDigits 10 value) = some value := by
        rw [readInteger?, hdigits, if_pos rfl]
      rw [Scalar.text]
      cases htext : Nat.toDigits 10 value with
      | nil => exact absurd htext Nat.toDigits_ne_nil
      | cons first rest =>
          have hfirst : first.isDigit = true :=
            Nat.isDigit_of_mem_toDigits (by decide) (by decide) (htext ▸ List.mem_cons_self)
          have hquote : first ≠ '"' := by
            rintro rfl
            cases hfirst
          rw [readScalar?, if_neg hquote, ← htext, hread]
          rfl

theorem isBareChar_dot : isBareChar '.' = false := by decide

theorem dot_notMem {key : String} (h : IsBare key) : '.' ∉ key.toList := by
  intro hdot
  have hbare := h.2 _ hdot
  rw [isBareChar_dot] at hbare
  cases hbare

theorem readEntry?_text {key : String} (hkey : IsBare key) (value : Scalar) :
    readEntry? (Line.entry key value).text = some (.entry key value) := by
  have htake : (key.toList ++ (" = ".toList ++ value.text)).takeWhile isBareChar = key.toList := by
    rw [List.takeWhile_append_of_pos hkey.2]
    simp [isBareChar]
  have hdrop : (key.toList ++ (" = ".toList ++ value.text)).dropWhile isBareChar =
      ' ' :: '=' :: ' ' :: value.text := by
    rw [List.dropWhile_append_of_pos hkey.2]
    rfl
  rw [Line.text, readEntry?, htake, hdrop]
  simp [hkey, readScalar?_text]

theorem readHeader?_text {path : List String} (hne : path ≠ [])
    (hpath : ∀ key ∈ path, IsBare key) :
    readHeader? (List.intercalate ['.'] (path.map String.toList) ++ [']']) =
      some (.header path) := by
  have hsplit : splitWhen (· = '.') (List.intercalate ['.'] (path.map String.toList)) =
      path.map String.toList := by
    refine splitWhen_intercalate (by simpa using hne) fun piece hpiece => ?_
    obtain ⟨key, hkey, rfl⟩ := List.mem_map.mp hpiece
    exact dot_notMem (hpath key hkey)
  have hnames : (path.map String.toList).map String.ofList = path := by simp
  rw [readHeader?, List.getLast?_concat, if_pos rfl, List.dropLast_concat, hsplit, hnames]
  exact if_pos hpath

theorem readLine?_text_entry {key : String} (hkey : IsBare key) (value : Scalar) :
    readLine? (Line.entry key value).text = some (.entry key value) := by
  obtain ⟨first, rest, hfirst⟩ := List.exists_cons_of_ne_nil hkey.1
  have hbracket : first ≠ '[' := by
    rintro rfl
    have hbare := hkey.2 '[' (hfirst ▸ List.mem_cons_self)
    cases hbare
  have hline := readEntry?_text hkey value
  rw [Line.text, hfirst, List.cons_append] at hline ⊢
  rw [readLine?, if_neg hbracket, hline]

/-- A line that a plain document can have. -/
def Line.Plain : Line → Prop
  | .blank => True
  | .header path => path ≠ [] ∧ ∀ key ∈ path, IsBare key
  | .entry key value => IsBare key ∧ value.Printable

theorem readLine?_text {line : Line} (h : line.Plain) : readLine? line.text = some line := by
  cases line with
  | blank => rfl
  | header path =>
      rw [Line.text, readLine?, if_pos rfl]
      exact readHeader?_text h.1 h.2
  | entry key value => exact readLine?_text_entry h.1 value

theorem collect_entries (entries : List (String × Scalar)) (rest : List Line) :
    collect (entries.map entryLine ++ rest) =
      ⟨entries ++ (collect rest).root, (collect rest).sections⟩ := by
  induction entries with
  | nil => rfl
  | cons entry others ih =>
      rw [List.map_cons, List.cons_append, entryLine, collect, ih]
      rfl

theorem collect_sections (sections : List Section) :
    collect (sections.flatMap Section.lines) = ⟨[], sections⟩ := by
  induction sections with
  | nil => rfl
  | cons part rest ih =>
      rw [List.flatMap_cons, Section.lines, List.cons_append, List.cons_append, collect, collect,
        collect_entries, ih]
      simp

theorem collect_lines (document : Document) : collect document.lines = document := by
  rw [Document.lines, collect_entries, collect_sections]
  simp

theorem collect_append_blank (lines : List Line) : collect (lines ++ [.blank]) = collect lines := by
  induction lines with
  | nil => rfl
  | cons line rest ih => cases line <;> simp [collect, ih]

theorem plain_of_mem_lines {document : Document} (h : document.Plain) :
    ∀ line ∈ document.lines, line.Plain := by
  have hentry : ∀ entry ∈ document.entries, (entryLine entry).Plain :=
    fun entry hentry => ⟨h.keys entry hentry, h.strings entry hentry⟩
  intro line hline
  rcases List.mem_append.mp hline with hroot | hsection
  · obtain ⟨entry, hmem, rfl⟩ := List.mem_map.mp hroot
    exact hentry entry (List.mem_append_left _ hmem)
  · obtain ⟨part, hpart, hmem⟩ := List.mem_flatMap.mp hsection
    rcases List.mem_cons.mp hmem with rfl | hmem
    · trivial
    · rcases List.mem_cons.mp hmem with rfl | hmem
      · exact h.paths part hpart
      · obtain ⟨entry, hown, rfl⟩ := List.mem_map.mp hmem
        exact hentry entry (List.mem_append_right _ (List.mem_flatMap.mpr ⟨part, hpart, hown⟩))

/-! ## Characters of a line

A document is cut at line feeds, so no line may have one in it.  In the layout of a
plain document every character is printable, or comes from an escape, a bare key or a
number, and none of these is a line feed or forbidden in the text. -/

/-- A character that neither ends a line nor is forbidden. -/
def IsClean (c : Char) : Prop := c ≠ '\n' ∧ isForbidden c = false

theorem isClean_of_range {c : Char} (hlow : 0x20 ≤ c.toNat) (hhigh : c.toNat ≠ 0x7F) :
    IsClean c := by
  constructor
  · rintro rfl
    exact absurd hlow (by decide)
  · simp only [isForbidden, Bool.or_eq_false_iff, decide_eq_false_iff_not]
    refine ⟨?_, hhigh⟩
    have hprintable : ¬ c.toNat < 0x20 := by omega
    simp [hprintable]

theorem toNat_of_isAlphanum {c : Char} (h : c.isAlphanum = true) :
    0x20 ≤ c.toNat ∧ c.toNat ≠ 0x7F := by
  change ((decide (c.val ≥ 'A'.val ∧ c.val ≤ 'Z'.val) || (c.val ≥ 'a'.val && c.val ≤ 'z'.val)) ||
    (c.val ≥ '0'.val && c.val ≤ '9'.val)) = true at h
  simp only [Bool.or_eq_true, Bool.and_eq_true, decide_eq_true_eq, UInt32.le_iff_toNat_le] at h
  have hvalue : c.toNat = c.val.toNat := rfl
  rw [hvalue]
  rcases h with (⟨hlow, hhigh⟩ | ⟨hlow, hhigh⟩) | ⟨hlow, hhigh⟩
  · change 65 ≤ c.val.toNat at hlow
    change c.val.toNat ≤ 90 at hhigh
    omega
  · change 97 ≤ c.val.toNat at hlow
    change c.val.toNat ≤ 122 at hhigh
    omega
  · change 48 ≤ c.val.toNat at hlow
    change c.val.toNat ≤ 57 at hhigh
    omega

theorem isClean_of_isBareChar {c : Char} (h : isBareChar c = true) : IsClean c := by
  simp only [isBareChar, Bool.or_eq_true, decide_eq_true_eq] at h
  rcases h with (halphanum | rfl) | rfl
  · obtain ⟨hlow, hhigh⟩ := toNat_of_isAlphanum halphanum
    exact isClean_of_range hlow hhigh
  · exact ⟨by decide, by decide⟩
  · exact ⟨by decide, by decide⟩

theorem isClean_of_mem_toDigits {c : Char} {value : ℕ} (h : c ∈ Nat.toDigits 10 value) :
    IsClean c := by
  have hdigit : c.isDigit = true := Nat.isDigit_of_mem_toDigits (by decide) (by decide) h
  obtain ⟨hlow, hhigh⟩ := toNat_of_isAlphanum (show c.isAlphanum = true by
    rw [Char.isAlphanum, hdigit, Bool.or_true])
  exact isClean_of_range hlow hhigh

theorem isClean_of_mem_escapeChar {c d : Char} (hc : isForbidden c = false)
    (hd : d ∈ escapeChar c) : IsClean d := by
  have hletter : ∀ d ∈ ['\\', '"', 'n', 'r', 't'], IsClean d := by
    simp only [List.forall_mem_cons, List.not_mem_nil, false_implies, implies_true, and_true]
    refine ⟨?_, ?_, ?_, ?_, ?_⟩ <;> exact ⟨by decide, by decide⟩
  rw [escapeChar] at hd
  split_ifs at hd with hslash hquote hnewline hreturn htab
  · exact hletter d (by simp_all)
  · exact hletter d (by simp_all; tauto)
  · exact hletter d (by simp_all; tauto)
  · exact hletter d (by simp_all; tauto)
  · exact hletter d (by simp_all; tauto)
  · obtain rfl := List.mem_singleton.mp hd
    exact ⟨hnewline, hc⟩

theorem Scalar.isClean {scalar : Scalar} (h : scalar.Printable) :
    ∀ c ∈ scalar.text, IsClean c := by
  intro c hc
  cases scalar with
  | integer value => exact isClean_of_mem_toDigits hc
  | string text =>
      rw [Scalar.text, List.mem_cons, List.mem_append, List.mem_singleton, List.mem_flatMap] at hc
      rcases hc with rfl | ⟨source, hsource, hc⟩ | rfl
      · exact ⟨by decide, by decide⟩
      · exact isClean_of_mem_escapeChar (h source hsource) hc
      · exact ⟨by decide, by decide⟩

theorem IsBare.isClean {key : String} (h : IsBare key) : ∀ c ∈ key.toList, IsClean c :=
  fun c hc => isClean_of_isBareChar (h.2 c hc)

theorem mem_of_mem_intercalate {c : Char} {separator : List Char} {pieces : List (List Char)}
    (h : c ∈ separator.intercalate pieces) : c ∈ separator ∨ ∃ piece ∈ pieces, c ∈ piece := by
  induction pieces with
  | nil => cases h
  | cons piece rest ih =>
      cases rest with
      | nil => exact Or.inr ⟨piece, List.mem_cons_self, by simpa using h⟩
      | cons second others =>
          rw [List.intercalate_cons_cons, List.mem_append, List.mem_append] at h
          rcases h with (hpiece | hseparator) | hrest
          · exact Or.inr ⟨piece, List.mem_cons_self, hpiece⟩
          · exact Or.inl hseparator
          · rcases ih hrest with hseparator | ⟨other, hother, hc⟩
            · exact Or.inl hseparator
            · exact Or.inr ⟨other, List.mem_cons_of_mem _ hother, hc⟩

theorem Line.Plain.isClean {line : Line} (h : line.Plain) : ∀ c ∈ line.text, IsClean c := by
  intro c hc
  cases line with
  | blank => cases hc
  | entry key value =>
      rw [Line.text, List.mem_append, List.mem_append] at hc
      rcases hc with hc | hc | hc
      · exact h.1.isClean c hc
      · have hmark : c ∈ [' ', '=', ' '] := hc
        simp only [List.mem_cons, List.not_mem_nil, or_false] at hmark
        rcases hmark with rfl | rfl | rfl <;> exact ⟨by decide, by decide⟩
      · exact Scalar.isClean h.2 c hc
  | header path =>
      rw [Line.text, List.mem_cons, List.mem_append, List.mem_singleton] at hc
      rcases hc with rfl | hc | rfl
      · exact ⟨by decide, by decide⟩
      · rcases mem_of_mem_intercalate hc with hdot | ⟨piece, hpiece, hc⟩
        · obtain rfl := List.mem_singleton.mp hdot
          exact ⟨by decide, by decide⟩
        · obtain ⟨key, hkey, rfl⟩ := List.mem_map.mp hpiece
          exact (h.2 key hkey).isClean c hc
      · exact ⟨by decide, by decide⟩

/-! ## The parser

The parser refuses numbers that do not fit in 64 bits with a sign, as the format allows
it to.  With that it has all the laws of a `Reader`, and it is the parser of the
concrete runs. -/

theorem splitWhen_lines {lines : List (List Char)} (h : ∀ line ∈ lines, '\n' ∉ line) :
    splitWhen (· = '\n') (lines.flatMap fun line => line ++ ['\n']) = lines ++ [[]] := by
  induction lines with
  | nil => rfl
  | cons line rest ih =>
      have hline : ∀ c ∈ line, decide (c = '\n') = false := by
        intro c hc
        exact decide_eq_false fun heq => h line List.mem_cons_self (heq ▸ hc)
      rw [List.flatMap_cons, List.append_assoc, List.singleton_append,
        splitWhen_append_cons hline (by decide),
        ih fun other hother => h other (List.mem_cons_of_mem _ hother)]
      rfl

theorem mapM_readLine?_text {lines : List Line} (h : ∀ line ∈ lines, line.Plain) :
    (lines.map Line.text).mapM readLine? = some lines := by
  induction lines with
  | nil => rfl
  | cons line rest ih =>
      rw [List.map_cons, List.mapM_cons, readLine?_text (h line List.mem_cons_self),
        ih fun other hother => h other (List.mem_cons_of_mem _ hother)]
      rfl

/-- A plain document is read back from its text. -/
theorem readDocument?_text {document : Document} (h : document.Plain) :
    readDocument? document.text = some document := by
  have hplain := plain_of_mem_lines h
  have hplain' : ∀ line ∈ document.lines ++ [Line.blank], line.Plain := by
    intro line hline
    rcases List.mem_append.mp hline with hline | hline
    · exact hplain line hline
    · obtain rfl := List.mem_singleton.mp hline
      trivial
  have htext : document.text =
      (document.lines.map Line.text).flatMap fun line => line ++ ['\n'] := by
    rw [Document.text, List.flatMap_map]
  have hsplit : splitWhen (· = '\n') document.text =
      (document.lines ++ [Line.blank]).map Line.text := by
    rw [htext, splitWhen_lines, List.map_append]
    · rfl
    · intro text hmem hnewline
      obtain ⟨line, hline, rfl⟩ := List.mem_map.mp hmem
      exact ((hplain line hline).isClean _ hnewline).1 rfl
  rw [readDocument?, hsplit, mapM_readLine?_text hplain', Option.map_some, collect_append_blank,
    collect_lines]

theorem not_forbidden_of_mem_text {document : Document} (h : document.Plain) :
    ∀ c ∈ document.text, isForbidden c = false := by
  intro c hc
  obtain ⟨line, hline, hc⟩ := List.mem_flatMap.mp hc
  rcases List.mem_append.mp hc with hc | hc
  · exact ((plain_of_mem_lines h line hline).isClean c hc).2
  · obtain rfl := List.mem_singleton.mp hc
    decide

/-- The table of a plain text, with signed integers of 64 bits. -/
def readPlain (text : List Char) : Option Table :=
  if text.any isForbidden then none
  else
    (readDocument? text).bind fun document =>
      if ∃ value ∈ document.integers, 2 ^ 63 - 1 < value then none else document.table?

theorem readPlain_text {document : Document} (h : document.Plain) :
    readPlain document.text =
      if ∃ value ∈ document.integers, 2 ^ 63 - 1 < value then none else document.table? := by
  have hclean : ¬ document.text.any isForbidden = true := by
    intro hany
    obtain ⟨c, hc, hforbidden⟩ := List.any_eq_true.mp hany
    rw [not_forbidden_of_mem_text h c hc] at hforbidden
    cases hforbidden
  rw [readPlain, if_neg hclean, readDocument?_text h]
  rfl

/-- The parser of plain documents. -/
def plainReader : Reader where
  read := readPlain
  limit := 2 ^ 63 - 1
  limit_ge := le_rfl
  read_plain := by
    intro document table hplain hintegers htable
    rw [readPlain_text hplain, if_neg, htable]
    rintro ⟨value, hvalue, hlarge⟩
    exact absurd hlarge (Nat.not_lt.mpr (hintegers value hvalue))
  read_large := by
    intro document hplain hlarge
    rw [readPlain_text hplain, if_pos hlarge]
  read_forbidden := by
    intro text hforbidden
    exact if_pos (List.any_eq_true.mpr hforbidden)

end Toml

end AspRust.Foundation
