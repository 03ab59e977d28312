import AspRust.Foundation.Text

/-!
# TOML documents

A document of the plain layout is a list of lines: entries `key = value` for the root
table, then sections, each a blank line, a header `[first.second]` and entries.  Values are
basic strings and integers.  `Document.table?` is the table such a document defines.

`Reader` is what the TOML specification says of every parser, as far as plain documents
go.  A document with bare keys and printable strings is read as the table it defines,
unless it has an integer that the parser cannot represent; all integers of 64 bits with
a sign can be.  Control characters other than tab and line ends are allowed nowhere.

`plainReader` is a parser of plain documents only.

### Design notes

Tables keep the order in which they are written, and looking up a key finds the first.  A key
that is defined twice is an error, and so is a header that opens a table again; for a document
of the plain layout `table?` is therefore partial.  What parsers agree on is stated for
documents and not for texts, so no grammar is needed.
-/

namespace AspRust.Foundation

namespace Toml

/-! ## Tables -/

/-- A value of a table. -/
inductive Value where
  | string (text : String)
  | integer (value : ℕ)
  | table (entries : List (String × Value))

abbrev Table := List (String × Value)

/-- The value of a key. -/
def get? (table : Table) (key : String) : Option Value :=
  (table.find? fun entry => entry.1 = key).map Prod.snd

/-- A value that is written on the line of its key. -/
inductive Scalar where
  | string (text : String)
  | integer (value : ℕ)
deriving DecidableEq, Repr

def Scalar.value : Scalar → Value
  | .string text => .string text
  | .integer value => .integer value

def Scalar.integer? : Scalar → Option ℕ
  | .string _ => none
  | .integer value => some value

/-- Define a key that is not defined yet. -/
def addKey (table : Table) (key : String) (value : Value) : Option Table :=
  if key ∈ table.map Prod.fst then none else some (table ++ [(key, value)])

def addEntries (table : Table) (entries : List (String × Scalar)) : Option Table :=
  entries.foldlM (fun table entry => addKey table entry.1 entry.2.value) table

/-- Put another value in the place of a key. -/
def replace (table : Table) (key : String) (value : Value) : Table :=
  table.map fun entry => if entry.1 = key then (key, value) else entry

/-- Define a table by the path of its header. -/
def addTable (block : Table) : List String → Table → Option Table
  | [], _ => none
  | [key], table => addKey table key (.table block)
  | key :: second :: rest, table =>
      match get? table key with
      | none => (addTable block (second :: rest) []).map fun inner =>
          table ++ [(key, .table inner)]
      | some (.table inner) => (addTable block (second :: rest) inner).map fun inner =>
          replace table key (.table inner)
      | some _ => none

/-- The table of entries. -/
def tableOf (entries : List (String × Scalar)) : Table :=
  entries.map fun entry => (entry.1, entry.2.value)

theorem addEntries_eq {table : Table} {entries : List (String × Scalar)}
    (h : (table.map Prod.fst ++ entries.map Prod.fst).Nodup) :
    addEntries table entries = some (table ++ tableOf entries) := by
  induction entries generalizing table with
  | nil =>
      rw [tableOf, List.map_nil, List.append_nil]
      rfl
  | cons entry rest ih =>
      have hfresh : entry.1 ∉ table.map Prod.fst := by
        intro hmem
        exact (List.nodup_append.mp h).2.2 _ hmem _ List.mem_cons_self rfl
      have hrest : ((table ++ [(entry.1, entry.2.value)]).map Prod.fst ++
          rest.map Prod.fst).Nodup := by
        simpa using h
      have hstep : addEntries table (entry :: rest) =
          addEntries (table ++ [(entry.1, entry.2.value)]) rest := by
        rw [addEntries, List.foldlM_cons, addKey, if_neg hfresh]
        rfl
      rw [hstep, ih hrest, List.append_assoc]
      rfl

theorem get?_append_of_notMem {table rest : Table} {key : String}
    (h : key ∉ table.map Prod.fst) : get? (table ++ rest) key = get? rest key := by
  have hnone : table.find? (fun entry => entry.1 = key) = none := by
    rw [List.find?_eq_none]
    intro entry hentry hkey
    exact h (List.mem_map.mpr ⟨entry, hentry, by simpa using hkey⟩)
  rw [get?, List.find?_append, hnone, Option.none_or]
  rfl

theorem replace_append_singleton {table : Table} {key : String} {old value : Value}
    (h : key ∉ table.map Prod.fst) :
    replace (table ++ [(key, old)]) key value = table ++ [(key, value)] := by
  have hsame : ∀ entry ∈ table, (if entry.1 = key then (key, value) else entry) = entry := by
    intro entry hentry
    refine if_neg fun hkey => h ?_
    exact hkey ▸ List.mem_map_of_mem hentry
  rw [replace, List.map_append, List.map_congr_left hsame, List.map_id']
  simp

/-- A key whose value is a table of tables, unless there is none. -/
def grouped (key : String) (blocks : List (String × Table)) : Table :=
  if blocks = [] then []
  else [(key, .table (blocks.map fun block => (block.1, .table block.2)))]

theorem get?_grouped_append_of_ne {key other : String} (h : key ≠ other)
    (blocks : List (String × Table)) (rest : Table) :
    get? (grouped key blocks ++ rest) other = get? rest other := by
  unfold grouped
  split
  · rfl
  · simp [get?, h]

theorem get?_grouped_append_self {key : String} {blocks : List (String × Table)} {rest : Table}
    (h : get? rest key = none) :
    get? (grouped key blocks ++ rest) key =
      if blocks = [] then none
      else some (.table (blocks.map fun block => (block.1, .table block.2))) := by
  unfold grouped
  split
  · exact h
  · simp [get?]

theorem fst_of_mem_grouped {key : String} {blocks : List (String × Table)}
    {entry : String × Value} (h : entry ∈ grouped key blocks) : entry.1 = key := by
  unfold grouped at h
  split at h
  · cases h
  · rw [List.mem_singleton.mp h]

/-- More tables below a key that is there already. -/
theorem foldlM_addTable_below {key : String} {table : Table} (hkey : key ∉ table.map Prod.fst)
    {blocks : List (String × Table)} {inner : Table}
    (hnodup : (inner.map Prod.fst ++ blocks.map Prod.fst).Nodup) :
    blocks.foldlM (fun table block => addTable block.2 [key, block.1] table)
        (table ++ [(key, .table inner)]) =
      some (table ++ [(key,
        .table (inner ++ blocks.map fun block => (block.1, .table block.2)))]) := by
  induction blocks generalizing inner with
  | nil => simp
  | cons block rest ih =>
      have hfresh : block.1 ∉ inner.map Prod.fst := by
        intro hmem
        exact (List.nodup_append.mp hnodup).2.2 _ hmem _ List.mem_cons_self rfl
      have hrest : ((inner ++ [(block.1, Value.table block.2)]).map Prod.fst ++
          rest.map Prod.fst).Nodup := by
        simpa using hnodup
      have hget : get? (table ++ [(key, .table inner)]) key = some (.table inner) := by
        rw [get?_append_of_notMem hkey]
        simp [get?]
      have hstep : addTable block.2 [key, block.1] (table ++ [(key, .table inner)]) =
          some (table ++ [(key, .table (inner ++ [(block.1, .table block.2)]))]) := by
        simp only [addTable, hget, addKey, if_neg hfresh, Option.map_some,
          replace_append_singleton hkey]
      rw [List.foldlM_cons, hstep]
      change List.foldlM _ (table ++ [(key, _)]) rest = _
      rw [ih hrest, List.append_assoc]
      rfl

/-- Tables below a key that is not there yet. -/
theorem foldlM_addTable_grouped {key : String} {table : Table} (hkey : key ∉ table.map Prod.fst)
    {blocks : List (String × Table)} (hnodup : (blocks.map Prod.fst).Nodup) :
    blocks.foldlM (fun table block => addTable block.2 [key, block.1] table) table =
      some (table ++ grouped key blocks) := by
  cases blocks with
  | nil => simp [grouped]
  | cons block rest =>
      have hget : get? table key = none := by
        rw [← List.append_nil table, get?_append_of_notMem hkey]
        rfl
      have hstep : addTable block.2 [key, block.1] table =
          some (table ++ [(key, .table [(block.1, .table block.2)])]) := by
        simp [addTable, hget, addKey]
      rw [List.foldlM_cons, hstep]
      change List.foldlM _ (table ++ [(key, _)]) rest = _
      rw [foldlM_addTable_below hkey (by simpa using hnodup)]
      rfl

/-! ## Documents -/

/-- A section: the path in its header, and its entries. -/
structure Section where
  path : List String
  entries : List (String × Scalar)
deriving DecidableEq, Repr

structure Document where
  root : List (String × Scalar) := []
  sections : List Section := []
deriving DecidableEq, Repr

inductive Line where
  | blank
  | header (path : List String)
  | entry (key : String) (value : Scalar)
deriving DecidableEq, Repr

/-- A character of a basic string, escaped where it must be and at line ends and tabs. -/
def escapeChar (c : Char) : List Char :=
  if c = '\\' then ['\\', '\\']
  else if c = '"' then ['\\', '"']
  else if c = '\n' then ['\\', 'n']
  else if c = '\r' then ['\\', 'r']
  else if c = '\t' then ['\\', 't']
  else [c]

def Scalar.text : Scalar → List Char
  | .string text => '"' :: (text.toList.flatMap escapeChar ++ ['"'])
  | .integer value => Nat.toDigits 10 value

def Line.text : Line → List Char
  | .blank => []
  | .header path => '[' :: (List.intercalate ['.'] (path.map String.toList) ++ [']'])
  | .entry key value => key.toList ++ (" = ".toList ++ value.text)

def entryLine (entry : String × Scalar) : Line := .entry entry.1 entry.2

def Section.lines (part : Section) : List Line :=
  .blank :: .header part.path :: part.entries.map entryLine

/-- Define the table of a section. -/
def addSection (table : Table) (part : Section) : Option Table := do
  let block ← addEntries [] part.entries
  addTable block part.path table

theorem addSection_eq {table : Table} {path : List String} {entries : List (String × Scalar)}
    (hentries : (entries.map Prod.fst).Nodup) :
    addSection table ⟨path, entries⟩ = addTable (tableOf entries) path table := by
  have hblock : addEntries [] entries = some (tableOf entries) :=
    @addEntries_eq [] entries hentries
  rw [addSection, hblock]
  rfl

theorem addSection_single {table : Table} {key : String} {entries : List (String × Scalar)}
    (hentries : (entries.map Prod.fst).Nodup) (hkey : key ∉ table.map Prod.fst) :
    addSection table ⟨[key], entries⟩ = some (table ++ [(key, .table (tableOf entries))]) := by
  rw [addSection_eq hentries, addTable, addKey, if_neg hkey]

/-- Sections below one key that is not there yet. -/
theorem foldlM_addSection_grouped {ι : Type*} {name : ι → String}
    {entries : ι → List (String × Scalar)} {key : String} {table : Table} {elements : List ι}
    (hentries : ∀ element ∈ elements, ((entries element).map Prod.fst).Nodup)
    (hkey : key ∉ table.map Prod.fst) (hnodup : (elements.map name).Nodup) :
    (elements.map fun element => (⟨[key, name element], entries element⟩ : Section)).foldlM
        addSection table =
      some (table ++ grouped key (elements.map fun element =>
        (name element, tableOf (entries element)))) := by
  have hnames : ((elements.map fun element =>
      (name element, tableOf (entries element))).map Prod.fst).Nodup := by
    rw [List.map_map]
    exact hnodup
  rw [← foldlM_addTable_grouped hkey hnames, List.foldlM_map, List.foldlM_map]
  clear hkey hnodup hnames
  induction elements generalizing table with
  | nil => rfl
  | cons element rest ih =>
      rw [List.foldlM_cons, List.foldlM_cons, addSection_eq (hentries element List.mem_cons_self)]
      refine Option.bind_congr fun next _ => ?_
      exact ih fun other hother => hentries other (List.mem_cons_of_mem element hother)

namespace Document

def lines (document : Document) : List Line :=
  document.root.map entryLine ++ document.sections.flatMap Section.lines

def text (document : Document) : List Char :=
  document.lines.flatMap fun line => line.text ++ ['\n']

/-- The table that the document defines, if no definition is made twice. -/
def table? (document : Document) : Option Table := do
  let root ← addEntries [] document.root
  document.sections.foldlM addSection root

/-- All entries. -/
def entries (document : Document) : List (String × Scalar) :=
  document.root ++ document.sections.flatMap Section.entries

/-- The integers of a document. -/
def integers (document : Document) : List ℕ :=
  document.entries.filterMap fun entry => entry.2.integer?

end Document

def isBareChar (c : Char) : Bool := c.isAlphanum || c = '_' || c = '-'

/-- A key that is written without quotes. -/
def IsBare (key : String) : Prop := key.toList ≠ [] ∧ ∀ c ∈ key.toList, isBareChar c = true

instance (key : String) : Decidable (IsBare key) :=
  decidable_of_iff (key.toList ≠ [] ∧ key.toList.all isBareChar) (by simp [IsBare])

/-- A control character other than tab and line ends. -/
def isForbidden (c : Char) : Bool :=
  (c.toNat < 0x20 && c ≠ '\t' && c ≠ '\n' && c ≠ '\r') || c.toNat = 0x7F

/-- A text without a control character, told by going over it. -/
theorem forall_isForbidden_eq_false {text : List Char} (h : text.any isForbidden = false) :
    ∀ c ∈ text, isForbidden c = false := by
  simpa using h

theorem escapeChar_of_isForbidden {c : Char} (h : isForbidden c = true) : escapeChar c = [c] := by
  have hne : ∀ other : Char, isForbidden other = false → c ≠ other := by
    rintro other hother rfl
    rw [h] at hother
    cases hother
  rw [escapeChar, if_neg (hne _ (by decide)), if_neg (hne _ (by decide)), if_neg (hne _ (by decide)),
    if_neg (hne _ (by decide)), if_neg (hne _ (by decide))]

/-- The line of an entry is in the document. -/
theorem Document.entryLine_mem_lines {document : Document} {entry : String × Scalar}
    (h : entry ∈ document.entries) : entryLine entry ∈ document.lines := by
  rw [Document.entries, List.mem_append] at h
  rw [Document.lines, List.mem_append]
  rcases h with h | h
  · exact Or.inl (List.mem_map_of_mem h)
  · obtain ⟨part, hpart, hentry⟩ := List.mem_flatMap.mp h
    refine Or.inr (List.mem_flatMap.mpr ⟨part, hpart, ?_⟩)
    exact List.mem_cons_of_mem _ (List.mem_cons_of_mem _ (List.mem_map_of_mem hentry))

/-- A control character of a string is written as it is. -/
theorem Document.forbidden_mem_text {document : Document} {key text : String} {c : Char}
    (hentry : (key, .string text) ∈ document.entries) (hc : c ∈ text.toList)
    (hforbidden : isForbidden c = true) : c ∈ document.text := by
  refine List.mem_flatMap.mpr ⟨_, Document.entryLine_mem_lines hentry, ?_⟩
  have hescaped : c ∈ text.toList.flatMap escapeChar :=
    List.mem_flatMap.mpr ⟨c, hc, by rw [escapeChar_of_isForbidden hforbidden]; simp⟩
  simp [entryLine, Line.text, Scalar.text, hescaped]

def Scalar.Printable : Scalar → Prop
  | .string text => ∀ c ∈ text.toList, isForbidden c = false
  | .integer _ => True

/-- All keys are bare and all strings printable. -/
structure Document.Plain (document : Document) : Prop where
  keys : ∀ entry ∈ document.entries, IsBare entry.1
  strings : ∀ entry ∈ document.entries, entry.2.Printable
  paths : ∀ part ∈ document.sections, part.path ≠ [] ∧ ∀ key ∈ part.path, IsBare key

/-- A TOML parser. -/
structure Reader where
  read : List Char → Option Table
  /-- The largest integer that the parser can represent. -/
  limit : ℕ
  limit_ge : 2 ^ 63 - 1 ≤ limit
  read_plain : ∀ {document : Document} {table : Table}, document.Plain →
    (∀ value ∈ document.integers, value ≤ limit) → document.table? = some table →
    read document.text = some table
  read_large : ∀ {document : Document}, document.Plain →
    (∃ value ∈ document.integers, limit < value) → read document.text = none
  read_forbidden : ∀ {text : List Char}, (∃ c ∈ text, isForbidden c = true) → read text = none

end Toml

end AspRust.Foundation
