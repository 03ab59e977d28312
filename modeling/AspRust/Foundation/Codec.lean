import Mathlib.Data.List.Basic
import Mathlib.Data.List.Nodup

/-!
# Serialization

An `Encoder` turns values into bytes, can refuse a value, and never gives two
values the same bytes.  A `Codec` also reads bytes back, and its law is that it
reads back what it wrote; nothing is said about bytes it did not write, which
it may reject or take for any value.  A `LossyCodec` may fail to read back some
of what it wrote, as a format does whose reader has a narrower number range
than its writer.

A serialization is a parameter of the code that uses it.  `Encoder.ofTable` and
its companions are serializations of finitely many values, given with their
bytes.

### Design notes

The laws are fields, so whoever gives a serialization proves them once.  An encoder that refuses
a value gives an error text, since the code that uses it reports that text.  A serialization by
a table refuses what is not in the table; its rows need to have different values to be found and
different bytes to be read back.
-/

namespace AspRust.Foundation

/-- A serialization to bytes that keeps values apart. -/
structure Encoder (α : Type*) where
  /-- The bytes of a value, or why it has none. -/
  encode : α → Except String (List UInt8)
  /-- Distinct values have distinct bytes. -/
  injective : ∀ {a b bytes}, encode a = .ok bytes → encode b = .ok bytes → a = b

/-- A serialization with the reader that belongs to it. -/
structure Codec (α : Type*) where
  /-- The bytes of a value, or why it has none. -/
  encode : α → Except String (List UInt8)
  /-- The value some bytes stand for. -/
  decode : List UInt8 → Option α
  /-- What was written is read back. -/
  decode_encode : ∀ {a bytes}, encode a = .ok bytes → decode bytes = some a

/-- A serialization whose reader may refuse what was written, but never takes it
for something else. -/
structure LossyCodec (α : Type*) where
  /-- The bytes of a value, or why it has none. -/
  encode : α → Except String (List UInt8)
  /-- The value some bytes stand for. -/
  decode : List UInt8 → Option α
  /-- What is read back from written bytes is what was written. -/
  decode_sound : ∀ {a b bytes}, encode a = .ok bytes → decode bytes = some b → b = a

/-! ## Serializations given by a table -/

section Table

variable {α β : Type*}

/-- An element is found by a key that no other element has. -/
theorem find?_eq_some_of_nodup [DecidableEq β] {key : α → β} {table : List α}
    (hkeys : (table.map key).Nodup) {element : α} (hmem : element ∈ table) :
    (table.find? fun other => key other = key element) = some element := by
  cases hfind : table.find? fun other => key other = key element with
  | none => simpa using List.find?_eq_none.mp hfind element hmem
  | some other =>
      have hkey : key other = key element := by simpa using List.find?_some hfind
      rw [List.inj_on_of_nodup_map hkeys (List.mem_of_find?_eq_some hfind) hmem hkey]

/-- What is found by a key has that key. -/
theorem mem_and_eq_of_find? [DecidableEq β] {key : α → β} {table : List α} {wanted : β}
    {element : α} (h : (table.find? fun other => key other = wanted) = some element) :
    element ∈ table ∧ key element = wanted :=
  ⟨List.mem_of_find?_eq_some h, by simpa using List.find?_some h⟩

/-- The value a table has for some bytes. -/
def tableDecode (table : List (α × List UInt8)) (bytes : List UInt8) : Option α :=
  (table.find? fun row => row.2 = bytes).map Prod.fst

theorem tableDecode_of_mem {table : List (α × List UInt8)}
    (hbytes : (table.map Prod.snd).Nodup) {row : α × List UInt8}
    (hrow : row ∈ table) : tableDecode table row.2 = some row.1 := by
  rw [tableDecode, find?_eq_some_of_nodup hbytes hrow, Option.map_some]

variable [DecidableEq α] (table : List (α × List UInt8))

/-- The bytes a table has for a value. -/
def tableEncode (value : α) : Except String (List UInt8) :=
  match table.find? fun row => row.1 = value with
  | some row => .ok row.2
  | none => .error "value outside the table"

variable {table}

theorem mem_of_tableEncode {value : α} {bytes : List UInt8}
    (h : tableEncode table value = .ok bytes) : (value, bytes) ∈ table := by
  unfold tableEncode at h
  split at h
  · next row hrow =>
      obtain ⟨hmem, rfl⟩ := mem_and_eq_of_find? hrow
      obtain rfl := Except.ok.inj h
      exact hmem
  · simp at h

/-- A value of the table has the bytes of its row. -/
theorem tableEncode_of_mem (hvalues : (table.map Prod.fst).Nodup) {row : α × List UInt8}
    (hrow : row ∈ table) : tableEncode table row.1 = .ok row.2 := by
  rw [tableEncode, find?_eq_some_of_nodup hvalues hrow]

variable (table)

/-- The encoder of the values of a table. -/
def Encoder.ofTable (hbytes : (table.map Prod.snd).Nodup) : Encoder α where
  encode := tableEncode table
  injective := fun ha hb => congrArg Prod.fst
    (List.inj_on_of_nodup_map hbytes (mem_of_tableEncode ha) (mem_of_tableEncode hb) rfl)

/-- The codec of the values of a table. -/
def Codec.ofTable (hbytes : (table.map Prod.snd).Nodup) : Codec α where
  encode := tableEncode table
  decode := tableDecode table
  decode_encode := fun h => tableDecode_of_mem hbytes (mem_of_tableEncode h)

/-- A codec, with less demanded of it. -/
def Codec.lossy (codec : Codec α) : LossyCodec α where
  encode := codec.encode
  decode := codec.decode
  decode_sound := fun hencode hdecode =>
    Option.some.inj (hdecode.symm.trans (codec.decode_encode hencode))

end Table

end AspRust.Foundation
