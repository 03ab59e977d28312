import Mathlib.Data.Nat.Digits.Defs
import AspRust.Foundation.Codec
import AspRust.Foundation.Text

/-!
# Content digests

A digest is the hexadecimal SHA-256 of a domain-separated message: the length
and the bytes of a namespace, then the length and the bytes of the content.
SHA-256 itself is a parameter, and the one thing assumed of it is that it has no
collisions.  Nothing else about a digest matters to the cache: digests are
compared, and one of them becomes a file name, so what is proved here is that
they keep contents apart and are made of hexadecimal digits.

### Design notes

The message that is hashed states its lengths, so it can be taken apart from the left
and two messages with one text have one namespace and one content
(`digestMessage_injective`).  Together with the assumption on the hash this makes
`contentDigest` injective, which is the form in which the cache uses it.

That a hash has no collisions can be met: `Sha256.ofContents` makes one from a table of
contents and their digests.  It answers with the row of the table where there is one, and
with something longer than a digest elsewhere, so it is injective when the digests of the
rows differ.
-/

namespace AspRust.DevGate

open AspRust.Foundation

/-- SHA-256, taken to be free of collisions. -/
structure Sha256 where
  /-- The hash of a message. -/
  hash : List UInt8 → List UInt8
  /-- No two messages have the same hash. -/
  collisionFree : Function.Injective hash

/-- A hash given by a table of messages and their 32-byte digests; a message
outside the table gets a digest that is longer. -/
def Sha256.ofTable (table : List (List UInt8 × List UInt8))
    (hdistinct : (table.map Prod.snd).Nodup) (hlength : ∀ entry ∈ table, entry.2.length = 32) :
    Sha256 where
  hash message :=
    match table.find? fun entry => entry.1 = message with
    | some entry => entry.2
    | none => List.replicate 33 0 ++ message
  collisionFree := by
    intro first second h
    dsimp only at h
    split at h
    · next entry hentry =>
        obtain ⟨hmem, hfirst⟩ := mem_and_eq_of_find? hentry
        split at h
        · next other hother =>
            obtain ⟨hmem', hsecond⟩ := mem_and_eq_of_find? hother
            rw [← hfirst, ← hsecond, List.inj_on_of_nodup_map hdistinct hmem hmem' h]
        · have hlong := congrArg List.length h
          simp [hlength entry hmem] at hlong
    · split at h
      · next other hother =>
          have hlong := congrArg List.length h
          simp [hlength other (mem_and_eq_of_find? hother).1] at hlong
      · exact List.append_cancel_left h

/-- A message of the table has the digest of its row. -/
theorem Sha256.ofTable_hash {table : List (List UInt8 × List UInt8)}
    (hdistinct : (table.map Prod.snd).Nodup) (hlength : ∀ row ∈ table, row.2.length = 32)
    (hmessages : (table.map Prod.fst).Nodup) {row : List UInt8 × List UInt8}
    (hrow : row ∈ table) : (ofTable table hdistinct hlength).hash row.1 = row.2 := by
  dsimp only [ofTable]
  split
  · next entry hentry =>
      obtain ⟨hmem, hkey⟩ := mem_and_eq_of_find? hentry
      rw [List.inj_on_of_nodup_map hmessages hmem hrow hkey]
  · next hnone =>
      have hmissing := List.find?_eq_none.mp hnone row hrow
      simp at hmissing

/-- Two lower-case hexadecimal digits. -/
def hexByte (byte : UInt8) : List Char :=
  [Nat.digitChar (byte.toNat / 16), Nat.digitChar (byte.toNat % 16)]

/-- The bytes of a text. -/
def textBytes (text : String) : List UInt8 := text.toByteArray.data.toList

/-- The bytes of a text that is given in pieces. -/
def piecesBytes (pieces : List String) : List UInt8 := pieces.flatMap textBytes

/-- The eight bytes of a 64-bit number, the highest first. -/
def u64BigEndian (n : ℕ) : List UInt8 :=
  (List.range 8).map fun i => UInt8.ofNat (n / 256 ^ (7 - i))

/-- The message that is hashed for a content in a namespace. -/
def digestMessage (nameSpace content : List UInt8) : List UInt8 :=
  u64BigEndian nameSpace.length ++ nameSpace ++ u64BigEndian content.length ++ content

/-- The digest of a content in a namespace, in hexadecimal. -/
def cacheDigestHex (sha256 : Sha256) (nameSpace content : List UInt8) : List Char :=
  (sha256.hash (digestMessage nameSpace content)).flatMap hexByte

/-- The namespace of content digests. -/
def contentNamespace : List UInt8 := textBytes "asp-rust.dev-gate-cache.content.v1"

/-- A digest with the name of its algorithm. -/
def taggedDigest (digest : List Char) : String := String.ofList ("sha256:".toList ++ digest)

/-- The digest of a content, with the name of its algorithm. -/
def contentDigest (sha256 : Sha256) (content : List UInt8) : String :=
  taggedDigest (cacheDigestHex sha256 contentNamespace content)

/-! ## Digests keep contents apart -/

theorem hexByte_injective : Function.Injective hexByte := by
  intro a b h
  simp only [hexByte, List.cons.injEq, and_true] at h
  have ha := a.toNat_lt
  have hb := b.toNat_lt
  have hhigh := digitChar_injective (by omega) (by omega) h.1
  have hlow := digitChar_injective (by omega) (by omega) h.2
  exact UInt8.toNat_inj.mp (by omega)

theorem flatMap_hexByte_injective :
    Function.Injective fun bytes : List UInt8 => bytes.flatMap hexByte := by
  intro xs
  induction xs with
  | nil =>
      intro ys h
      cases ys with
      | nil => rfl
      | cons y ys => simp [hexByte] at h
  | cons x xs ih =>
      intro ys h
      cases ys with
      | nil => simp [hexByte] at h
      | cons y ys =>
          simp only [List.flatMap_cons] at h
          obtain ⟨hhead, htail⟩ := List.append_inj h (by simp [hexByte])
          rw [hexByte_injective hhead, ih htail]

theorem digestMessage_injective (nameSpace : List UInt8) :
    Function.Injective (digestMessage nameSpace) := by
  intro a b h
  exact (List.append_inj h (by simp [u64BigEndian])).2

/-- Messages of two namespaces of one length are different. -/
theorem digestMessage_ne {nameSpace other : List UInt8} (hlength : nameSpace.length = other.length)
    (hne : nameSpace ≠ other) (first second : List UInt8) :
    digestMessage nameSpace first ≠ digestMessage other second := by
  intro h
  have hprefix := (List.append_inj h (by simp [u64BigEndian, hlength])).1
  have hnames := (List.append_inj hprefix (by simp [u64BigEndian, hlength])).1
  exact hne (List.append_inj hnames (by simp [u64BigEndian])).2

/-- Two contents with one digest are equal. -/
theorem contentDigest_injective (sha256 : Sha256) :
    Function.Injective (contentDigest sha256) := by
  intro a b h
  have hhex := List.append_cancel_left (String.ofList_injective h)
  exact digestMessage_injective _ (sha256.collisionFree (flatMap_hexByte_injective hhex))

/-- A digest in hexadecimal contains hexadecimal digits only. -/
theorem mem_cacheDigestHex {sha256 : Sha256} {nameSpace content : List UInt8} {c : Char}
    (h : c ∈ cacheDigestHex sha256 nameSpace content) : c ∈ "0123456789abcdef".toList := by
  obtain ⟨byte, -, hbyte⟩ := List.mem_flatMap.mp h
  have hdigit : ∀ n : Fin 16, Nat.digitChar n ∈ "0123456789abcdef".toList := by decide
  have hlt := byte.toNat_lt
  simp only [hexByte, List.mem_cons, List.not_mem_nil, or_false] at hbyte
  rcases hbyte with rfl | rfl
  · exact hdigit ⟨byte.toNat / 16, by omega⟩
  · exact hdigit ⟨byte.toNat % 16, by omega⟩

/-- The letters of a content digest are those of its tag and the hexadecimal
digits. -/
theorem mem_contentDigest {sha256 : Sha256} {content : List UInt8} {c : Char}
    (h : c ∈ (contentDigest sha256 content).toList) :
    c ∈ "sha256:".toList ∨ c ∈ "0123456789abcdef".toList := by
  have hlist : (contentDigest sha256 content).toList =
      "sha256:".toList ++ cacheDigestHex sha256 contentNamespace content := by
    unfold contentDigest taggedDigest
    exact String.toList_ofList
  rw [hlist] at h
  exact (List.mem_append.mp h).imp id
    fun hhex => @mem_cacheDigestHex sha256 contentNamespace content c hhex

/-! ## Hashes given by a table of contents -/

/-- A row of contents as a row of messages. -/
def messageRow (nameSpace : List UInt8) (row : List UInt8 × List UInt8) :
    List UInt8 × List UInt8 :=
  (digestMessage nameSpace row.1, row.2)

theorem nodup_messageRows (nameSpace : List UInt8) {table : List (List UInt8 × List UInt8)}
    (hcontents : (table.map Prod.fst).Nodup) :
    ((table.map (messageRow nameSpace)).map Prod.fst).Nodup := by
  have hmapped := hcontents.map (digestMessage_injective nameSpace)
  rw [List.map_map] at hmapped ⊢
  exact hmapped

/-- The hash of the contents of a table, each given with its digest. -/
def Sha256.ofContents (table : List (List UInt8 × List UInt8))
    (hdistinct : (table.map Prod.snd).Nodup) (hlength : ∀ row ∈ table, row.2.length = 32) :
    Sha256 :=
  .ofTable (table.map (messageRow contentNamespace))
    (by rw [List.map_map]; exact hdistinct)
    (by rw [List.forall_mem_map]; exact hlength)

/-- The digest of a content of the table. -/
theorem contentDigest_ofContents {table : List (List UInt8 × List UInt8)}
    (hdistinct : (table.map Prod.snd).Nodup) (hlength : ∀ row ∈ table, row.2.length = 32)
    (hcontents : (table.map Prod.fst).Nodup) {row : List UInt8 × List UInt8}
    (hrow : row ∈ table) :
    contentDigest (.ofContents table hdistinct hlength) row.1 =
      taggedDigest (row.2.flatMap hexByte) := by
  have hmessages := nodup_messageRows contentNamespace hcontents
  have hhash := Sha256.ofTable_hash (by rw [List.map_map]; exact hdistinct)
    (by rw [List.forall_mem_map]; exact hlength) hmessages (List.mem_map_of_mem hrow)
  exact congrArg (fun digest => taggedDigest (digest.flatMap hexByte)) hhash

end AspRust.DevGate
