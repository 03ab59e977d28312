import AspRust.Foundation.SelfDelimiting
import AspRust.Provider.NestedVisit

/-!
# The identity of nested items

The identity of an item is the digest of its owner, kind and symbol, of the scopes
around it, and of the owners that it may have.  Each text is written behind its length
in eight bytes, and an owner that may be missing behind a byte which says whether it is
there.

How many scopes there are is not written.  The scopes end where a byte for an owner
stands in place of the length of a kind: this byte is zero or one, and no kind of a
scope that a visit opens has so few bytes (`apart_scopes_owners`).

### What is load-bearing

Lengths are written in eight bytes, so a text that is in memory has a length that fits
(`InMemory`).  The kinds of scopes are not arbitrary: a visit opens scopes of a few kinds whose
names have more than one byte, and that is what tells a scope from the mark of an owner.  For
facts that no visit emits two materials could be one.
-/

namespace AspRust.Provider

open AspRust.Foundation AspRust.DevGate RustNestedItemFactV1

/-! ## What is digested

The material of an identity, and what it means for two facts to have the same.  The
facts are those that a visit emits, with texts that are in memory. -/

/-- A text in memory: its length is a machine number. -/
def InMemory (text : String) : Prop := (utf8 text.toList).length ≤ usizeMax

instance (text : String) : Decidable (InMemory text) := inferInstanceAs (Decidable (_ ≤ _))

/-- The fields of a scope. -/
def scopeFields (scope : RustItemScopeFactV1) : List UInt8 :=
  identityField scope.kind ++ identityField scope.symbol

namespace RustNestedItemFactV1

/-- What the identity digest of a fact is taken of. -/
def identityMaterial (fact : RustNestedItemFactV1) : List UInt8 :=
  identityField fact.ownerPath ++ identityField fact.itemKind ++ identityField fact.symbol ++
    fact.scopes.flatMap scopeFields ++
    optionalIdentityField fact.implOwner ++ optionalIdentityField fact.traitOwner

/-- The texts that make the identity of a fact. -/
def identityTexts (fact : RustNestedItemFactV1) : List String :=
  [fact.ownerPath, fact.itemKind, fact.symbol] ++
    fact.scopes.flatMap (fun scope => [scope.kind, scope.symbol]) ++
    fact.implOwner.toList ++ fact.traitOwner.toList

end RustNestedItemFactV1

/-- The facts agree in all that makes an identity. -/
structure SameIdentity (left right : RustNestedItemFactV1) : Prop where
  ownerPath : left.ownerPath = right.ownerPath
  itemKind : left.itemKind = right.itemKind
  symbol : left.symbol = right.symbol
  scopes : left.scopes = right.scopes
  implOwner : left.implOwner = right.implOwner
  traitOwner : left.traitOwner = right.traitOwner

/-- The fact is among those of some owner. -/
def Emitted (sha256 : List UInt8 → List UInt8) (parser : RustParser)
    (fact : RustNestedItemFactV1) : Prop :=
  ∃ ownerPath source facts,
    rustNestedItemFactsV1 sha256 parser ownerPath source = .ok facts ∧ fact ∈ facts

/-! ## The fields tell where they end

A field behind its length tells where it ends, and so does a field with a mark.  For the
scopes this needs a look at what follows them. -/

/-- Numbers with the same last digits agree up to the power that many digits reach. -/
theorem mod_pow_eq_of_digits {base n m : ℕ} :
    ∀ {count : ℕ}, (∀ i < count, n / base ^ i % base = m / base ^ i % base) →
      n % base ^ count = m % base ^ count := by
  intro count
  induction count with
  | zero => simp [Nat.mod_one]
  | succ count ih =>
      intro h
      rw [Nat.mod_pow_succ, Nat.mod_pow_succ, ih fun i hi => h i (hi.trans count.lt_succ_self),
        h count count.lt_succ_self]

/-- Machine numbers are told apart by their bytes. -/
theorem eq_of_u64LittleEndian_eq {n m : ℕ} (hn : n ≤ usizeMax) (hm : m ≤ usizeMax)
    (h : u64LittleEndian n = u64LittleEndian m) : n = m := by
  have hbytes : ∀ i < 8, n / 256 ^ i % 256 = m / 256 ^ i % 256 := by
    intro i hi
    have hbyte := List.map_inj_left.mp h i (List.mem_range.mpr hi)
    simpa using congrArg UInt8.toNat hbyte
  have hmod := mod_pow_eq_of_digits hbytes
  rwa [Nat.mod_eq_of_lt (by rw [usizeMax] at hn; omega),
    Nat.mod_eq_of_lt (by rw [usizeMax] at hm; omega)] at hmod

theorem length_u64LittleEndian (n : ℕ) : (u64LittleEndian n).length = 8 := by
  rw [u64LittleEndian, List.length_map, List.length_range]

theorem selfDelimiting_identityField : SelfDelimiting InMemory identityField := by
  have hcontent : Function.Injective fun text : String => utf8 text.toList :=
    utf8_injective.comp fun _ _ => String.toList_injective
  exact SelfDelimiting.behindLength hcontent length_u64LittleEndian
    fun _ _ => eq_of_u64LittleEndian_eq

theorem selfDelimiting_optionalIdentityField :
    SelfDelimiting (fun owner : Option String => ∀ text ∈ owner, InMemory text)
      optionalIdentityField := by
  have hencode : optionalIdentityField =
      fun owner => owner.elim [0] fun text => 1 :: identityField text := by
    funext owner
    cases owner <;> rfl
  rw [hencode]
  exact selfDelimiting_identityField.option (by decide)

/-- The kinds of the scopes that a visit opens. -/
def scopeKinds : List String :=
  ["enum", "function", "foreign-module", "impl", "module", "trait", "method"]

/-- A scope of a visit, with its texts in memory. -/
def OpenedInMemory (scope : RustItemScopeFactV1) : Prop :=
  scope.kind ∈ scopeKinds ∧ InMemory scope.kind ∧ InMemory scope.symbol

theorem selfDelimiting_scopeFields : SelfDelimiting OpenedInMemory scopeFields := by
  have hform : Function.Injective fun scope : RustItemScopeFactV1 => (scope.kind, scope.symbol) := by
    rintro ⟨kind, symbol⟩ ⟨kind', symbol'⟩ h
    obtain ⟨rfl, rfl⟩ := Prod.mk.inj h
    rfl
  exact ((selfDelimiting_identityField.pair selfDelimiting_identityField).comap hform).mono
    fun scope hscope => hscope.2

/-- A field begins with the lowest byte of its length. -/
theorem head?_identityField (text : String) (rest : List UInt8) :
    (identityField text ++ rest).head? = some (UInt8.ofNat (utf8 text.toList).length) := by
  simp [identityField, u64LittleEndian, List.range_succ_eq_map]

/-- An owner begins with the byte that says whether it is there. -/
theorem head?_optionalIdentityField (owner : Option String) (rest : List UInt8) :
    (optionalIdentityField owner ++ rest).head? = some (if owner.isSome then 1 else 0) := by
  cases owner <;> rfl

/-- No scope of a visit begins as an owner does. -/
theorem apart_scopes_owners {scope : RustItemScopeFactV1} (hscope : OpenedInMemory scope)
    (owner : Option String) (x y : List UInt8) :
    scopeFields scope ++ x ≠ optionalIdentityField owner ++ y := by
  intro h
  have hkinds : ∀ kind ∈ scopeKinds, UInt8.ofNat (utf8 kind.toList).length ≠ 0 ∧
      UInt8.ofNat (utf8 kind.toList).length ≠ 1 := by decide
  obtain ⟨hzero, hone⟩ := hkinds scope.kind hscope.1
  have hhead := congrArg List.head? h
  rw [scopeFields, List.append_assoc, head?_identityField, head?_optionalIdentityField,
    Option.some.injEq] at hhead
  cases owner with
  | none => exact hzero hhead
  | some text => exact hone hhead

/-- The scopes, and the owners behind them. -/
theorem selfDelimiting_scopes_owners :
    SelfDelimiting
      (fun parts : List RustItemScopeFactV1 × Option String × Option String =>
        (∀ scope ∈ parts.1, OpenedInMemory scope) ∧
          (∀ text ∈ parts.2.1, InMemory text) ∧ ∀ text ∈ parts.2.2, InMemory text)
      fun parts => parts.1.flatMap scopeFields ++
        (optionalIdentityField parts.2.1 ++ optionalIdentityField parts.2.2) := by
  refine selfDelimiting_scopeFields.listThen
    (selfDelimiting_optionalIdentityField.pair selfDelimiting_optionalIdentityField) ?_
  intro scope owners hscope _ x y h
  rw [List.append_assoc] at h
  exact apart_scopes_owners hscope owners.1 x _ h

/-! ## What a visit emits

A visit opens scopes of a few kinds.  The fields of a fact are therefore of the form for
which they can be read back. -/

theorem kind_of_enclosingScope {declaration : Declaration} {scope : RustItemScopeFactV1}
    (h : enclosingScope declaration = some scope) : scope.kind ∈ scopeKinds := by
  cases declaration with
  | traitFn signature hasDefault =>
      cases hasDefault with
      | true =>
          cases h
          simp [scopeKinds]
      | false => cases h
  | _ => cases h <;> simp [scopeKinds]

section Emitted

variable {sha256 : List UInt8 → List UInt8} {parser : RustParser}
  {left right fact : RustNestedItemFactV1}

/-- An emitted fact is the one of some item beneath what is around it. -/
theorem exists_recordItem_of_emitted (h : Emitted sha256 parser fact) :
    ∃ ownerPath source, ∃ o : Occurrence,
      ((RustNestedItemFactVisitorV1.atFile ownerPath source).within o.ancestors).recordItem sha256
        o.self = some fact := by
  obtain ⟨ownerPath, source, facts, hfacts, hmem⟩ := h
  by_cases howner : ownerPath = ""
  · rw [rustNestedItemFactsV1, if_pos howner] at hfacts
    cases hfacts
  · cases hparse : parser.parseFile source with
    | error error =>
        rw [rustNestedItemFactsV1, if_neg howner, hparse] at hfacts
        cases hfacts
    | ok nodes =>
        rw [rustNestedItemFactsV1_eq sha256 parser howner hparse, Except.ok.injEq] at hfacts
        rw [← hfacts, List.mem_insertionSort, facts_visitFile_eq_filterMap] at hmem
        obtain ⟨o, -, ho⟩ := List.mem_filterMap.mp hmem
        exact ⟨ownerPath, source, o, ho⟩

/-- The scopes of an emitted fact are of the kinds that a visit opens. -/
theorem kind_of_mem_scopes (h : Emitted sha256 parser fact) {scope : RustItemScopeFactV1}
    (hscope : scope ∈ fact.scopes) : scope.kind ∈ scopeKinds := by
  obtain ⟨ownerPath, source, o, ho⟩ := exists_recordItem_of_emitted h
  rw [scopes_of_recordItem ho] at hscope
  obtain ⟨ancestor, -, hopened⟩ := List.mem_filterMap.mp hscope
  exact kind_of_enclosingScope hopened

/-- The identity digest of an emitted fact is taken of its identity material. -/
theorem identityDigest_eq (h : Emitted sha256 parser fact) :
    fact.identityDigest = sha256Hex sha256 fact.identityMaterial := by
  obtain ⟨ownerPath, source, o, ho⟩ := exists_recordItem_of_emitted h
  obtain ⟨symbol, own, -, hfact⟩ := RustNestedItemFactVisitorV1.exists_of_recordItem ho
  rw [hfact]
  rfl

theorem sha256Hex_injective {first second : List UInt8}
    (h : sha256Hex sha256 first = sha256Hex sha256 second) : sha256 first = sha256 second :=
  flatMap_hexByte_injective (String.ofList_injective h)

/-- What the texts of an emitted fact in memory have as parts of its identity. -/
theorem admitted_of_emitted (h : Emitted sha256 parser fact)
    (hmemory : ∀ text ∈ fact.identityTexts, InMemory text) :
    InMemory fact.ownerPath ∧ InMemory fact.itemKind ∧ InMemory fact.symbol ∧
      (∀ scope ∈ fact.scopes, OpenedInMemory scope) ∧
      (∀ text ∈ fact.implOwner, InMemory text) ∧ ∀ text ∈ fact.traitOwner, InMemory text := by
  refine ⟨hmemory _ (by simp [identityTexts]), hmemory _ (by simp [identityTexts]),
    hmemory _ (by simp [identityTexts]), fun scope hscope => ?_, fun text htext => ?_,
    fun text htext => ?_⟩
  · have hkind : scope.kind ∈ fact.identityTexts := by
      simp only [identityTexts, List.mem_append, List.mem_flatMap]
      exact .inl (.inl (.inr ⟨scope, hscope, List.mem_cons_self⟩))
    have hsymbol : scope.symbol ∈ fact.identityTexts := by
      simp only [identityTexts, List.mem_append, List.mem_flatMap]
      exact .inl (.inl (.inr ⟨scope, hscope, List.mem_cons_of_mem _ List.mem_cons_self⟩))
    exact ⟨kind_of_mem_scopes h hscope, hmemory _ hkind, hmemory _ hsymbol⟩
  · apply hmemory
    rw [identityTexts, List.mem_append, List.mem_append, Option.mem_toList]
    exact .inl (.inr htext)
  · apply hmemory
    rw [identityTexts, List.mem_append, Option.mem_toList (a := text)]
    exact .inr htext

/-- Emitted facts with the same identity material have the same identity. -/
theorem sameIdentity_of_identityMaterial_eq (hleft : Emitted sha256 parser left)
    (hright : Emitted sha256 parser right)
    (hleftMemory : ∀ text ∈ left.identityTexts, InMemory text)
    (hrightMemory : ∀ text ∈ right.identityTexts, InMemory text)
    (h : left.identityMaterial = right.identityMaterial) : SameIdentity left right := by
  have hparts := selfDelimiting_identityField.pair
    (selfDelimiting_identityField.pair
      (selfDelimiting_identityField.pair selfDelimiting_scopes_owners))
  have hencoded : ∀ fact : RustNestedItemFactV1, fact.identityMaterial =
      identityField fact.ownerPath ++ (identityField fact.itemKind ++ (identityField fact.symbol ++
        (fact.scopes.flatMap scopeFields ++
          (optionalIdentityField fact.implOwner ++ optionalIdentityField fact.traitOwner)))) := by
    intro fact
    simp only [identityMaterial, List.append_assoc]
  rw [hencoded, hencoded] at h
  have hsame := hparts.eq_of_encode_eq
    (a := (left.ownerPath, left.itemKind, left.symbol, left.scopes, left.implOwner,
      left.traitOwner))
    (b := (right.ownerPath, right.itemKind, right.symbol, right.scopes, right.implOwner,
      right.traitOwner))
    (admitted_of_emitted hleft hleftMemory) (admitted_of_emitted hright hrightMemory) h
  simp only [Prod.mk.injEq] at hsame
  obtain ⟨hownerPath, hitemKind, hsymbol, hscopes, himplOwner, htraitOwner⟩ := hsame
  exact ⟨hownerPath, hitemKind, hsymbol, hscopes, himplOwner, htraitOwner⟩

/-- **Identities are told apart.**  Emitted facts with the same identity material agree
in all that makes an identity, and so facts that do not agree share a digest only on a
collision of the hash.

The fields are written one after the other, each after its length, so the material can
be read in one way only.  A field that may be missing begins with a marker, which no
kind of scope begins with. -/
theorem identityMaterial_injective (hleft : Emitted sha256 parser left)
    (hright : Emitted sha256 parser right)
    (hleftMemory : ∀ text ∈ left.identityTexts, InMemory text)
    (hrightMemory : ∀ text ∈ right.identityTexts, InMemory text) :
    (left.identityMaterial = right.identityMaterial → SameIdentity left right) ∧
      (left.identityDigest = right.identityDigest → ¬ SameIdentity left right →
        left.identityMaterial ≠ right.identityMaterial ∧
          sha256 left.identityMaterial = sha256 right.identityMaterial) := by
  have hinjective := sameIdentity_of_identityMaterial_eq hleft hright hleftMemory hrightMemory
  refine ⟨hinjective, fun hdigests hdiffer => ⟨fun hmaterial => hdiffer (hinjective hmaterial), ?_⟩⟩
  rw [identityDigest_eq hleft, identityDigest_eq hright] at hdigests
  exact sha256Hex_injective hdigests

end Emitted

/-! ## An implementation and its method -/

/-- An implementation with a method. -/
def implSource : List Char := "impl A\x7bfn m()\x7b\x7d\x7d".toList

/-- The digests of the texts of the two items and of their identities, which are told
apart by their lengths. -/
def implSha256 (message : List UInt8) : List UInt8 :=
  match message.length with
  | 8 =>
    [0x7A, 0xAC, 0xDF, 0xED, 0x54, 0x7C, 0x8F, 0x63, 0xC6, 0xA3, 0x10, 0x62, 0x93, 0xD8, 0x16,
      0x49, 0xC1, 0xA0, 0x0E, 0xEC, 0xFE, 0x44, 0x3D, 0xBE, 0xD4, 0x20, 0x1A, 0xE2, 0x70, 0x9D,
      0x45, 0x10]
  | 16 =>
    [0xDA, 0x3B, 0xC2, 0x15, 0x50, 0xF0, 0x1A, 0xF7, 0x19, 0x93, 0x00, 0x15, 0x8E, 0xC0, 0xA4,
      0xCA, 0x16, 0x7F, 0x73, 0x72, 0x1B, 0x0A, 0x4B, 0x65, 0x53, 0x6C, 0x4F, 0x3A, 0x00, 0x20,
      0xD7, 0xAE]
  | 50 =>
    [0xAC, 0x1F, 0x04, 0x15, 0x2D, 0x6E, 0x01, 0x14, 0x9C, 0x00, 0xE0, 0xA7, 0x7A, 0x72, 0xAA,
      0xF6, 0x3A, 0x6B, 0xBB, 0x05, 0x40, 0x11, 0x34, 0xA5, 0xC6, 0x79, 0xA6, 0xED, 0x79, 0x3E,
      0xA5, 0x10]
  | _ =>
    [0x20, 0xAE, 0x1C, 0xCA, 0xD7, 0x29, 0x2B, 0xE5, 0x36, 0x30, 0x10, 0x83, 0xB8, 0x84, 0xED,
      0x3F, 0x4A, 0x88, 0xCC, 0x89, 0x97, 0xB5, 0xF9, 0x71, 0x76, 0x9F, 0x41, 0xC4, 0x9F, 0xD8,
      0xD6, 0xD5]

/-- A parser that knows the text. -/
def implParser : RustParser :=
  .knowing [] implSource
    [.item { declaration := .impl ⟨"A", by decide⟩ none, span := lineSpan 0 16 } []
      [.item { declaration := .implFn { ident := ⟨"m", by decide⟩ }, span := lineSpan 7 15 } [] []]]
    (by decide +kernel)

/-- The fact of the implementation. -/
def implFact : RustNestedItemFactV1 where
  schemaId := rustNestedItemFactSchemaId
  schemaVersion := rustNestedItemFactSchemaVersion
  ownerPath := "src/lib.rs"
  itemKind := "impl"
  symbol := "A"
  scopes := []
  implOwner := some "A"
  traitOwner := none
  sourceByteStart := 0
  sourceByteEnd := 16
  identityDigest := "ac1f04152d6e01149c00e0a77a72aaf63a6bbb05401134a5c679a6ed793ea510"
  sourceSliceDigest := "da3bc21550f01af7199300158ec0a4ca167f73721b0a4b65536c4f3a0020d7ae"

/-- The fact of the method. -/
def methodFact : RustNestedItemFactV1 where
  schemaId := rustNestedItemFactSchemaId
  schemaVersion := rustNestedItemFactSchemaVersion
  ownerPath := "src/lib.rs"
  itemKind := "method"
  symbol := "m"
  scopes := [⟨"impl", "A"⟩]
  implOwner := some "A"
  traitOwner := none
  sourceByteStart := 7
  sourceByteEnd := 15
  identityDigest := "20ae1ccad7292be536301083b884ed3f4a88cc8997b5f971769f41c49fd8d6d5"
  sourceSliceDigest := "7aacdfed547c8f63c6a3106293d81649c1a00eecfe443dbed4201ae2709d4510"

theorem emitted_of_mem_implSource {fact : RustNestedItemFactV1} (h : fact ∈ [implFact, methodFact]) :
    Emitted implSha256 implParser fact := by
  refine ⟨"src/lib.rs", implSource, [implFact, methodFact], ?_, h⟩
  decide +kernel

theorem identityMaterial_injective_impl :
    (implFact.identityMaterial = methodFact.identityMaterial → SameIdentity implFact methodFact) ∧
      (implFact.identityDigest = methodFact.identityDigest → ¬ SameIdentity implFact methodFact →
        implFact.identityMaterial ≠ methodFact.identityMaterial ∧
          implSha256 implFact.identityMaterial = implSha256 methodFact.identityMaterial) :=
  identityMaterial_injective (emitted_of_mem_implSource List.mem_cons_self)
    (emitted_of_mem_implSource (List.mem_cons_of_mem _ List.mem_cons_self)) (by decide +kernel)
    (by decide +kernel)

end AspRust.Provider
