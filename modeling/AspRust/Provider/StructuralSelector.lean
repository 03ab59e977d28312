import AspRust.Foundation.Utf8

/-!
# Canonical item identities and structural selectors

An item is identified by its language, kind, symbol and the scopes around it.  A
structural selector is the text `language://path#item/kind/symbol`, followed by
`/scope/relation/kind/symbol` for each scope; every component is percent-encoded
over its UTF-8 bytes, so that a component has none of the separators in it.

## What makes the format unambiguous

Two separators are looked for in the text as a whole: the scheme `://` from the
left, and `#item/` from the right.  The language must not have the first in it;
the second needs no such condition on the path, because an encoded component has
no `#`.  After that the components are exactly the pieces between slashes.

The encoded identity leaves the language out, which stands in the scheme: equal
encodings mean equal identities within one language.

## What is load-bearing

The unreserved characters are those that stand for themselves; every other character is written
as the escapes of its UTF-8 bytes, in capital hexadecimal digits.  Decoding accepts small digits
as well, so it is no inverse of encoding on all texts, and nothing of that kind is claimed: what
is read back is what was written.
-/

namespace AspRust.Provider

open AspRust.Foundation

/-! ## Identities

The identity of an item with its validation: no component is blank. -/

/-- One lexical or implementation scope around an item. -/
structure CanonicalItemScope where
  relation : String
  kind : String
  symbol : String
deriving DecidableEq, Repr

/-- The identity of an item, independent of the path of its owner. -/
structure CanonicalItemIdentity where
  languageId : String
  kind : String
  symbol : String
  scopes : List CanonicalItemScope := []
deriving DecidableEq, Repr

namespace CanonicalItemIdentity

/-- Append one scope. -/
def withScope (identity : CanonicalItemIdentity) (relation kind symbol : String) :
    CanonicalItemIdentity :=
  { identity with scopes := identity.scopes ++ [⟨relation, kind, symbol⟩] }

/-- The first blank value of a list of named fields is an error. -/
def requireNotBlank (message : String → String) (fields : List (String × String)) :
    Except String Unit :=
  match fields.find? fun field => trim field.2.toList = [] with
  | some (field, _) => .error (message field)
  | none => .ok ()

/-- Every component of an identity must carry a value. -/
def validate (identity : CanonicalItemIdentity) : Except String Unit := do
  requireNotBlank (fun field => "canonical item identity " ++ field ++ " must not be empty")
    [("languageId", identity.languageId), ("kind", identity.kind), ("symbol", identity.symbol)]
  identity.scopes.forM fun scope =>
    requireNotBlank
      (fun field => "canonical item identity scope " ++ field ++ " must not be empty")
      [("relation", scope.relation), ("kind", scope.kind), ("symbol", scope.symbol)]

end CanonicalItemIdentity

/-- A selector joins an identity to the text that locates the item. -/
structure CanonicalItemSelector where
  schemaId : String
  schemaVersion : String
  languageId : String
  kind : String
  symbol : String
  scopes : List CanonicalItemScope
  structuralSelector : String
deriving DecidableEq, Repr

namespace CanonicalItemSelector

/-- The selector of an identity. -/
def new (identity : CanonicalItemIdentity) (structuralSelector : String) :
    CanonicalItemSelector where
  schemaId := "asp.canonical-item-selector.v1"
  schemaVersion := "1"
  languageId := identity.languageId
  kind := identity.kind
  symbol := identity.symbol
  scopes := identity.scopes
  structuralSelector := structuralSelector

/-- The identity a selector carries. -/
def identity (selector : CanonicalItemSelector) : CanonicalItemIdentity :=
  ⟨selector.languageId, selector.kind, selector.symbol, selector.scopes⟩

end CanonicalItemSelector

/-! ## Components -/

/-- A byte that stands for itself in a component. -/
def isUnreserved (byte : UInt8) : Bool :=
  (0x30 ≤ byte && byte ≤ 0x39) || (0x41 ≤ byte && byte ≤ 0x5A) ||
    (0x61 ≤ byte && byte ≤ 0x7A) || byte ∈ [0x2D, 0x2E, 0x5F, 0x7E]

/-- An upper-case hexadecimal digit. -/
def hexDigit (value : ℕ) : Char := Char.ofNat (if value < 10 then 48 + value else 55 + value)

/-- One byte of a component. -/
def encodeByte (byte : UInt8) : List Char :=
  if isUnreserved byte then [Char.ofNat byte.toNat]
  else ['%', hexDigit (byte.toNat / 16), hexDigit (byte.toNat % 16)]

/-- A component, percent-encoded over its bytes. -/
def encodeComponent (component : String) : List Char :=
  (utf8 component.toList).flatMap encodeByte

/-- The value of a hexadecimal digit of either case. -/
def decodeHex (byte : UInt8) : Option UInt8 :=
  if 0x30 ≤ byte && byte ≤ 0x39 then some (byte - 0x30)
  else if 0x61 ≤ byte && byte ≤ 0x66 then some (byte - 0x61 + 10)
  else if 0x41 ≤ byte && byte ≤ 0x46 then some (byte - 0x41 + 10)
  else none

/-- The bytes that percent escapes stand for; none for an escape that is cut
short or has no hexadecimal digits. -/
def decodeEscapes : List UInt8 → Option (List UInt8)
  | [] => some []
  | byte :: rest =>
      if byte ≠ 0x25 then (decodeEscapes rest).map (byte :: ·)
      else
        match rest with
        | high :: low :: rest =>
            (decodeHex high).bind fun high =>
              (decodeHex low).bind fun low =>
                (decodeEscapes rest).map ((high <<< 4 ||| low) :: ·)
        | _ => none

/-- The text of a component. -/
def decodeComponent (component : List Char) : Except String String :=
  match decodeEscapes (utf8 component) with
  | none =>
      .error ("invalid percent escape in selector component: " ++ String.ofList component)
  | some decoded =>
      match fromUtf8 decoded with
      | .error _ =>
          .error ("selector component is not valid UTF-8: " ++ String.ofList component)
      | .ok text => .ok (String.ofList text)

/-! ## Selectors

Writing and reading a selector, with the errors of the reader in the order of the
source. -/

/-- The identity of an item as the fragment of its selector. -/
def encodeCanonicalItemIdentityPath (identity : CanonicalItemIdentity) : List Char :=
  "item/".toList ++ encodeComponent identity.kind ++ '/' :: (encodeComponent identity.symbol ++
    identity.scopes.flatMap fun scope =>
      "/scope/".toList ++ encodeComponent scope.relation ++ '/' ::
        (encodeComponent scope.kind ++ '/' :: encodeComponent scope.symbol))

/-- The scopes of a selector, from the components after kind and symbol. -/
def parseScopes : List (List Char) → CanonicalItemIdentity → Except String CanonicalItemIdentity
  | [], identity => .ok identity
  | marker :: rest, identity =>
      if marker ≠ "scope".toList then
        .error ("canonical item selector contains an unexpected identity component: " ++
          String.ofList marker)
      else
        match rest with
        | [] => .error "canonical item selector scope is missing its relation"
        | relation :: rest => do
            let relation ← decodeComponent relation
            match rest with
            | [] => .error "canonical item selector scope is missing its kind"
            | kind :: rest => do
                let kind ← decodeComponent kind
                match rest with
                | [] => .error "canonical item selector scope is missing its symbol"
                | symbol :: rest => do
                    let symbol ← decodeComponent symbol
                    parseScopes rest (identity.withScope relation kind symbol)

/-- The identity in the fragment of a selector. -/
def parseIdentityPath (languageId : String) (identityPath : List Char) :
    Except String CanonicalItemIdentity :=
  match splitWhen (· = '/') identityPath with
  | [] => .error "canonical item selector is missing the item kind"
  | kind :: rest => do
      let kind ← decodeComponent kind
      match rest with
      | [] => .error "canonical item selector is missing the item symbol"
      | symbol :: rest => do
          let symbol ← decodeComponent symbol
          if languageId = "" || kind = "" || symbol = "" then
            .error "canonical item selector contains an empty identity component"
          else
            let identity ← parseScopes rest ⟨languageId, kind, symbol, []⟩
            identity.validate
            return identity

/-- Parse a selector into the identity it carries. -/
def parseCanonicalItemSelector (selector : String) : Except String CanonicalItemSelector :=
  match splitOnceSlice? "://".toList selector.toList with
  | none => .error "canonical item selector is missing the language scheme"
  | some (languageId, locator) =>
      match rsplitOnceSlice? "#item/".toList locator with
      | none => .error "canonical item selector is missing the item identity fragment"
      | some (_, identityPath) => do
          let identity ← parseIdentityPath (String.ofList languageId) identityPath
          return CanonicalItemSelector.new identity selector

/-- The selector text of an identity in an owner. -/
def structuralSelector (languageId path : String) (identity : CanonicalItemIdentity) : String :=
  languageId ++ "://" ++ path ++ "#" ++ String.ofList (encodeCanonicalItemIdentityPath identity)

/-- The item id derived from an encoded identity. -/
def itemId (identity : CanonicalItemIdentity) : List Char :=
  replaceChar '/' ':' (encodeCanonicalItemIdentityPath identity)

/-! ## One byte at a time

An unreserved byte stands for itself, and every other one for an escape of three
characters; both are decoded to the byte. -/

/-- What is written for a byte: ASCII, and none of the separators. -/
theorem encodeByte_chars (byte : UInt8) :
    ∀ c ∈ encodeByte byte, c.toNat ≤ 0x7F ∧ c ≠ '/' ∧ c ≠ '#' ∧ c ≠ ':' := by
  have hall : ∀ n : Fin 256, (encodeByte (UInt8.ofNat n.val)).all (fun c =>
      c.toNat ≤ 0x7F ∧ c ≠ '/' ∧ c ≠ '#' ∧ c ≠ ':') = true := by decide +kernel
  have hbyte := hall ⟨byte.toNat, byte.toNat_lt⟩
  rw [UInt8.ofNat_toNat] at hbyte
  intro c hc
  exact of_decide_eq_true (List.all_eq_true.mp hbyte c hc)

/-- An unreserved byte is written as itself, and is no escape. -/
theorem encodeByte_unreserved (byte : UInt8) (h : isUnreserved byte = true) :
    utf8 (encodeByte byte) = [byte] ∧ byte ≠ 0x25 := by
  have hall : ∀ n : Fin 256, isUnreserved (UInt8.ofNat n.val) = true →
      utf8 (encodeByte (UInt8.ofNat n.val)) = [UInt8.ofNat n.val] ∧ UInt8.ofNat n.val ≠ 0x25 := by
    decide +kernel
  have hbyte := hall ⟨byte.toNat, byte.toNat_lt⟩
  rw [UInt8.ofNat_toNat] at hbyte
  exact hbyte h

/-- The two digits of an escape. -/
def escapeDigits (byte : UInt8) : UInt8 × UInt8 :=
  (UInt8.ofNat (hexDigit (byte.toNat / 16)).toNat, UInt8.ofNat (hexDigit (byte.toNat % 16)).toNat)

/-- A reserved byte is written as an escape, whose digits give it back. -/
theorem encodeByte_reserved (byte : UInt8) (h : isUnreserved byte = false) :
    utf8 (encodeByte byte) = [0x25, (escapeDigits byte).1, (escapeDigits byte).2] ∧
      ((decodeHex (escapeDigits byte).1).bind fun high =>
        (decodeHex (escapeDigits byte).2).map fun low => high <<< 4 ||| low) = some byte := by
  have hall : ∀ n : Fin 256, isUnreserved (UInt8.ofNat n.val) = false →
      utf8 (encodeByte (UInt8.ofNat n.val)) =
          [0x25, (escapeDigits (UInt8.ofNat n.val)).1, (escapeDigits (UInt8.ofNat n.val)).2] ∧
        ((decodeHex (escapeDigits (UInt8.ofNat n.val)).1).bind fun high =>
          (decodeHex (escapeDigits (UInt8.ofNat n.val)).2).map fun low => high <<< 4 ||| low) =
            some (UInt8.ofNat n.val) := by
    decide +kernel
  have hbyte := hall ⟨byte.toNat, byte.toNat_lt⟩
  rw [UInt8.ofNat_toNat] at hbyte
  exact hbyte h

/-- The decoder reads an encoded byte back, whatever follows it. -/
theorem decodeEscapes_encodeByte (byte : UInt8) (rest : List UInt8) :
    decodeEscapes (utf8 (encodeByte byte) ++ rest) = (decodeEscapes rest).map (byte :: ·) := by
  cases hkind : isUnreserved byte with
  | true =>
      obtain ⟨hself, hplain⟩ := encodeByte_unreserved byte hkind
      rw [hself, List.singleton_append, decodeEscapes.eq_def]
      simp only [if_pos hplain]
  | false =>
      obtain ⟨hescape, hvalue⟩ := encodeByte_reserved byte hkind
      obtain ⟨high, hhigh, hrest⟩ := Option.bind_eq_some_iff.mp hvalue
      obtain ⟨low, hlow, hjoin⟩ := Option.map_eq_some_iff.mp hrest
      rw [hescape]
      simp only [List.cons_append, List.nil_append, decodeEscapes, ne_eq, not_true_eq_false,
        if_false, hhigh, hlow, Option.bind_some, hjoin]

/-! ## Components -/

/-- **A component is read back as it was.** -/
theorem decodeComponent_encodeComponent (component : String) :
    decodeComponent (encodeComponent component) = .ok component := by
  have hescapes : ∀ bytes : List UInt8, decodeEscapes (utf8 (bytes.flatMap encodeByte)) =
      some bytes := by
    intro bytes
    induction bytes with
    | nil => rfl
    | cons byte rest ih =>
        rw [List.flatMap_cons, utf8_append, decodeEscapes_encodeByte, ih]
        rfl
  rw [decodeComponent, encodeComponent, hescapes]
  simp only [fromUtf8_utf8, String.ofList_toList]

theorem encodeComponent_injective : Function.Injective encodeComponent := by
  intro first second h
  have hsame := decodeComponent_encodeComponent first
  rw [h, decodeComponent_encodeComponent] at hsame
  exact (Except.ok.inj hsame).symm

/-- A component has none of the separators in it. -/
theorem mem_encodeComponent {component : String} {c : Char} (hc : c ∈ encodeComponent component) :
    c ≠ '/' ∧ c ≠ '#' ∧ c ≠ ':' := by
  obtain ⟨byte, -, hmem⟩ := List.mem_flatMap.mp hc
  exact (encodeByte_chars byte c hmem).2

/-- The components of a selector after `item/`, in order. -/
def identityComponents (identity : CanonicalItemIdentity) : List (List Char) :=
  encodeComponent identity.kind :: encodeComponent identity.symbol ::
    identity.scopes.flatMap fun scope =>
      ["scope".toList, encodeComponent scope.relation, encodeComponent scope.kind,
        encodeComponent scope.symbol]

/-- The text of components, each after a slash. -/
def slashed (components : List (List Char)) : List Char := components.flatMap ('/' :: ·)

theorem slashed_append (first second : List (List Char)) :
    slashed (first ++ second) = slashed first ++ slashed second := by
  simp [slashed]

/-- An encoded identity is `item` and its components, separated by slashes. -/
theorem encodeCanonicalItemIdentityPath_eq (identity : CanonicalItemIdentity) :
    encodeCanonicalItemIdentityPath identity =
      "item".toList ++ slashed (identityComponents identity) := by
  have hscopes : ∀ scopes : List CanonicalItemScope,
      (scopes.flatMap fun scope => "/scope/".toList ++ encodeComponent scope.relation ++ '/' ::
          (encodeComponent scope.kind ++ '/' :: encodeComponent scope.symbol)) =
        slashed (scopes.flatMap fun scope => ["scope".toList, encodeComponent scope.relation,
          encodeComponent scope.kind, encodeComponent scope.symbol]) := by
    intro scopes
    induction scopes with
    | nil => rfl
    | cons scope rest ih =>
        rw [List.flatMap_cons, List.flatMap_cons, slashed_append, ih]
        simp [slashed]
  rw [encodeCanonicalItemIdentityPath, identityComponents, hscopes]
  simp [slashed]

theorem mem_identityComponents {identity : CanonicalItemIdentity} {component : List Char}
    (h : component ∈ identityComponents identity) :
    ∀ c ∈ component, c ≠ '/' ∧ c ≠ '#' ∧ c ≠ ':' := by
  simp only [identityComponents, List.mem_cons, List.mem_flatMap] at h
  intro c hc
  rcases h with rfl | rfl | ⟨scope, -, h⟩
  · exact mem_encodeComponent hc
  · exact mem_encodeComponent hc
  · simp only [List.not_mem_nil, or_false] at h
    rcases h with rfl | rfl | rfl | rfl
    · have hscope : ("scope".toList).all (fun c => c ≠ '/' ∧ c ≠ '#' ∧ c ≠ ':') = true := by decide
      exact of_decide_eq_true (List.all_eq_true.mp hscope c hc)
    · exact mem_encodeComponent hc
    · exact mem_encodeComponent hc
    · exact mem_encodeComponent hc

/-- Splitting at slashes gives the components back. -/
theorem splitWhen_slashed {first : List Char} {components : List (List Char)}
    (h : ∀ component ∈ first :: components, ∀ c ∈ component, c ≠ '/') :
    splitWhen (· = '/') (first ++ slashed components) = first :: components := by
  induction components generalizing first with
  | nil =>
      have hfirst := h first List.mem_cons_self
      rw [slashed, List.flatMap_nil, List.append_nil]
      exact splitWhen_of_notMem fun c hc => by simpa using hfirst c hc
  | cons second rest ih =>
      have hfirst := h first List.mem_cons_self
      have hrest := ih fun component hmem => h component (List.mem_cons_of_mem _ hmem)
      rw [slashed, List.flatMap_cons, List.cons_append,
        splitWhen_append_cons (fun c hc => by simpa using hfirst c hc) (by simp)]
      exact congrArg (first :: ·) hrest

/-- The components determine everything but the language. -/
theorem identityComponents_injective {first second : CanonicalItemIdentity}
    (hlanguage : first.languageId = second.languageId)
    (h : identityComponents first = identityComponents second) : first = second := by
  have hscopes : ∀ left right : List CanonicalItemScope,
      (left.flatMap fun scope => ["scope".toList, encodeComponent scope.relation,
          encodeComponent scope.kind, encodeComponent scope.symbol]) =
        (right.flatMap fun scope => ["scope".toList, encodeComponent scope.relation,
          encodeComponent scope.kind, encodeComponent scope.symbol]) → left = right := by
    intro left
    induction left with
    | nil =>
        intro right heq
        cases right with
        | nil => rfl
        | cons scope rest => simp at heq
    | cons scope rest ih =>
        intro right heq
        cases right with
        | nil => simp at heq
        | cons other others =>
            simp only [List.flatMap_cons, List.cons_append, List.nil_append, List.cons.injEq,
              true_and] at heq
            obtain ⟨hrelation, hkind, hsymbol, hrest⟩ := heq
            have hscope : scope = other := by
              cases scope
              cases other
              simp_all [encodeComponent_injective.eq_iff]
            rw [hscope, ih others hrest]
  simp only [identityComponents, List.cons.injEq] at h
  obtain ⟨hkind, hsymbol, hrest⟩ := h
  have hsame := hscopes _ _ hrest
  cases first
  cases second
  simp_all [encodeComponent_injective.eq_iff]

/-! ## Injectivity

The components of an encoded identity are the pieces of the text between slashes, and
each of them is decoded to one text. -/

/-- **Equal encodings of one language are equal identities.** -/
theorem encode_injective_of_language {first second : CanonicalItemIdentity}
    (hlanguage : first.languageId = second.languageId)
    (h : encodeCanonicalItemIdentityPath first = encodeCanonicalItemIdentityPath second) :
    first = second := by
  rw [encodeCanonicalItemIdentityPath_eq, encodeCanonicalItemIdentityPath_eq] at h
  refine identityComponents_injective hlanguage ?_
  have hpieces : ∀ identity : CanonicalItemIdentity,
      splitWhen (· = '/') ("item".toList ++ slashed (identityComponents identity)) =
        "item".toList :: identityComponents identity := by
    intro identity
    refine splitWhen_slashed fun component hmem => ?_
    rcases List.mem_cons.mp hmem with rfl | hmem
    · have hitem : ("item".toList).all (fun c => c ≠ '/') = true := by decide
      exact fun c hc => of_decide_eq_true (List.all_eq_true.mp hitem c hc)
    · exact fun c hc => (mem_identityComponents hmem c hc).1
  have hsplit := congrArg (splitWhen (· = '/')) h
  rw [hpieces, hpieces] at hsplit
  exact (List.cons.inj hsplit).2

/-- An encoded identity has no colon, so turning slashes into colons loses
nothing. -/
theorem itemId_injective {first second : CanonicalItemIdentity}
    (h : itemId first = itemId second) :
    encodeCanonicalItemIdentityPath first = encodeCanonicalItemIdentityPath second := by
  have hcolon : ∀ identity : CanonicalItemIdentity,
      ':' ∉ encodeCanonicalItemIdentityPath identity := by
    intro identity hmem
    rw [encodeCanonicalItemIdentityPath_eq, List.mem_append] at hmem
    rcases hmem with hmem | hmem
    · revert hmem
      decide
    · obtain ⟨component, hcomponent, hc⟩ := List.mem_flatMap.mp hmem
      rcases List.mem_cons.mp hc with hslash | hc
      · exact absurd hslash (by decide)
      · exact (mem_identityComponents hcomponent _ hc).2.2 rfl
  have hback : ∀ text : List Char, ':' ∉ text →
      replaceChar ':' '/' (replaceChar '/' ':' text) = text := by
    intro text hfree
    rw [replaceChar, replaceChar, List.map_map]
    refine (List.map_congr_left fun c hc => ?_).trans (List.map_id text)
    have hne : c ≠ ':' := fun heq => hfree (heq ▸ hc)
    by_cases hslash : c = '/' <;> simp [hslash, hne]
  rw [← hback _ (hcolon first), ← hback _ (hcolon second)]
  exact congrArg (replaceChar ':' '/') h

/-! ## The round trip

The reader cuts a selector at its scheme and at its fragment, and the fragment at
slashes.  The pieces come in groups of four behind the first three, one for each scope. -/

/-- Parsing the scopes of an encoded identity appends them in order. -/
theorem parseScopes_encoded (scopes : List CanonicalItemScope)
    (identity : CanonicalItemIdentity) :
    parseScopes (scopes.flatMap fun scope => ["scope".toList, encodeComponent scope.relation,
        encodeComponent scope.kind, encodeComponent scope.symbol]) identity =
      .ok { identity with scopes := identity.scopes ++ scopes } := by
  induction scopes generalizing identity with
  | nil => simp [parseScopes]
  | cons scope rest ih =>
      rw [List.flatMap_cons, List.cons_append, parseScopes.eq_def]
      simp only [ne_eq, not_true_eq_false, if_false, List.cons_append, List.nil_append,
        decodeComponent_encodeComponent, bind, Except.bind]
      rw [ih, CanonicalItemIdentity.withScope]
      simp

theorem requireNotBlank_eq_ok {message : String → String} {fields : List (String × String)} :
    CanonicalItemIdentity.requireNotBlank message fields = .ok () ↔
      ∀ field ∈ fields, trim field.2.toList ≠ [] := by
  unfold CanonicalItemIdentity.requireNotBlank
  cases hfind : fields.find? fun field => trim field.2.toList = [] with
  | none => simpa using List.find?_eq_none.mp hfind
  | some field =>
      have hblank := List.find?_some hfind
      have hmem := List.mem_of_find?_eq_some hfind
      simp only [reduceCtorEq, false_iff]
      intro h
      exact h field hmem (by simpa using hblank)

/-- A valid identity has no empty component. -/
theorem ne_empty_of_validate {identity : CanonicalItemIdentity}
    (hvalid : identity.validate = .ok ()) :
    identity.languageId ≠ "" ∧ identity.kind ≠ "" ∧ identity.symbol ≠ "" := by
  obtain ⟨_, hown, -⟩ := Except.bind_eq_ok.mp hvalid
  have hfields := requireNotBlank_eq_ok.mp hown
  refine ⟨?_, ?_, ?_⟩
  · rintro hempty
    exact hfields ("languageId", identity.languageId) (by simp) (by simp [hempty, trim])
  · rintro hempty
    exact hfields ("kind", identity.kind) (by simp) (by simp [hempty, trim])
  · rintro hempty
    exact hfields ("symbol", identity.symbol) (by simp) (by simp [hempty, trim])

/-- The fragment of a valid identity parses to the identity. -/
theorem parseIdentityPath_encoded {identity : CanonicalItemIdentity}
    (hvalid : identity.validate = .ok ()) :
    parseIdentityPath identity.languageId (slashed (identityComponents identity)).tail =
      .ok identity := by
  obtain ⟨hlanguage, hkind, hsymbol⟩ := ne_empty_of_validate hvalid
  have htail : (slashed (identityComponents identity)).tail =
      encodeComponent identity.kind ++ slashed (identityComponents identity).tail := rfl
  have hsplit : splitWhen (· = '/') (slashed (identityComponents identity)).tail =
      identityComponents identity := by
    rw [htail]
    exact splitWhen_slashed fun component hmem c hc => (mem_identityComponents hmem c hc).1
  unfold parseIdentityPath
  rw [hsplit, identityComponents]
  simp only [decodeComponent_encodeComponent, bind, Except.bind, hlanguage, hkind, hsymbol,
    decide_false, Bool.or_self, Bool.false_eq_true, if_false, parseScopes_encoded,
    List.nil_append, hvalid, pure, Except.pure]

/-- The first `://` after a text without one is the one that follows it. -/
theorem findSlice_scheme {languageId : List Char} (rest : List Char)
    (hfree : containsSlice "://".toList languageId = false) :
    findSlice "://".toList (languageId ++ "://".toList ++ rest) = some languageId.length := by
  have hnone : findSlice "://".toList languageId = none := by
    simpa [containsSlice] using hfree
  clear hfree
  induction languageId with
  | nil => simp [findSlice]
  | cons c tail ih =>
      rw [findSlice] at hnone
      split at hnone
      · cases hnone
      · next hfront =>
          have hrest := ih (by simpa using hnone)
          have hnot : ¬ "://".toList.isPrefixOf (c :: (tail ++ "://".toList ++ rest)) = true := by
            intro hbegin
            refine hfront ?_
            -- with fewer than two characters left, the second or third one is a colon
            rcases tail with _ | ⟨second, _ | ⟨third, more⟩⟩
            · simp at hbegin
            · simp at hbegin
            · simpa using hbegin
          rw [List.cons_append, List.cons_append, findSlice, if_neg hnot, hrest]
          rfl

/-- **Round trip.**  Whatever the owner path, the selector of a valid identity
parses to that identity. -/
theorem parseCanonicalItemSelector_structuralSelector {identity : CanonicalItemIdentity}
    (hvalid : identity.validate = .ok ())
    (hscheme : containsSlice "://".toList identity.languageId.toList = false) (path : String) :
    parseCanonicalItemSelector (structuralSelector identity.languageId path identity) =
      .ok (CanonicalItemSelector.new identity
        (structuralSelector identity.languageId path identity)) := by
  generalize hselector : structuralSelector identity.languageId path identity = selector
  have htext : selector.toList = identity.languageId.toList ++ "://".toList ++
      (path.toList ++ "#item/".toList ++ (slashed (identityComponents identity)).tail) := by
    rw [← hselector, structuralSelector, encodeCanonicalItemIdentityPath_eq]
    simp [slashed, identityComponents]
  have hfirst : splitOnceSlice? "://".toList selector.toList =
      some (identity.languageId.toList,
        path.toList ++ "#item/".toList ++ (slashed (identityComponents identity)).tail) := by
    rw [htext]
    exact splitOnceSlice?_of_findSlice (findSlice_scheme _ hscheme)
  have hfresh : '#' ∉ (slashed (identityComponents identity)).tail := by
    intro hmem
    obtain ⟨component, hcomponent, hc⟩ := List.mem_flatMap.mp (List.mem_of_mem_tail hmem)
    rcases List.mem_cons.mp hc with hslash | hc
    · exact absurd hslash (by decide)
    · exact (mem_identityComponents hcomponent _ hc).2.1 rfl
  have hlast : rsplitOnceSlice? "#item/".toList
      (path.toList ++ "#item/".toList ++ (slashed (identityComponents identity)).tail) =
        some (path.toList, (slashed (identityComponents identity)).tail) := by
    generalize (slashed (identityComponents identity)).tail = fragment at hfresh
    have hfind : findSlice ("/meti".toList ++ ['#'])
        (fragment.reverse ++ ("/meti".toList ++ ['#']) ++ path.toList.reverse) =
          some fragment.reverse.length :=
      findSlice_of_fresh_last _ (by simpa using hfresh) (by decide)
    rw [rsplitOnceSlice?, List.reverse_append, List.reverse_append, ← List.append_assoc,
      show "#item/".toList.reverse = "/meti".toList ++ ['#'] from rfl,
      splitOnceSlice?_of_findSlice hfind]
    simp
  unfold parseCanonicalItemSelector
  rw [hfirst]
  simp only [hlast, String.ofList_toList, parseIdentityPath_encoded hvalid, bind, Except.bind]
  rfl

/-- **The selector codec.**  For every identity that validation accepts, whose language
has no `://` in it, and every owner path, parsing the selector gives the identity back;
and within one language both the encoded identity and the item id derived from it
determine the identity.

Every component is percent-encoded, so a separator in the text is one of the format.
The language is the scheme of the selector and no part of the encoded identity, which is
why two languages are not told apart by it. -/
theorem structuralSelector_codec :
    (∀ (identity : CanonicalItemIdentity) (path : String), identity.validate = .ok () →
      containsSlice "://".toList identity.languageId.toList = false →
      ∃ selector,
        parseCanonicalItemSelector (structuralSelector identity.languageId path identity) =
          .ok selector ∧ selector.identity = identity) ∧
    (∀ first second : CanonicalItemIdentity, first.validate = .ok () → second.validate = .ok () →
      first.languageId = second.languageId →
      encodeCanonicalItemIdentityPath first = encodeCanonicalItemIdentityPath second →
      first = second) ∧
    (∀ first second : CanonicalItemIdentity, first.validate = .ok () → second.validate = .ok () →
      first.languageId = second.languageId → itemId first = itemId second → first = second) := by
  refine ⟨?_, ?_, ?_⟩
  · intro identity path hvalid hscheme
    exact ⟨_, parseCanonicalItemSelector_structuralSelector hvalid hscheme path, rfl⟩
  · intro first second _ _ hlanguage hencoded
    exact encode_injective_of_language hlanguage hencoded
  · intro first second _ _ hlanguage hid
    exact encode_injective_of_language hlanguage (itemId_injective hid)

/-- A method under a condition, in an owner whose path has both separators in
it. -/
def gatedMethod : CanonicalItemIdentity where
  languageId := "rust"
  kind := "method"
  symbol := "parse"
  scopes := [⟨"implementation-owner", "type", "Vec<u8>"⟩,
    ⟨"conditional-compilation", "cfg", "not (feature = \"é/#\")"⟩]

theorem structuralSelector_gatedMethod :
    gatedMethod.validate = .ok () ∧ ∃ selector,
      parseCanonicalItemSelector (structuralSelector "rust" "a://b#item/c.rs" gatedMethod) =
        .ok selector ∧ selector.identity = gatedMethod :=
  ⟨by decide +kernel, structuralSelector_codec.1 gatedMethod "a://b#item/c.rs" (by decide +kernel)
    (by decide)⟩

/-- Identities of two languages have one encoding: the language is the scheme of
the selector and no part of the fragment. -/
theorem encode_not_injective_across_languages :
    ¬ ∀ first second : CanonicalItemIdentity, first.validate = .ok () → second.validate = .ok () →
      encodeCanonicalItemIdentityPath first = encodeCanonicalItemIdentityPath second →
      first = second := by
  intro h
  have hsame := h ⟨"rust", "function", "run", []⟩ ⟨"python", "function", "run", []⟩
    (by decide +kernel) (by decide +kernel) rfl
  revert hsame
  decide

end AspRust.Provider
