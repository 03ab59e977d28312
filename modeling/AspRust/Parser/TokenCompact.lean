import AspRust.Foundation.Replacement
import AspRust.Foundation.TextSlices

/-!
# Compact token texts

A rendered token stream has a space between any two tokens.  `compactRustTokens` makes it
readable: literals are cut out and numbered placeholders left in their places, the rest is
rewritten by a list of textual replacements, and the literals are put back, long ones as a
summary.

Literals are found in the bytes of the text and cut out by byte offsets, so the model works on
offsets too, and a cut inside a character is a panic.
-/

namespace AspRust.Parser

open AspRust.Foundation

/-! ## Literals -/

inductive LiteralKind where
  | string
  | byteString
  | rawString
  | rawByteString
  | char
  | byteChar
deriving DecidableEq, Repr

def literalKindLabel : LiteralKind → String
  | .string => "string"
  | .byteString => "byte-string"
  | .rawString => "raw-string"
  | .rawByteString => "raw-byte-string"
  | .char => "char"
  | .byteChar => "byte-char"

/-- The 32-bit FNV-1a hash of the bytes, in hexadecimal digits. -/
def literalHash (value : List Char) : List Char :=
  let hash := (utf8 value).foldl
    (fun hash byte => (hash ^^^ byte.toUInt32) * 16777619) (2166136261 : UInt32)
  Nat.toDigits 16 hash.toNat

/-- A literal without white space is kept, any other is summarized. -/
def literalProjection (kind : LiteralKind) (token : List Char) : List Char :=
  if ¬ token.any isWhitespace then token
  else
    let lines := ((utf8 token).filter (· = 10)).length + 1
    (literalKindLabel kind).toList ++ "[lines=".toList ++ Nat.toDigits 10 lines ++
      ",bytes=".toList ++ Nat.toDigits 10 (utf8Length token) ++
      ",hash=".toList ++ literalHash token ++ [']']

example : literalProjection .string "\"a b\"".toList =
    "string[lines=1,bytes=5,hash=b0303b50]".toList := by decide +kernel

/-- The end of a raw literal: a quote and as many hashes as it has at its front.  The bytes are
those from `cursor` on. -/
def rawEnd? (hashes : ℕ) : ℕ → List UInt8 → Option ℕ
  | _, [] => none
  | cursor, byte :: bytes =>
      if byte = 34 ∧ hashes ≤ bytes.length ∧ (bytes.take hashes).all (· = 35) then
        some (cursor + 1 + hashes)
      else rawEnd? hashes (cursor + 1) bytes

def takeRawLiteral (rest : List Char) (prefixLen : ℕ) (kind : LiteralKind) :
    Option (ℕ × LiteralKind) :=
  let bytes := utf8 rest
  let hashes := ((bytes.drop prefixLen).takeWhile (· = 35)).length
  let cursor := prefixLen + hashes
  if bytes[cursor]? ≠ some 34 then none
  else (rawEnd? hashes (cursor + 1) (bytes.drop (cursor + 1))).map fun literalLen =>
    (literalLen, kind)

/-- The end of a quoted literal; the characters are those from `cursor` on. -/
def quotedEnd? (quote : UInt8) : Bool → ℕ → List Char → Option ℕ
  | _, _, [] => none
  | escaped, cursor, ch :: chars =>
      if escaped then quotedEnd? quote false (cursor + ch.utf8Size) chars
      else if ch = '\\' then quotedEnd? quote true (cursor + ch.utf8Size) chars
      else if ch.utf8Size = 1 ∧ UInt8.ofNat ch.toNat = quote then some (cursor + 1)
      else quotedEnd? quote false (cursor + ch.utf8Size) chars

def takeQuotedLiteral (rest : List Char) (prefixLen : ℕ) (quote : UInt8) (kind : LiteralKind) :
    Outcome (Option (ℕ × LiteralKind)) :=
  if (utf8 rest)[prefixLen]? ≠ some quote then .ok none
  else
    -- the loop cuts at its cursor in every round; after the first cut these are tails of it
    (sliceFrom rest (prefixLen + 1)).map fun chars =>
      (quotedEnd? quote false (prefixLen + 1) chars).map fun literalLen => (literalLen, kind)

def takeCharLiteral (rest : List Char) (prefixLen : ℕ) (kind : LiteralKind) :
    Outcome (Option (ℕ × LiteralKind)) := do
  match ← takeQuotedLiteral rest prefixLen 39 kind with
  | none => .ok none
  | some (literalLen, kind) =>
      let body ← sliceRange rest (prefixLen + 1) (literalLen - 1)
      .ok (if body.head? = some '\\' ∨ body.length = 1 then some (literalLen, kind) else none)

/-- A literal that is found where the text starts as its kind does; else the next one. -/
def takeOr (rest : List Char) (first : Outcome (Option (ℕ × LiteralKind))) (start : String)
    (next : Outcome (Option (ℕ × LiteralKind))) : Outcome (Option (ℕ × LiteralKind)) := do
  match (← first).filter fun _ => start.toList.isPrefixOf rest with
  | some found => .ok (some found)
  | none => next

/-- The kinds are tried in turn; the last two need no start of their own. -/
def takeLiteral (rest : List Char) : Outcome (Option (ℕ × LiteralKind)) :=
  takeOr rest (.ok (takeRawLiteral rest 2 .rawByteString)) "br" <|
  takeOr rest (.ok (takeRawLiteral rest 2 .rawString)) "cr" <|
  takeOr rest (.ok (takeRawLiteral rest 1 .rawString)) "r" <|
  takeOr rest (takeQuotedLiteral rest 1 34 .byteString) "b" <|
  takeOr rest (takeQuotedLiteral rest 1 34 .string) "c" <|
  takeOr rest (takeCharLiteral rest 1 .byteChar) "b" <|
  takeOr rest (takeQuotedLiteral rest 0 34 .string) "" <|
  takeCharLiteral rest 0 .char

/-! ## Compaction -/

def literalPlaceholder (index : ℕ) : List Char :=
  "__ASP_LITERAL_".toList ++ Nat.toDigits 10 index ++ "__".toList

/-- Cut out the literals from `cursor` on; a round that goes on passes at least one byte. -/
def cutLiterals (value : List Char) :
    ℕ → ℕ → List Char → List (List Char) → Outcome (List Char × List (List Char))
  | 0, cursor, literalSafe, literals =>
      if cursor < utf8Length value then .error .exhausted else .ok (literalSafe, literals)
  | fuel + 1, cursor, literalSafe, literals =>
      if cursor < utf8Length value then do
        let rest ← sliceFrom value cursor
        match ← takeLiteral rest with
        | some (literalLen, kind) =>
            let token ← sliceTo rest literalLen
            cutLiterals value fuel (cursor + literalLen)
              (literalSafe ++ literalPlaceholder literals.length)
              (literals ++ [literalProjection kind token])
        | none =>
            match rest with
            | ch :: _ =>
                cutLiterals value fuel (cursor + ch.utf8Size) (literalSafe ++ [ch]) literals
            | [] => .ok (literalSafe, literals)
      else .ok (literalSafe, literals)

def compactionRules : List (String × String) :=
  [(" :: ", "::"), (" (", "("), ("( ", "("), (" )", ")"), (" [", "["), ("[ ", "["), (" ]", "]"),
    (" ,", ","), (",)", ")"), (" ;", ";"), (" :", ":"), (" & ", "&"), ("& ", "&"),
    (" * ", " *"), (" !", "!"), (" . ", "."), (" <", "<"), ("< ", "<"), (" >", ">"),
    (" < ", "<"), (" > ", ">"), (":&", ": &"), ("->&", "-> &"), ("->(", "-> (")]

/-- The text between the literals, made readable. -/
def compactCode (literalSafe : List Char) : List Char :=
  compactionRules.foldl
    (fun compacted rule => replaceAll rule.1.toList rule.2.toList compacted)
    (List.intercalate [' '] (splitWhitespace literalSafe))

def restoreLiterals (literals : List (List Char)) (compacted : List Char) : List Char :=
  literals.zipIdx.foldl
    (fun compacted literal => replaceAll (literalPlaceholder literal.2) literal.1 compacted)
    compacted

def compactRustTokens (value : List Char) : Outcome (List Char) := do
  let (literalSafe, literals) ← cutLiterals value (utf8Length value) 0 [] []
  .ok (restoreLiterals literals (compactCode literalSafe))

example : compactRustTokens "f ( \"x\" , 'a' , )".toList = .ok "f(\"x\", 'a')".toList := by
  decide +kernel

end AspRust.Parser
