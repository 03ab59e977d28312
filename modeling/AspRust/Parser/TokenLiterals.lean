import AspRust.Foundation.Placeholders
import AspRust.Parser.TokenCompact

/-!
# The literals of a token text

`lexed` cuts a text into code and literals, in the order of the text (`lexed_text`).  Cutting out
literals never cuts inside a character and comes to an end; what it leaves is the code with
numbered placeholders, and what it takes are the literals in order (`cutLiterals_eq`).

### What is load-bearing

The scanner looks at bytes and cuts at bytes.  That it never cuts inside a character is a
consequence of what it looks for: quotes, hashes and letters of the prefixes are ASCII
(`Foundation.TextSlices`).
-/

namespace AspRust.Parser

open AspRust.Foundation AspRust.Foundation.Placeholders

/-! ## Where literals end

Every literal ends with a quote, or with a hash if it is raw.  The scanner returns an
offset in bytes, and what is shown of it is that it is behind such a character, so that
it lies on a boundary. -/

/-- An offset is behind a character with which literals end. -/
def EndsAt (rest : List Char) (stop : ℕ) : Prop :=
  ∃ body c after, rest = body ++ c :: after ∧ utf8Length body + c.utf8Size = stop ∧
    c ∈ ['"', '\'', '#']

/-- A literal was found, and the text starts as literals do. -/
def IsFound (rest : List Char) (found : ℕ × LiteralKind) : Prop :=
  EndsAt rest found.1 ∧ ∃ c after, rest = c :: after ∧ c ∈ ['b', 'c', 'r', '"', '\'']

theorem rawEnd?_eq_some {hashes cursor stop : ℕ} {bytes : List UInt8}
    (h : rawEnd? hashes cursor bytes = some stop) :
    ∃ before after, bytes = before ++ 34 :: (List.replicate hashes 35 ++ after) ∧
      stop = cursor + before.length + 1 + hashes := by
  induction bytes generalizing cursor with
  | nil => cases h
  | cons byte bytes ih =>
      rw [rawEnd?] at h
      split at h
      · next hquote =>
          obtain ⟨rfl, hlength, hall⟩ := hquote
          obtain rfl := Option.some.inj h
          have hhashes : bytes.take hashes = List.replicate hashes 35 := by
            refine List.eq_replicate_iff.mpr ⟨List.length_take_of_le hlength, fun byte hmem => ?_⟩
            exact of_decide_eq_true (List.all_eq_true.mp hall byte hmem)
          refine ⟨[], bytes.drop hashes, ?_, rfl⟩
          rw [← hhashes, List.take_append_drop]
          rfl
      · obtain ⟨before, after, rfl, rfl⟩ := ih h
        refine ⟨byte :: before, after, rfl, ?_⟩
        rw [List.length_cons]
        omega

theorem endsAt_of_takeRawLiteral {rest : List Char} {prefixLen : ℕ} {kind : LiteralKind}
    {found : ℕ × LiteralKind} (h : takeRawLiteral rest prefixLen kind = some found) :
    EndsAt rest found.1 := by
  unfold takeRawLiteral at h
  dsimp only at h
  generalize hhashes : (((utf8 rest).drop prefixLen).takeWhile (· = 35)).length = hashes at h
  split at h
  · cases h
  · next hquote =>
      obtain ⟨stop, hstop, rfl⟩ := Option.map_eq_some_iff.mp h
      obtain ⟨before, after, hbytes, rfl⟩ := rawEnd?_eq_some hstop
      have hlength : prefixLen + hashes < (utf8 rest).length :=
        (List.getElem?_eq_some_iff.mp (not_not.mp hquote)).1
      have hrest : utf8 rest = ((utf8 rest).take (prefixLen + hashes + 1) ++ before) ++
          34 :: (List.replicate hashes 35 ++ after) := by
        rw [List.append_assoc, ← hbytes, List.take_append_drop]
      obtain ⟨front, c, back, rfl, hfront, hback, hc⟩ := exists_char_of_byte hrest (by decide)
      obtain ⟨back', rfl, -⟩ := exists_chars_of_bytes hback (by
        intro byte hmem
        rw [List.eq_of_mem_replicate hmem]
        decide)
      obtain rfl : c = '"' := Char.toNat_inj.mp hc
      have hstart : utf8Length front = prefixLen + hashes + 1 + before.length := by
        rw [← length_utf8, hfront, List.length_append, List.length_take_of_le hlength]
      rw [List.map_replicate]
      cases hashes with
      | zero => exact ⟨front, '"', back', rfl, by rw [hstart]; rfl, by decide⟩
      | succ hashes =>
          -- the last hash ends the literal
          refine ⟨front ++ '"' :: List.replicate hashes '#', '#', back', ?_, ?_, by decide⟩
          · have hsharp : Char.ofNat (35 : UInt8).toNat = '#' := rfl
            rw [hsharp, List.replicate_succ']
            simp
          · have hsharps : utf8Length (List.replicate hashes '#') = hashes := by
              rw [utf8Length_of_ascii, List.length_replicate]
              intro c hmem
              rw [List.eq_of_mem_replicate hmem]
              decide
            rw [utf8Length_append, utf8Length_cons, hsharps, hstart]
            show _ + (1 + hashes) + 1 = _
            omega

/-! ## Quoted literals

The scanner goes on from the opening quote and jumps over what is escaped.  A character
literal is one whose body is a single character or an escape, otherwise the quote is
that of a lifetime. -/

theorem quotedEnd?_eq_some {quote : Char} (hquote : quote.toNat ≤ 0x7F) {escaped : Bool}
    {cursor stop : ℕ} {chars : List Char}
    (h : quotedEnd? (UInt8.ofNat quote.toNat) escaped cursor chars = some stop) :
    ∃ body after, chars = body ++ quote :: after ∧ stop = cursor + utf8Length body + 1 := by
  induction chars generalizing escaped cursor with
  | nil => cases h
  | cons ch chars ih =>
      have hnext : ∀ {escaped}, quotedEnd? (UInt8.ofNat quote.toNat) escaped
          (cursor + ch.utf8Size) chars = some stop →
          ∃ body after, ch :: chars = body ++ quote :: after ∧
            stop = cursor + utf8Length body + 1 := by
        intro escaped h
        obtain ⟨body, after, rfl, rfl⟩ := ih h
        exact ⟨ch :: body, after, rfl, by rw [utf8Length_cons]; omega⟩
      rw [quotedEnd?] at h
      split at h
      · exact hnext h
      · split at h
        · exact hnext h
        · split at h
          · next hend =>
              obtain rfl := Option.some.inj h
              have hascii : ch.toNat ≤ 0x7F :=
                UInt32.le_iff_toNat_le.mp (Char.utf8Size_eq_one_iff.mp hend.1)
              have hsame : ch.toNat = quote.toNat := by
                have hnat := congrArg UInt8.toNat hend.2
                rwa [UInt8.toNat_ofNat_of_lt' (by show _ < 256; omega),
                  UInt8.toNat_ofNat_of_lt' (by show _ < 256; omega)] at hnat
              exact ⟨[], chars, by rw [Char.toNat_inj.mp hsame]; rfl, rfl⟩
          · exact hnext h

/-- A quoted literal is looked for without a cut inside a character, and ends with its quote. -/
theorem takeQuotedLiteral_spec (rest : List Char) (prefixLen : ℕ) {quote : Char}
    (hquote : quote.toNat ≤ 0x7F) (kind : LiteralKind) :
    takeQuotedLiteral rest prefixLen (UInt8.ofNat quote.toNat) kind = .ok none ∨
    ∃ front body after, rest = front ++ quote :: (body ++ quote :: after) ∧
      utf8Length front = prefixLen ∧
      takeQuotedLiteral rest prefixLen (UInt8.ofNat quote.toNat) kind =
        .ok (some (prefixLen + 1 + utf8Length body + 1, kind)) := by
  unfold takeQuotedLiteral
  split
  · exact Or.inl rfl
  · next hfound =>
      have hbyte := not_not.mp hfound
      have hsize : (UInt8.ofNat quote.toNat).toNat = quote.toNat :=
        UInt8.toNat_ofNat_of_lt' (by show _ < 256; omega)
      have hlength : prefixLen < (utf8 rest).length := (List.getElem?_eq_some_iff.mp hbyte).1
      have hsplit : utf8 rest = (utf8 rest).take prefixLen ++
          UInt8.ofNat quote.toNat :: (utf8 rest).drop (prefixLen + 1) := by
        rw [← (List.getElem?_eq_some_iff.mp hbyte).2, ← List.drop_eq_getElem_cons hlength,
          List.take_append_drop]
      obtain ⟨front, c, chars, rfl, hfront, -, hc⟩ := exists_char_of_byte hsplit (by omega)
      obtain rfl : c = quote := Char.toNat_inj.mp (hc.trans hsize)
      have hstart : utf8Length front = prefixLen := by
        rw [← length_utf8, hfront, List.length_take_of_le hlength.le]
      have hcut : sliceFrom (front ++ c :: chars) (prefixLen + 1) = .ok chars := by
        have hone : c.utf8Size = 1 := by
          rw [← String.length_utf8EncodeChar, utf8EncodeChar_ascii hquote]
          rfl
        have h := sliceFrom_append (front ++ [c]) chars
        rw [utf8Length_append, utf8Length_cons, hone, hstart, List.append_assoc] at h
        exact h
      rw [hcut]
      cases hend : quotedEnd? (UInt8.ofNat c.toNat) false (prefixLen + 1) chars with
      | none =>
          left
          show Except.ok (Option.map _ (quotedEnd? _ _ _ _)) = _
          rw [hend]
          rfl
      | some stop =>
          obtain ⟨body, after, rfl, rfl⟩ := quotedEnd?_eq_some hquote hend
          refine Or.inr ⟨front, body, after, rfl, hstart, ?_⟩
          show Except.ok (Option.map _ (quotedEnd? _ _ _ _)) = _
          rw [hend]
          rfl

theorem utf8Size_of_ascii {c : Char} (hascii : c.toNat ≤ 0x7F) : c.utf8Size = 1 :=
  Char.utf8Size_eq_one_iff.mpr (UInt32.le_iff_toNat_le.mpr hascii)

/-- A character literal is a quoted literal with a short body. -/
theorem takeCharLiteral_spec (rest : List Char) (prefixLen : ℕ) (kind : LiteralKind) :
    takeCharLiteral rest prefixLen kind = .ok none ∨
    ∃ front body after, rest = front ++ '\'' :: (body ++ '\'' :: after) ∧
      utf8Length front = prefixLen ∧
      takeCharLiteral rest prefixLen kind =
        .ok (some (prefixLen + 1 + utf8Length body + 1, kind)) := by
  have hquote : UInt8.ofNat ('\''.toNat) = 39 := rfl
  unfold takeCharLiteral
  rcases @takeQuotedLiteral_spec rest prefixLen '\'' (by decide) kind with
    hnone | ⟨front, body, after, rfl, hstart, hsome⟩
  · rw [hquote] at hnone
    rw [hnone]
    exact Or.inl rfl
  · rw [hquote] at hsome
    rw [hsome]
    have hbody : sliceRange (front ++ '\'' :: (body ++ '\'' :: after)) (prefixLen + 1)
        (prefixLen + 1 + utf8Length body + 1 - 1) = .ok body := by
      have h := sliceRange_append (front ++ ['\'']) body ('\'' :: after)
      rw [utf8Length_append, hstart] at h
      have hlist : front ++ ['\''] ++ body ++ '\'' :: after =
          front ++ '\'' :: (body ++ '\'' :: after) := by simp
      rw [hlist] at h
      exact h
    by_cases hshort : body.head? = some '\\' ∨ body.length = 1
    · refine Or.inr ⟨front, body, after, rfl, hstart, ?_⟩
      show (sliceRange _ _ _).bind _ = _
      rw [hbody]
      show Except.ok (if _ then _ else _) = _
      rw [if_pos hshort]
    · left
      show (sliceRange _ _ _).bind _ = _
      rw [hbody]
      show Except.ok (if _ then _ else _) = _
      rw [if_neg hshort]

/-! ## All kinds

The kinds are tried one after the other in the order of the source, raw literals first
and those with a prefix before those without.  A kind that does not start here gives
nothing, so the first that does decides. -/

/-- Nothing is found, or a literal is. -/
def IsTaken (rest : List Char) (taken : Outcome (Option (ℕ × LiteralKind))) : Prop :=
  taken = .ok none ∨ ∃ found, taken = .ok (some found) ∧ IsFound rest found

/-- What is found ends as literals do, if anything is. -/
def IsEnding (rest : List Char) (taken : Outcome (Option (ℕ × LiteralKind))) : Prop :=
  taken = .ok none ∨ ∃ found, taken = .ok (some found) ∧ EndsAt rest found.1

theorem takeOr_some (rest : List Char) (found : ℕ × LiteralKind) (start : String)
    (next : Outcome (Option (ℕ × LiteralKind))) :
    takeOr rest (.ok (some found)) start next =
      if start.toList.isPrefixOf rest then .ok (some found) else next := by
  by_cases hbegin : start.toList.isPrefixOf rest = true
  · have hkept := @Option.filter_some_pos _ (fun _ => start.toList.isPrefixOf rest) found hbegin
    rw [if_pos hbegin]
    simp only [takeOr, bind, Except.bind, hkept]
  · have hdropped := @Option.filter_some_neg _ (fun _ => start.toList.isPrefixOf rest) found
      (Bool.eq_false_iff.mpr hbegin)
    rw [if_neg hbegin]
    simp only [takeOr, bind, Except.bind, hdropped]

/-- A kind whose literals start with a letter. -/
theorem isTaken_takeOr {rest : List Char} {first next : Outcome (Option (ℕ × LiteralKind))}
    {start : String} (hfirst : IsEnding rest first) (hnext : IsTaken rest next)
    (hstart : ∃ c others, start.toList = c :: others ∧ c ∈ ['b', 'c', 'r']) :
    IsTaken rest (takeOr rest first start next) := by
  rcases hfirst with rfl | ⟨found, rfl, hends⟩
  · exact hnext
  · rw [takeOr_some]
    split
    · next hbegin =>
        obtain ⟨c, others, hlist, hc⟩ := hstart
        obtain ⟨after, hafter⟩ := List.isPrefixOf_iff_prefix.mp hbegin
        refine Or.inr ⟨found, rfl, hends, c, others ++ after, by rw [← hafter, hlist]; rfl, ?_⟩
        exact List.mem_append_left ['"', '\''] hc
    · exact hnext

/-- A kind whose literals start with their quote. -/
theorem isTaken_takeOr_quote {rest : List Char} {first next : Outcome (Option (ℕ × LiteralKind))}
    {start : String} (hfirst : IsTaken rest first) (hnext : IsTaken rest next) :
    IsTaken rest (takeOr rest first start next) := by
  rcases hfirst with rfl | ⟨found, rfl, hfound⟩
  · exact hnext
  · rw [takeOr_some]
    split
    · exact Or.inr ⟨found, rfl, hfound⟩
    · exact hnext

theorem isEnding_takeRawLiteral (rest : List Char) (prefixLen : ℕ) (kind : LiteralKind) :
    IsEnding rest (.ok (takeRawLiteral rest prefixLen kind)) := by
  cases hfound : takeRawLiteral rest prefixLen kind with
  | none => exact Or.inl rfl
  | some found => exact Or.inr ⟨found, rfl, endsAt_of_takeRawLiteral hfound⟩

theorem endsAt_of_quoted {front body after : List Char} {quote : Char} {prefixLen : ℕ}
    (hquote : quote.toNat ≤ 0x7F) (hmem : quote ∈ ['"', '\'', '#'])
    (hfront : utf8Length front = prefixLen) :
    EndsAt (front ++ quote :: (body ++ quote :: after)) (prefixLen + 1 + utf8Length body + 1) := by
  refine ⟨front ++ quote :: body, quote, after, by simp, ?_, hmem⟩
  rw [utf8Length_append, utf8Length_cons, utf8Size_of_ascii hquote, hfront]
  omega

theorem isEnding_takeQuotedLiteral (rest : List Char) (prefixLen : ℕ) (kind : LiteralKind) :
    IsEnding rest (takeQuotedLiteral rest prefixLen 34 kind) := by
  rcases @takeQuotedLiteral_spec rest prefixLen '"' (by decide) kind with
    hnone | ⟨front, body, after, rfl, hfront, hsome⟩
  · exact Or.inl hnone
  · exact Or.inr ⟨_, hsome, endsAt_of_quoted (by decide) (by decide) hfront⟩

theorem isEnding_takeCharLiteral (rest : List Char) (prefixLen : ℕ) (kind : LiteralKind) :
    IsEnding rest (takeCharLiteral rest prefixLen kind) := by
  rcases takeCharLiteral_spec rest prefixLen kind with
    hnone | ⟨front, body, after, rfl, hfront, hsome⟩
  · exact Or.inl hnone
  · exact Or.inr ⟨_, hsome, endsAt_of_quoted (by decide) (by decide) hfront⟩

theorem eq_nil_of_utf8Length_eq_zero {text : List Char} (h : utf8Length text = 0) : text = [] := by
  cases text with
  | nil => rfl
  | cons c rest =>
      have hpos := c.utf8Size_pos
      rw [utf8Length_cons] at h
      omega

theorem isFound_of_quoted {front body after : List Char} {quote : Char} {kind : LiteralKind}
    (hquote : quote.toNat ≤ 0x7F) (hmem : quote ∈ ['"', '\'']) (hfront : utf8Length front = 0) :
    IsFound (front ++ quote :: (body ++ quote :: after)) (0 + 1 + utf8Length body + 1, kind) := by
  refine ⟨endsAt_of_quoted hquote (List.mem_append_left ['#'] hmem) hfront, ?_⟩
  rw [eq_nil_of_utf8Length_eq_zero hfront]
  exact ⟨quote, _, rfl, List.mem_append_right ['b', 'c', 'r'] hmem⟩

/-- **Looking for a literal** never cuts inside a character; a literal that is found starts and
ends as literals do. -/
theorem isTaken_takeLiteral (rest : List Char) : IsTaken rest (takeLiteral rest) := by
  refine isTaken_takeOr (isEnding_takeRawLiteral rest 2 _) ?_ ⟨'b', ['r'], rfl, by decide⟩
  refine isTaken_takeOr (isEnding_takeRawLiteral rest 2 _) ?_ ⟨'c', ['r'], rfl, by decide⟩
  refine isTaken_takeOr (isEnding_takeRawLiteral rest 1 _) ?_ ⟨'r', [], rfl, by decide⟩
  refine isTaken_takeOr (isEnding_takeQuotedLiteral rest 1 _) ?_ ⟨'b', [], rfl, by decide⟩
  refine isTaken_takeOr (isEnding_takeQuotedLiteral rest 1 _) ?_ ⟨'c', [], rfl, by decide⟩
  refine isTaken_takeOr (isEnding_takeCharLiteral rest 1 _) ?_ ⟨'b', [], rfl, by decide⟩
  refine isTaken_takeOr_quote ?_ ?_
  · rcases @takeQuotedLiteral_spec rest 0 '"' (by decide) .string with
      hnone | ⟨front, body, after, rfl, hfront, hsome⟩
    · exact Or.inl hnone
    · exact Or.inr ⟨_, hsome, isFound_of_quoted (by decide) (by decide) hfront⟩
  · rcases takeCharLiteral_spec rest 0 .char with
      hnone | ⟨front, body, after, rfl, hfront, hsome⟩
    · exact Or.inl hnone
    · exact Or.inr ⟨_, hsome, isFound_of_quoted (by decide) (by decide) hfront⟩

/-! ## Code and literals

The specification of the scanner, on characters and by recursion on the text.  It is
defined by the scanner's own test at each place, so what a literal is stays the decision
of the source. -/

/-- A literal as it stands in the text. -/
structure Literal where
  kind : LiteralKind
  token : List Char
deriving DecidableEq, Repr

/-- A literal as it is put back. -/
def Literal.text (literal : Literal) : List Char := literalProjection literal.kind literal.token

/-- The literal at the front of a text, and what follows it. -/
def literalAt? (rest : List Char) : Option (Literal × List Char) :=
  match takeLiteral rest with
  | .ok (some (literalLen, kind)) =>
      (splitAtByte? literalLen rest).map fun parts => (⟨kind, parts.1⟩, parts.2)
  | _ => none

/-- Code and literals from the front of a text on. -/
def lexFrom : ℕ → List Char → List Char × List (Literal × List Char)
  | 0, _ => ([], [])
  | _ + 1, [] => ([], [])
  | fuel + 1, ch :: chars =>
      match literalAt? (ch :: chars) with
      | some (literal, after) =>
          let next := lexFrom fuel after
          ([], (literal, next.1) :: next.2)
      | none =>
          let next := lexFrom fuel chars
          (ch :: next.1, next.2)

/-- The code of a text up to its first literal, and each literal with the code behind it. -/
def lexed (value : List Char) : List Char × List (Literal × List Char) :=
  lexFrom (utf8Length value) value

/-- The literals as they are put back, with the code behind them. -/
def keptPieces (pieces : List (Literal × List Char)) : List (List Char × List Char) :=
  pieces.map fun piece => (piece.1.text, piece.2)

/-- A text that starts and ends as literals do. -/
def IsToken (token : List Char) : Prop :=
  (∃ c rest, token = c :: rest ∧ c ∈ ['b', 'c', 'r', '"', '\'']) ∧
    ∃ body c, token = body ++ [c] ∧ c ∈ ['"', '\'', '#']

/-- A literal at the front of a text, or none; the search sees the same. -/
theorem literalAt?_spec (rest : List Char) :
    (takeLiteral rest = .ok none ∧ literalAt? rest = none) ∨
    ∃ literal after, rest = literal.token ++ after ∧ IsToken literal.token ∧
      takeLiteral rest = .ok (some (utf8Length literal.token, literal.kind)) ∧
      literalAt? rest = some (literal, after) := by
  rcases isTaken_takeLiteral rest with hnone | ⟨⟨literalLen, kind⟩, hsome, hends, hstart⟩
  · refine Or.inl ⟨hnone, ?_⟩
    rw [literalAt?, hnone]
  · obtain ⟨body, last, after, hrest, hlength, hlast⟩ := hends
    obtain ⟨first, others, hfirst, hmem⟩ := hstart
    have hsplit : rest = (body ++ [last]) ++ after := by rw [hrest]; simp
    have hlen : utf8Length (body ++ [last]) = literalLen := by
      rw [utf8Length_append, utf8Length_cons, utf8Length_nil, Nat.add_zero]
      exact hlength
    refine Or.inr ⟨⟨kind, body ++ [last]⟩, after, hsplit, ⟨?_, body, last, rfl, hlast⟩, ?_, ?_⟩
    · obtain ⟨c, token, hc⟩ := List.exists_cons_of_ne_nil
        (List.append_ne_nil_of_right_ne_nil body (List.cons_ne_nil last []))
      refine ⟨c, token, hc, ?_⟩
      rw [hsplit, hc] at hfirst
      rw [(List.cons_eq_cons.mp hfirst).1]
      exact hmem
    · rw [hlen]
      exact hsome
    · rw [literalAt?, hsome]
      show (splitAtByte? literalLen rest).map _ = _
      rw [hsplit, ← hlen, splitAtByte?_append]
      rfl

/-- **The code and the literals are the text.** -/
theorem lexFrom_text {fuel : ℕ} {rest : List Char} (hfuel : utf8Length rest ≤ fuel) :
    (lexFrom fuel rest).1 ++ (lexFrom fuel rest).2.flatMap (fun piece => piece.1.token ++ piece.2) =
      rest := by
  induction fuel generalizing rest with
  | zero =>
      rw [eq_nil_of_utf8Length_eq_zero (Nat.le_zero.mp hfuel)]
      rfl
  | succ fuel ih =>
      cases rest with
      | nil => rfl
      | cons ch chars =>
          rcases literalAt?_spec (ch :: chars) with
            ⟨-, hnone⟩ | ⟨literal, after, hrest, htoken, -, hsome⟩
          · have hchars : utf8Length chars ≤ fuel := by
              have := ch.utf8Size_pos
              rw [utf8Length_cons] at hfuel
              omega
            simp only [lexFrom, hnone]
            rw [List.cons_append, ih hchars]
          · have hafter : utf8Length after ≤ fuel := by
              obtain ⟨c, token, hc, -⟩ := htoken.1
              have := c.utf8Size_pos
              rw [hrest, utf8Length_append, hc, utf8Length_cons] at hfuel
              omega
            simp only [lexFrom, hsome, List.flatMap_cons, List.nil_append]
            rw [List.append_assoc, ih hafter, hrest]

theorem lexed_text (value : List Char) :
    (lexed value).1 ++ (lexed value).2.flatMap (fun piece => piece.1.token ++ piece.2) = value :=
  lexFrom_text le_rfl

theorem isToken_of_mem_lexFrom {fuel : ℕ} {rest : List Char} {piece : Literal × List Char}
    (h : piece ∈ (lexFrom fuel rest).2) : IsToken piece.1.token := by
  induction fuel generalizing rest with
  | zero => cases h
  | succ fuel ih =>
      cases rest with
      | nil => cases h
      | cons ch chars =>
          rcases literalAt?_spec (ch :: chars) with
            ⟨-, hnone⟩ | ⟨literal, after, hrest, htoken, -, hsome⟩
          · simp only [lexFrom, hnone] at h
            exact ih h
          · simp only [lexFrom, hsome, List.mem_cons] at h
            rcases h with rfl | h
            · exact htoken
            · exact ih h

/-! ## Placeholders

A placeholder has a number, and no placeholder begins with another, because an
underscore ends the number.  Its characters occur at neither end of a literal, so a
literal that is put back makes no new placeholder together with the code around it. -/

/-- The characters of placeholders: capitals, underscores and digits. -/
def IsPlaceholderChar (c : Char) : Prop := c ∈ "_ASPLITER".toList ∨ c.isDigit = true

/-- The characters that kept and summarized literals start and end with. -/
def IsLiteralEnd (c : Char) : Prop := c ∈ ['b', 'c', 'r', 's', '"', '\'', '#', ']']

theorem isDigit_of_mem_toDigits {c : Char} {index : ℕ} (hc : c ∈ Nat.toDigits 10 index) :
    c.isDigit = true := Nat.isDigit_of_mem_toDigits (by decide) (by decide) hc

/-- No placeholder begins with another. -/
theorem eq_of_literalPlaceholder_prefix {first second : ℕ} {after : List Char}
    (h : literalPlaceholder first <+: literalPlaceholder second ++ after) : first = second := by
  unfold literalPlaceholder at h
  rw [List.append_assoc, List.append_assoc, List.append_assoc,
    List.prefix_append_right_inj] at h
  obtain ⟨rest, hrest⟩ := h
  rw [List.append_assoc] at hrest
  have hunderscores : Nat.toDigits 10 first ++ '_' :: ('_' :: rest) =
      Nat.toDigits 10 second ++ '_' :: ('_' :: after) := hrest
  have hstop : ∀ index (tail : List Char),
      (Nat.toDigits 10 index ++ '_' :: tail).takeWhile Char.isDigit = Nat.toDigits 10 index := by
    intro index tail
    rw [List.takeWhile_append_of_pos fun c hc => isDigit_of_mem_toDigits hc,
      List.takeWhile_cons_of_neg (by decide), List.append_nil]
  have hdigits := congrArg (List.takeWhile Char.isDigit) hunderscores
  rw [hstop, hstop] at hdigits
  rw [← @Nat.ofDigitChars_toDigits 10 first (by decide) (by decide), hdigits,
    Nat.ofDigitChars_toDigits (by decide) (by decide)]

/-- The placeholders of literals. -/
def literalPlaceholders : Placeholders where
  mark := literalPlaceholder
  IsMarkChar := IsPlaceholderChar
  IsFence := IsLiteralEnd
  mark_ne_nil _ := List.cons_ne_nil _ _
  isMarkChar_of_mem := by
    intro index c hc
    rcases List.mem_append.mp hc with hc | hc
    · rcases List.mem_append.mp hc with hc | hc
      · refine Or.inl ((show "__ASP_LITERAL_".toList ⊆ "_ASPLITER".toList by decide) hc)
      · exact Or.inr (isDigit_of_mem_toDigits hc)
    · exact Or.inl ((show "__".toList ⊆ "_ASPLITER".toList by decide) hc)
  eq_of_prefix := eq_of_literalPlaceholder_prefix
  not_isMarkChar := by
    intro c hc
    unfold IsLiteralEnd at hc
    unfold IsPlaceholderChar
    simp only [List.mem_cons, List.not_mem_nil, or_false] at hc
    rcases hc with rfl | rfl | rfl | rfl | rfl | rfl | rfl | rfl <;> decide

/-- **A literal is put back** between characters that no placeholder has. -/
theorem fenced_text {literal : Literal} (h : IsToken literal.token) :
    literalPlaceholders.Fenced literal.text := by
  have hend : ∀ {c}, c ∈ ['b', 'c', 'r', 's', '"', '\'', '#', ']'] →
      literalPlaceholders.IsFence c := fun hc => hc
  unfold Literal.text literalProjection
  split
  · obtain ⟨⟨c, rest, hfirst, hc⟩, body, d, hlast, hd⟩ := h
    refine ⟨⟨c, rest, hfirst, ?_⟩, body, d, hlast, ?_⟩
    · exact (show ['b', 'c', 'r', '"', '\''] ⊆ ['b', 'c', 'r', 's', '"', '\'', '#', ']'] by
        decide) hc
    · exact (show ['"', '\'', '#'] ⊆ ['b', 'c', 'r', 's', '"', '\'', '#', ']'] by decide) hd
  · refine ⟨?_, _, ']', rfl, hend (by decide)⟩
    cases literal.kind with
    | string => exact ⟨'s', _, rfl, hend (by decide)⟩
    | byteString => exact ⟨'b', _, rfl, hend (by decide)⟩
    | rawString => exact ⟨'r', _, rfl, hend (by decide)⟩
    | rawByteString => exact ⟨'r', _, rfl, hend (by decide)⟩
    | char => exact ⟨'c', _, rfl, hend (by decide)⟩
    | byteChar => exact ⟨'b', _, rfl, hend (by decide)⟩

/-! ## Cutting out

The loop of the source appends to a text and to a list of literals; with the
specification both are read off the pieces.  Putting literals back is a replacement in
the whole text, and not in the place of the placeholder only. -/

/-- **Cutting out literals** comes to an end without a cut inside a character, and leaves the code
with placeholders. -/
theorem cutLiterals_eq {fuel : ℕ} {done rest literalSafe : List Char} {literals : List (List Char)}
    (hfuel : utf8Length rest ≤ fuel) :
    cutLiterals (done ++ rest) fuel (utf8Length done) literalSafe literals =
      .ok (literalSafe ++ masked literalPlaceholders literals.length (lexFrom fuel rest).1
          (keptPieces (lexFrom fuel rest).2),
        literals ++ (keptPieces (lexFrom fuel rest).2).map Prod.fst) := by
  induction fuel generalizing done rest literalSafe literals with
  | zero =>
      rw [eq_nil_of_utf8Length_eq_zero (Nat.le_zero.mp hfuel), List.append_nil, cutLiterals,
        if_neg (lt_irrefl _)]
      simp [lexFrom, keptPieces, masked]
  | succ fuel ih =>
      cases rest with
      | nil =>
          rw [List.append_nil, cutLiterals, if_neg (lt_irrefl _)]
          simp [lexFrom, keptPieces, masked]
      | cons ch chars =>
          have hpos := ch.utf8Size_pos
          have hmore : utf8Length done < utf8Length (done ++ ch :: chars) := by
            rw [utf8Length_append, utf8Length_cons]
            omega
          rw [cutLiterals, if_pos hmore, sliceFrom_append]
          rcases literalAt?_spec (ch :: chars) with
            ⟨hnone, hat⟩ | ⟨literal, after, hrest, htoken, hsome, hat⟩
          · -- a character of the code
            have hchars : utf8Length chars ≤ fuel := by
              rw [utf8Length_cons] at hfuel
              omega
            have hnext := @ih (done ++ [ch]) chars (literalSafe ++ [ch]) literals hchars
            rw [List.append_assoc, List.singleton_append, utf8Length_append, utf8Length_cons,
              utf8Length_nil, Nat.add_zero] at hnext
            show (takeLiteral (ch :: chars)).bind _ = _
            rw [hnone]
            show cutLiterals _ _ _ _ _ = _
            rw [hnext]
            have hcons := @masked_append literalPlaceholders literals.length [ch]
              (lexFrom fuel chars).1 (keptPieces (lexFrom fuel chars).2)
            rw [List.singleton_append] at hcons
            simp only [lexFrom, hat]
            rw [hcons, List.append_assoc]
          · -- a literal
            have hafter : utf8Length after ≤ fuel := by
              obtain ⟨c, token, hc, -⟩ := htoken.1
              have := c.utf8Size_pos
              rw [hrest, utf8Length_append, hc, utf8Length_cons] at hfuel
              omega
            have hnext := @ih (done ++ literal.token) after
              (literalSafe ++ literalPlaceholder literals.length) (literals ++ [literal.text]) hafter
            rw [List.append_assoc, ← hrest, utf8Length_append, List.length_append,
              List.length_singleton] at hnext
            show (takeLiteral (ch :: chars)).bind _ = _
            rw [hsome]
            show (sliceTo (ch :: chars) (utf8Length literal.token)).bind _ = _
            rw [hrest, sliceTo_append, ← hrest]
            show cutLiterals _ _ _ _ _ = _
            rw [show literalProjection literal.kind literal.token = literal.text from rfl, hnext]
            simp only [lexFrom, hat, keptPieces, List.map_cons, masked, List.nil_append,
              List.append_assoc, List.singleton_append]
            rfl

/-- Restoring literals is putting them back. -/
theorem restoreLiterals_eq (literals : List (List Char)) (compacted : List Char) :
    restoreLiterals literals compacted = putBack literalPlaceholders 0 literals compacted := by
  unfold restoreLiterals
  generalize 0 = index
  induction literals generalizing index compacted with
  | nil => rfl
  | cons literal rest ih =>
      rw [List.zipIdx_cons, List.foldl_cons, ih]
      rfl

/-- **Compaction returns**, and is: compact the code, and put the literals back. -/
theorem compactRustTokens_eq (value : List Char) :
    compactRustTokens value =
      .ok (putBack literalPlaceholders 0 ((keptPieces (lexed value).2).map Prod.fst)
        (compactCode (masked literalPlaceholders 0 (lexed value).1
          (keptPieces (lexed value).2)))) := by
  have hcut := @cutLiterals_eq (utf8Length value) [] value [] [] le_rfl
  rw [List.nil_append, utf8Length_nil, List.nil_append, List.nil_append, List.length_nil] at hcut
  unfold compactRustTokens
  rw [hcut]
  show Except.ok (restoreLiterals _ _) = _
  rw [restoreLiterals_eq]
  rfl

end AspRust.Parser
