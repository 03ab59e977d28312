import AspRust.Foundation.Text

/-!
# UTF-8 texts and their byte offsets

A program that holds its texts as UTF-8 counts and cuts them in bytes.  `utf8` is
the encoding, the inverse of the decoder `fromUtf8` (`fromUtf8_utf8`), and
`getRange?` cuts a text between two byte offsets: it answers only when both are
boundaries of characters, and then the cut is the one the offsets name
(`getRange?_eq_some_iff`).

### Design notes

Texts are lists of characters and bytes are lists of `UInt8`; that is where proofs about cuts
are by induction.  The encoding of one character is that of the standard library, and the
decoder is written as the standard says, with the places at which a sequence may be wrong.
-/

namespace AspRust.Foundation

/-! ## Encoding

The bytes of a text are those of its characters, so lengths and encodings of texts add
up. -/

/-- The bytes of a text. -/
def utf8 (text : List Char) : List UInt8 := text.flatMap String.utf8EncodeChar

/-- The number of bytes of a text. -/
def utf8Length (text : List Char) : ℕ := (text.map Char.utf8Size).sum

@[simp] theorem utf8_nil : utf8 [] = [] := rfl

@[simp] theorem utf8_cons (c : Char) (text : List Char) :
    utf8 (c :: text) = String.utf8EncodeChar c ++ utf8 text := rfl

@[simp] theorem utf8_append (first second : List Char) :
    utf8 (first ++ second) = utf8 first ++ utf8 second := by
  simp [utf8]

@[simp] theorem utf8Length_nil : utf8Length [] = 0 := rfl

@[simp] theorem utf8Length_cons (c : Char) (text : List Char) :
    utf8Length (c :: text) = c.utf8Size + utf8Length text := rfl

@[simp] theorem utf8Length_append (first second : List Char) :
    utf8Length (first ++ second) = utf8Length first + utf8Length second := by
  simp [utf8Length]

theorem length_utf8 (text : List Char) : (utf8 text).length = utf8Length text := by
  induction text with
  | nil => rfl
  | cons c rest ih => simp [ih]

/-- A character below `0x80` is its own byte. -/
theorem utf8EncodeChar_ascii {c : Char} (hascii : c.toNat ≤ 0x7F) :
    String.utf8EncodeChar c = [UInt8.ofNat c.toNat] := if_pos hascii

/-- An ASCII text has as many bytes as characters. -/
theorem utf8Length_of_ascii {text : List Char} (hascii : ∀ c ∈ text, c.toNat ≤ 0x7F) :
    utf8Length text = text.length := by
  induction text with
  | nil => rfl
  | cons c rest ih =>
      have hsize : c.utf8Size = 1 := by
        rw [← String.length_utf8EncodeChar, utf8EncodeChar_ascii (hascii c List.mem_cons_self)]
        rfl
      rw [utf8Length_cons, hsize, ih fun other hother => hascii other (List.mem_cons_of_mem _ hother),
        List.length_cons, Nat.add_comm]

/-! ## Decoding what was encoded

The first byte of a character tells how many follow, and each of these is a
continuation.  One lemma for each length says that the decoder puts the bits together
again. -/

/-- A byte of an encoding carries six bits of a code point as a continuation. -/
theorem isContinuation_ofNat (v : ℕ) :
    isContinuation (UInt8.ofNat (v % 64 + 128)) = true := by
  have hsmall : (v % 64 + 128) % 256 = v % 64 + 128 := by omega
  simp only [isContinuation, UInt8.le_iff_toNat_le, UInt8.toNat_ofNat', UInt8.reduceToNat,
    Nat.reducePow, hsmall, Bool.and_eq_true, decide_eq_true_eq]
  omega

theorem toNat_ofNat_add {payload base : ℕ} (hsmall : payload + base < 256) :
    (UInt8.ofNat (payload + base)).toNat = payload + base :=
  UInt8.toNat_ofNat_of_lt' hsmall

/-! One step of the decoder for each length of a sequence. -/

theorem decodeUtf8From_one {a : UInt8} (index : ℕ) (rest : List UInt8) (ha : a < 0x80) :
    decodeUtf8From index (a :: rest) =
      (codePoint a.toNat [] :: ·) <$> decodeUtf8From (index + 1) rest := by
  rw [decodeUtf8From.eq_def]
  simp only [if_pos ha]

theorem decodeUtf8From_two {a b : UInt8} (index : ℕ) (rest : List UInt8) (hlow : 0xC2 ≤ a)
    (hhigh : a ≤ 0xDF) (hb : isContinuation b = true) :
    decodeUtf8From index (a :: b :: rest) =
      (codePoint (a.toNat - 0xC0) [b] :: ·) <$> decodeUtf8From (index + 2) rest := by
  have h1 : ¬ a < 0x80 := by
    simp only [UInt8.lt_iff_toNat_lt, UInt8.le_iff_toNat_le, UInt8.reduceToNat] at *
    omega
  rw [decodeUtf8From.eq_def]
  simp only [h1, hlow, hhigh, hb, if_true, if_false, decide_true, Bool.and_self]

theorem decodeUtf8From_three {a b c : UInt8} (index : ℕ) (rest : List UInt8) (hlow : 0xE0 ≤ a)
    (hhigh : a ≤ 0xEF) (hb : isSecondOfThree a b = true) (hc : isContinuation c = true) :
    decodeUtf8From index (a :: b :: c :: rest) =
      (codePoint (a.toNat - 0xE0) [b, c] :: ·) <$> decodeUtf8From (index + 3) rest := by
  have h1 : ¬ a < 0x80 := by
    simp only [UInt8.lt_iff_toNat_lt, UInt8.le_iff_toNat_le, UInt8.reduceToNat] at *
    omega
  have h2 : ¬ a ≤ 0xDF := by
    simp only [UInt8.le_iff_toNat_le, UInt8.reduceToNat] at *
    omega
  rw [decodeUtf8From.eq_def]
  simp only [h1, h2, hlow, hhigh, hb, hc, if_true, if_false, decide_true, decide_false,
    Bool.and_self, Bool.and_false, Bool.false_eq_true]

theorem decodeUtf8From_four {a b c d : UInt8} (index : ℕ) (rest : List UInt8) (hlow : 0xF0 ≤ a)
    (hhigh : a ≤ 0xF4) (hb : isSecondOfFour a b = true) (hc : isContinuation c = true)
    (hd : isContinuation d = true) :
    decodeUtf8From index (a :: b :: c :: d :: rest) =
      (codePoint (a.toNat - 0xF0) [b, c, d] :: ·) <$> decodeUtf8From (index + 4) rest := by
  have h1 : ¬ a < 0x80 := by
    simp only [UInt8.lt_iff_toNat_lt, UInt8.le_iff_toNat_le, UInt8.reduceToNat] at *
    omega
  have h2 : ¬ a ≤ 0xDF := by
    simp only [UInt8.le_iff_toNat_le, UInt8.reduceToNat] at *
    omega
  have h3 : ¬ a ≤ 0xEF := by
    simp only [UInt8.le_iff_toNat_le, UInt8.reduceToNat] at *
    omega
  rw [decodeUtf8From.eq_def]
  simp only [h1, h2, h3, hlow, hhigh, hb, hc, hd, if_true, if_false, decide_true, decide_false,
    Bool.and_self, Bool.and_false, Bool.false_eq_true]

/-- The decoder reads an encoded character back, whatever follows it. -/
theorem decodeUtf8From_utf8EncodeChar (index : ℕ) (c : Char) (rest : List UInt8) :
    decodeUtf8From index (String.utf8EncodeChar c ++ rest) =
      (c :: ·) <$> decodeUtf8From (index + c.utf8Size) rest := by
  have hvalid : c.val.toNat < 0xD800 ∨ (0xDFFF < c.val.toNat ∧ c.val.toNat < 0x110000) := c.valid
  have hback : Char.ofNat c.val.toNat = c := Char.ofNat_toNat c
  have hsize := String.length_utf8EncodeChar c
  unfold String.utf8EncodeChar at hsize ⊢
  generalize c.val.toNat = v at hvalid hback hsize ⊢
  by_cases h1 : v ≤ 0x7F
  · simp only [h1, if_true, List.length_singleton] at hsize ⊢
    have ha : (UInt8.ofNat v).toNat = v := UInt8.toNat_ofNat_of_lt' (show v < 256 by omega)
    have hlt : UInt8.ofNat v < 0x80 := by
      simp only [UInt8.lt_iff_toNat_lt, ha, UInt8.reduceToNat]
      omega
    rw [List.singleton_append, decodeUtf8From_one _ _ hlt, ← hsize, ha, codePoint,
      List.foldl_nil, hback]
  · by_cases h2 : v ≤ 0x7FF
    · simp only [h1, h2, if_true, if_false, List.length_cons, List.length_nil] at hsize ⊢
      have ha := toNat_ofNat_add (show v / 64 % 32 + 192 < 256 by omega)
      have hb := toNat_ofNat_add (show v % 64 + 128 < 256 by omega)
      rw [List.cons_append, List.cons_append, List.nil_append,
        decodeUtf8From_two _ _ (by simp only [UInt8.le_iff_toNat_le, ha, UInt8.reduceToNat]; omega)
          (by simp only [UInt8.le_iff_toNat_le, ha, UInt8.reduceToNat]; omega)
          (isContinuation_ofNat v), ← hsize, ha]
      have hcode : codePoint (v / 64 % 32 + 192 - 0xC0) [UInt8.ofNat (v % 64 + 128)] = c := by
        rw [codePoint, List.foldl_cons, List.foldl_nil, hb]
        rw [show (v / 64 % 32 + 192 - 0xC0) * 64 + (v % 64 + 128 - 0x80) = v by omega, hback]
      rw [hcode]
    · by_cases h3 : v ≤ 0xFFFF
      · simp only [h1, h2, h3, if_true, if_false, List.length_cons, List.length_nil] at hsize ⊢
        have ha := toNat_ofNat_add (show v / 4096 % 16 + 224 < 256 by omega)
        have hb := toNat_ofNat_add (show v / 64 % 64 + 128 < 256 by omega)
        have hc := toNat_ofNat_add (show v % 64 + 128 < 256 by omega)
        have hsecond : isSecondOfThree (UInt8.ofNat (v / 4096 % 16 + 224))
            (UInt8.ofNat (v / 64 % 64 + 128)) = true := by
          -- no overlong form below `0x800` and no surrogate
          unfold isSecondOfThree
          simp only [isContinuation, ← UInt8.toNat_inj, UInt8.le_iff_toNat_le, ha, hb,
            UInt8.reduceToNat]
          split
          · simp only [Bool.and_eq_true, decide_eq_true_eq]
            omega
          · split <;> simp only [Bool.and_eq_true, decide_eq_true_eq] <;> omega
        rw [List.cons_append, List.cons_append, List.cons_append, List.nil_append,
          decodeUtf8From_three _ _
            (by simp only [UInt8.le_iff_toNat_le, ha, UInt8.reduceToNat]; omega)
            (by simp only [UInt8.le_iff_toNat_le, ha, UInt8.reduceToNat]; omega)
            hsecond (isContinuation_ofNat v), ← hsize, ha]
        have hcode : codePoint (v / 4096 % 16 + 224 - 0xE0)
            [UInt8.ofNat (v / 64 % 64 + 128), UInt8.ofNat (v % 64 + 128)] = c := by
          rw [codePoint, List.foldl_cons, List.foldl_cons, List.foldl_nil, hb, hc]
          rw [show ((v / 4096 % 16 + 224 - 0xE0) * 64 + (v / 64 % 64 + 128 - 0x80)) * 64 +
            (v % 64 + 128 - 0x80) = v by omega, hback]
        rw [hcode]
      · simp only [h1, h2, h3, if_false, List.length_cons, List.length_nil] at hsize ⊢
        have ha := toNat_ofNat_add (show v / 262144 % 8 + 240 < 256 by omega)
        have hb := toNat_ofNat_add (show v / 4096 % 64 + 128 < 256 by omega)
        have hc := toNat_ofNat_add (show v / 64 % 64 + 128 < 256 by omega)
        have hd := toNat_ofNat_add (show v % 64 + 128 < 256 by omega)
        have hsecond : isSecondOfFour (UInt8.ofNat (v / 262144 % 8 + 240))
            (UInt8.ofNat (v / 4096 % 64 + 128)) = true := by
          -- no overlong form below `0x10000` and nothing above the last code point
          unfold isSecondOfFour
          simp only [isContinuation, ← UInt8.toNat_inj, UInt8.le_iff_toNat_le, ha, hb,
            UInt8.reduceToNat]
          split
          · simp only [Bool.and_eq_true, decide_eq_true_eq]
            omega
          · split <;> simp only [Bool.and_eq_true, decide_eq_true_eq] <;> omega
        rw [List.cons_append, List.cons_append, List.cons_append, List.cons_append,
          List.nil_append, decodeUtf8From_four _ _
            (by simp only [UInt8.le_iff_toNat_le, ha, UInt8.reduceToNat]; omega)
            (by simp only [UInt8.le_iff_toNat_le, ha, UInt8.reduceToNat]; omega)
            hsecond (isContinuation_ofNat _) (isContinuation_ofNat v), ← hsize, ha]
        have hcode : codePoint (v / 262144 % 8 + 240 - 0xF0)
            [UInt8.ofNat (v / 4096 % 64 + 128), UInt8.ofNat (v / 64 % 64 + 128),
              UInt8.ofNat (v % 64 + 128)] = c := by
          rw [codePoint, List.foldl_cons, List.foldl_cons, List.foldl_cons, List.foldl_nil, hb,
            hc, hd]
          rw [show (((v / 262144 % 8 + 240 - 0xF0) * 64 + (v / 4096 % 64 + 128 - 0x80)) * 64 +
            (v / 64 % 64 + 128 - 0x80)) * 64 + (v % 64 + 128 - 0x80) = v by omega, hback]
        rw [hcode]

/-- **Decoding inverts encoding.** -/
theorem fromUtf8_utf8 (text : List Char) : fromUtf8 (utf8 text) = .ok text := by
  unfold fromUtf8
  generalize 0 = index
  induction text generalizing index with
  | nil => rfl
  | cons c rest ih =>
      rw [utf8_cons, decodeUtf8From_utf8EncodeChar, ih]
      rfl

/-- So the encoding loses nothing. -/
theorem utf8_injective : Function.Injective utf8 := by
  intro first second h
  have hsame := congrArg fromUtf8 h
  rw [fromUtf8_utf8, fromUtf8_utf8] at hsame
  exact Except.ok.inj hsame

/-! ## The length of a decoded text

The decoder also accepts bytes that were not made by the encoder here.  What it makes of
them is no longer than they are, since the bits of a sequence fit into a character of no
more bytes. -/

/-- The code of a character made from a number, which is zero where the number is not
one. -/
theorem toNat_ofNat_le (n : ℕ) : (Char.ofNat n).toNat ≤ n := by
  by_cases hvalid : n.isValidChar
  · have hcode : Char.ofNat n = Char.ofNatAux n hvalid := dif_pos hvalid
    rw [hcode]
    exact le_of_eq UInt32.toNat_ofNatLT
  · have hcode : Char.ofNat n = '\x00' := dif_neg hvalid
    rw [hcode]
    exact Nat.zero_le n

/-- A character below a bound takes no more bytes than the bound says. -/
theorem utf8Size_le_of_toNat (c : Char) :
    (c.toNat < 0x80 → c.utf8Size ≤ 1) ∧ (c.toNat < 0x800 → c.utf8Size ≤ 2) ∧
      (c.toNat < 0x10000 → c.utf8Size ≤ 3) ∧ c.utf8Size ≤ 4 := by
  simp only [Char.utf8Size, Char.toNat, UInt32.le_iff_toNat_le]
  refine ⟨fun h => ?_, fun h => ?_, fun h => ?_, ?_⟩ <;> repeat' split
  all_goals simp_all
  all_goals omega

/-- One decoded character, and what is decoded after it. -/
theorem utf8Length_le_of_map {c : Char} {width : ℕ} {rest : List UInt8} {text : List Char}
    {decoded : Except Utf8Error (List Char)} (hwidth : c.utf8Size ≤ width)
    (h : (c :: ·) <$> decoded = .ok text)
    (ih : ∀ {tail}, decoded = .ok tail → utf8Length tail ≤ rest.length) :
    utf8Length text ≤ rest.length + width := by
  cases decoded with
  | error => cases h
  | ok tail =>
      cases h
      rw [utf8Length_cons]
      exact Nat.add_comm width _ ▸ Nat.add_le_add hwidth (ih rfl)

theorem toNat_le_of_isContinuation {b : UInt8} (h : isContinuation b = true) : b.toNat ≤ 0xBF := by
  simp only [isContinuation, Bool.and_eq_true, decide_eq_true_eq] at h
  exact UInt8.le_iff_toNat_le.mp h.2

theorem toNat_le_of_isSecondOfThree {a b : UInt8} (h : isSecondOfThree a b = true) :
    b.toNat ≤ 0xBF := by
  unfold isSecondOfThree at h
  split at h
  · simp only [Bool.and_eq_true, decide_eq_true_eq] at h
    exact UInt8.le_iff_toNat_le.mp h.2
  · split at h
    · simp only [Bool.and_eq_true, decide_eq_true_eq] at h
      exact (UInt8.le_iff_toNat_le.mp h.2).trans (by decide)
    · exact toNat_le_of_isContinuation h

/-- **A decoded text is no longer than its bytes.**  The value of a sequence of one,
two or three bytes has at most 7, 11 or 16 bits. -/
theorem utf8Length_le_of_decodeUtf8From {index : ℕ} {bytes : List UInt8} {text : List Char}
    (h : decodeUtf8From index bytes = .ok text) : utf8Length text ≤ bytes.length := by
  fun_induction decodeUtf8From index bytes generalizing text with
  | case1 =>
      cases h
      exact le_rfl
  | case2 index a rest ha ih =>
      refine utf8Length_le_of_map ((utf8Size_le_of_toNat _).1 ?_) h ih
      exact (toNat_ofNat_le _).trans_lt ha
  | case4 index a hnot ha b rest hb ih =>
      change utf8Length text ≤ rest.length + 2
      refine utf8Length_le_of_map
        ((utf8Size_le_of_toNat _).2.1 ((toNat_ofNat_le _).trans_lt ?_)) h ih
      simp only [Bool.and_eq_true, decide_eq_true_eq] at ha
      have hfirst : a.toNat ≤ 0xDF := UInt8.le_iff_toNat_le.mp ha.2
      have hsecond := toNat_le_of_isContinuation hb
      simp only [List.foldl_cons, List.foldl_nil]
      omega
  | case8 index a hnot hnot' ha b hb c rest hc ih =>
      change utf8Length text ≤ rest.length + 3
      refine utf8Length_le_of_map
        ((utf8Size_le_of_toNat _).2.2.1 ((toNat_ofNat_le _).trans_lt ?_)) h ih
      simp only [Bool.and_eq_true, decide_eq_true_eq] at ha
      have hfirst : a.toNat ≤ 0xEF := UInt8.le_iff_toNat_le.mp ha.2
      have hsecond := toNat_le_of_isSecondOfThree hb
      have hthird := toNat_le_of_isContinuation hc
      simp only [List.foldl_cons, List.foldl_nil]
      omega
  | case14 index a hnot hnot' hnot'' ha b hb c hc d rest hd ih =>
      change utf8Length text ≤ rest.length + 4
      exact utf8Length_le_of_map (utf8Size_le_of_toNat _).2.2.2 h ih
  | _ => cases h

/-! ## Cutting at byte offsets

A cut is given by the text before and after it, and the offset is the length of the text
before.  So an offset is a boundary if some cut has it, and then there is one only. -/

/-- Cut a text at a byte offset, when the offset is a boundary of characters. -/
def splitAtByte? : ℕ → List Char → Option (List Char × List Char)
  | 0, text => some ([], text)
  | _ + 1, [] => none
  | offset + 1, c :: rest =>
      if c.utf8Size ≤ offset + 1 then
        (splitAtByte? (offset + 1 - c.utf8Size) rest).map fun parts => (c :: parts.1, parts.2)
      else none

theorem splitAtByte?_append (before after : List Char) :
    splitAtByte? (utf8Length before) (before ++ after) = some (before, after) := by
  induction before with
  | nil => cases after <;> rfl
  | cons c rest ih =>
      obtain ⟨offset, hoffset⟩ : ∃ offset, c.utf8Size + utf8Length rest = offset + 1 :=
        ⟨c.utf8Size + utf8Length rest - 1, by have := c.utf8Size_pos; omega⟩
      have hrest : offset + 1 - c.utf8Size = utf8Length rest := by omega
      rw [utf8Length_cons, hoffset, List.cons_append, splitAtByte?, if_pos (by omega), hrest, ih]
      rfl

/-- A cut has the bytes of the offset before it, and is a cut of the text. -/
theorem splitAtByte?_eq_some_iff {offset : ℕ} {text before after : List Char} :
    splitAtByte? offset text = some (before, after) ↔
      text = before ++ after ∧ utf8Length before = offset := by
  constructor
  · intro h
    induction text generalizing offset before with
    | nil =>
        cases offset with
        | zero =>
            obtain ⟨rfl, rfl⟩ := Prod.mk.inj (Option.some.inj h)
            exact ⟨rfl, rfl⟩
        | succ offset => simp [splitAtByte?] at h
    | cons c rest ih =>
        cases offset with
        | zero =>
            obtain ⟨rfl, rfl⟩ := Prod.mk.inj (Option.some.inj h)
            exact ⟨rfl, rfl⟩
        | succ offset =>
            rw [splitAtByte?] at h
            split at h
            · next hsize =>
                obtain ⟨parts, hparts, heq⟩ := Option.map_eq_some_iff.mp h
                obtain ⟨rfl, rfl⟩ := Prod.mk.inj heq
                obtain ⟨hrest, hlength⟩ := ih hparts
                refine ⟨by rw [List.cons_append, ← hrest], ?_⟩
                rw [utf8Length_cons, hlength]
                omega
            · cases h
  · rintro ⟨rfl, rfl⟩
    exact splitAtByte?_append before after

/-- The part of a text between two byte offsets; none when the range is not in
the text or an offset is inside a character. -/
def getRange? (text : List Char) (start stop : ℕ) : Option (List Char) :=
  if start ≤ stop then
    (splitAtByte? start text).bind fun parts =>
      (splitAtByte? (stop - start) parts.2).map Prod.fst
  else none

/-- **A range names one cut of the text.** -/
theorem getRange?_eq_some_iff {text middle : List Char} {start stop : ℕ} :
    getRange? text start stop = some middle ↔
      ∃ before after, text = before ++ middle ++ after ∧ utf8Length before = start ∧
        utf8Length before + utf8Length middle = stop := by
  unfold getRange?
  constructor
  · intro h
    split at h
    · next hle =>
        obtain ⟨⟨before, rest⟩, hbefore, hmiddle⟩ := Option.bind_eq_some_iff.mp h
        obtain ⟨⟨taken, after⟩, hcut, rfl⟩ := Option.map_eq_some_iff.mp hmiddle
        obtain ⟨rfl, hstart⟩ := splitAtByte?_eq_some_iff.mp hbefore
        obtain ⟨rfl, hlength⟩ := splitAtByte?_eq_some_iff.mp hcut
        refine ⟨before, after, by simp, hstart, ?_⟩
        change utf8Length before + utf8Length taken = stop
        omega
    · cases h
  · rintro ⟨before, after, rfl, rfl, rfl⟩
    have hrest : utf8Length before + utf8Length middle - utf8Length before =
        utf8Length middle := by omega
    rw [if_pos (by omega), List.append_assoc, splitAtByte?_append, Option.bind_some, hrest,
      splitAtByte?_append]
    rfl

end AspRust.Foundation
