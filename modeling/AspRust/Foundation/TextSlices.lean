import AspRust.Foundation.Utf8

/-!
# Slices of UTF-8 texts

A text that is cut at a byte offset inside a character makes the program panic; `sliceFrom`,
`sliceTo` and `sliceRange` keep that as an outcome.  A program that looks for an ASCII byte and
cuts where it finds one never does: such a byte is a character of its own
(`exists_char_of_byte`).

### Use

A caller that scans for ASCII bytes gets from `exists_char_of_byte` a split of its text at a
character, and from the `_append` lemmas that a slice at such a split is the part it names.  No
slice needs a bound to be computed.
-/

namespace AspRust.Foundation

/-- The fault of a cut inside a character or outside the text. -/
def boundaryFault : Fault := .panicked "byte index is not a char boundary"

/-- A text from a byte offset on. -/
def sliceFrom (text : List Char) (start : ℕ) : Outcome (List Char) :=
  match splitAtByte? start text with
  | some parts => .ok parts.2
  | none => .error boundaryFault

/-- A text up to a byte offset. -/
def sliceTo (text : List Char) (stop : ℕ) : Outcome (List Char) :=
  match splitAtByte? stop text with
  | some parts => .ok parts.1
  | none => .error boundaryFault

/-- The part of a text between two byte offsets. -/
def sliceRange (text : List Char) (start stop : ℕ) : Outcome (List Char) :=
  match getRange? text start stop with
  | some part => .ok part
  | none => .error boundaryFault

theorem sliceFrom_append (before after : List Char) :
    sliceFrom (before ++ after) (utf8Length before) = .ok after := by
  rw [sliceFrom, splitAtByte?_append]

theorem sliceTo_append (before after : List Char) :
    sliceTo (before ++ after) (utf8Length before) = .ok before := by
  rw [sliceTo, splitAtByte?_append]

theorem sliceRange_append (before middle after : List Char) :
    sliceRange (before ++ middle ++ after) (utf8Length before)
      (utf8Length before + utf8Length middle) = .ok middle := by
  have hrange : getRange? (before ++ middle ++ after) (utf8Length before)
      (utf8Length before + utf8Length middle) = some middle :=
    getRange?_eq_some_iff.mpr ⟨before, after, rfl, rfl, rfl⟩
  rw [sliceRange, hrange]

/-! ## ASCII bytes -/

/-- No byte of a longer encoding is ASCII. -/
theorem le_of_mem_utf8EncodeChar {c : Char} (hc : 0x7F < c.toNat) {byte : UInt8}
    (hbyte : byte ∈ String.utf8EncodeChar c) : 0x80 ≤ byte.toNat := by
  have hvalid : c.val.toNat < 0xD800 ∨ (0xDFFF < c.val.toNat ∧ c.val.toNat < 0x110000) := c.valid
  have hone : ¬ c.val.toNat ≤ 0x7F := Nat.not_le.mpr hc
  have hlead : ∀ {payload base : ℕ}, payload + base < 256 → 0x80 ≤ base →
      0x80 ≤ (UInt8.ofNat (payload + base)).toNat := by
    intro payload base hsmall hbase
    rw [toNat_ofNat_add hsmall]
    omega
  unfold String.utf8EncodeChar at hbyte
  generalize c.val.toNat = v at hvalid hone hbyte
  simp only [if_neg hone] at hbyte
  split at hbyte
  · simp only [List.mem_cons, List.not_mem_nil, or_false] at hbyte
    rcases hbyte with rfl | rfl <;> exact hlead (by omega) (by omega)
  · split at hbyte
    · simp only [List.mem_cons, List.not_mem_nil, or_false] at hbyte
      rcases hbyte with rfl | rfl | rfl <;> exact hlead (by omega) (by omega)
    · simp only [List.mem_cons, List.not_mem_nil, or_false] at hbyte
      rcases hbyte with rfl | rfl | rfl | rfl <;> exact hlead (by omega) (by omega)

/-- **An ASCII byte is a character**, and the text can be cut on both sides of it. -/
theorem exists_char_of_byte {text : List Char} {before after : List UInt8} {byte : UInt8}
    (h : utf8 text = before ++ byte :: after) (hascii : byte.toNat < 0x80) :
    ∃ front c back, text = front ++ c :: back ∧ utf8 front = before ∧ utf8 back = after ∧
      c.toNat = byte.toNat := by
  induction text generalizing before with
  | nil =>
      have hlength := congrArg List.length h
      simp at hlength
  | cons c rest ih =>
      rw [utf8_cons] at h
      rcases List.append_eq_append_iff.mp h with ⟨more, hbefore, hrest⟩ | ⟨more, hchar, hmore⟩
      · obtain ⟨front, d, back, rfl, rfl, rfl, hd⟩ := ih hrest
        exact ⟨c :: front, d, back, rfl, by rw [utf8_cons, hbefore], rfl, hd⟩
      · cases more with
        | nil =>
            rw [List.append_nil] at hchar
            rw [List.nil_append] at hmore
            obtain ⟨front, d, back, rfl, hfront, rfl, hd⟩ := @ih [] hmore.symm
            exact ⟨c :: front, d, back, rfl, by rw [utf8_cons, hfront, hchar, List.append_nil],
              rfl, hd⟩
        | cons first more =>
            obtain ⟨rfl, hafter⟩ := List.cons_eq_cons.mp hmore
            -- the byte is in the encoding of this character, which is then ASCII
            have hmem : byte ∈ String.utf8EncodeChar c := by
              rw [hchar]
              exact List.mem_append_right _ List.mem_cons_self
            have hsmall : c.toNat ≤ 0x7F := by
              by_contra hlarge
              exact absurd (le_of_mem_utf8EncodeChar (by omega) hmem) (by omega)
            rw [utf8EncodeChar_ascii hsmall] at hchar
            rcases List.append_eq_singleton_iff.mp hchar.symm with ⟨rfl, hcons⟩ | ⟨-, hcons⟩
            · obtain ⟨hbyte, rfl⟩ := List.cons_eq_cons.mp hcons
              have hsize : c.toNat < UInt8.size := by
                show c.toNat < 256
                omega
              refine ⟨[], c, rest, rfl, rfl, hafter.symm, ?_⟩
              rw [hbyte, UInt8.toNat_ofNat_of_lt' hsize]
            · exact absurd hcons (List.cons_ne_nil _ _)

/-- ASCII bytes at the front of the encoding are the characters at the front of the text. -/
theorem exists_chars_of_bytes {text : List Char} {bytes after : List UInt8}
    (h : utf8 text = bytes ++ after) (hascii : ∀ byte ∈ bytes, byte.toNat < 0x80) :
    ∃ back, text = bytes.map (fun byte => Char.ofNat byte.toNat) ++ back ∧ utf8 back = after := by
  induction bytes generalizing text with
  | nil => exact ⟨text, rfl, h⟩
  | cons byte bytes ih =>
      obtain ⟨front, c, back, rfl, hfront, hback, hc⟩ :=
        @exists_char_of_byte text [] (bytes ++ after) byte h (hascii byte List.mem_cons_self)
      obtain ⟨rest, rfl, hrest⟩ := ih hback fun other hother =>
        hascii other (List.mem_cons_of_mem _ hother)
      have hnil : front = [] := by
        cases front with
        | nil => rfl
        | cons d front =>
            have hlength := congrArg List.length hfront
            rw [utf8_cons, List.length_append, String.length_utf8EncodeChar] at hlength
            have := d.utf8Size_pos
            simp only [List.length_nil] at hlength
            omega
      refine ⟨rest, ?_, hrest⟩
      rw [hnil, List.map_cons, ← hc, Char.ofNat_toNat]
      rfl

end AspRust.Foundation
