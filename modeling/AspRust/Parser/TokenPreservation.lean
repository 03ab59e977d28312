import AspRust.Parser.TokenCode

/-!
# What compaction keeps

A compacted token text is meant to be the text it was made from, up to white space, commas before
closing brackets, and summaries of long literals.  Compaction always returns, and its result is
that exactly if no placeholder stands in the text by accident (`compactRustTokens_spec`): neither
in code nor in a literal that is kept.
-/

namespace AspRust.Parser

open AspRust.Foundation AspRust.Foundation.Placeholders

/-- The output has the literals of a text in order, each kept or summarized, and between them the
code of the text up to white space and commas before closing brackets. -/
def CodePreserved (value output : List Char) : Prop :=
  ∃ front pieces, SameSignificant (lexed value).1 front (keptPieces (lexed value).2) pieces ∧
    output = filled front pieces

/-- When a literal is put back, its placeholder begins nowhere but in the literal's own place: not
in the code, not in the literals that are back already, and not at the edge of a later
placeholder. -/
def LiteralsApart (value : List Char) : Prop :=
  Apart literalPlaceholders 0 (lexed value).1 (keptPieces (lexed value).2)

theorem fenced_of_mem_keptPieces {value : List Char} {piece : List Char × List Char}
    (h : piece ∈ keptPieces (lexed value).2) : literalPlaceholders.Fenced piece.1 := by
  obtain ⟨source, hsource, rfl⟩ := List.mem_map.mp h
  exact fenced_text (isToken_of_mem_lexFrom hsource)

/-- What is significant of a preserved text is that of its code and literals. -/
theorem CodePreserved.significant_eq {value output : List Char} (h : CodePreserved value output) :
    significant output = significant (filled (lexed value).1 (keptPieces (lexed value).2)) := by
  obtain ⟨front, pieces, hsame, rfl⟩ := h
  exact hsame.filled_eq fun piece hmem => fenced_of_mem_keptPieces hmem

/-- **Compaction** returns for every text, and preserves it if and only if no
placeholder stands in it by accident.  Literals are taken out before the white space is
folded, and put back one after the other wherever their placeholder is found: in its own
place, and in any other that reads like it. -/
theorem compactRustTokens_spec (value : List Char) :
    ∃ output, compactRustTokens value = .ok output ∧
      (CodePreserved value output ↔ LiteralsApart value) := by
  obtain ⟨front, pieces, hsame, hcompact⟩ :=
    sameCode_compactCode (lexed value).1 (keptPieces (lexed value).2)
  have hliterals := hsame.significant.map_fst
  have hfenced : ∀ piece ∈ pieces, literalPlaceholders.Fenced piece.1 := by
    intro piece hmem
    obtain ⟨source, hsource, hliteral⟩ :=
      List.mem_map.mp (hliterals ▸ List.mem_map_of_mem hmem : piece.1 ∈ _)
    exact hliteral ▸ fenced_of_mem_keptPieces hsource
  refine ⟨_, compactRustTokens_eq value, ?_⟩
  rw [hcompact, ← hliterals]
  constructor
  · intro hpreserved
    -- the output is the compacted code with its literals, as far as it is significant
    have hfilled := hpreserved.significant_eq.trans
      (hsame.significant.filled_eq fun piece hmem => fenced_of_mem_keptPieces hmem).symm
    exact hsame.apart.mpr ((norm_putBack_iff significant_cancel significant_differ hfenced).mp
      hfilled)
  · intro hapart
    exact ⟨front, pieces, hsame.significant, putBack_masked (hsame.apart.mp hapart)⟩

/-- An identifier that reads like a placeholder is replaced by the literal. -/
theorem compactRustTokens_identifier :
    compactRustTokens "__ASP_LITERAL_0__ \"x\"".toList = .ok "\"x\" \"x\"".toList ∧
      ¬ CodePreserved "__ASP_LITERAL_0__ \"x\"".toList "\"x\" \"x\"".toList := by
  refine ⟨by decide +kernel, fun h => ?_⟩
  have hsignificant := h.significant_eq
  revert hsignificant
  decide +kernel

end AspRust.Parser
