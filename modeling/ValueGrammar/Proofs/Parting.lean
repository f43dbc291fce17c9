import ValueGrammar.Proofs.Tiling

/-! Blanks part the tokens of a source. What stands in front of them and what
stands behind them is lexed as if it stood alone, and only the places of the
tokens behind tell that something stood in front. It takes a finished front: a
stray stretch at its end goes on through the blanks. -/
namespace ValueGrammar.Parting
open Text Lexing Rules Tiling Slices

variable {left gap right : String}

/-- A gap between two sources is where the text behind the first one starts with a
blank. -/
theorem gap_blank (skips : Skips gap.toList) (filled : gap ≠ "") (rest : List Char) :
    StartsBlank (gap.toList ++ rest) := by
  have written : gap.toList ≠ [] := by
    intro empty
    exact filled (String.toList_inj.mp empty)
  obtain ⟨c, more, starts⟩ := List.exists_cons_of_ne_nil written
  refine ⟨c, more ++ rest, by rw [starts, List.cons_append], ?_⟩
  apply (skipped_iff c).mpr
  apply skips
  rw [starts]
  exact List.mem_cons_self

/-- The tokens of two sources with a gap between them. -/
theorem lex_gap (settled : Settled (Token.lex left)) (skips : Skips gap.toList) (filled : gap ≠ "")
    (right : String) :
    Token.lex (left ++ gap ++ right) =
      Token.lex left ++ (Token.lex right).map (shifted (left ++ gap).utf8ByteSize) := by
  have blanks : ∀ c ∈ gap.toList, Piece.isBlank c = true := by
    intro c member
    exact (skipped_iff c).mpr (skips c member)
  have distance : 0 + byteLength [] + byteLength left.toList + byteLength gap.toList =
      (left ++ gap).utf8ByteSize := by
    rw [String.utf8ByteSize_append, byte_size, byte_size, byteLength, List.foldr_nil, Nat.zero_add]
  have ready : Settled (lexFrom 0 [] left.toList) := settled
  have parts := lex_append ready (gap_blank skips filled right.toList)
  rw [lex_blanks blanks, distance, lex_shift (left ++ gap).utf8ByteSize] at parts
  have whole : Token.lex (left ++ gap ++ right) =
      lexFrom 0 [] (left.toList ++ (gap.toList ++ right.toList)) := by
    rw [← List.append_assoc, ← String.toList_append, ← String.toList_append]
    rfl
  rw [whole]
  exact parts

/-- A stray stretch at the end of a source does not end where the source does, once
a gap is written behind it. -/
private theorem stray_not_parted (filled : gap ≠ "")
    (parted : Token.lex (left ++ gap ++ right) =
      Token.lex left ++ (Token.lex right).map (shifted (left ++ gap).utf8ByteSize)) :
    Settled (Token.lex left) := by
  intro token last stray
  have alone : Tiled 0 left.toList (Token.lex left) := lex_tiled 0 [] left.toList
  have joined : Tiled 0 (left ++ gap ++ right).toList (Token.lex (left ++ gap ++ right)) :=
    lex_tiled 0 [] (left ++ gap ++ right).toList
  rw [parted] at joined
  have stop : token.span.stop = left.utf8ByteSize := by
    rw [tiled_ends alone last stray, byte_size, Nat.zero_add]
  have wide : 0 < gap.utf8ByteSize := by
    apply Nat.pos_of_ne_zero
    intro none
    exact filled (String.utf8ByteSize_eq_zero_iff.mp none)
  cases behind : Token.lex right with
  | nil =>
    rw [behind, List.map_nil, List.append_nil] at joined
    have ends := tiled_ends joined last stray
    rw [stop, Nat.zero_add, ← byte_size, String.utf8ByteSize_append,
      String.utf8ByteSize_append] at ends
    omega
  | cons next others =>
    rw [behind, List.map_cons] at joined
    obtain ⟨-, -, meet⟩ := List.isChain_append.mp (tiled_reaches joined)
    obtain ⟨-, reaches⟩ := meet token last _ rfl stray
    rw [stop, shifted, String.utf8ByteSize_append] at reaches
    dsimp only at reaches
    omega

/-- With a gap of blanks between them, two sources have the tokens of the first one
and then those of the second, moved behind the gap, whatever the second one is: just
when the first one does not end in a stretch that no rule accepts. -/
theorem gap_parts_tokens (skips : Skips gap.toList) (filled : gap ≠ "") (left right : String) :
    Token.lex (left ++ gap ++ right) =
        Token.lex left ++ (Token.lex right).map (shifted (left ++ gap).utf8ByteSize) ↔
      Settled (Token.lex left) := by
  constructor
  · intro parted
    exact stray_not_parted filled parted
  · intro settled
    exact lex_gap settled skips filled right

/-- The first source has a stray mark inside and ends in a keyword; the quote that
the second one starts with is never closed. -/
theorem stray_and_unclosed_are_parted :
    ∃ left gap right, left = "\u00e9 > a" ∧ gap = " \n" ∧ right = "\x27b [" ∧
      Skips gap.toList ∧ gap ≠ "" ∧ Settled (Token.lex left) ∧
      Token.lex left = [⟨.keyword, "\u00e9", ⟨0, 2⟩⟩, ⟨.unexpected, "> ", ⟨3, 5⟩⟩,
        ⟨.keyword, "a", ⟨5, 6⟩⟩] ∧
      (left ++ gap).utf8ByteSize = 8 ∧
      Token.lex (left ++ gap ++ right) = Token.lex left ++ (Token.lex right).map (shifted 8) := by
  have tokens : Token.lex "\u00e9 > a" = [⟨.keyword, "\u00e9", ⟨0, 2⟩⟩,
      ⟨.unexpected, "> ", ⟨3, 5⟩⟩, ⟨.keyword, "a", ⟨5, 6⟩⟩] := by
    decide +kernel
  have skips : Skips " \n".toList := by simp [Skips, skipped]
  have settled : Settled (Token.lex "\u00e9 > a") := by
    rw [tokens]
    rintro token ⟨⟩ ⟨⟩
  have size : ("\u00e9 > a" ++ " \n").utf8ByteSize = 8 := by decide
  have parted := (gap_parts_tokens skips (by decide) "\u00e9 > a" "\x27b [").mpr settled
  rw [size] at parted
  exact ⟨_, _, _, rfl, rfl, rfl, skips, by decide, settled, tokens, size, parted⟩

end ValueGrammar.Parting
