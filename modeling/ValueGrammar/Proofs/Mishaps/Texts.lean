import ValueGrammar.Entity.Descent
import ValueGrammar.Proofs.Tiling

/-! The texts that a reading by descent cuts out of a source by byte offsets. The
rule that accepts a token tells which characters it starts and ends with, and those
that are cut off take one byte each. -/
namespace ValueGrammar.Mishaps
open Entity Descent Text Lexing LongestMatch Rules

variable {text source : List Char} {token : Token} {kind : TokenKind}

theorem drop_bytes (before after : List Char) :
    dropBytes? (byteLength before) (before ++ after) = some after := by
  induction before with
  | nil => cases after <;> simp [dropBytes?, byteLength]
  | cons c before ih =>
    have positive := c.utf8Size_pos
    have size : byteLength (c :: before) = c.utf8Size + byteLength before := rfl
    rw [List.cons_append, dropBytes?, size, if_neg (by omega), if_pos (by omega),
      Nat.add_sub_cancel_left, ih]

theorem take_bytes (before after : List Char) :
    takeBytes? (byteLength before) (before ++ after) = some before := by
  induction before with
  | nil => cases after <;> simp [takeBytes?, byteLength]
  | cons c before ih =>
    have positive := c.utf8Size_pos
    have size : byteLength (c :: before) = c.utf8Size + byteLength before := rfl
    rw [List.cons_append, takeBytes?, size, if_neg (by omega), if_pos (by omega),
      Nat.add_sub_cancel_left, ih, Option.map_some]

/-- What stands between two texts is cut out from where the first one ends. -/
theorem slice_between (before part after : List Char) :
    slice (before ++ (part ++ after)) (byteLength before) (byteLength before + byteLength part) =
      .ok part := by
  rw [slice, if_pos (Nat.le_add_right _ _), drop_bytes, Nat.add_sub_cancel_left]
  simp only [Option.bind_some, take_bytes]

/-- No slice starts inside of a character. -/
example : slice ['\u00e9', 'a'] 1 2 = .error (.mishap .slice) := by decide

theorem slice_front (part after : List Char) :
    slice (part ++ after) 0 (byteLength part) = .ok part := by
  have cut := slice_between [] part after
  rw [show byteLength [] = 0 from rfl, Nat.zero_add] at cut
  exact cut

/-- The text of a token can be cut out of its source, and some rule accepts it
unless the token is unexpected. -/
structure Lexed (source : List Char) (token : Token) : Prop where
  cut : (Mark.ofToken token).text source = .ok token.text.toList
  accepts : token.kind ≠ .unexpected → Accepts token.kind token.text.toList

theorem lexed_member {source : String} (member : token ∈ Token.lex source) :
    Lexed source.toList token := by
  obtain ⟨before, after, stands⟩ := Tiling.lexed_stands member
  refine ⟨?_, lexed_accepts member⟩
  rw [Mark.text, Mark.ofToken, stands.span, stands.whole]
  exact slice_between before _ after

private theorem byte_length_cons (c : Char) (text : List Char) :
    byteLength (c :: text) = c.utf8Size + byteLength text := rfl

/-- The last byte of a text that ends with a character of one byte is that character. -/
private theorem last_byte {last : Char} (narrow : last.utf8Size = 1) (text : List Char) :
    lastByte (text ++ [last]) = .ok (byteLength text) := by
  have size : byteLength (text ++ [last]) = byteLength text + 1 := by
    rw [byte_length_append, byte_length_cons, narrow]
    rfl
  rw [lastByte, size, if_neg (Nat.succ_ne_zero _), Nat.add_sub_cancel]

/-- Between two characters of one byte each stands what is inside of a text. -/
theorem inside_between {first last : Char} (narrow : first.utf8Size = 1)
    (narrow' : last.utf8Size = 1) (inner : List Char) :
    inside (first :: inner ++ [last]) = .ok inner := by
  have cut := slice_between [first] inner [last]
  have size : byteLength (first :: inner) = byteLength [first] + byteLength inner := by
    rw [byte_length_cons, byte_length_cons]
    rfl
  have one : byteLength [first] = 1 := narrow
  rw [inside, last_byte narrow', size]
  rw [one] at cut ⊢
  exact cut

/-- A function is named without its parenthesis. -/
theorem name_accepted (accepts : Accepts .functionOpen text) :
    withoutLast text = .ok text.dropLast := by
  cases accepts with
  | @functionOpen first others starts named =>
    rw [withoutLast, last_byte rfl, List.dropLast_concat]
    exact slice_front (first :: others) ['(']

/-- A name goes up to the bracket behind it, whether there is one or not. -/
private theorem before_bracket (inner : List Char) :
    beforeBracket inner = .ok (inner.takeWhile (· != '[')) := by
  unfold beforeBracket
  cases bracket : inner.contains '[' with
  | true =>
    have cut := slice_front (inner.takeWhile (· != '[')) (inner.dropWhile (· != '['))
    rw [List.takeWhile_append_dropWhile] at cut
    exact cut
  | false =>
    have whole : inner.takeWhile (· != '[') = inner := by
      refine List.takeWhile_eq_self_iff.mpr fun c member => ?_
      rw [bne_iff_ne]
      rintro rfl
      rw [List.contains_iff_mem.mpr member] at bracket
      cases bracket
    rw [whole]
    rfl

/-- The texts that stand between two characters have one byte at either end. -/
theorem inside_accepted (accepts : Accepts kind text)
    (enclosed : kind = .dataType ∨ kind = .curlyRange ∨ kind = .quotedKeyword) :
    inside text = .ok (text.drop 1).dropLast := by
  obtain ⟨first, inner, last, rfl, narrow, narrow'⟩ : ∃ first inner last,
      text = first :: inner ++ [last] ∧ first.utf8Size = 1 ∧ last.utf8Size = 1 := by
    cases accepts with
    | dataType | count | quotedKeyword => exact ⟨_, _, _, rfl, rfl, rfl⟩
    | @bounds low high =>
      exact ⟨'\x7b', low ++ ',' :: high, '\x7d', by simp, rfl, rfl⟩
    | _ => simp at enclosed
  rw [inside_between narrow narrow']
  simp

/-- The text of a data type is what it is without offsets. -/
theorem data_type_text (accepts : Accepts .dataType text) :
    dataTypeOf text = .ok (dataTypeText (String.ofList text)) := by
  have read := inside_accepted accepts (.inl rfl)
  unfold dataTypeText
  rw [String.toList_ofList]
  generalize (text.drop 1).dropLast = inner at read
  dsimp only
  split
  · simp only [dataTypeOf, read, bind, Except.bind]
    rfl
  · simp only [dataTypeOf, read, before_bracket, bind, Except.bind]
    rfl

/-- A curly range is read between its braces. -/
theorem multiplier_read (lexed : Lexed source token) (kind : token.kind.isMultiplier = true) :
    Descent.multiplierOf source (.ofToken token) =
      match Entity.multiplierOf token with
      | some multiplier => .ok multiplier
      | none => .error (.refused ⟨.invalidRange token.text, token.span⟩) := by
  obtain ⟨cut, accepts⟩ := lexed
  obtain ⟨sort, text, span⟩ := token
  cases sort with
  | asterisk | plusSign | questionMark | hashMark | exclamationPoint => rfl
  | curlyRange =>
    have read := inside_accepted (accepts TokenKind.noConfusion) (.inr (.inl rfl))
    simp only [Descent.multiplierOf, Mark.ofToken, bind, Except.bind] at cut ⊢
    rw [cut]
    simp only [read, Entity.multiplierOf, Multiplier.ofRange?]
    cases Multiplier.ofBounds? (text.toList.drop 1).dropLast with
    | some multiplier => rfl
    | none =>
      simp only [String.ofList_toList]
      rfl
  | _ => cases kind

end ValueGrammar.Mishaps
