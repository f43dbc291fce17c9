import Mathlib.Data.List.Chain
import ValueGrammar.Proofs.Slices

/-! The tokens of a source leave nothing out. One after the other, without
overlap, each is cut out of the source between two characters, and only blanks
stand between them; a stretch that no rule accepts goes on to the next token. -/
namespace ValueGrammar.Tiling
open Text Token Piece Lexing Rules LongestMatch Slices

/-- All of the characters are among those that separate tokens. -/
def Skips (gap : List Char) : Prop := ∀ c ∈ gap, c ∈ skipped

/-- Behind a stretch that stops here the text goes on with a token that some
rule accepts, or not at all. -/
def Reaches (stop : Nat) (rest : List Char) : List Token → Prop
  | [] => rest = []
  | next :: _ => next.kind ≠ .unexpected ∧ next.span.start = stop

/-- From this offset on the tokens take up the text, but for the blanks in front
of each and behind the last. -/
inductive Tiled : Nat → List Char → List Token → Prop where
  | blank {start : Nat} {gap : List Char} (skips : Skips gap) : Tiled start gap []
  | token {start : Nat} {gap rest : List Char} {token : Token} {tokens : List Token}
    (skips : Skips gap) (filled : token.text.toList ≠ [])
    (place : token.span = ⟨start + byteLength gap,
      start + byteLength gap + byteLength token.text.toList⟩)
    (reaches : token.kind = .unexpected → Reaches token.span.stop rest tokens)
    (others : Tiled token.span.stop rest tokens) :
    Tiled start (gap ++ (token.text.toList ++ rest)) (token :: tokens)

variable {kind : TokenKind} {token : Token} {tokens : List Token} {start index : Nat} {byte : UInt8}
  {gap lexeme stray rest text : List Char}

private theorem skips_nil : Skips [] := by
  intro c member
  cases member

private theorem skips_append {more : List Char} (skips : Skips gap) (others : Skips more) :
    Skips (gap ++ more) :=
  List.forall_mem_append.mpr ⟨skips, others⟩

/-- Blanks in front are passed over. -/
theorem tiled_behind (skips : Skips gap) (tiled : Tiled (start + byteLength gap) text tokens) :
    Tiled start (gap ++ text) tokens := by
  cases tiled with
  | blank others => exact .blank (skips_append skips others)
  | token others filled place reaches behind =>
    rw [← List.append_assoc]
    refine .token (skips_append skips others) filled ?_ reaches behind
    rw [place, byte_length_append, Nat.add_assoc start]

/-- A token that starts at once. -/
private theorem tiled_token (filled : lexeme ≠ [])
    (reaches : kind = .unexpected → Reaches (start + byteLength lexeme) rest tokens)
    (others : Tiled (start + byteLength lexeme) rest tokens) :
    Tiled start (lexeme ++ rest)
      (⟨kind, String.ofList lexeme, ⟨start, start + byteLength lexeme⟩⟩ :: tokens) := by
  have written := String.toList_ofList (l := lexeme)
  have tiled := @Tiled.token start [] rest
    ⟨kind, String.ofList lexeme, ⟨start, start + byteLength lexeme⟩⟩ tokens skips_nil
  rw [written] at tiled
  exact tiled filled rfl reaches others

/-- A stray stretch, if there is one, is a token up to where the next one starts. -/
private theorem tiled_stray (reaches : Reaches (start + byteLength stray) rest tokens)
    (others : Tiled (start + byteLength stray) rest tokens) :
    Tiled start (stray ++ rest) (ofStray start stray ++ tokens) := by
  unfold ofStray
  cases stray with
  | nil => exact others
  | cons c stray => exact tiled_token (List.cons_ne_nil c stray) (fun _ => reaches) others

/-- Lexing tiles the text, a stray stretch in front of it included. -/
theorem lex_tiled (start : Nat) (stray source : List Char) :
    Tiled start (stray ++ source) (lexFrom start stray source) := by
  induction start, stray, source using lexing_induction with
  | ends start stray =>
    rw [lex_end]
    have ends : Reaches (start + byteLength stray) [] [] := rfl
    simpa using tiled_stray ends (.blank skips_nil)
  | blanks start run rest blank ih =>
    rw [lex_blanks blank, List.nil_append]
    exact tiled_behind (fun c member => (skipped_iff c).mp (blank c member)) ih
  | trailing start stray run rest blank filled ih =>
    rw [lex_stray_blanks blank filled, ← List.append_assoc]
    exact ih
  | strays start stray c rest lexeme after piece ih =>
    rw [lex_stray piece, ← piece_append piece, ← List.append_assoc]
    exact ih
  | lexemes start stray c rest sort lexeme after piece ih =>
    have known : sort ≠ .unexpected := by
      have accepts : Accepts sort (first c rest).1.text := first_accepts (by rw [piece])
      rintro rfl
      cases accepts
    rw [lex_lexeme piece, ← piece_append piece]
    exact tiled_stray ⟨known, rfl⟩
      (tiled_token (piece_filled piece) (fun unknown => absurd unknown known) ih)

/-- A text with characters in it takes up bytes. -/
private theorem filled_length (filled : text ≠ []) : 0 < byteLength text := by
  obtain ⟨c, rest, rfl⟩ := List.exists_cons_of_ne_nil filled
  exact Nat.add_pos_left c.utf8Size_pos _

/-- No token is empty. -/
theorem tiled_filled (tiled : Tiled start text tokens) :
    ∀ token ∈ tokens, token.span.start < token.span.stop := by
  induction tiled with
  | blank skips => simp
  | token skips filled place reaches others ih =>
    refine List.forall_mem_cons.mpr ⟨?_, ih⟩
    have length := filled_length filled
    simp only [place]
    omega

/-- No token starts before the text does. -/
theorem tiled_start_le (tiled : Tiled start text tokens) :
    ∀ token ∈ tokens, start ≤ token.span.start := by
  induction tiled with
  | blank skips => simp
  | token skips filled place reaches others ih =>
    simp only [place] at ih
    refine List.forall_mem_cons.mpr ⟨?_, fun next member => ?_⟩
    · simp only [place]
      omega
    · have behind := ih next member
      omega

/-- The tokens stand one behind the other. -/
theorem tiled_ordered (tiled : Tiled start text tokens) :
    tokens.Pairwise fun left right => left.span.stop ≤ right.span.start := by
  induction tiled with
  | blank skips => exact .nil
  | token skips filled place reaches others ih => exact .cons (tiled_start_le others) ih

/-- A stretch that no rule accepts goes on to the next token. -/
theorem tiled_reaches (tiled : Tiled start text tokens) :
    tokens.IsChain fun left right => left.kind = .unexpected →
      right.kind ≠ .unexpected ∧ left.span.stop = right.span.start := by
  induction tiled with
  | blank skips => exact .nil
  | @token start gap rest token tokens skips filled place reaches others ih =>
    cases tokens with
    | nil => exact .singleton token
    | cons next tokens =>
      refine .cons_cons (fun unknown => ?_) ih
      obtain ⟨known, starts⟩ := reaches unknown
      exact ⟨known, starts.symm⟩

/-- If it is the last token, it goes on to the end of the text. -/
theorem tiled_ends (tiled : Tiled start text tokens) (last : tokens.getLast? = some token)
    (unknown : token.kind = .unexpected) : token.span.stop = start + byteLength text := by
  induction tiled with
  | blank skips => cases last
  | @token start gap rest first tokens skips filled place reaches others ih =>
    have length : start + byteLength (gap ++ (first.text.toList ++ rest)) =
        first.span.stop + byteLength rest := by
      simp only [place, byte_length_append]
      omega
    rw [length]
    cases tokens with
    | nil =>
      obtain rfl := Option.some.inj last
      obtain rfl : rest = [] := reaches unknown
      rfl
    | cons next tokens =>
      rw [List.getLast?_cons_cons] at last
      exact ih last

/-- Space, tab, carriage return, line feed and form feed take one byte each. -/
def skippedBytes : List UInt8 := [0x20, 0x09, 0x0D, 0x0A, 0x0C]

theorem skips_bytes (skips : Skips gap) : ∀ byte ∈ bytes gap, byte ∈ skippedBytes := by
  have encoded : bytes skipped = skippedBytes := rfl
  intro byte member
  obtain ⟨c, inside, among⟩ := List.mem_flatMap.mp member
  rw [← encoded]
  exact List.mem_flatMap.mpr ⟨c, skips c inside, among⟩

/-- A byte that no token takes up is a blank. -/
theorem tiled_blank (tiled : Tiled start text tokens) (found : (bytes text)[index]? = some byte)
    (outside : ∀ token ∈ tokens,
      start + index < token.span.start ∨ token.span.stop ≤ start + index) :
    byte ∈ skippedBytes := by
  induction tiled generalizing index with
  | blank skips => exact skips_bytes skips byte (List.mem_of_getElem? found)
  | @token start gap rest token tokens skips filled place reaches others ih =>
    obtain ⟨apart, outside⟩ := List.forall_mem_cons.mp outside
    simp only [place] at apart ih
    rw [bytes_append, bytes_append] at found
    rcases apart with before | behind
    · have within : index < (bytes gap).length := by
        rw [bytes_length]
        omega
      rw [List.getElem?_append_left within] at found
      exact skips_bytes skips byte (List.mem_of_getElem? found)
    · have beyond : (bytes gap).length + (bytes token.text.toList).length ≤ index := by
        rw [bytes_length, bytes_length]
        omega
      rw [← List.append_assoc, List.getElem?_append_right (by rwa [List.length_append])] at found
      refine ih found ?_
      intro next member
      have away := outside next member
      rw [List.length_append, bytes_length, bytes_length]
      rw [bytes_length, bytes_length] at beyond
      omega

/-- Every token of a source stands in it. -/
theorem lexed_stands {source : String} (member : token ∈ Token.lex source) :
    ∃ before after, Stands source.toList token before after := by
  have found : token ∈ lexFrom (byteLength []) [] source.toList := member
  obtain ⟨before, after, stands, -⟩ := lex_munched (by simp) found
  exact ⟨before, after, stands⟩

/-- Every token of a source is cut out of it. -/
theorem lexed_cut {source : String} (member : token ∈ Token.lex source) :
    Cuts source token.span token.text := by
  obtain ⟨before, after, stands⟩ := lexed_stands member
  exact stands_cut stands (tiled_filled (lex_tiled 0 [] source.toList) token member)

/-- How the tokens of a source divide it. -/
structure Tiles (source : String) (tokens : List Token) : Prop where
  /-- Each of them is cut out of the source. -/
  cut : ∀ token ∈ tokens, Cuts source token.span token.text
  /-- Each of them stands behind those before it. -/
  ordered : tokens.Pairwise fun left right =>
    left.span.start < right.span.start ∧ left.span.stop ≤ right.span.start
  /-- What is in none of them is blank. -/
  blank : ∀ index, (inside : index < source.toByteArray.size) →
    (∀ token ∈ tokens, index < token.span.start ∨ token.span.stop ≤ index) →
    source.toByteArray[index] ∈ skippedBytes
  /-- A stretch that no rule accepts goes on to the next token, which some rule
  accepts. -/
  reaches : tokens.IsChain fun left right => left.kind = .unexpected →
    right.kind ≠ .unexpected ∧ left.span.stop = right.span.start
  /-- The last stretch that no rule accepts goes on to the end. -/
  ends : ∀ token, tokens.getLast? = some token → token.kind = .unexpected →
    token.span.stop = source.utf8ByteSize

/-- The tokens of a source divide all of it, but for the blanks between them. -/
theorem tokens_tile (source : String) : Tiles source (Token.lex source) := by
  have tiled : Tiled 0 source.toList (Token.lex source) := lex_tiled 0 [] source.toList
  refine ⟨fun token member => lexed_cut member, ?_, ?_, tiled_reaches tiled, ?_⟩
  · refine (tiled_ordered tiled).imp_of_mem fun {left right} member _ behind => ?_
    exact ⟨Nat.lt_of_lt_of_le (tiled_filled tiled left member) behind, behind⟩
  · intro index inside outside
    exact tiled_blank tiled (byte_found inside) (by simpa only [Nat.zero_add] using outside)
  · intro token last unknown
    rw [byte_size, ← Nat.zero_add (byteLength source.toList)]
    exact tiled_ends tiled last unknown

/-- Blanks between two stray marks belong to the stretch, and so do those behind. -/
example : Token.lex "a > & \u00e9" = [⟨.keyword, "a", ⟨0, 1⟩⟩, ⟨.unexpected, "> & ", ⟨2, 6⟩⟩,
    ⟨.keyword, "\u00e9", ⟨6, 8⟩⟩] := by
  decide +kernel

end ValueGrammar.Tiling
