import ValueGrammar.Proofs.LongestMatch

/-! Texts that a span cuts out of a source. The places of a span count bytes, so
the bytes of the source decide which text it cuts out. -/
namespace ValueGrammar.Slices
open Text Lexing LongestMatch

variable {token : Token} {source : String} {before after : List Char} {index : Nat}

/-- The bytes that the characters are encoded with. -/
def bytes (text : List Char) : List UInt8 := text.flatMap String.utf8EncodeChar

theorem bytes_append (left right : List Char) : bytes (left ++ right) = bytes left ++ bytes right :=
  List.flatMap_append

theorem bytes_length (text : List Char) : (bytes text).length = byteLength text := by
  induction text with
  | nil => rfl
  | cons c text ih =>
    change (String.utf8EncodeChar c ++ bytes text).length = c.utf8Size + byteLength text
    rw [List.length_append, String.length_utf8EncodeChar, ih]

private theorem byte_array (source : String) :
    source.toByteArray = (bytes source.toList).toByteArray :=
  String.utf8Encode_toList.symm

theorem byte_size (source : String) : source.utf8ByteSize = byteLength source.toList := by
  rw [← String.size_toByteArray, byte_array, List.size_toByteArray, bytes_length]

/-- The bytes of a source are those of its characters. -/
theorem byte_found (inside : index < source.toByteArray.size) :
    (bytes source.toList)[index]? = some source.toByteArray[index] := by
  have within : index < (bytes source.toList).length := by
    rwa [bytes_length, ← byte_size]
  rw [List.getElem?_eq_getElem within, List.getElem_eq_getElem_toByteArray]
  simp only [byte_array]

/-- The span cuts the text out of the source: on either side it is between two
characters, it takes in at least one, and its bytes are those of the text. -/
structure Cuts (source : String) (span : Span) (text : String) : Prop where
  starts : (String.Pos.Raw.mk span.start).IsValid source
  stops : (String.Pos.Raw.mk span.stop).IsValid source
  filled : span.start < span.stop
  inside : span.stop ≤ source.utf8ByteSize
  bytes : source.toByteArray.extract span.start span.stop = text.toByteArray

/-- A token that stands in a source and is not empty is cut out of it. -/
theorem stands_cut (stands : Stands source.toList token before after)
    (filled : token.span.start < token.span.stop) : Cuts source token.span token.text := by
  obtain ⟨whole, span⟩ := stands
  have front : (String.ofList before).utf8ByteSize = byteLength before := by
    rw [byte_size, String.toList_ofList]
  have written : source = String.ofList before ++ (token.text ++ String.ofList after) := by
    rw [← String.toList_inj, whole]
    simp
  have starts : (String.Pos.Raw.mk token.span.start).IsValid source := by
    refine String.Pos.Raw.isValid_iff_exists_append.mpr ⟨_, _, written, ?_⟩
    rw [span, String.rawEndPos, front]
  have stops : (String.Pos.Raw.mk token.span.stop).IsValid source := by
    rw [← String.append_assoc] at written
    refine String.Pos.Raw.isValid_iff_exists_append.mpr ⟨_, _, written, ?_⟩
    rw [span, String.rawEndPos, String.utf8ByteSize_append, front, byte_size token.text]
  refine ⟨starts, stops, filled, stops.le_utf8ByteSize, ?_⟩
  calc source.toByteArray.extract token.span.start token.span.stop
    _ = ((String.ofList before).toByteArray ++
          (token.text.toByteArray ++ (String.ofList after).toByteArray)).extract
        ((String.ofList before).toByteArray.size + 0)
        ((String.ofList before).toByteArray.size + token.text.toByteArray.size) := by
      rw [span, String.size_toByteArray, String.size_toByteArray, front, byte_size token.text,
        written, String.toByteArray_append, String.toByteArray_append]
      rfl
    _ = (token.text.toByteArray ++ (String.ofList after).toByteArray).extract 0
        token.text.toByteArray.size := ByteArray.extract_append_size_add
    _ = token.text.toByteArray := ByteArray.extract_append_eq_left rfl

end ValueGrammar.Slices
