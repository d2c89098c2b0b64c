/-!
# Texts and their bytes

The bytes of a text are those of its characters in UTF-8 (`Text.bytes`), and some bytes are those
of a text or of none (`fromUTF8?_eq_some_iff`).

`Text.lossy` reads any bytes as a text. What is no character is read as the replacement
character, once for each longest run of bytes that a character could begin with, or else for each
byte (`Text.strayCount`). Bytes that are a text are read as that text (`Text.lossy_bytes`).
-/

namespace CompilerGateway

/-! ### Bytes of texts -/

theorem fromUTF8?_toUTF8 (text : String) : String.fromUTF8? text.toUTF8 = some text := by
  simp only [String.toUTF8_eq_toByteArray]
  exact dif_pos text.isValidUTF8

theorem fromUTF8?_eq_some_iff {content : ByteArray} {text : String} :
    String.fromUTF8? content = some text ↔ text.toUTF8 = content := by
  constructor
  · intro isText
    rw [String.fromUTF8?] at isText
    split at isText
    · rw [← Option.some.inj isText]
      rfl
    · cases isText
  · rintro rfl
    exact fromUTF8?_toUTF8 text

namespace Text

/-- The bytes of a text in UTF-8. -/
def bytes (text : String) : List UInt8 := text.toUTF8.data.toList

theorem bytes_eq_flatMap (text : String) :
    bytes text = text.toList.flatMap String.utf8EncodeChar := by
  have encoded : text.toByteArray = text.toList.utf8Encode := by
    conv => lhs; rw [← String.ofList_toList (s := text)]
    exact String.toByteArray_ofList
  rw [bytes, String.toUTF8_eq_toByteArray, encoded, List.utf8Encode, List.data_toByteArray]

theorem toByteArray_bytes (text : String) : (bytes text).toByteArray = text.toUTF8 :=
  ByteArray.ext List.data_toByteArray

/-! ### Bytes that need not be text -/

/-- The character that stands for what is no character. -/
def replacement : Char := '\ufffd'

/-- Whether a byte may follow the first byte of a character. For some first bytes not all such
bytes may, or the character would be a surrogate, beyond the last one, or written too long. -/
def maySecond (lead second : UInt8) : Bool :=
  let least : UInt8 := if lead = 0xE0 then 0xA0 else if lead = 0xF0 then 0x90 else 0x80
  let most : UInt8 := if lead = 0xED then 0x9F else if lead = 0xF4 then 0x8F else 0xBF
  decide (least ≤ second ∧ second ≤ most)

/-- How many bytes after a first byte a character could still begin with, where no character
begins. -/
def strayCount (lead : UInt8) : List UInt8 → Nat
  | [] => 0
  | second :: rest =>
    if lead < 0xE0 ∨ 0xF4 < lead ∨ maySecond lead second = false then 0
    else if lead < 0xF0 then 1
    else
      match rest with
      | third :: _ => if 0x80 ≤ third ∧ third ≤ 0xBF then 2 else 1
      | [] => 1

/-- Reads bytes as characters. -/
def lossy : List UInt8 → List Char
  | [] => []
  | lead :: rest =>
    match (lead :: rest).toByteArray.utf8DecodeChar? 0 with
    | some c => c :: lossy (rest.drop (c.utf8Size - 1))
    | none => replacement :: lossy (rest.drop (strayCount lead rest))
  termination_by raw => raw.length

/-- The bytes of characters are read as these. -/
theorem lossy_flatMap (chars : List Char) :
    lossy (chars.flatMap String.utf8EncodeChar) = chars := by
  induction chars with
  | nil => rw [List.flatMap_nil, lossy]
  | cons c chars ih =>
    have size := String.length_utf8EncodeChar c
    cases encoded : String.utf8EncodeChar c with
    | nil =>
      have := c.utf8Size_pos
      rw [encoded, List.length_nil] at size
      omega
    | cons lead rest =>
      rw [encoded, List.length_cons] at size
      have found : (lead ::
          (rest ++ chars.flatMap String.utf8EncodeChar)).toByteArray.utf8DecodeChar? 0 =
            some c := by
        rw [← List.cons_append, ← encoded, List.toByteArray_append]
        exact ByteArray.utf8DecodeChar?_utf8EncodeChar_append
      have others : c.utf8Size - 1 = rest.length := by omega
      rw [List.flatMap_cons, encoded, List.cons_append, lossy, found]
      show c :: lossy ((rest ++ _).drop (c.utf8Size - 1)) = c :: chars
      rw [others, List.drop_left, ih]

theorem lossy_bytes (text : String) : lossy (bytes text) = text.toList := by
  rw [bytes_eq_flatMap, lossy_flatMap]

end Text

end CompilerGateway
