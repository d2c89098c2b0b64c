/-!
# Blank text

The characters with the Unicode property `White_Space`, and the texts that consist of them.
A package name made of blanks alone counts as an empty one, so the property has to be the
full one: the Latin-1 and general-punctuation spaces are in it, the zero-width space U+200B
and the byte-order mark U+FEFF are not.
-/

namespace CompilerGateway

namespace Text

/-- The characters with the property `White_Space`. -/
def isBlank (c : Char) : Bool :=
  let n := c.toNat
  (9 ≤ n && n ≤ 13) || n == 0x20 || n == 0x85 || n == 0xA0 || n == 0x1680
    || (0x2000 ≤ n && n ≤ 0x200A) || n == 0x2028 || n == 0x2029 || n == 0x202F
    || n == 0x205F || n == 0x3000

/-- Whether nothing but blanks occurs, as in the empty text. -/
def allBlank (text : String) : Bool := text.toList.all isBlank

/-- The text without the blanks at its two ends. -/
def trimBlank (text : String) : String :=
  String.ofList ((text.toList.dropWhile isBlank).reverse.dropWhile isBlank).reverse

/-- ASCII's notion of a blank is part of the property. -/
theorem isBlank_of_isWhitespace {c : Char} (h : c.isWhitespace = true) : isBlank c = true := by
  simp only [Char.isWhitespace, Bool.or_eq_true, decide_eq_true_eq] at h
  rcases h with ((rfl | rfl) | rfl) | rfl <;> rfl

end Text

end CompilerGateway
