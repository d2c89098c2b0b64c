/-!
# Letters in lower case

Names of settings, levels and formats are compared without regard to the case of their letters
as far as these are ASCII; other letters are what they are.
-/

namespace CompilerGateway

namespace Text

/-- The text with its ASCII letters in lower case. -/
def lowerAscii (text : String) : String := String.ofList (text.toList.map Char.toLower)

end Text

end CompilerGateway
