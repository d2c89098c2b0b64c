import CompilerGateway.Text.Numbered

/-!
# Quoted text

Text between quotation marks, in a form that a reader can tell from every other text: the
quotation mark and the backslash get a backslash, tab, line feed, carriage return and NUL have
a letter each, and every other character of `Text.isNumbered` is written as its hexadecimal
number in braces.

`Text.quote` writes the form, `Text.quotePairs` a list of pairs of quoted texts.
-/

namespace CompilerGateway

namespace Text

/-- The digits of `n` in base sixteen, lower case, with no leading zero. -/
def hexDigits (n : Nat) : List Char := Nat.toDigits 16 n

/-- How one character stands between the quotation marks. -/
def quoteChar (c : Char) : List Char :=
  if c = '"' then ['\\', '"']
  else if c = '\\' then ['\\', '\\']
  else if c = '\n' then ['\\', 'n']
  else if c = '\r' then ['\\', 'r']
  else if c = '\t' then ['\\', 't']
  else if c.toNat = 0 then ['\\', '0']
  else if isNumbered c then ['\\', 'u', '\x7b'] ++ hexDigits c.toNat ++ ['\x7d']
  else [c]

/-- The text between quotation marks. -/
def quote (text : String) : String :=
  String.ofList ('"' :: text.toList.flatMap quoteChar ++ ['"'])

/-- A list of pairs of quoted texts, in brackets. -/
def quotePairs (pairs : List (String × String)) : String :=
  "[" ++ ", ".intercalate (pairs.map fun p => "(" ++ quote p.1 ++ ", " ++ quote p.2 ++ ")") ++ "]"

end Text

end CompilerGateway
