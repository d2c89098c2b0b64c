import CompilerGateway.Decimal.Shortest
import CompilerGateway.Json

/-!
# JSON text, written

`Json.render` writes a value compactly: no blanks, fields in the order in which the object
holds them. A text is written between quotation marks with the quotation mark, the backslash
and the characters below the space escaped, and nothing else. A floating-point number is
written with the fewest digits that read back, in the notation `Json.floatLayout`.
-/

namespace CompilerGateway

namespace Json

/-! ### Text -/

/-- A hexadecimal digit, lower case. -/
def hexDigit (n : Nat) : Char := Nat.digitChar (n % 16)

/-- How a character stands in a JSON text. -/
def escapeChar (c : Char) : List Char :=
  if c = '"' then ['\\', '"']
  else if c = '\\' then ['\\', '\\']
  else if c.toNat = 0x08 then ['\\', 'b']
  else if c.toNat = 0x09 then ['\\', 't']
  else if c.toNat = 0x0A then ['\\', 'n']
  else if c.toNat = 0x0C then ['\\', 'f']
  else if c.toNat = 0x0D then ['\\', 'r']
  else if c.toNat < 0x20 then
    ['\\', 'u', '0', '0', hexDigit (c.toNat / 16), hexDigit c.toNat]
  else [c]

/-- The text between quotation marks. -/
def renderText (text : String) : String :=
  String.ofList ('"' :: text.toList.flatMap escapeChar ++ ['"'])

/-! ### Numbers -/

/-- Numbers from 0.00001 up to, but not including, 10^16 are written out; the others have an
exponent. -/
def floatLayout : Decimal.Layout := ⟨-5, 16⟩

/-- A floating-point number, with the sign of a zero kept. -/
def renderFloat (x : Binary64) : String :=
  let sign := if x.negative then ['-'] else []
  if x.isZero then String.ofList (sign ++ ['0', '.', '0'])
  else
    let decimal := Decimal.shortest x.significand x.exponent x.narrowBelow
    String.ofList (sign ++ floatLayout.render decimal.1 decimal.2)

/-! ### Values -/

mutual

/-- The compact text of a value. -/
def render : Json → String
  | .null => "null"
  | .bool true => "true"
  | .bool false => "false"
  | .int value => toString value
  | .float value => renderFloat value
  | .str value => renderText value
  | .arr items => "[" ++ ",".intercalate (renderItems items) ++ "]"
  | .obj fields => "\x7b" ++ ",".intercalate (renderFields fields) ++ "\x7d"

/-- The texts of the items of an array. -/
def renderItems : List Json → List String
  | [] => []
  | item :: rest => render item :: renderItems rest

/-- The texts of the fields of an object, each a name, a colon and a value. -/
def renderFields : List (String × Json) → List String
  | [] => []
  | (name, value) :: rest => (renderText name ++ ":" ++ render value) :: renderFields rest

end

end Json

end CompilerGateway
