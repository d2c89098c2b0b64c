import CompilerGateway.Decimal.Natural
import CompilerGateway.Json
import CompilerGateway.Text.Escapes

/-!
# JSON text, read

`Json.parse?` reads one value that fills the whole text, blanks around it apart. Objects come
out in ascending order of their names, the last of several fields with one name winning.

A number with a point or an exponent becomes a `Json.float`; so does an integer that takes more
than sixty-four bits, and `-0`, the only one whose sign would otherwise be lost. What a literal
stands for is rounded more than once: its digits make a floating-point number, whose decimal
point is moved then. A floating-point literal beyond the range of the format, a lone half of a
surrogate pair and an unescaped control character are refused.

The readers take the characters still ahead and give back those they leave. Values nest, so
the ones for values carry a bound on the depth; the length of the text is always enough.
-/

namespace CompilerGateway

namespace Json

/-! ### Blanks and numbers -/

/-- The text after the blanks it starts with. -/
def skipBlanks : List Char → List Char
  | [] => []
  | c :: rest =>
    if c = ' ' ∨ c = '\n' ∨ c = '\r' ∨ c = '\t' then skipBlanks rest else c :: rest

/-- Whether the character is an ASCII digit. -/
def isDigit (c : Char) : Bool := (Decimal.digit? c).isSome

/-- The digits ahead, and what follows them. -/
def digitsAhead (text : List Char) : List Char × List Char :=
  (text.takeWhile isDigit, text.dropWhile isDigit)

/-- The fraction ahead: nothing, or a point with at least one digit. -/
def fractionAhead? : List Char → Option (List Char × List Char)
  | '.' :: rest =>
    match digitsAhead rest with
    | ([], _) => none
    | found => some found
  | text => some ([], text)

/-- The exponent ahead: nothing, or a mark, an optional sign and at least one digit. -/
def exponentAhead? : List Char → Option (Option Int × List Char)
  | [] => some (none, [])
  | c :: rest =>
    if c = 'e' ∨ c = 'E' then
      let (negative, rest) := match rest with
        | '-' :: rest => (true, rest)
        | '+' :: rest => (false, rest)
        | rest => (false, rest)
      match digitsAhead rest with
      | ([], _) => none
      | (digits, rest) =>
        (Decimal.readDigits? 0 digits).map fun n => (some (if negative then -n else n), rest)
    else some (none, c :: rest)

/-- The number that the digits continue as long as it stays below the bound, and the digits that
are left then. -/
def fitting (bound soFar : Nat) : List Char → Nat × List Char
  | [] => (soFar, [])
  | c :: rest =>
    match Decimal.digit? c with
    | none => (soFar, c :: rest)
    | some digit =>
      if 10 * soFar + digit < bound then fitting bound (10 * soFar + digit) rest
      else (soFar, c :: rest)

/-- The floating-point number made of a sign, the digits before and after the point and an
exponent. The digits count as far as sixty-four bits hold them. -/
def float? (negative : Bool) (whole fraction : List Char) (exponent : Int) : Option Binary64 :=
  let (digits, beyond) := fitting UInt64.size 0 whole
  let (digits, unused) := fitting UInt64.size digits fraction
  (Binary64.ofDecimal negative digits 0).bind fun x =>
    x.movePoint (exponent + beyond.length - (fraction.length - unused.length : Nat))

/-- The integer of a sign and digits, if sixty-four bits hold it and its sign counts. -/
def integer? (negative : Bool) (digits : List Char) : Option Int :=
  (Decimal.readDigits? 0 digits).bind fun n =>
    if negative then if 0 < n ∧ n ≤ 0x8000000000000000 then some (-n) else none
    else if n < UInt64.size then some n else none

/-- The number made of a sign, the digits before and after the point and an exponent. -/
def number? (negative : Bool) (whole fraction : List Char) (exponent : Option Int) :
    Option Json :=
  let integer := if fraction = [] ∧ exponent = none then integer? negative whole else none
  match integer with
  | some n => some (.int n)
  | none => (float? negative whole fraction (exponent.getD 0)).map .float

/-- The number ahead. Its whole part has no leading zero. -/
def numberAhead? (text : List Char) : Option (Json × List Char) :=
  let (negative, text) := match text with
    | '-' :: rest => (true, rest)
    | rest => (false, rest)
  match digitsAhead text with
  | ([], _) => none
  | ('0' :: _ :: _, _) => none
  | (whole, rest) => do
    let (fraction, rest) ← fractionAhead? rest
    let (exponent, rest) ← exponentAhead? rest
    let value ← number? negative whole fraction exponent
    pure (value, rest)

/-! ### Text -/

/-- Four hexadecimal digits as a number. -/
def hexUnit? (a b c d : Char) : Option Nat := do
  let a ← Text.hexValue? a
  let b ← Text.hexValue? b
  let c ← Text.hexValue? c
  let d ← Text.hexValue? d
  pure (((a * 16 + b) * 16 + c) * 16 + d)

/-- The character that the letter of a short escape stands for. -/
def shortEscape? (c : Char) : Option Char :=
  if c = '"' then some '"'
  else if c = '\\' then some '\\'
  else if c = '/' then some '/'
  else if c = 'b' then some '\x08'
  else if c = 'f' then some '\x0c'
  else if c = 'n' then some '\n'
  else if c = 'r' then some '\r'
  else if c = 't' then some '\t'
  else none

/-- The rest of a text after its opening quotation mark; `soFar` holds the characters read,
the last one first. Each of a surrogate pair's two escapes has to be followed by the other. -/
def textAhead? (soFar : List Char) : List Char → Option (List Char × List Char)
  | [] => none
  | '"' :: rest => some (soFar.reverse, rest)
  | '\\' :: 'u' :: a :: b :: c :: d :: '\\' :: 'u' :: e :: f :: g :: h :: rest =>
    match hexUnit? a b c d with
    | none => none
    | some unit =>
      if 0xD800 ≤ unit ∧ unit < 0xDC00 then
        match hexUnit? e f g h with
        | none => none
        | some low =>
          if 0xDC00 ≤ low ∧ low < 0xE000 then
            textAhead? (Char.ofNat (0x10000 + (unit - 0xD800) * 0x400 + (low - 0xDC00)) :: soFar)
              rest
          else none
      else if 0xDC00 ≤ unit ∧ unit < 0xE000 then none
      else textAhead? (Char.ofNat unit :: soFar) ('\\' :: 'u' :: e :: f :: g :: h :: rest)
  | '\\' :: 'u' :: a :: b :: c :: d :: rest =>
    match hexUnit? a b c d with
    | none => none
    | some unit =>
      if 0xD800 ≤ unit ∧ unit < 0xE000 then none
      else textAhead? (Char.ofNat unit :: soFar) rest
  | '\\' :: c :: rest => (shortEscape? c).bind fun d => textAhead? (d :: soFar) rest
  | c :: rest => if c.toNat < 0x20 then none else textAhead? (c :: soFar) rest
  termination_by text => text.length

/-! ### Values -/

mutual

/-- The value ahead, after blanks. -/
def valueAhead? : Nat → List Char → Option (Json × List Char)
  | 0, _ => none
  | depth + 1, text =>
    match skipBlanks text with
    | 'n' :: 'u' :: 'l' :: 'l' :: rest => some (.null, rest)
    | 't' :: 'r' :: 'u' :: 'e' :: rest => some (.bool true, rest)
    | 'f' :: 'a' :: 'l' :: 's' :: 'e' :: rest => some (.bool false, rest)
    | '"' :: rest => (textAhead? [] rest).map fun (s, rest) => (.str (String.ofList s), rest)
    | '[' :: rest =>
      match skipBlanks rest with
      | ']' :: rest => some (.arr [], rest)
      | rest => (itemsAhead? depth rest).map fun (items, rest) => (.arr items, rest)
    | '\x7b' :: rest =>
      match skipBlanks rest with
      | '\x7d' :: rest => some (.obj [], rest)
      | rest => (fieldsAhead? depth rest).map fun (fields, rest) => (.object fields, rest)
    | text => numberAhead? text

/-- The items ahead, up to the bracket that closes the array. -/
def itemsAhead? : Nat → List Char → Option (List Json × List Char)
  | 0, _ => none
  | depth + 1, text =>
    match valueAhead? depth text with
    | none => none
    | some (item, rest) =>
      match skipBlanks rest with
      | ']' :: rest => some ([item], rest)
      | ',' :: rest => (itemsAhead? depth rest).map fun (items, rest) => (item :: items, rest)
      | _ => none

/-- The fields ahead, up to the brace that closes the object. -/
def fieldsAhead? : Nat → List Char → Option (List (String × Json) × List Char)
  | 0, _ => none
  | depth + 1, text =>
    match skipBlanks text with
    | '"' :: rest =>
      match textAhead? [] rest with
      | none => none
      | some (name, rest) =>
        match skipBlanks rest with
        | ':' :: rest =>
          match valueAhead? depth rest with
          | none => none
          | some (value, rest) =>
            let entry := (String.ofList name, value)
            match skipBlanks rest with
            | '\x7d' :: rest => some ([entry], rest)
            | ',' :: rest =>
              (fieldsAhead? depth rest).map fun (fields, rest) => (entry :: fields, rest)
            | _ => none
        | _ => none
    | _ => none

end

/-- The value that a text writes. Every reader consumes a character before it calls another
one, so a depth beyond twice the length is never reached. -/
def parse? (text : String) : Option Json :=
  let characters := text.toList
  match valueAhead? (2 * characters.length + 2) characters with
  | some (value, rest) => if skipBlanks rest = [] then some value else none
  | none => none

end Json

end CompilerGateway
