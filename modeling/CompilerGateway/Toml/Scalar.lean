import CompilerGateway.Json
import CompilerGateway.Text.Segments
import CompilerGateway.Toml.Lexis

/-!
# The values of a TOML document that are neither texts nor collections

Truth values, numbers, dates and times. Each is a **word**, a run of letters, digits, signs,
points, colons and underscores; only between a date and a time there may be a space. A word
that is none of them makes the document unreadable, and so does a number out of range: an
integer beyond sixty-four bits with a sign, or a floating-point number too great to be finite.

What has no place among the JSON values comes out as one that no setting takes either: the
infinities and the numbers that are none as `null`, a date or a time as an object with its
text.
-/

namespace CompilerGateway

namespace Toml

/-! ### Digits -/

/-- The value of digits in a base up to sixteen that continue `soFar`. -/
def readBase? (base soFar : Nat) : List Char → Option Nat
  | [] => some soFar
  | c :: rest =>
    match Text.hexValue? c with
    | none => none
    | some digit => if digit < base then readBase? base (base * soFar + digit) rest else none

/-- The digits without the underscores, of which one may stand between each two of them. -/
def digits? (text : List Char) : Option (List Char) :=
  let groups := Text.segments '_' text
  if groups.any List.isEmpty then none else some groups.flatten

/-- The value of digits in a base. -/
def magnitude? (base : Nat) (text : List Char) : Option Nat :=
  (digits? text).bind (readBase? base 0)

/-- The decimal digits of a whole number; a leading zero has to be the only digit. -/
def wholeDigits? (text : List Char) : Option (List Char) :=
  match digits? text with
  | some ('0' :: _ :: _) => none
  | found => found

/-! ### Numbers -/

/-- Whether the text starts with a minus sign, and the text without its sign. -/
def splitSign : List Char → Bool × List Char
  | '-' :: rest => (true, rest)
  | '+' :: rest => (false, rest)
  | rest => (false, rest)

/-- The text before the first character of a kind, and what follows that character if there
is one. -/
def cutAt (isMark : Char → Bool) (text : List Char) : List Char × Option (List Char) :=
  match text.dropWhile (fun c => !isMark c) with
  | [] => (text, none)
  | _ :: rest => (text.takeWhile fun c => !isMark c, some rest)

/-- The number of the given sign and size, if sixty-four bits with a sign can hold it. -/
def bounded? (negative : Bool) (size : Nat) : Option Json :=
  if negative then
    if size ≤ 0x8000000000000000 then some (.int (-(size : Int))) else none
  else if size ≤ 0x7FFFFFFFFFFFFFFF then some (.int size) else none

/-- A decimal integer. -/
def integer? (negative : Bool) (text : List Char) : Option Json :=
  ((wholeDigits? text).bind (readBase? 10 0)).bind (bounded? negative)

/-- The exponent after its mark, which is zero where there is none. -/
def exponent? : Option (List Char) → Option Int
  | none => some 0
  | some text =>
    let (negative, text) := splitSign text
    (magnitude? 10 text).map fun n => if negative then -(n : Int) else n

/-- A number with a fraction, an exponent or both. -/
def float? (negative : Bool) (text : List Char) : Option Json :=
  let (mantissa, exponent) := cutAt (fun c => c == 'e' || c == 'E') text
  let (whole, fraction) := cutAt (fun c => c == '.') mantissa
  let fraction? : Option (List Char) := match fraction with
    | none => some []
    | some text => digits? text
  match wholeDigits? whole, fraction?, exponent? exponent with
  | some whole, some fraction, some exponent =>
    (readBase? 10 0 (whole ++ fraction)).bind fun digits =>
      (Binary64.ofDecimal negative digits (exponent - fraction.length)).map .float
  | _, _, _ => none

/-- A number; a base other than ten is announced, and leaves no room for a sign. -/
def number? : List Char → Option Json
  | '0' :: 'x' :: digits => (magnitude? 16 digits).bind (bounded? false)
  | '0' :: 'o' :: digits => (magnitude? 8 digits).bind (bounded? false)
  | '0' :: 'b' :: digits => (magnitude? 2 digits).bind (bounded? false)
  | text =>
    let (negative, text) := splitSign text
    if text = "inf".toList ∨ text = "nan".toList then some .null
    else if text.any (fun c => c == '.' || c == 'e' || c == 'E') then float? negative text
    else integer? negative text

/-! ### Dates and times -/

/-- The number that two decimal digits make, if it lies in a range. -/
def pair? (first last : Nat) (tens ones : Char) : Option Nat :=
  (readBase? 10 0 [tens, ones]).filter fun n => decide (first ≤ n ∧ n ≤ last)

/-- Whether a year of the Gregorian calendar is a leap year. -/
def isLeap (year : Nat) : Bool :=
  year % 4 == 0 && (year % 100 != 0 || year % 400 == 0)

/-- How many days a month has. -/
def monthLength (year month : Nat) : Nat :=
  if month = 2 then if isLeap year then 29 else 28
  else if month = 4 ∨ month = 6 ∨ month = 9 ∨ month = 11 then 30
  else 31

/-- What follows the date ahead. -/
def dateAhead? : List Char → Option (List Char)
  | a :: b :: c :: d :: '-' :: e :: f :: '-' :: g :: h :: rest =>
    match readBase? 10 0 [a, b, c, d], pair? 1 12 e f with
    | some year, some month => (pair? 1 (monthLength year month) g h).map fun _ => rest
    | _, _ => none
  | _ => none

/-- What follows the seconds and their fraction. -/
def secondsAhead? : List Char → Option (List Char)
  | ':' :: a :: b :: '.' :: c :: rest =>
    if c.isDigit then (pair? 0 60 a b).map fun _ => rest.dropWhile Char.isDigit else none
  | ':' :: a :: b :: rest => (pair? 0 60 a b).map fun _ => rest
  | _ => none

/-- What follows the time of day ahead. A second may be a leap second, and in the later edition
there need not be seconds. -/
def clockAhead? (edition : Edition) : List Char → Option (List Char)
  | a :: b :: ':' :: c :: d :: rest =>
    match pair? 0 23 a b, pair? 0 59 c d with
    | some _, some _ =>
      if edition.isRelaxed && rest.head? != some ':' then some rest else secondsAhead? rest
    | _, _ => none
  | _ => none

/-- Whether the text is nothing, or says how far a time is from universal time. -/
def isOffset : List Char → Bool
  | [] => true
  | ['Z'] => true
  | ['z'] => true
  | [sign, a, b, ':', c, d] =>
    (sign == '+' || sign == '-') && (pair? 0 23 a b).isSome && (pair? 0 59 c d).isSome
  | _ => false

/-- Whether a word is a date, a time of day, or both. -/
def isTime (edition : Edition) (word : List Char) : Bool :=
  match dateAhead? word with
  | some [] => true
  | some (between :: rest) =>
    (between == 'T' || between == 't' || between == ' ')
      && (match clockAhead? edition rest with
        | some rest => isOffset rest
        | none => false)
  | none => clockAhead? edition word == some []

/-! ### Words -/

/-- Whether a character may stand in a word. -/
def isWordChar (c : Char) : Bool :=
  c.isAlphanum || c == '+' || c == '-' || c == '_' || c == '.' || c == ':'

/-- The word ahead, and what follows it. A space after a date goes on to the time. -/
def wordAhead (text : List Char) : List Char × List Char :=
  let word := text.takeWhile isWordChar
  match dateAhead? word, text.dropWhile isWordChar with
  | some [], ' ' :: c :: rest =>
    if c.isDigit then
      (word ++ ' ' :: (c :: rest).takeWhile isWordChar, (c :: rest).dropWhile isWordChar)
    else (word, ' ' :: c :: rest)
  | _, rest => (word, rest)

/-- The value of a word. -/
def ofWord? (edition : Edition) (word : List Char) : Option Json :=
  if word = "true".toList then some (.bool true)
  else if word = "false".toList then some (.bool false)
  else if isTime edition word then some (.obj [("time", .str (String.ofList word))])
  else number? word

/-- The value ahead, if it is a word. -/
def scalarAhead? (edition : Edition) (text : List Char) : Option (Json × List Char) :=
  let (word, rest) := wordAhead text
  (ofWord? edition word).map fun value => (value, rest)

end Toml

end CompilerGateway
