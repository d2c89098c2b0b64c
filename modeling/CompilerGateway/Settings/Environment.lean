import CompilerGateway.Decimal.Natural
import CompilerGateway.Json.Parser
import CompilerGateway.Text.Blank
import CompilerGateway.Text.Bytes
import CompilerGateway.Text.Escapes
import CompilerGateway.Text.Lowercase
import CompilerGateway.Text.Segments

/-!
# Settings in the environment

A variable whose name starts with a certain mark and an underscore sets what the rest of its name
says, in lower case. Blanks around the name or around its rest do not count. A point in the name,
which two underscores stand for as well, leads into an object: if the mark is `MOC`, the variable
`MOC_A__B` sets the field `b` of `a`. A name that has nothing on one side of a point sets nothing.

What the value is follows from its spelling. Blanks around it do not count.

* A value with a comma in it that does not start with a bracket, a brace or a quotation mark
  is a list of texts.
* Numbers, `true` and `false` are what they look like, the latter two also with capitals. What
  merely starts with `true` or `false` is no value.
* Text between quotation marks, a character between apostrophes, lists in brackets and maps in
  braces are read as such. What closes a list or a map may follow what opens it, or a comma,
  but not with a blank in between: `[ ]` is the list of the empty text, and braces around
  a blank are no map.
* Everything else, and whatever looks like one of these without being one, is the text that it
  is.

So a text setting takes the text `a=b` as it stands, but rejects the list that `a,b` is.

Variables that set fields of the same setting do not add up: the last one counts alone.
-/

namespace CompilerGateway

namespace Environment

/-! ### Numbers -/

/-- An integer of sixty-four bits in decimal notation: a sign, if any, and digits. -/
def integer? (text : List Char) : Option Int :=
  match text with
  | '-' :: digits =>
    (Decimal.readUnsigned? digits).bind fun n =>
      if n ≤ 0x8000000000000000 then some (-(n : Int)) else none
  | text => (Decimal.readBelow? UInt64.size (String.ofList text)).map fun n => (n : Int)

/-- A number with a point, perhaps with a sign and an exponent; there have to be digits on one
side of the point. One that is too great to be finite is `null`, which no setting takes. -/
def pointed? (text : List Char) : Option Json :=
  let (negative, text) := match text with
    | '-' :: rest => (true, rest)
    | '+' :: rest => (false, rest)
    | rest => (false, rest)
  match Json.digitsAhead text with
  | (whole, '.' :: rest) =>
    let (fraction, rest) := Json.digitsAhead rest
    match Json.exponentAhead? rest with
    | some (exponent, []) =>
      if whole = [] ∧ fraction = [] then none
      else
        (Decimal.readDigits? 0 (whole ++ fraction)).map fun digits =>
          .optional .float
            (Binary64.ofDecimal negative digits (exponent.getD 0 - fraction.length))
    | _ => none
  | _ => none

/-! ### Values -/

/-- Whether a bare value goes on with the character. -/
def isBare (c : Char) : Bool :=
  !(c == ',' || c == '\x7b' || c == '\x7d' || c == '[' || c == ']')

/-- Whether the character may stand in the bare key of a map. -/
def isKeyChar (c : Char) : Bool := c.isAlphanum || c == '_' || c == '-'

/-- Whether a character may stand around values: the blanks of ASCII, the vertical tab
excepted. -/
def isGap (c : Char) : Bool := c.isWhitespace || c == '\x0c'

/-- The text after the blanks it starts with. -/
def skip (text : List Char) : List Char := text.dropWhile isGap

/-- A word for a truth value that the text starts with, and what follows it. -/
def truthAhead? (text : List Char) : Option (Bool × List Char) :=
  if "true".toList.isPrefixOf text then some (true, text.drop 4)
  else if "false".toList.isPrefixOf text then some (false, text.drop 5)
  else none

/-- A bare value: a number or a truth value if it is one, and else a text. -/
def bare (text : String) : Json :=
  let characters := text.toList
  let number? := if characters.contains '.' then pointed? characters else none
  match number?, integer? characters with
  | some number, _ => number
  | none, some n => .int n
  | none, none =>
    let word := Text.lowerAscii text
    if word = "true" then .bool true else if word = "false" then .bool false else .str text

/-- What the text between quotation marks stands for. Of what is in front of the first backslash
only so many bytes count as there are characters; the rest counts as it stands. -/
def unescape? (raw : List Char) : Option (List Char) :=
  let before := raw.takeWhile fun c => c != '\\'
  match Escapes.standard.decode? none raw with
  | none => none
  | some content =>
    if before.length = raw.length then some content
    else
      (Text.splitAtByte? before.length before).map fun (kept, _) =>
        kept ++ content.drop before.length

/-- The rest of a text after its opening quotation mark. -/
def quotedAhead? (text : List Char) : Option (String × List Char) :=
  match Text.rawAhead? [] text with
  | none => none
  | some (raw, rest) =>
    if raw.any Text.isControl then none
    else (unescape? raw).map fun content => (String.ofList content, rest)

/-- The name of an entry ahead. -/
def keyAhead? : List Char → Option (String × List Char)
  | '"' :: rest => quotedAhead? rest
  | text =>
    match text.takeWhile isKeyChar with
    | [] => none
    | key => some (String.ofList key, text.dropWhile isKeyChar)

mutual

/-- The value ahead, with the blanks around it. Values nest at most as deep as the bound. -/
def valueAhead? : Nat → List Char → Option (Json × List Char)
  | 0, _ => none
  | depth + 1, text =>
    let found : Option (Json × List Char) :=
      match truthAhead? (skip text), skip text with
      | some (truth, rest), _ => some (.bool truth, rest)
      | none, '[' :: rest =>
        (itemsAhead? depth rest).map fun (items, rest) => (.arr items, rest)
      | none, '\x7b' :: rest =>
        (fieldsAhead? depth rest).map fun (fields, rest) => (.object fields, rest)
      | none, '"' :: rest => (quotedAhead? rest).map fun (text, rest) => (.str text, rest)
      | none, '\'' :: c :: '\'' :: rest => some (.str (String.ofList [c]), rest)
      | none, '\'' :: _ => none
      | none, text =>
        some (bare (Text.trimBlank (String.ofList (text.takeWhile isBare))),
          text.dropWhile isBare)
    found.map fun (value, rest) => (value, skip rest)

/-- The items ahead, up to the bracket that closes the list; a comma may stand in front of it. -/
def itemsAhead? : Nat → List Char → Option (List Json × List Char)
  | 0, _ => none
  | depth + 1, text =>
    match text with
    | ']' :: rest => some ([], rest)
    | text =>
      match valueAhead? depth text with
      | some (item, ']' :: rest) => some ([item], rest)
      | some (item, ',' :: rest) =>
        (itemsAhead? depth rest).map fun (items, rest) => (item :: items, rest)
      | _ => none

/-- The entries ahead, up to the brace that closes the map; a comma may stand in front of it. -/
def fieldsAhead? : Nat → List Char → Option (List (String × Json) × List Char)
  | 0, _ => none
  | depth + 1, text =>
    match text with
    | '\x7d' :: rest => some ([], rest)
    | text =>
      match keyAhead? (skip text) with
      | none => none
      | some (key, rest) =>
        match skip rest with
        | '=' :: rest =>
          match valueAhead? depth rest with
          | some (value, '\x7d' :: rest) => some ([(key, value)], rest)
          | some (value, ',' :: rest) =>
            (fieldsAhead? depth rest).map fun (fields, rest) => ((key, value) :: fields, rest)
          | _ => none
        | _ => none

end

/-- Whether a value is a list of texts without brackets. -/
def isBareList (text : String) : Bool :=
  let characters := text.toList
  characters.contains ',' &&
    match characters with
    | c :: _ => !(c == '[' || c == '\x7b' || c == '"' || c == '\'')
    | [] => false

/-- What the value of a variable is. -/
def value (raw : String) : Json :=
  let text := Text.trimBlank raw
  if isBareList text then .texts ((Text.pieces ',' text).map Text.trimBlank)
  else
    match valueAhead? (2 * text.length + 2) text.toList with
    | some (value, []) => value
    | _ => .str text

/-! ### Variables -/

/-- The name with a point for every two underscores. -/
def withPoints : List Char → List Char
  | '_' :: '_' :: rest => '.' :: withPoints rest
  | c :: rest => c :: withPoints rest
  | [] => []

/-- The setting that a variable is about, and the way to the field of it that it sets. -/
def path? (mark variableName : String) : Option (String × List String) :=
  let start := Text.lowerAscii mark ++ "_"
  let name := (Text.lowerAscii (Text.trimBlank variableName)).toList
  if start.toList.isPrefixOf name then
    let rest := Text.trimBlank (String.ofList (withPoints (name.drop start.length)))
    match Text.pieces '.' rest with
    | [] => none
    | setting :: fields => if setting = "" ∨ "" ∈ fields then none else some (setting, fields)
  else none

/-- The value in objects that lead to it. -/
def nest (value : Json) : List String → Json
  | [] => value
  | name :: path => .obj [(name, nest value path)]

/-- What one variable sets, if anything. -/
def setting? (mark name raw : String) : Option (String × Json) :=
  (path? mark name).map fun (setting, fields) => (setting, nest (value raw) fields)

/-- What the variables of a mark set; of several that set the same, the last one counts. -/
def settings (mark : String) (environment : List (String × String)) : Table Json :=
  .ofList (environment.filterMap fun item => setting? mark item.1 item.2)

end Environment

end CompilerGateway
