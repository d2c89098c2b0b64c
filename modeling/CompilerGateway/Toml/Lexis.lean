import CompilerGateway.Text.Escapes

/-!
# The small parts of a TOML document

Line ends, comments, keys and texts. The readers take the characters still ahead and give back
those they leave; what cannot be read has no result.

A document is **prepared** first (`Toml.prepare?`): lines end with a line feed alone, and no
other control character but the tab is left. So a carriage return that ends no line is refused
wherever it stands, and neither comments nor texts have to look for control characters again.

There are two editions of the notation. The later one, `Edition.relaxed`, has more escapes,
lets inline tables span lines and end with a comma, and lets a time leave out its seconds. Each
says how deep values nest, which also is how many parts a key may have.
-/

namespace CompilerGateway

namespace Toml

/-- An edition of the notation. -/
structure Edition where
  /-- Whether what the later edition added may be used. -/
  isRelaxed : Bool
  /-- How deep values may nest, and how many parts a key may have. -/
  nesting : Nat

namespace Edition

/-- The first edition. -/
def strict : Edition := ⟨false, 79⟩

/-- The later edition. -/
def relaxed : Edition := ⟨true, 80⟩

/-- What may follow a backslash. -/
def escapes (edition : Edition) : Escapes :=
  if edition.isRelaxed then .extended else .standard

end Edition

/-! ### Lines -/

/-- The characters with every line ended by a line feed alone, if no other control character
but the tab occurs. -/
def plainLines? : List Char → Option (List Char)
  | [] => some []
  | '\r' :: '\n' :: rest => (plainLines? rest).map fun text => '\n' :: text
  | c :: rest =>
    if Text.isControl c && c != '\n' then none
    else (plainLines? rest).map fun text => c :: text

/-- The characters of a document, without the mark of the byte order that it may start with. -/
def prepare? (text : String) : Option (List Char) :=
  match text.toList with
  | '\uFEFF' :: rest => plainLines? rest
  | characters => plainLines? characters

/-- Whether a character is a space or a tab. -/
def isSpace (c : Char) : Bool := c == ' ' || c == '\t'

/-- The text after the spaces it starts with. -/
def skipSpaces (text : List Char) : List Char := text.dropWhile isSpace

/-- The text after the spaces, line ends and comments it starts with. -/
def skipLines (inComment : Bool) : List Char → List Char
  | [] => []
  | c :: rest =>
    if c = '\n' then skipLines false rest
    else if inComment || isSpace c then skipLines inComment rest
    else if c = '#' then skipLines true rest
    else c :: rest

/-- What follows the line, if nothing but spaces and a comment is left of it. -/
def lineEnd? (text : List Char) : Option (List Char) :=
  match skipSpaces text with
  | [] => some []
  | '\n' :: rest => some rest
  | '#' :: rest => some (rest.dropWhile (fun c => c != '\n'))
  | _ => none

/-! ### Texts -/

/-- The rest of a text after its opening apostrophe. There are no escapes in it. -/
def literalAhead? (text : List Char) : Option (String × List Char) :=
  match text.dropWhile (fun c => c != '\'' && c != '\n') with
  | '\'' :: rest => some (String.ofList (text.takeWhile fun c => c != '\''), rest)
  | _ => none

/-- The rest of a text of several lines after its opening marks, as it stands there. It ends
with three marks, and may have up to two more in front of them. Of the characters before,
`soFar` holds the last one first, and `marks` counts the marks that it starts with. -/
def blockAhead? (mark : Char) (escaping : Bool) (marks : Nat) (soFar : List Char) :
    List Char → Option (List Char × List Char)
  | [] => if 3 ≤ marks then some ((soFar.drop 3).reverse, []) else none
  | c :: rest =>
    if c = mark then
      if marks = 4 then some ((soFar.drop 2).reverse, rest)
      else blockAhead? mark escaping (marks + 1) (c :: soFar) rest
    else if 3 ≤ marks then some ((soFar.drop 3).reverse, c :: rest)
    else if escaping && c == '\\' then
      match rest with
      | [] => none
      | d :: rest => blockAhead? mark escaping 0 (d :: c :: soFar) rest
    else blockAhead? mark escaping 0 (c :: soFar) rest

/-- The texts between the line ends that a backslash takes away; all spaces and line ends after
it go with them. -/
def joinedParts (skipping : Bool) : List Char → List (List Char)
  | [] => [[]]
  | c :: rest =>
    if skipping && (isSpace c || c == '\n') then joinedParts true rest
    else if c = '\\' then
      match skipSpaces rest, rest with
      | '\n' :: _, rest => [] :: joinedParts true rest
      | _, d :: rest => (joinedParts false rest).modifyHead fun part => c :: d :: part
      | _, [] => [[c]]
    else (joinedParts false rest).modifyHead fun part => c :: part

/-- A text of several lines starts on the line of its opening marks or on the next one. -/
def dropFirstLine : List Char → List Char
  | '\n' :: text => text
  | text => text

/-- The text ahead, of one of the four kinds. -/
def textAhead? (edition : Edition) : List Char → Option (String × List Char)
  | '"' :: '"' :: '"' :: rest =>
    match blockAhead? '"' true 0 [] (dropFirstLine rest) with
    | none => none
    | some (raw, rest) =>
      ((joinedParts false raw).mapM (edition.escapes.decode? none)).map fun parts =>
        (String.ofList parts.flatten, rest)
  | '\'' :: '\'' :: '\'' :: rest =>
    (blockAhead? '\'' false 0 [] (dropFirstLine rest)).map fun (raw, rest) =>
      (String.ofList raw, rest)
  | '"' :: rest => Text.quotedAhead? edition.escapes rest
  | '\'' :: rest => literalAhead? rest
  | _ => none

/-! ### Keys -/

/-- Whether a character may stand in a key without quotation marks. -/
def isBare (c : Char) : Bool := c.isAlphanum || c == '_' || c == '-'

/-- The part of a key ahead. -/
def partAhead? (edition : Edition) : List Char → Option (String × List Char)
  | '"' :: rest => Text.quotedAhead? edition.escapes rest
  | '\'' :: rest => literalAhead? rest
  | text =>
    match text.takeWhile isBare with
    | [] => none
    | part => some (String.ofList part, text.dropWhile isBare)

/-- The parts of a key ahead, with points between them; there may be as many as the bound says.
Spaces around the parts do not count. -/
def partsAhead? (edition : Edition) : Nat → List Char → Option (List String × List Char)
  | 0, _ => none
  | bound + 1, text =>
    match partAhead? edition (skipSpaces text) with
    | none => none
    | some (part, rest) =>
      match skipSpaces rest with
      | '.' :: rest => (partsAhead? edition bound rest).map fun (key, rest) => (part :: key, rest)
      | rest => some ([part], rest)

/-- The key ahead, which has as many parts at most as values may nest. -/
def keyAhead? (edition : Edition) (text : List Char) : Option (List String × List Char) :=
  partsAhead? edition edition.nesting text

end Toml

end CompilerGateway
