import CompilerGateway.Toml.Branch
import CompilerGateway.Toml.DateTable

/-!
# TOML documents

A document is a list of statements, each on lines of its own: a key and a value with an equals
sign between them, a heading in brackets, which says what table the keys below it belong to, or
a heading in doubled brackets, which starts another table of a series. `Toml.read?` gives the
table that a whole document describes; what cannot be read describes none. In the later edition
that includes a table that stands for a date without giving one.

Values nest, and the readers for them carry a bound on their steps, of which twice the length
of the text is always enough, and one on the depth, which is the edition's.
-/

namespace CompilerGateway

namespace Toml

/-! ### Values -/

/-- What may be passed over inside of an inline table: spaces, and in the later edition line
ends and comments too. -/
def skipInline (edition : Edition) (text : List Char) : List Char :=
  if edition.isRelaxed then skipLines false text else skipSpaces text

mutual

/-- The value ahead, within which values nest at most `depth` deep. -/
def valueAhead? (edition : Edition) : Nat → Nat → List Char → Option (Json × List Char)
  | 0, _, _ => none
  | steps + 1, depth, text =>
    match text, depth with
    | '"' :: _, _ => (textAhead? edition text).map fun (text, rest) => (.str text, rest)
    | '\'' :: _, _ => (textAhead? edition text).map fun (text, rest) => (.str text, rest)
    | '[' :: _, 0 => none
    | '[' :: rest, depth + 1 =>
      (itemsAhead? edition steps depth rest).map fun (items, rest) => (.arr items, rest)
    | '\x7b' :: _, 0 => none
    | '\x7b' :: rest, depth + 1 =>
      match skipInline edition rest with
      | '\x7d' :: rest => some (.obj [], rest)
      | rest =>
        (fieldsAhead? edition steps depth [] rest).map fun (entries, rest) =>
          (.obj (settleEntries entries), rest)
    | text, _ => scalarAhead? edition text

/-- The items ahead, up to the bracket that closes the list. -/
def itemsAhead? (edition : Edition) : Nat → Nat → List Char → Option (List Json × List Char)
  | 0, _, _ => none
  | steps + 1, depth, text =>
    match skipLines false text with
    | ']' :: rest => some ([], rest)
    | text =>
      match valueAhead? edition steps depth text with
      | none => none
      | some (item, rest) =>
        match skipLines false rest with
        | ']' :: rest => some ([item], rest)
        | ',' :: rest =>
          (itemsAhead? edition steps depth rest).map fun (items, rest) => (item :: items, rest)
        | _ => none

/-- The entries ahead, up to the brace that closes the inline table, added to those before. -/
def fieldsAhead? (edition : Edition) :
    Nat → Nat → Entries → List Char → Option (Entries × List Char)
  | 0, _, _, _ => none
  | steps + 1, depth, entries, text =>
    match keyAhead? edition text with
    | none => none
    | some (key, rest) =>
      match skipInline edition rest with
      | '=' :: rest =>
        match valueAhead? edition steps depth (skipInline edition rest) with
        | none => none
        | some (value, rest) =>
          match assign? key value entries, skipInline edition rest with
          | some entries, '\x7d' :: rest => some (entries, rest)
          | some entries, ',' :: rest =>
            match skipInline edition rest with
            | '\x7d' :: rest => if edition.isRelaxed then some (entries, rest) else none
            | rest => fieldsAhead? edition steps depth entries rest
          | _, _ => none
      | _ => none

end

/-! ### Statements -/

/-- The table that statements make of the one before them; `heading` is the latest heading. -/
def statements? (edition : Edition) : Nat → List String → Entries → List Char → Option Entries
  | 0, _, _, _ => none
  | steps + 1, heading, root, text =>
    match skipLines false text with
    | [] => some root
    | '[' :: '[' :: rest =>
      match keyAhead? edition rest with
      | some (key, ']' :: ']' :: rest) =>
        match lineEnd? rest, extend? key root with
        | some rest, some root => statements? edition steps key root rest
        | _, _ => none
      | _ => none
    | '[' :: rest =>
      match keyAhead? edition rest with
      | some (key, ']' :: rest) =>
        match lineEnd? rest, open? key root with
        | some rest, some root => statements? edition steps key root rest
        | _, _ => none
      | _ => none
    | text =>
      match keyAhead? edition text with
      | some (key, '=' :: rest) =>
        match valueAhead? edition (2 * rest.length + 2) edition.nesting (skipSpaces rest) with
        | none => none
        | some (value, rest) =>
          match lineEnd? rest, assignBelow? heading key value root with
          | some rest, some root => statements? edition steps heading root rest
          | _, _ => none
      | _ => none

/-- The table that a document describes. -/
def read? (edition : Edition) (text : String) : Option (Table Json) :=
  match prepare? text with
  | none => none
  | some text =>
    match statements? edition (text.length + 1) [] [] text with
    | none => none
    | some entries =>
      let found := settleEntries entries
      if edition.isRelaxed && !keepsDates (.obj found) then none else some (.ofList found)

end Toml

end CompilerGateway
