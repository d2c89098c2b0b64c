/-!
# Text between quotation marks, read

A quoted text ends at the first quotation mark that no backslash stands before. Inside of it a
backslash and a letter stand for one character (`Escapes`): the letter says which, or says how
many hexadecimal digits follow that give the number of the character. A backslash in front of
anything else is a fault of the whole text, as is a number that no character has, and as are
control characters other than the tab, the ends of lines among them.

Cutting the text out (`Text.rawAhead?`) and taking the escapes in it for what they stand for
(`Escapes.decode?`) are separate steps, so a fault inside never moves the end.
-/

namespace CompilerGateway

namespace Text

/-- The value of a hexadecimal digit. -/
def hexValue? (c : Char) : Option Nat :=
  if '0' ≤ c ∧ c ≤ '9' then some (c.toNat - '0'.toNat)
  else if 'a' ≤ c ∧ c ≤ 'f' then some (c.toNat - 'a'.toNat + 10)
  else if 'A' ≤ c ∧ c ≤ 'F' then some (c.toNat - 'A'.toNat + 10)
  else none

/-- The character of a number, if it has one. -/
def scalar? (n : Nat) : Option Char := if n.isValidChar then some (Char.ofNat n) else none

/-- Whether a character is a control character of ASCII, the tab excepted. -/
def isControl (c : Char) : Bool := (decide (c.toNat < 0x20) && c != '\t') || c.toNat == 0x7F

end Text

/-- What may follow a backslash. -/
structure Escapes where
  /-- The letters that stand for a character each. -/
  letters : List (Char × Char)
  /-- The letters that are followed by a number, with how many digits it has. -/
  numbers : List (Char × Nat)

namespace Escapes

/-- The escapes that every notation here has. -/
def standard : Escapes where
  letters := [('"', '"'), ('\\', '\\'), ('b', '\x08'), ('t', '\t'), ('n', '\n'), ('f', '\x0c'),
    ('r', '\r')]
  numbers := [('u', 4), ('U', 8)]

/-- The standard escapes, one for the character U+001B, and numbers of two digits. -/
def extended : Escapes where
  letters := ('e', '\x1b') :: standard.letters
  numbers := ('x', 2) :: standard.numbers

/-- The text that stands there with its escapes. In the middle of a number, `pending` holds how
many digits are missing and the value of those before. -/
def decode? (escapes : Escapes) (pending : Option (Nat × Nat)) : List Char → Option (List Char)
  | [] => if pending.isNone then some [] else none
  | c :: rest =>
    match pending with
    | some (missing, soFar) =>
      match Text.hexValue? c with
      | none => none
      | some digit =>
        let number := 16 * soFar + digit
        if 1 < missing then decode? escapes (some (missing - 1, number)) rest
        else
          match Text.scalar? number with
          | none => none
          | some found => (decode? escapes none rest).map fun text => found :: text
    | none =>
      if c = '\\' then
        match rest with
        | [] => none
        | letter :: rest =>
          match escapes.letters.lookup letter, escapes.numbers.lookup letter with
          | some found, _ => (decode? escapes none rest).map fun text => found :: text
          | none, some digits => decode? escapes (some (digits, 0)) rest
          | none, none => none
      else (decode? escapes none rest).map fun text => c :: text

/-- Text without backslashes stands for itself. -/
theorem decode?_of_not_mem (escapes : Escapes) {text : List Char} (plain : '\\' ∉ text) :
    escapes.decode? none text = some text := by
  induction text with
  | nil => rfl
  | cons c rest ih =>
    simp only [List.mem_cons, not_or] at plain
    have other : c ≠ '\\' := Ne.symm plain.1
    rw [decode?.eq_def]
    simp only [if_neg other, ih plain.2, Option.map_some]

end Escapes

namespace Text

/-- The characters up to the quotation mark that ends the text, as they stand there, and what
follows it; `soFar` holds those before, the last one first. -/
def rawAhead? (soFar : List Char) : List Char → Option (List Char × List Char)
  | [] => none
  | c :: rest =>
    if c = '"' then some (soFar.reverse, rest)
    else if c = '\\' then
      match rest with
      | [] => none
      | letter :: rest => rawAhead? (letter :: c :: soFar) rest
    else rawAhead? (c :: soFar) rest

/-- The rest of a text after its opening quotation mark. -/
def quotedAhead? (escapes : Escapes) (text : List Char) : Option (String × List Char) :=
  match rawAhead? [] text with
  | none => none
  | some (raw, rest) =>
    if raw.any isControl then none
    else (escapes.decode? none raw).map fun content => (String.ofList content, rest)

end Text

end CompilerGateway
