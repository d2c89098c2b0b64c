/-!
# Decimal natural numbers in text

`Decimal.readNatural?` reads a natural number that stands alone: ASCII digits, at least one,
with any number of leading zeros and an optional plus sign in front. Nothing else may
surround them, not even a blank. `Decimal.readBelow?` adds an upper bound, as a word of a
given width imposes one.
-/

namespace CompilerGateway

namespace Decimal

/-- The power of ten with the given exponent. -/
def powerOfTen (exponent : Nat) : Nat := Nat.pow 10 exponent

/-- The value of one ASCII digit. -/
def digit? (c : Char) : Option Nat :=
  if '0' ≤ c ∧ c ≤ '9' then some (c.toNat - '0'.toNat) else none

/-- The value of a run of digits that continues `soFar`. -/
def readDigits? (soFar : Nat) : List Char → Option Nat
  | [] => some soFar
  | c :: rest => (digit? c).bind fun d => readDigits? (10 * soFar + d) rest

/-- At least one digit, and nothing else. -/
def readUnsigned? : List Char → Option Nat
  | [] => none
  | text => readDigits? 0 text

/-- Digits with an optional plus sign. -/
def readNatural? (text : String) : Option Nat :=
  match text.toList with
  | '+' :: rest => readUnsigned? rest
  | digits => readUnsigned? digits

/-- A natural number below a bound. -/
def readBelow? (bound : Nat) (text : String) : Option Nat :=
  (readNatural? text).filter (fun n => decide (n < bound))

theorem readNatural?_empty : readNatural? "" = none := rfl

theorem lt_of_readBelow? {bound n : Nat} {text : String} (h : readBelow? bound text = some n) :
    n < bound := by
  obtain ⟨-, below⟩ := Option.filter_eq_some_iff.1 h
  simpa using below

end Decimal

end CompilerGateway
