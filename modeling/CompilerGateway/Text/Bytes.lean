/-!
# Cutting text at a byte

Text is stored in one to four bytes for a character. `Text.splitAtByte?` cuts it at a number of
bytes from its start, which only is a place to cut at if a character starts there or the text
ends there. Where it cuts, nothing is lost and the first part has just so many bytes
(`Text.splitAtByte?_eq_some_iff`).
-/

namespace CompilerGateway

namespace Text

/-- How many bytes some characters have. -/
def byteCount : List Char → Nat
  | [] => 0
  | c :: rest => c.utf8Size + byteCount rest

/-- The text before the given byte and the text from it on, if a character starts there or the
text ends there. -/
def splitAtByte? (bytes : Nat) : List Char → Option (List Char × List Char)
  | [] => if bytes = 0 then some ([], []) else none
  | c :: rest =>
    if bytes = 0 then some ([], c :: rest)
    else if c.utf8Size ≤ bytes then
      (splitAtByte? (bytes - c.utf8Size) rest).map fun (before, after) => (c :: before, after)
    else none

/-- Cutting gives the two parts of which the first has the given number of bytes. -/
theorem splitAtByte?_eq_some_iff {bytes : Nat} {text before after : List Char} :
    splitAtByte? bytes text = some (before, after)
      ↔ text = before ++ after ∧ byteCount before = bytes := by
  induction text generalizing bytes before with
  | nil =>
    rw [splitAtByte?]
    split
    · subst bytes
      cases before <;> cases after <;> simp [byteCount]
    · cases before <;> simp_all [byteCount, eq_comm]
  | cons c rest ih =>
    have size := c.utf8Size_pos
    rw [splitAtByte?]
    split
    · subst bytes
      cases before with
      | nil => simp [byteCount, eq_comm]
      | cons d before =>
        have size := d.utf8Size_pos
        simp only [byteCount, Option.some.injEq, Prod.mk.injEq]
        constructor
        · simp
        · omega
    · cases before with
      | nil =>
        have short : byteCount [] ≠ bytes := by simp only [byteCount]; omega
        split <;> simp [short]
      | cons d before =>
        split
        · rename_i fits
          simp only [Option.map_eq_some_iff, Prod.mk.injEq, List.cons.injEq, Prod.exists,
            List.cons_append, byteCount]
          constructor
          · rintro ⟨before', after', found, ⟨rfl, rfl⟩, rfl⟩
            obtain ⟨rfl, count⟩ := ih.1 found
            exact ⟨⟨rfl, rfl⟩, by omega⟩
          · rintro ⟨⟨rfl, rfl⟩, count⟩
            exact ⟨before, after, ih.2 ⟨rfl, by omega⟩, ⟨rfl, rfl⟩, rfl⟩
        · rename_i long
          simp only [reduceCtorEq, List.cons_append, List.cons.injEq, byteCount, false_iff]
          rintro ⟨⟨rfl, _⟩, count⟩
          omega

end Text

end CompilerGateway
