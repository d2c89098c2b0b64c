/-!
# Ranges of numbers

Sets of characters that have no shorter description are lists of ranges of their numbers, with
both ends included. The lists **ascend**, so a look-up stops at the first range that starts
beyond the number.
-/

namespace CompilerGateway

namespace Text

/-- Whether `n` lies in one of the ranges, which ascend. -/
def inRanges (n : Nat) : List (Nat × Nat) → Bool
  | [] => false
  | (first, last) :: rest => if n < first then false else n ≤ last || inRanges n rest

/-- A number in the first range is found. -/
theorem inRanges_cons_of_mem {n first last : Nat} (rest : List (Nat × Nat)) (above : first ≤ n)
    (below : n ≤ last) : inRanges n ((first, last) :: rest) = true := by
  simp [inRanges, Nat.not_lt.2 above, below]

/-- Nothing is found before the first range starts. -/
theorem inRanges_cons_of_lt {n first last : Nat} (rest : List (Nat × Nat)) (below : n < first) :
    inRanges n ((first, last) :: rest) = false := by
  simp [inRanges, below]

end Text

end CompilerGateway
