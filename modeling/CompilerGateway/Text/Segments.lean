/-!
# Cutting text at a character

`Text.segments` cuts a text at every occurrence of a separator, `Text.ofSegments` puts the
pieces back with the separator between them. Cutting loses nothing
(`Text.ofSegments_segments`), there is always at least one piece
(`Text.segments_ne_nil`), and no piece holds the separator
(`Text.not_mem_of_mem_segments`).

`Text.splitAtLast` cuts at the last occurrence only, and `Text.trimStart` and `Text.trimEnd`
take a run of one character off either end.
-/

namespace CompilerGateway

namespace Text

/-! ### Pieces between separators -/

/-- The pieces between the separators, of which there is one more than separators. -/
def segments {α : Type} [DecidableEq α] (separator : α) : List α → List (List α)
  | [] => [[]]
  | c :: rest =>
    if c = separator then [] :: segments separator rest
    else
      match segments separator rest with
      | [] => [[c]]
      | piece :: pieces => (c :: piece) :: pieces

/-- The pieces with the separator between each two. -/
def ofSegments (separator : Char) : List (List Char) → List Char
  | [] => []
  | [piece] => piece
  | piece :: pieces => piece ++ separator :: ofSegments separator pieces

/-- The pieces of a string, as strings. -/
def pieces (separator : Char) (text : String) : List String :=
  (segments separator text.toList).map String.ofList

theorem segments_ne_nil (separator : Char) (text : List Char) :
    segments separator text ≠ [] := by
  cases text with
  | nil => simp [segments]
  | cons c rest =>
    simp only [segments]
    split
    · simp
    · split <;> simp

theorem ofSegments_segments (separator : Char) (text : List Char) :
    ofSegments separator (segments separator text) = text := by
  induction text with
  | nil => rfl
  | cons c rest ih =>
    simp only [segments]
    split
    · rename_i same
      cases h : segments separator rest with
      | nil => exact absurd h (segments_ne_nil _ _)
      | cons piece more =>
        rw [h] at ih
        simp [ofSegments, ih, same]
    · split
      · rename_i h
        exact absurd h (segments_ne_nil _ _)
      · rename_i piece more h
        rw [h] at ih
        cases more with
        | nil => simpa [ofSegments] using ih
        | cons next more => simpa [ofSegments] using ih

theorem segments_eq_singleton {separator : Char} {text : List Char} (h : separator ∉ text) :
    segments separator text = [text] := by
  induction text with
  | nil => rfl
  | cons c rest ih =>
    rw [List.mem_cons, not_or] at h
    rw [segments, if_neg (Ne.symm h.1), ih h.2]

theorem not_mem_of_mem_segments {separator : Char} {text piece : List Char}
    (h : piece ∈ segments separator text) : separator ∉ piece := by
  induction text generalizing piece with
  | nil =>
    simp only [segments, List.mem_singleton] at h
    simp [h]
  | cons c rest ih =>
    simp only [segments] at h
    split at h
    · rcases List.mem_cons.1 h with rfl | h
      · simp
      · exact ih h
    · rename_i different
      split at h
      · simp only [List.mem_singleton] at h
        simpa [h] using Ne.symm different
      · rename_i first more cut
        rcases List.mem_cons.1 h with rfl | h
        · have := @ih first (by rw [cut]; exact List.mem_cons_self)
          simp [this, Ne.symm different]
        · exact ih (by rw [cut]; exact List.mem_cons_of_mem _ h)

/-! ### The last occurrence -/

/-- The text before and after the last occurrence of a character, if it occurs. -/
def splitAtLast (mark : Char) (text : List Char) : Option (List Char × List Char) :=
  match text.reverse.dropWhile (fun c => decide (c ≠ mark)) with
  | [] => none
  | _ :: before =>
    some (before.reverse, (text.reverse.takeWhile (fun c => decide (c ≠ mark))).reverse)

theorem eq_of_splitAtLast {mark : Char} {text before after : List Char}
    (h : splitAtLast mark text = some (before, after)) :
    text = before ++ mark :: after ∧ mark ∉ after := by
  unfold splitAtLast at h
  have cut := List.takeWhile_append_dropWhile
    (p := fun c => decide (c ≠ mark)) (l := text.reverse)
  split at h
  · simp at h
  · rename_i c rest dropped
    simp only [Option.some.injEq, Prod.mk.injEq] at h
    obtain ⟨rfl, rfl⟩ := h
    have isMark : c = mark := by
      have := List.head_dropWhile_not (fun c => decide (c ≠ mark))
        (l := text.reverse) (by rw [dropped]; simp)
      simp only [dropped, List.head_cons] at this
      simpa using this
    subst isMark
    rw [dropped] at cut
    constructor
    · have := congrArg List.reverse cut
      simpa using this.symm
    · intro mem
      rw [List.mem_reverse] at mem
      have kept := List.all_eq_true.1
        (List.all_takeWhile (p := fun d => decide (d ≠ c)) (l := text.reverse)) _ mem
      simp at kept

/-- A mark with no other after it is the one to cut at. -/
theorem splitAtLast_append {mark : Char} {before after : List Char} (last : mark ∉ after) :
    splitAtLast mark (before ++ mark :: after) = some (before, after) := by
  have passed : ∀ c ∈ after.reverse, decide (c ≠ mark) = true := by
    intro c mem
    refine decide_eq_true fun same => last ?_
    rwa [← same, ← List.mem_reverse]
  have reversed : (before ++ mark :: after).reverse = after.reverse ++ mark :: before.reverse := by
    simp
  rw [splitAtLast, reversed, List.dropWhile_append_of_pos passed,
    List.takeWhile_append_of_pos passed]
  simp

theorem splitAtLast_eq_some_iff {mark : Char} {text before after : List Char} :
    splitAtLast mark text = some (before, after) ↔
      text = before ++ mark :: after ∧ mark ∉ after := by
  constructor
  · exact eq_of_splitAtLast
  · rintro ⟨rfl, last⟩
    exact splitAtLast_append last

/-! ### Runs at the ends -/

/-- The text without the run of `c` it starts with. -/
def trimStart (c : Char) (text : List Char) : List Char :=
  text.dropWhile (fun d => decide (d = c))

/-- The text without the run of `c` it ends with. -/
def trimEnd (c : Char) (text : List Char) : List Char :=
  (trimStart c text.reverse).reverse

end Text

end CompilerGateway
