import CompilerGateway.Proofs.JoinedPaths

/-!
# Containment is by parts

Whether a path lies within a directory is decided on their texts. This file says what that comes
to: on paths that have no slash in front and no empty part, a path lies within a directory if and
only if the parts of the directory are the first parts of the path
(`CompilerGateway.VirtualPath.isWithin_iff_parts`). On all texts containment is a preorder, in
which a join comes below its first path, and the slashes that a directory ends with do not count.

Two directories of which one goes on in the middle of a name where the other one ends have
nothing in common (`CompilerGateway.VirtualPath.Beside`).
-/

namespace CompilerGateway

namespace Text

/-- **Pieces begin with those of a text** that is the same or goes on after a slash. -/
theorem pieces_prefix_iff {text before : String} :
    pieces '/' before <+: pieces '/' text ↔
      text = before ∨ ∃ rest, text = before ++ "/" ++ rest := by
  constructor
  · rintro ⟨more, whole⟩
    have plain : ∀ part ∈ more, '/' ∉ part.toList := by
      intro part mem
      have mem' := whole ▸ List.mem_append_right (pieces '/' before) mem
      exact not_mem_of_mem_segments (mem_pieces_iff.mp mem')
    by_cases none : more = []
    · rw [none, List.append_nil] at whole
      exact .inl (pieces_inj whole.symm)
    · have same : pieces '/' text = pieces '/' (before ++ "/" ++ "/".intercalate more) := by
        rw [pieces_slash, pieces_intercalate none plain, whole]
      exact .inr ⟨_, pieces_inj same⟩
  · rintro (rfl | ⟨rest, rfl⟩)
    · exact List.prefix_rfl
    · rw [pieces_slash]
      exact List.prefix_append _ _

/-- What does not end with a character begins a text just if it does so without those at the
end. -/
theorem prefix_of_prefix_append_replicate {c : Char} {text before : List Char}
    (last : before.getLast? ≠ some c) {n : Nat} (begins : before <+: text ++ List.replicate n c) :
    before <+: text := by
  induction n with
  | zero => simpa using begins
  | succ n ih =>
    rw [List.replicate_succ', ← List.append_assoc, List.prefix_concat_iff] at begins
    rcases begins with same | begins
    · exact absurd (by rw [same, List.getLast?_concat]) last
    · exact ih begins

end Text

namespace VirtualPath

/-! ### Normal paths -/

variable {path directory : String}

/-- **The paths without a gap**: slashes at the end aside, there is no empty part between two
slashes and none in front, so that they start with a slash only if they have nothing else. -/
def Gapless (path : String) : Prop :=
  withoutTrailing path = "" ∨ "" ∉ Text.pieces '/' (withoutTrailing path)

theorem Normal.gapless (normal : Normal path) : Gapless path := normal.2

/-- The pieces of a path without a gap, slashes at the end aside, are its parts. -/
theorem Gapless.pieces_eq (gapless : Gapless path) (nonempty : withoutTrailing path ≠ "") :
    Text.pieces '/' (withoutTrailing path) = parts path := by
  rw [← parts_withoutTrailing, parts, List.filter_eq_self.mpr]
  intro part mem
  have full := gapless.resolve_left nonempty
  rw [bne_iff_ne]
  rintro rfl
  exact full mem

/-- **A name below a normal path** makes a normal path. -/
theorem Normal.join (normal : Normal directory) {name : String} (nonempty : name ≠ "")
    (plain : '/' ∉ name.toList) : Normal (VirtualPath.join directory name) := by
  have first : name.toList.head? ≠ some '/' := fun head => plain (List.mem_of_head? head)
  have last : name.toList.getLast? ≠ some '/' := fun last => plain (List.mem_of_getLast? last)
  have alone : "" ∉ Text.pieces '/' name := by
    rw [Text.pieces_of_not_mem plain, List.mem_singleton]
    exact nonempty.symm
  by_cases root : withoutTrailing directory = ""
  · rw [join_of_root root, withoutLeading_eq_self first]
    exact ⟨first, .inr (by rwa [withoutTrailing_eq_self last])⟩
  · rw [join_of_ne_root root, withoutLeading_eq_self first]
    have last' := getLast?_append_ne (withoutTrailing directory ++ "/") nonempty last
    refine ⟨?_, .inr ?_⟩
    · have some : (withoutTrailing directory).toList ≠ [] :=
        fun nil => root (String.toList_eq_nil_iff.mp nil)
      have begins := head?_withoutTrailing normal.1
      obtain ⟨c, rest, chars⟩ := List.exists_cons_of_ne_nil some
      rw [chars] at begins
      rw [String.append_assoc, String.toList_append, chars]
      exact begins
    · rw [withoutTrailing_eq_self last', Text.pieces_slash, List.mem_append, not_or]
      exact ⟨normal.2.resolve_left root, alone⟩

/-! ### Containment -/

variable {middle : String}

/-- What lies within a directory begins with its text and a slash, or would with a slash added. -/
theorem isWithin_iff_begins : isWithin path directory = true ↔ withoutTrailing directory = "" ∨
    (withoutTrailing directory).toList ++ ['/'] <+: path.toList ++ ['/'] := by
  rw [isWithin, Bool.or_eq_true, Bool.or_eq_true, beq_iff_eq, beq_iff_eq,
    List.isPrefixOf_iff_prefix, or_assoc, List.prefix_concat_iff, List.append_left_inj,
    String.toList_inj, eq_comm (a := path)]

/-- Everything lies within the root. -/
theorem isWithin_of_root (root : withoutTrailing directory = "") :
    isWithin path directory = true :=
  isWithin_iff_begins.mpr (.inl root)

/-- Slashes at the end of a path do not matter, if the directory is not the root. -/
theorem isWithin_withoutTrailing (inner : withoutTrailing directory ≠ "") :
    isWithin (withoutTrailing path) directory = isWithin path directory := by
  obtain ⟨n, whole⟩ := exists_toList_eq path
  rw [Bool.eq_iff_iff, isWithin_iff_begins, isWithin_iff_begins, or_iff_right inner,
    or_iff_right inner, whole, List.append_assoc, ← List.replicate_succ']
  generalize directory_eq : (withoutTrailing directory).toList = before
  have last : before.getLast? ≠ some '/' := directory_eq ▸ getLast?_withoutTrailing directory
  constructor
  · intro begins
    rw [List.replicate_succ]
    exact begins.trans ⟨List.replicate n '/', by simp⟩
  · intro begins
    obtain ⟨rest, rest_eq⟩ := Text.prefix_of_prefix_append_replicate last
      ((List.prefix_append before ['/']).trans begins)
    rw [← rest_eq, List.append_assoc, List.prefix_append_right_inj] at begins ⊢
    cases rest with
    | nil => exact List.prefix_rfl
    | cons first rest =>
      obtain ⟨rfl, -⟩ := List.cons_prefix_cons.mp begins
      exact ⟨rest ++ ['/'], rfl⟩

theorem isWithin_trans (within : isWithin path middle = true)
    (within' : isWithin middle directory = true) : isWithin path directory = true := by
  by_cases root : withoutTrailing directory = ""
  · exact isWithin_of_root root
  · rw [← isWithin_withoutTrailing root] at within'
    rw [isWithin_iff_begins] at within within' ⊢
    have begins := within'.resolve_left root
    rcases within with empty | begins'
    · -- nothing but the root lies within it
      rw [empty] at begins
      have length_le := begins.length_le
      have some : (withoutTrailing directory).toList ≠ [] :=
        fun nil => root (String.toList_eq_nil_iff.mp nil)
      have pos := List.length_pos_iff.mpr some
      simp only [List.length_append, List.length_singleton, String.toList_empty,
        List.length_nil] at length_le
      omega
    · exact .inr (begins.trans begins')

theorem isWithin_append_slashes (path directory : String) (n : Nat) :
    isWithin path (directory ++ slashes n) = isWithin path directory := by
  rw [isWithin, isWithin, withoutTrailing_append_slashes]

theorem isWithin_join (directory relative : String) :
    isWithin (join directory relative) directory = true := by
  by_cases root : withoutTrailing directory = ""
  · exact isWithin_of_root root
  · rw [isWithin_iff_begins, join_of_ne_root root]
    exact .inr ⟨(withoutLeading relative).toList ++ ['/'], by simp⟩

/-- **Containment is by parts**, on paths without a gap. -/
theorem isWithin_iff_parts (gapless : Gapless path) (gapless' : Gapless directory) :
    isWithin path directory = true ↔ parts directory <+: parts path := by
  by_cases root : withoutTrailing directory = ""
  · rw [← parts_withoutTrailing directory, root, parts_empty]
    exact ⟨fun _ => List.nil_prefix, fun _ => isWithin_of_root root⟩
  · have last := getLast?_withoutTrailing directory
    have trimmed : isWithin path directory =
        isWithin (withoutTrailing path) (withoutTrailing directory) := by
      rw [← isWithin_withoutTrailing root, isWithin, isWithin, withoutTrailing_eq_self last]
    by_cases root' : withoutTrailing path = ""
    · -- the root is within the root alone, and has no parts
      rw [trimmed, isWithin_iff root last, root', ← parts_withoutTrailing path, root', parts_empty,
        List.prefix_nil, ← gapless'.pieces_eq root]
      constructor
      · rintro (same | ⟨rest, whole⟩)
        · exact absurd same.symm root
        · exact absurd whole.symm (by simp)
      · intro nil
        exact absurd nil (Text.pieces_ne_nil _ _)
    · rw [trimmed, isWithin_iff root last, ← Text.pieces_prefix_iff, gapless'.pieces_eq root,
        gapless.pieces_eq root']

/-! ### Directories with nothing in common -/

/-- What lies within a directory is not within one whose name begins with that of the first. -/
theorem not_isWithin_append {base rest : String} (nonempty : base ≠ "")
    (last : base.toList.getLast? ≠ some '/') (nonempty' : rest ≠ "")
    (first : rest.toList.head? ≠ some '/') (within : isWithin path base = true) :
    ¬ isWithin path (base ++ rest) = true := by
  intro within'
  obtain ⟨c, more, chars⟩ := List.exists_cons_of_ne_nil
    (fun nil => nonempty' (String.toList_eq_nil_iff.mp nil) : rest.toList ≠ [])
  have other : c ≠ '/' := by
    rintro rfl
    exact first (by rw [chars]; rfl)
  have begins : base.toList ++ [c] <+: (withoutTrailing (base ++ rest)).toList := by
    obtain ⟨n, whole⟩ := exists_toList_eq (base ++ rest)
    refine Text.prefix_of_prefix_append_replicate (c := '/') (n := n) (by simpa using other) ?_
    rw [← whole, String.toList_append, chars]
    exact ⟨more, by simp⟩
  have root : withoutTrailing (base ++ rest) ≠ "" := by
    intro empty
    rw [empty, String.toList_empty, List.prefix_nil] at begins
    exact absurd begins (by simp)
  rw [isWithin_iff_begins, withoutTrailing_eq_self last, or_iff_right nonempty] at within
  rw [isWithin_iff_begins, or_iff_right root] at within'
  -- in the path the text of the base is followed by a slash, and by something else
  have begins' := begins.trans ((List.prefix_append _ ['/']).trans within')
  have shorter := List.prefix_of_prefix_length_le begins' within (by simp)
  have same := shorter.eq_of_length (by simp)
  exact other (by simpa using same)

/-- **Two directories of which one goes on where the other one ends**, in the middle of a name. -/
def Beside (directory other : String) : Prop :=
  ∃ base rest, base ≠ "" ∧ base.toList.getLast? ≠ some '/' ∧ rest ≠ "" ∧
    rest.toList.head? ≠ some '/' ∧
    (directory = base ∧ other = base ++ rest ∨ directory = base ++ rest ∧ other = base)

/-- **They have nothing in common**, though the text of one begins with that of the other. -/
theorem Beside.isWithin_eq_false {other : String} (beside : Beside directory other)
    (within : isWithin path directory = true) : isWithin path other = false := by
  rw [Bool.eq_false_iff]
  obtain ⟨base, rest, nonempty, last, nonempty', first, ⟨rfl, rfl⟩ | ⟨rfl, rfl⟩⟩ := beside
  · exact not_isWithin_append nonempty last nonempty' first within
  · exact fun within' => not_isWithin_append nonempty last nonempty' first within' within

end VirtualPath

end CompilerGateway
