import CompilerGateway.Proofs.Paths
import Mathlib.Data.List.TakeWhile

/-!
# Joining is concatenation

A join takes the slashes away where two paths meet and puts one in their place, or none if there
is nothing in front of it. What a path adds in the middle of two joins is therefore the path without
the slashes at either end (`CompilerGateway.VirtualPath.bare`), or nothing if it has no other
characters, and it adds the same whichever join is made first. That is why joining is associative
(`CompilerGateway.VirtualPath.join_assoc`): a directory that is put together name by name from the
root is the one that is put together from the other end. In terms of parts, joining is appending
(`CompilerGateway.VirtualPath.parts_join`).

Both joins take slashes off the path in the middle, one at its end and the other one in front, so
that the order in which the ends are trimmed must not matter
(`CompilerGateway.VirtualPath.withoutTrailing_withoutLeading`). The one case to look at is the path
of slashes alone, of which either end leaves nothing.
-/

namespace CompilerGateway

namespace Text

/-! ### Runs at the ends of two texts -/

theorem trimStart_eq_nil_iff {c : Char} {text : List Char} :
    trimStart c text = [] ↔ ∀ d ∈ text, d = c := by
  simp only [trimStart, List.dropWhile_eq_nil_iff, decide_eq_true_eq]

theorem trimEnd_eq_nil_iff {c : Char} {text : List Char} :
    trimEnd c text = [] ↔ ∀ d ∈ text, d = c := by
  simp only [trimEnd, List.reverse_eq_nil_iff, trimStart_eq_nil_iff, List.mem_reverse]

theorem exists_eq_append_trimStart (c : Char) (text : List Char) :
    ∃ n, text = List.replicate n c ++ trimStart c text := by
  obtain ⟨n, whole⟩ := exists_eq_trimEnd_append c text.reverse
  refine ⟨n, ?_⟩
  rw [trimEnd, List.reverse_reverse] at whole
  simpa using congrArg List.reverse whole

theorem head?_trimStart (c : Char) (text : List Char) : (trimStart c text).head? ≠ some c := by
  intro first
  have last := getLast?_trimEnd c text.reverse
  rw [trimEnd, List.reverse_reverse, List.getLast?_reverse] at last
  exact last first

variable {c : Char} {before after : List Char}

/-- A run at the start goes no further than the first text if there is anything else in it. -/
theorem trimStart_append_of_ne_nil (some : trimStart c before ≠ []) :
    trimStart c (before ++ after) = trimStart c before ++ after := by
  simp only [trimStart] at some ⊢
  rw [List.dropWhile_append, if_neg (by rwa [List.isEmpty_iff])]

/-- If there is nothing else in it, the run goes on into the second text. -/
theorem trimStart_append_of_eq_nil (nil : trimStart c before = []) :
    trimStart c (before ++ after) = trimStart c after := by
  simp only [trimStart] at nil ⊢
  rw [List.dropWhile_append, nil]
  rfl

theorem trimEnd_append_of_ne_nil (some : trimEnd c after ≠ []) :
    trimEnd c (before ++ after) = before ++ trimEnd c after := by
  rw [trimEnd, ne_eq, List.reverse_eq_nil_iff] at some
  rw [trimEnd, List.reverse_append, trimStart_append_of_ne_nil some, List.reverse_append,
    List.reverse_reverse, trimEnd]

theorem trimEnd_append_of_eq_nil (nil : trimEnd c after = []) :
    trimEnd c (before ++ after) = trimEnd c before := by
  rw [trimEnd, List.reverse_eq_nil_iff] at nil
  rw [trimEnd, List.reverse_append, trimStart_append_of_eq_nil nil, trimEnd]

end Text

namespace VirtualPath

/-! ### Slashes at the ends -/

/-- So many slashes. -/
def slashes (n : Nat) : String := String.ofList (List.replicate n '/')

theorem slashes_succ (n : Nat) : slashes (n + 1) = "/" ++ slashes n := by
  rw [slashes, List.replicate_succ, ← List.singleton_append, String.ofList_append]
  rfl

theorem slashes_succ' (n : Nat) : slashes (n + 1) = slashes n ++ "/" := by
  rw [slashes, List.replicate_succ', String.ofList_append]
  rfl

theorem exists_toList_eq (path : String) :
    ∃ n, path.toList = (withoutTrailing path).toList ++ List.replicate n '/' := by
  rw [withoutTrailing, String.toList_ofList]
  exact Text.exists_eq_trimEnd_append '/' path.toList

theorem exists_eq_append_slashes (path : String) :
    ∃ n, path = withoutTrailing path ++ slashes n := by
  obtain ⟨n, whole⟩ := exists_toList_eq path
  refine ⟨n, String.toList_inj.mp ?_⟩
  rwa [String.toList_append, slashes, String.toList_ofList]

theorem exists_eq_slashes_append (path : String) :
    ∃ n, path = slashes n ++ withoutLeading path := by
  obtain ⟨n, whole⟩ := Text.exists_eq_append_trimStart '/' path.toList
  refine ⟨n, String.toList_inj.mp ?_⟩
  rwa [String.toList_append, slashes, String.toList_ofList, withoutLeading, String.toList_ofList]

theorem head?_withoutLeading (path : String) :
    (withoutLeading path).toList.head? ≠ some '/' := by
  rw [withoutLeading, String.toList_ofList]
  exact Text.head?_trimStart '/' path.toList

variable {before after path : String}

/-- What does not end with a slash does not do so without the slashes in front. -/
theorem getLast?_withoutLeading (last : path.toList.getLast? ≠ some '/') :
    (withoutLeading path).toList.getLast? ≠ some '/' := by
  intro last'
  obtain ⟨n, whole⟩ := exists_eq_slashes_append path
  rw [whole, String.toList_append, List.getLast?_append, last'] at last
  exact last rfl

theorem head?_withoutTrailing (first : path.toList.head? ≠ some '/') :
    (withoutTrailing path).toList.head? ≠ some '/' := by
  intro first'
  obtain ⟨n, whole⟩ := exists_toList_eq path
  rw [whole, List.head?_append, first'] at first
  exact first rfl

theorem withoutTrailing_eq_empty_iff :
    withoutTrailing path = "" ↔ ∀ c ∈ path.toList, c = '/' := by
  rw [withoutTrailing, String.ofList_eq_empty_iff, Text.trimEnd_eq_nil_iff]

theorem withoutLeading_eq_empty_iff :
    withoutLeading path = "" ↔ ∀ c ∈ path.toList, c = '/' := by
  rw [withoutLeading, String.ofList_eq_empty_iff, Text.trimStart_eq_nil_iff]

theorem withoutTrailing_append_of_ne_root (inner : withoutTrailing after ≠ "") :
    withoutTrailing (before ++ after) = before ++ withoutTrailing after := by
  rw [withoutTrailing, ne_eq, String.ofList_eq_empty_iff] at inner
  rw [withoutTrailing, String.toList_append, Text.trimEnd_append_of_ne_nil inner,
    String.ofList_append, String.ofList_toList, withoutTrailing]

theorem withoutTrailing_append_of_root (root : withoutTrailing after = "") :
    withoutTrailing (before ++ after) = withoutTrailing before := by
  rw [withoutTrailing, String.ofList_eq_empty_iff] at root
  rw [withoutTrailing, String.toList_append, Text.trimEnd_append_of_eq_nil root, withoutTrailing]

theorem withoutLeading_append_of_ne_root (inner : withoutLeading before ≠ "") :
    withoutLeading (before ++ after) = withoutLeading before ++ after := by
  rw [withoutLeading, ne_eq, String.ofList_eq_empty_iff] at inner
  rw [withoutLeading, String.toList_append, Text.trimStart_append_of_ne_nil inner,
    String.ofList_append, String.ofList_toList, withoutLeading]

theorem withoutTrailing_slashes (n : Nat) : withoutTrailing (slashes n) = "" := by
  rw [withoutTrailing_eq_empty_iff, slashes, String.toList_ofList]
  exact fun c mem => List.eq_of_mem_replicate mem

theorem withoutTrailing_append_slashes (path : String) (n : Nat) :
    withoutTrailing (path ++ slashes n) = withoutTrailing path :=
  withoutTrailing_append_of_root (withoutTrailing_slashes n)

/-! ### Parts -/

@[simp] theorem parts_empty : parts "" = [] := rfl

theorem parts_slash (before after : String) :
    parts (before ++ "/" ++ after) = parts before ++ parts after := by
  rw [parts, Text.pieces_slash, List.filter_append]
  rfl

theorem parts_append_slashes (path : String) (n : Nat) :
    parts (path ++ slashes n) = parts path := by
  induction n with
  | zero => exact congrArg parts String.append_empty
  | succ n ih =>
    have last := parts_slash (path ++ slashes n) ""
    rw [String.append_empty, parts_empty, List.append_nil] at last
    rw [slashes_succ', ← String.append_assoc, last, ih]

theorem parts_slashes_append (n : Nat) (path : String) :
    parts (slashes n ++ path) = parts path := by
  induction n with
  | zero => exact congrArg parts String.empty_append
  | succ n ih =>
    have first := parts_slash "" (slashes n ++ path)
    rw [String.empty_append, parts_empty, List.nil_append] at first
    rw [slashes_succ, String.append_assoc, first, ih]

/-- Slashes at the end are no parts. -/
theorem parts_withoutTrailing (path : String) : parts (withoutTrailing path) = parts path := by
  obtain ⟨n, whole⟩ := exists_eq_append_slashes path
  rw [← parts_append_slashes _ n, ← whole]

/-- Slashes in front are no parts. -/
theorem parts_withoutLeading (path : String) : parts (withoutLeading path) = parts path := by
  obtain ⟨n, whole⟩ := exists_eq_slashes_append path
  rw [← parts_slashes_append n, ← whole]

/-- **Joining puts parts after parts.** -/
theorem parts_join (base relative : String) :
    parts (join base relative) = parts base ++ parts relative := by
  rw [← parts_withoutTrailing base, ← parts_withoutLeading relative]
  by_cases root : withoutTrailing base = ""
  · rw [join_of_root root, root, parts_empty, List.nil_append]
  · rw [join_of_ne_root root, parts_slash]

/-! ### Paths without slashes at either end -/

/-- **The path without the slashes at either end.** -/
def bare (path : String) : String := withoutTrailing (withoutLeading path)

/-- **It does not matter which end comes first.** -/
theorem withoutTrailing_withoutLeading (path : String) :
    withoutTrailing (withoutLeading path) = withoutLeading (withoutTrailing path) := by
  by_cases root : withoutLeading (withoutTrailing path) = ""
  · -- what has nothing but slashes has none left once it has lost those at one end
    have empty := withoutTrailing_eq_empty_iff.mpr (withoutLeading_eq_empty_iff.mp root)
    rw [withoutTrailing_eq_self (getLast?_withoutTrailing path)] at empty
    rw [root, withoutLeading_eq_empty_iff.mpr (withoutTrailing_eq_empty_iff.mp empty)]
    rfl
  · obtain ⟨n, whole⟩ := exists_eq_append_slashes path
    have last := getLast?_withoutLeading (getLast?_withoutTrailing path)
    calc withoutTrailing (withoutLeading path)
        = withoutTrailing (withoutLeading (withoutTrailing path ++ slashes n)) := by rw [← whole]
      _ = withoutTrailing (withoutLeading (withoutTrailing path) ++ slashes n) := by
          rw [withoutLeading_append_of_ne_root root]
      _ = withoutLeading (withoutTrailing path) := by
          rw [withoutTrailing_append_slashes, withoutTrailing_eq_self last]

theorem bare_eq_empty_iff : bare path = "" ↔ withoutTrailing path = "" := by
  rw [bare, withoutTrailing_withoutLeading, withoutLeading_eq_empty_iff,
    ← withoutTrailing_eq_empty_iff, withoutTrailing_eq_self (getLast?_withoutTrailing path)]

/-! ### Joins -/

/-- **The end of a join** is that of its second path, unless that is the root. -/
theorem withoutTrailing_join (base relative : String) :
    withoutTrailing (join base relative) =
      if bare relative = "" then withoutTrailing base
      else below (withoutTrailing base) (bare relative) := by
  by_cases root : withoutTrailing base = ""
  · rw [join_of_root root, root, below_empty]
    split
    · assumption
    · rfl
  · rw [join_of_ne_root root]
    split
    · rename_i empty
      -- the slash of the join is one more at the end
      rw [withoutTrailing_append_of_root empty]
      exact (withoutTrailing_append_slashes (withoutTrailing base) 1).trans
        (withoutTrailing_eq_self (getLast?_withoutTrailing base))
    · rename_i inner
      rw [withoutTrailing_append_of_ne_root inner, below_of_ne root]
      rfl

/-- **The start of a join** is that of its first path, unless that is the root. -/
theorem withoutLeading_join (base relative : String) :
    withoutLeading (join base relative) = below (bare base) (withoutLeading relative) := by
  by_cases root : withoutTrailing base = ""
  · rw [join_of_root root, bare_eq_empty_iff.mpr root, below_empty,
      withoutLeading_eq_self (head?_withoutLeading relative)]
  · have inner : bare base ≠ "" := mt bare_eq_empty_iff.mp root
    rw [join_of_ne_root root, below_of_ne inner]
    rw [bare, withoutTrailing_withoutLeading] at inner ⊢
    rw [String.append_assoc, withoutLeading_append_of_ne_root inner, String.append_assoc]

/-- **Joining is associative.** Either way the path in the middle is put between the other two
without the slashes at its ends, or is left out. -/
theorem join_assoc (a b c : String) : join (join a b) c = join a (join b c) := by
  rw [join_eq_below (join a b), withoutTrailing_join, join_eq_below a, withoutLeading_join]
  split
  · rename_i empty
    rw [empty, below_empty]
  · rename_i inner
    rw [below_of_ne (below_ne_empty inner), below_of_ne inner, below_append]

/-- **Joining is concatenation of paths.** Joins may be made in any order, and a join has the parts
of the first path and then those of the second one. Where the first path is not the root, it is
followed by a single slash and the second path, the slashes aside that the one ends with and the
other one starts with; where it is the root, the second path is all there is, and it never starts
with a slash. -/
theorem join_concatenates (a b c : String) :
    join (join a b) c = join a (join b c) ∧
    parts (join a b) = parts a ++ parts b ∧
    (∃ base relative m n, a = base ++ slashes m ∧ base.toList.getLast? ≠ some '/' ∧
      b = slashes n ++ relative ∧ relative.toList.head? ≠ some '/' ∧
      ((∃ d ∈ a.toList, d ≠ '/') ∧ join a b = base ++ "/" ++ relative ∨
        (∀ d ∈ a.toList, d = '/') ∧ join a b = relative)) ∧
    ∀ n, (join (slashes n) b).toList.head? ≠ some '/' := by
  obtain ⟨m, whole⟩ := exists_eq_append_slashes a
  obtain ⟨n, whole'⟩ := exists_eq_slashes_append b
  refine ⟨join_assoc a b c, parts_join a b, ⟨withoutTrailing a, withoutLeading b, m, n, whole,
    getLast?_withoutTrailing a, whole', head?_withoutLeading b, ?_⟩, fun n => ?_⟩
  · by_cases root : withoutTrailing a = ""
    · exact .inr ⟨withoutTrailing_eq_empty_iff.mp root, join_of_root root⟩
    · have other : ∃ d ∈ a.toList, d ≠ '/' := by
        rw [withoutTrailing_eq_empty_iff] at root
        simpa using root
      exact .inl ⟨other, join_of_ne_root root⟩
  · rw [join_of_root (withoutTrailing_slashes n)]
    exact head?_withoutLeading b

end VirtualPath

end CompilerGateway
