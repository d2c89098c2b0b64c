import CompilerGateway.Package.Naming
import CompilerGateway.VirtualPath

/-!
# Paths whose parts lead downwards

Names, versions and keys come from outside and become parts of paths. What a name or a key is
checked for comes to the same for both: every part of it **leads downwards**
(`CompilerGateway.VirtualPath.Descends`). It is not empty, it is neither `.` nor `..`, and it
has no separator in it; `CompilerGateway.VirtualPath.descends_of_nameFault?` and
`CompilerGateway.keyFault?_eq_none_iff` say so of the two checks.

Below a root such parts stay what they are. `CompilerGateway.VirtualPath.below` puts a path
below a root with one slash in between, or none if the root is empty, and a join onto a path
that does not end with a slash is just that. Nothing of a path is lost below a root
(`CompilerGateway.VirtualPath.below_right_inj`), and a path that begins with one name is not
within a directory that begins with another
(`CompilerGateway.VirtualPath.eq_of_isWithin_below`).

`CompilerGateway.VirtualPath.walk` follows a path part by part as a file system that knows `.`
and `..` would, and parts that lead downwards only ever take it further down
(`CompilerGateway.VirtualPath.walk_of_descends`).
-/

namespace CompilerGateway

/-! ### Pieces of text -/

namespace Text

theorem segments_append (separator : Char) (before after : List Char) :
    segments separator (before ++ separator :: after) =
      segments separator before ++ segments separator after := by
  induction before with
  | nil => simp [segments]
  | cons c rest ih =>
    by_cases same : c = separator
    · simp [segments, same, ih]
    · rw [List.cons_append, segments, if_neg same, ih, segments, if_neg same]
      cases cut : segments separator rest with
      | nil => exact absurd cut (segments_ne_nil _ _)
      | cons piece pieces => rfl

/-- A text that is cut has nothing in its pieces that was not in it, and all of it but the
separators. -/
theorem exists_mem_segments_iff {separator c : Char} {text : List Char} (other : c ≠ separator) :
    (∃ piece ∈ segments separator text, c ∈ piece) ↔ c ∈ text := by
  induction text with
  | nil => simp [segments]
  | cons d rest ih =>
    rw [segments, List.mem_cons]
    split
    · rename_i same
      subst same
      simp [other, ih]
    · split
      · rename_i cut
        exact absurd cut (segments_ne_nil _ _)
      · rename_i piece pieces cut
        rw [cut] at ih
        simp only [List.mem_cons, exists_eq_or_imp] at ih ⊢
        rw [or_assoc, ih]

theorem pieces_ne_nil (separator : Char) (text : String) : pieces separator text ≠ [] :=
  fun nil => segments_ne_nil separator text.toList (List.map_eq_nil_iff.mp nil)

theorem mem_pieces_iff {separator : Char} {text piece : String} :
    piece ∈ pieces separator text ↔ piece.toList ∈ segments separator text.toList := by
  rw [pieces, List.mem_map]
  constructor
  · rintro ⟨chars, mem, rfl⟩
    rwa [String.toList_ofList]
  · intro mem
    exact ⟨piece.toList, mem, String.ofList_toList⟩

theorem pieces_of_not_mem {separator : Char} {text : String} (h : separator ∉ text.toList) :
    pieces separator text = [text] := by
  rw [pieces, segments_eq_singleton h, List.map_singleton, String.ofList_toList]

/-- Pieces on both sides of a slash are the pieces of the whole. -/
theorem pieces_slash (before after : String) :
    pieces '/' (before ++ "/" ++ after) = pieces '/' before ++ pieces '/' after := by
  have whole : (before ++ "/" ++ after).toList = before.toList ++ '/' :: after.toList := by
    simp
  rw [pieces, whole, segments_append, List.map_append]
  rfl

/-- The pieces determine the text. -/
theorem pieces_inj {separator : Char} {text other : String}
    (same : pieces separator text = pieces separator other) : text = other := by
  have chars : segments separator text.toList = segments separator other.toList :=
    (List.map_inj_right fun _ _ h => String.ofList_inj.mp h).mp same
  rw [← String.toList_inj, ← ofSegments_segments separator text.toList, chars,
    ofSegments_segments]

/-- **Parts without a slash** are the pieces of the path that they make. -/
theorem pieces_intercalate {parts : List String} (nonempty : parts ≠ [])
    (plain : ∀ part ∈ parts, '/' ∉ part.toList) :
    pieces '/' ("/".intercalate parts) = parts := by
  induction parts with
  | nil => exact absurd rfl nonempty
  | cons part rest ih =>
    have first := pieces_of_not_mem (plain part List.mem_cons_self)
    by_cases last : rest = []
    · rw [last, String.intercalate_singleton, first]
    · have others := ih last fun other mem => plain other (List.mem_cons_of_mem part mem)
      rw [String.intercalate_cons_of_ne_nil last, pieces_slash, first, others]
      rfl

theorem intercalate_inj {parts others : List String} (nonempty : parts ≠ [])
    (plain : ∀ part ∈ parts, '/' ∉ part.toList) (nonempty' : others ≠ [])
    (plain' : ∀ part ∈ others, '/' ∉ part.toList)
    (same : "/".intercalate parts = "/".intercalate others) : parts = others := by
  rw [← pieces_intercalate nonempty plain, same, pieces_intercalate nonempty' plain']

theorem trimStart_eq_self {c : Char} {text : List Char} (h : text.head? ≠ some c) :
    trimStart c text = text := by
  cases text with
  | nil => rfl
  | cons d rest =>
    have other : d ≠ c := fun same => h (congrArg some same)
    simp [trimStart, other]

theorem trimEnd_eq_self {c : Char} {text : List Char} (h : text.getLast? ≠ some c) :
    trimEnd c text = text := by
  rw [trimEnd, trimStart_eq_self (by rwa [List.head?_reverse]), List.reverse_reverse]

theorem getLast?_trimEnd (c : Char) (text : List Char) : (trimEnd c text).getLast? ≠ some c := by
  intro last
  rw [trimEnd, List.getLast?_reverse, trimStart] at last
  have := List.head?_dropWhile_not (fun d => decide (d = c)) text.reverse
  rw [last] at this
  simp at this

/-- What is trimmed is the character, some number of times. -/
theorem exists_eq_trimEnd_append (c : Char) (text : List Char) :
    ∃ n, text = trimEnd c text ++ List.replicate n c := by
  refine ⟨(text.reverse.takeWhile fun d => decide (d = c)).length, ?_⟩
  have run : text.reverse.takeWhile (fun d => decide (d = c)) =
      List.replicate (text.reverse.takeWhile fun d => decide (d = c)).length c :=
    List.eq_replicate_iff.mpr ⟨rfl, fun d mem => by
      simpa using List.all_eq_true.mp List.all_takeWhile d mem⟩
  have whole := congrArg List.reverse
    (List.takeWhile_append_dropWhile (p := fun d => decide (d = c)) (l := text.reverse))
  rw [List.reverse_append, List.reverse_reverse, run, List.reverse_replicate] at whole
  exact whole.symm

end Text

namespace VirtualPath

/-! ### Parts that lead downwards -/

/-- **A part of a path that leads downwards**, to an entry of the directory that is come from. -/
structure Descends (part : String) : Prop where
  /-- It leads somewhere. -/
  ne_empty : part ≠ ""
  /-- It does not stay where it is. -/
  ne_here : part ≠ "."
  /-- It does not lead upwards. -/
  ne_up : part ≠ ".."
  /-- It is one part. -/
  slash : '/' ∉ part.toList
  /-- It is so for those, too, to whom a backslash is a separator. -/
  backslash : '\\' ∉ part.toList

theorem Descends.isIdlePart_eq_false {part : String} (down : Descends part) :
    isIdlePart part = false := by
  simp [isIdlePart, down.ne_empty, down.ne_here, down.ne_up]

theorem Descends.getLast?_ne {part : String} (down : Descends part) :
    part.toList.getLast? ≠ some '/' :=
  fun last => down.slash (List.mem_of_getLast? last)

/-- **A name that is in order** leads downwards. -/
theorem descends_of_nameFault? {name : String} (fit : nameFault? name = none) : Descends name := by
  rw [nameFault?] at fit
  split at fit
  · cases fit
  · rename_i notBlank
    split at fit
    · cases fit
    · rename_i separators
      split at fit
      · cases fit
      · rename_i relative
        rw [not_or] at separators relative
        refine ⟨fun empty => notBlank ?_, relative.1, relative.2, separators.1, separators.2⟩
        rw [empty]
        rfl

end VirtualPath

open VirtualPath in
/-- **A key is in order** if and only if all its parts lead downwards. -/
theorem keyFault?_eq_none_iff {key : String} :
    keyFault? key = none ↔ ∀ part ∈ Text.pieces '/' key, Descends part := by
  have other : '\\' ≠ '/' := by decide
  constructor
  · intro fit part mem
    rw [keyFault?] at fit
    split at fit
    · cases fit
    · split at fit
      · cases fit
      · rename_i backslash
        split at fit
        · cases fit
        · rename_i idle
          have mem' := Text.mem_pieces_iff.mp mem
          have goes : isIdlePart part = false := by
            simpa using fun isIdle => idle (List.any_eq_true.mpr ⟨part, mem, isIdle⟩)
          simp only [isIdlePart, Bool.or_eq_false_iff, beq_eq_false_iff_ne] at goes
          exact ⟨goes.1.1, goes.1.2, goes.2, Text.not_mem_of_mem_segments mem', fun back =>
            backslash ((Text.exists_mem_segments_iff other).mp ⟨_, mem', back⟩)⟩
  · intro down
    have leading : key.toList.head? ≠ some '/' := by
      intro head
      -- a slash in front has an empty part before it
      obtain ⟨rest, chars⟩ := List.head?_eq_some_iff.mp head
      have mem : "" ∈ Text.pieces '/' key := by
        rw [Text.mem_pieces_iff, chars, Text.segments, if_pos rfl]
        exact List.mem_cons_self
      exact (down "" mem).ne_empty rfl
    have backslash : '\\' ∉ key.toList := by
      intro back
      obtain ⟨piece, mem, back'⟩ := (Text.exists_mem_segments_iff other).mpr back
      have mem' : String.ofList piece ∈ Text.pieces '/' key := List.mem_map_of_mem mem
      exact (down _ mem').backslash (by rwa [String.toList_ofList])
    have idle : ¬ (Text.pieces '/' key).any isIdlePart = true := by
      intro some
      obtain ⟨part, mem, isIdle⟩ := List.any_eq_true.mp some
      rw [(down part mem).isIdlePart_eq_false] at isIdle
      cases isIdle
    rw [keyFault?, if_neg leading, if_neg backslash, if_neg idle]

namespace VirtualPath

theorem withoutTrailing_eq_self {path : String} (h : path.toList.getLast? ≠ some '/') :
    withoutTrailing path = path := by
  rw [withoutTrailing, Text.trimEnd_eq_self h, String.ofList_toList]

theorem withoutLeading_eq_self {path : String} (h : path.toList.head? ≠ some '/') :
    withoutLeading path = path := by
  rw [withoutLeading, Text.trimStart_eq_self h, String.ofList_toList]

theorem getLast?_withoutTrailing (path : String) :
    (withoutTrailing path).toList.getLast? ≠ some '/' := by
  rw [withoutTrailing, String.toList_ofList]
  exact Text.getLast?_trimEnd '/' path.toList

/-! ### Below a root -/

/-- **The path below a root.** Below the empty root it is the path itself. -/
def below (root path : String) : String := if root = "" then path else root ++ "/" ++ path

@[simp] theorem below_empty (path : String) : below "" path = path := by
  simp [below]

theorem below_of_ne {root : String} (h : root ≠ "") (path : String) :
    below root path = root ++ "/" ++ path := by
  simp [below, h]

/-- Joining is putting below, slashes where the two meet aside. -/
theorem join_eq_below (base relative : String) :
    join base relative = below (withoutTrailing base) (withoutLeading relative) := rfl

theorem below_append (root path more : String) :
    below root path ++ "/" ++ more = below root (path ++ "/" ++ more) := by
  by_cases empty : root = ""
  · rw [empty, below_empty, below_empty]
  · simp only [below_of_ne empty, String.append_assoc]

theorem below_right_inj {root path other : String} :
    below root path = below root other ↔ path = other := by
  by_cases empty : root = ""
  · rw [empty, below_empty, below_empty]
  · rw [below_of_ne empty, below_of_ne empty, String.append_right_inj]

theorem getLast?_append_ne (before : String) {after : String} (nonempty : after ≠ "")
    (h : after.toList.getLast? ≠ some '/') : (before ++ after).toList.getLast? ≠ some '/' := by
  have some : after.toList ≠ [] := fun nil => nonempty (String.toList_eq_nil_iff.mp nil)
  rw [String.toList_append, List.getLast?_append, List.getLast?_eq_some_getLast some]
  rwa [List.getLast?_eq_some_getLast some] at h

/-- A path that does not end with a slash has none at the end of it below a root, either. -/
theorem getLast?_below {root path : String} (nonempty : path ≠ "")
    (h : path.toList.getLast? ≠ some '/') : (below root path).toList.getLast? ≠ some '/' := by
  by_cases empty : root = ""
  · rwa [empty, below_empty]
  · rw [below_of_ne empty]
    exact getLast?_append_ne _ nonempty h

theorem below_ne_empty {root path : String} (nonempty : path ≠ "") : below root path ≠ "" := by
  by_cases empty : root = ""
  · rwa [empty, below_empty]
  · simp [below_of_ne empty]

/-- **Joining below a root** takes no slash away and adds one. -/
theorem join_below {root path more : String} (nonempty : path ≠ "")
    (last : path.toList.getLast? ≠ some '/') (first : more.toList.head? ≠ some '/') :
    join (below root path) more = below root (path ++ "/" ++ more) := by
  rw [join_eq_below, withoutTrailing_eq_self (getLast?_below nonempty last),
    withoutLeading_eq_self first, below_of_ne (below_ne_empty nonempty), below_append]

/-- What is within a directory that does not end with a slash: itself, and what its text and a
slash are in front of. -/
theorem isWithin_iff {path directory : String} (nonempty : directory ≠ "")
    (last : directory.toList.getLast? ≠ some '/') :
    isWithin path directory = true ↔
      path = directory ∨ ∃ rest, path = directory ++ "/" ++ rest := by
  rw [isWithin, withoutTrailing_eq_self last]
  simp only [Bool.or_eq_true, beq_iff_eq, nonempty, false_or, List.isPrefixOf_iff_prefix]
  refine or_congr_right ⟨?_, ?_⟩
  · rintro ⟨rest, chars⟩
    refine ⟨String.ofList rest, String.toList_inj.mp ?_⟩
    rw [← chars]
    simp
  · rintro ⟨rest, rfl⟩
    exact ⟨rest.toList, by simp⟩

/-- Every path is within itself. -/
theorem isWithin_self (path : String) : isWithin path path = true := by
  obtain ⟨n, chars⟩ := Text.exists_eq_trimEnd_append '/' path.toList
  have base_eq : (withoutTrailing path).toList = Text.trimEnd '/' path.toList :=
    String.toList_ofList
  rw [isWithin, Bool.or_eq_true, Bool.or_eq_true]
  cases n with
  | zero =>
    refine .inl (.inr (beq_iff_eq.mpr (String.toList_inj.mp ?_)))
    rw [base_eq]
    simpa using chars
  | succ n =>
    -- a slash at the end of the path stands where one is asked for
    refine .inr (List.isPrefixOf_iff_prefix.mpr ⟨List.replicate n '/', ?_⟩)
    rw [base_eq, List.append_assoc, List.singleton_append, ← List.replicate_succ]
    exact chars.symm

theorem eq_of_slash_eq_slash {name name' rest rest' : String} (down : Descends name)
    (down' : Descends name') (same : name ++ "/" ++ rest = name' ++ "/" ++ rest') :
    name = name' ∧ rest = rest' := by
  have pieces_eq := congrArg (Text.pieces '/') same
  rw [Text.pieces_slash, Text.pieces_slash, Text.pieces_of_not_mem down.slash,
    Text.pieces_of_not_mem down'.slash] at pieces_eq
  obtain ⟨rfl, rests⟩ := List.cons.inj pieces_eq
  exact ⟨rfl, Text.pieces_inj rests⟩

/-- **Below a root, names are told apart**: what is within a path that begins with a name
begins with that name. -/
theorem eq_of_isWithin_below {root name name' rest rest' : String} (down : Descends name)
    (down' : Descends name') (nonempty : rest' ≠ "") (last : rest'.toList.getLast? ≠ some '/')
    (within : isWithin (below root (name ++ "/" ++ rest)) (below root (name' ++ "/" ++ rest')) =
      true) :
    name = name' := by
  have nonempty' : name' ++ "/" ++ rest' ≠ "" := by simp
  have last' := getLast?_append_ne (name' ++ "/") nonempty last
  rcases (isWithin_iff (below_ne_empty nonempty') (getLast?_below nonempty' last')).mp within with
    same | ⟨more, same⟩
  · exact (eq_of_slash_eq_slash down down' (below_right_inj.mp same)).1
  · have regroup : name' ++ "/" ++ rest' ++ "/" ++ more =
        name' ++ "/" ++ (rest' ++ "/" ++ more) := by
      simp only [String.append_assoc]
    rw [below_append, below_right_inj, regroup] at same
    exact (eq_of_slash_eq_slash down down' same).1

/-! ### Following a path -/

/-- **The place that parts of a path lead to** from another one, where `.` is a place itself and
`..` the one above it. Places are given by their names from the top down. -/
def walk (place : List String) : List String → List String
  | [] => place
  | part :: rest =>
    if part = "" ∨ part = "." then walk place rest
    else if part = ".." then walk place.dropLast rest
    else walk (place ++ [part]) rest

theorem walk_append (place parts more : List String) :
    walk place (parts ++ more) = walk (walk place parts) more := by
  induction parts generalizing place with
  | nil => rfl
  | cons part rest ih =>
    rw [List.cons_append, walk, walk]
    split
    · exact ih place
    · split
      · exact ih place.dropLast
      · exact ih (place ++ [part])

/-- **Parts that lead downwards** lead to where they say. -/
theorem walk_of_descends {place parts : List String} (down : ∀ part ∈ parts, Descends part) :
    walk place parts = place ++ parts := by
  induction parts generalizing place with
  | nil => rw [walk, List.append_nil]
  | cons part rest ih =>
    have first := down part List.mem_cons_self
    have others := fun other mem => down other (List.mem_cons_of_mem part mem)
    rw [walk, if_neg (not_or.mpr ⟨first.ne_empty, first.ne_here⟩), if_neg first.ne_up, ih others,
      List.append_assoc, List.singleton_append]

/-- The place that a path leads to from the top. -/
def destination (path : String) : List String := walk [] (Text.pieces '/' path)

theorem destination_below (root path : String) :
    destination (below root path) = walk (destination root) (Text.pieces '/' path) := by
  by_cases empty : root = ""
  · rw [empty, below_empty]
    rfl
  · rw [below_of_ne empty, destination, Text.pieces_slash, walk_append]
    rfl

end VirtualPath

end CompilerGateway
