import Mathlib.Data.List.Infix
import CompilerGateway.Package.LocalTree
import CompilerGateway.Proofs.Paths

/-!
# The files of a local package

A package that is read from a directory has some of the files at or below that directory.
`CompilerGateway.Tree.Takes` says which, going down one name after the other: no name on the way
may be hidden, links are not followed, and the file has to have an extension that was asked for.
In the package the file is held under the names that lead to it, with slashes in between, and
with its bytes read as text.

That key is what is left of the path of the file without that of the directory, however the latter
is spelt (`CompilerGateway.Tree.relativeKey_pathTo`): a name that a directory lists adds just one
component to a path (`CompilerGateway.Tree.components_entryPath`).

That the files that are taken are just what collecting comes to, with nothing lost and nothing
overwritten (`CompilerGateway.Tree.gathers_collectEntries`), rests on what a file system guarantees
of its names: `CompilerGateway.Tree.Listed` are the trees in which every directory lists names that
can stand in a path, and none of them twice. Wherever a path leads in a file system of such
directories, it leads to such a tree (`CompilerGateway.FileSystem.listed_resolve`).
-/

namespace CompilerGateway

namespace Tree

/-! ### Trees that a file system can hold -/

/-- **A name that a directory can list.** -/
structure IsEntryName (name : String) : Prop where
  /-- There is a name. -/
  ne_empty : name ≠ ""
  /-- It is not that of the directory itself. -/
  ne_here : name ≠ "."
  /-- It is not that of the directory above. -/
  ne_up : name ≠ ".."
  /-- It is one part of a path. -/
  slash : '/' ∉ name.toList

instance (name : String) : Decidable (IsEntryName name) :=
  decidable_of_iff (name ≠ "" ∧ name ≠ "." ∧ name ≠ ".." ∧ '/' ∉ name.toList)
    ⟨fun ⟨ne_empty, ne_here, ne_up, slash⟩ => ⟨ne_empty, ne_here, ne_up, slash⟩,
      fun named => ⟨named.ne_empty, named.ne_here, named.ne_up, named.slash⟩⟩

/-- **A tree that a file system can hold**: its directories list names, each once. -/
inductive Listed : Tree → Prop where
  | file (content : ByteArray) : Listed (.file content)
  | link (target : String) : Listed (.link target)
  | directory {entries : List (String × Tree)} : (∀ entry ∈ entries, IsEntryName entry.1) →
    (entries.map Prod.fst).Nodup → (∀ entry ∈ entries, Listed entry.2) →
    Listed (.directory entries)

namespace Listed

variable {name : String} {entry : Tree} {entries rest : List (String × Tree)}

theorem nil : Listed (.directory []) := .directory (by simp) List.nodup_nil (by simp)

/-- One more entry, of a name that there is not yet. -/
theorem cons (named : IsEntryName name) (fresh : name ∉ rest.map Prod.fst)
    (entry_listed : entry.Listed) (listed : Listed (.directory rest)) :
    Listed (.directory ((name, entry) :: rest)) := by
  cases listed with
  | directory others distinct held =>
    exact .directory (List.forall_mem_cons.mpr ⟨named, others⟩)
      (List.nodup_cons.mpr ⟨fresh, distinct⟩) (List.forall_mem_cons.mpr ⟨entry_listed, held⟩)

theorem isEntryName (listed : Listed (.directory entries)) (mem : (name, entry) ∈ entries) :
    IsEntryName name := by
  cases listed with
  | directory named _ _ => exact named (name, entry) mem

theorem of_mem (listed : Listed (.directory entries)) (mem : (name, entry) ∈ entries) :
    entry.Listed := by
  cases listed with
  | directory _ _ held => exact held (name, entry) mem

theorem tail (listed : Listed (.directory ((name, entry) :: rest))) :
    Listed (.directory rest) := by
  cases listed with
  | directory named distinct held =>
    exact .directory (fun other mem => named other (List.mem_cons_of_mem _ mem))
      (List.nodup_cons.mp distinct).2 fun other mem => held other (List.mem_cons_of_mem _ mem)

/-- The first name is not listed again. -/
theorem ne_of_mem_tail (listed : Listed (.directory ((name, entry) :: rest)))
    {other : String × Tree} (mem : other ∈ rest) : other.1 ≠ name := by
  cases listed with
  | directory _ distinct _ =>
    intro same
    exact (List.nodup_cons.mp distinct).1 (List.mem_map.mpr ⟨other, mem, same⟩)

end Listed

theorem listed_topmost {present : List (String × Tree)} {above : List (List (String × Tree))}
    (listed : Listed (.directory present)) (higher : ∀ held ∈ above, Listed (.directory held)) :
    Listed (.directory (topmost present above)) := by
  rw [topmost]
  cases last : above.getLast? with
  | none => exact listed
  | some held => exact higher held (List.mem_of_getLast? last)

/-- **Wherever a path leads**, there is a tree that a file system can hold, if there is one where
it starts. -/
theorem listed_follow {confined : Bool} {hops : Nat} {names : List String}
    {present : List (String × Tree)} {above : List (List (String × Tree))} {parts : List String}
    {place : Place} (listed : Listed (.directory present))
    (higher : ∀ held ∈ above, Listed (.directory held))
    (found : follow confined hops names present above parts = .ok place) : place.node.Listed := by
  fun_induction follow confined hops names present above parts
  -- the path ends here
  case case1 =>
    obtain rfl := Except.ok.inj found
    exact listed
  -- it goes on from the same directory, which may be the root that it does not lead out of
  case case2 ih | case4 ih | case15 ih => exact ih listed higher found
  -- it starts again at the root
  case case14 ih => exact ih (listed_topmost listed higher) (by simp) found
  -- it goes up
  case case5 ih =>
    obtain ⟨holder, others⟩ := List.forall_mem_cons.mp higher
    exact ih holder others found
  -- it goes down
  case case8 entries held ih =>
    exact ih (listed.of_mem (Table.mem_of_findEntry held))
      (List.forall_mem_cons.mpr ⟨listed, higher⟩) found
  case case9 content held =>
    obtain rfl := Except.ok.inj found
    exact .file content
  -- everywhere else it leads nowhere
  all_goals cases found

end Tree

namespace FileSystem

/-- **A file system as it can be**: all its directories list names, each once. -/
def Listed (fs : FileSystem) : Prop := Tree.Listed (.directory fs.top)

variable {fs : FileSystem} {path : HostPath}

/-- A path leads nowhere unless it is a text. -/
theorem exists_text_of_locate {place : Tree.Place} (found : fs.locate path = .ok place) :
    ∃ text : String, path = text ∧
      fs.locateParts (Tree.isRooted text) (Text.pieces '/' text) = .ok place := by
  unfold locate at found
  split at found
  · cases found
  · cases path with
    | bytes raw stray => cases found
    | text path =>
      dsimp only at found
      split at found
      · cases found
      · exact ⟨path, rfl, found⟩

theorem exists_locate_of_resolve {node : Tree} (found : fs.resolve path = .ok node) :
    ∃ place, fs.locate path = .ok place ∧ place.node = node := by
  rw [resolve] at found
  split at found
  · cases found
  · split at found
    · cases found
    · cases located : fs.locate path with
      | error fault =>
        rw [located] at found
        cases found
      | ok place =>
        rw [located] at found
        exact ⟨place, rfl, Except.ok.inj found⟩

theorem exists_text_of_resolve {node : Tree} (found : fs.resolve path = .ok node) :
    ∃ text : String, path = text := by
  obtain ⟨place, located, -⟩ := exists_locate_of_resolve found
  obtain ⟨text, path_eq, -⟩ := exists_text_of_locate located
  exact ⟨text, path_eq⟩

/-- What a text leads to that can be a path. -/
theorem resolve_text {text : String} (noNul : Tree.hasNul text = false)
    (short : text.utf8ByteSize ≤ Tree.longestPath) (nonempty : text ≠ "") : fs.resolve text =
      (fs.locateParts (Tree.isRooted text) (Text.pieces '/' text)).map Tree.Place.node := by
  simp [resolve, locate, HostPath.hasNul, HostPath.size, noNul, Nat.not_lt.mpr short, nonempty]

theorem listed_resolve {node : Tree} (listed : fs.Listed) (found : fs.resolve path = .ok node) :
    node.Listed := by
  obtain ⟨place, located, rfl⟩ := exists_locate_of_resolve found
  obtain ⟨text, -, followed⟩ := exists_text_of_locate located
  exact Tree.listed_follow listed (by simp) followed

end FileSystem

namespace Tree

/-! ### Paths of entries -/

/-- **The path by which an entry further down is opened.** -/
def pathTo (path : String) (names : List String) : String := names.foldl entryPath path

section Components

variable {path name : String} {names : List String}

/-- A name becomes the last part of a path. If the path ends with a slash, it takes the place of
the empty part there. -/
theorem exists_pieces_entryPath (path : String) (slash : '/' ∉ name.toList) :
    ∃ parts, (Text.pieces '/' path = parts ∨ Text.pieces '/' path = parts ++ [""]) ∧
      Text.pieces '/' (entryPath path name) = parts ++ [name] := by
  have last := Text.pieces_of_not_mem slash
  rw [entryPath]
  split
  · rename_i none_eq
    obtain rfl := String.toList_eq_nil_iff.mp (List.getLast?_eq_none_iff.mp none_eq)
    exact ⟨[], .inr rfl, by rw [String.empty_append, last]; rfl⟩
  · rename_i slash_eq
    obtain ⟨front, front_eq⟩ := List.getLast?_eq_some_iff.mp slash_eq
    obtain rfl : path = String.ofList front ++ "/" := by
      rw [← String.toList_inj, front_eq]
      simp
    refine ⟨Text.pieces '/' (String.ofList front), .inr ?_, ?_⟩
    · have closed := Text.pieces_slash (String.ofList front) ""
      rw [String.append_empty] at closed
      exact closed
    · rw [Text.pieces_slash, last]
  · exact ⟨Text.pieces '/' path, .inl rfl, by rw [Text.pieces_slash, last]⟩

theorem isRooted_entryPath (path : String) (slash : '/' ∉ name.toList) :
    isRooted (entryPath path name) = isRooted path := by
  have first_of (rest : String) (nonempty : path.toList ≠ []) :
      isRooted (path ++ rest) = isRooted path := by
    obtain ⟨first, others, path_eq⟩ := List.exists_cons_of_ne_nil nonempty
    simp [isRooted, path_eq]
  rw [entryPath]
  split
  · rename_i none_eq
    obtain rfl := String.toList_eq_nil_iff.mp (List.getLast?_eq_none_iff.mp none_eq)
    rw [String.empty_append, isRooted, isRooted]
    refine (beq_eq_false_iff_ne.mpr fun first => slash ?_).trans rfl
    exact List.mem_of_mem_head? first
  · rename_i slash_eq
    exact first_of _ fun nil => by simp [nil] at slash_eq
  · rename_i other_eq
    rw [String.append_assoc]
    exact first_of _ fun nil => by simp [nil] at other_eq

/-- **A name adds one component to a path**, whatever the path is. -/
theorem components_entryPath (path : String) (named : IsEntryName name) :
    components (entryPath path name) = components path ++ [name] := by
  obtain ⟨parts, before, after⟩ := exists_pieces_entryPath path named.slash
  have isNamed_name : isNamed name = true := by simp [isNamed, named.ne_empty, named.ne_here]
  have namedParts_eq : namedParts (entryPath path name) = namedParts path ++ [name] := by
    have last : [name].filter isNamed = [name] := by simp [isNamed_name]
    rw [namedParts, namedParts, after, List.filter_append, last]
    rcases before with before | before
    · rw [before]
    · rw [before, List.filter_append]
      simp [isNamed]
  have start_iff : (Text.pieces '/' (entryPath path name)).head? = some "." ↔
      (Text.pieces '/' path).head? = some "." := by
    rw [after]
    cases parts with
    | nil =>
      rcases before with before | before
      · exact absurd before (Text.pieces_ne_nil _ _)
      · simp [before, named.ne_here]
    | cons first others => rcases before with before | before <;> simp [before]
  rw [components, components, isRooted_entryPath path named.slash, namedParts_eq]
  simp only [start_iff, List.append_assoc]

theorem components_pathTo (path : String) (named : ∀ part ∈ names, IsEntryName part) :
    components (pathTo path names) = components path ++ names := by
  induction names generalizing path with
  | nil => rw [pathTo, List.foldl_nil, List.append_nil]
  | cons name rest ih =>
    obtain ⟨first, others⟩ := List.forall_mem_cons.mp named
    have rest_eq := ih (entryPath path name) others
    rw [components_entryPath path first, List.append_assoc] at rest_eq
    exact rest_eq

/-- **The key of a file** is made of the names that lead to it, however the path of the directory
is spelt. -/
theorem relativeKey_pathTo (root : String) (named : ∀ part ∈ names, IsEntryName part) :
    relativeKey root (pathTo root names) = "/".intercalate names := by
  have rest_eq : (components root).isPrefixOf? (components (pathTo root names)) = some names :=
    List.isPrefixOf?_eq_some_iff_append_eq.mpr (components_pathTo root named).symm
  rw [relativeKey, rest_eq, Option.getD_some]

end Components

/-! ### Files that are taken -/

/-- **The files that a package takes** from a directory with the given entries, each with the
names that lead to it and its bytes. -/
inductive Takes (extensions : List String) :
    List (String × Tree) → List String → ByteArray → Prop where
  /-- A file in the directory itself. -/
  | file {entries : List (String × Tree)} {name : String} {content : ByteArray} :
    (name, .file content) ∈ entries → isHidden name = false → isWanted extensions name = true →
    Takes extensions entries [name] content
  /-- A file further down. -/
  | deeper {entries nested : List (String × Tree)} {name : String} {names : List String}
    {content : ByteArray} :
    (name, .directory nested) ∈ entries → isHidden name = false →
    Takes extensions nested names content → Takes extensions entries (name :: names) content

section Takes

variable {extensions names : List String} {content : ByteArray} {name : String} {entry : Tree}
  {entries rest : List (String × Tree)}

theorem Takes.ne_nil (takes : Takes extensions entries names content) : names ≠ [] := by
  cases takes <;> exact List.cons_ne_nil _ _

/-- **All names on the way are names of entries.** -/
theorem Takes.isEntryName (takes : Takes extensions entries names content)
    (listed : Listed (.directory entries)) : ∀ part ∈ names, IsEntryName part := by
  induction takes with
  | file mem _ _ =>
    intro part mem'
    rw [List.mem_singleton.mp mem']
    exact listed.isEntryName mem
  | deeper mem _ _ ih =>
    have first := listed.isEntryName mem
    exact List.forall_mem_cons.mpr ⟨first, ih (listed.of_mem mem)⟩

theorem Takes.slash (takes : Takes extensions entries names content)
    (listed : Listed (.directory entries)) : ∀ part ∈ names, '/' ∉ part.toList :=
  fun part mem => (takes.isEntryName listed part mem).slash

/-- What is taken from a directory is taken from one of its entries that is not hidden. -/
theorem Takes.exists_cons (takes : Takes extensions entries names content) :
    ∃ name entry others, (name, entry) ∈ entries ∧ isHidden name = false ∧
      names = name :: others := by
  cases takes with
  | file mem visible _ => exact ⟨_, _, _, mem, visible, rfl⟩
  | deeper mem visible _ => exact ⟨_, _, _, mem, visible, rfl⟩

theorem Takes.mono {others : List (String × Tree)}
    (takes : Takes extensions entries names content) (part : entries ⊆ others) :
    Takes extensions others names content := by
  cases takes with
  | file mem visible wanted => exact .file (part mem) visible wanted
  | deeper mem visible takes => exact .deeper (part mem) visible takes

theorem takes_cons : Takes extensions ((name, entry) :: rest) names content ↔
    Takes extensions [(name, entry)] names content ∨ Takes extensions rest names content := by
  constructor
  · intro takes
    cases takes with
    | file mem visible wanted =>
      rcases List.mem_cons.mp mem with same | mem
      · exact .inl (.file (List.mem_singleton.mpr same) visible wanted)
      · exact .inr (.file mem visible wanted)
    | deeper mem visible takes =>
      rcases List.mem_cons.mp mem with same | mem
      · exact .inl (.deeper (List.mem_singleton.mpr same) visible takes)
      · exact .inr (.deeper mem visible takes)
  · rintro (takes | takes)
    · exact takes.mono (by simp)
    · exact takes.mono (List.subset_cons_self _ _)

theorem not_takes_nil : ¬ Takes extensions [] names content := by
  intro takes
  obtain ⟨_, _, _, mem, -⟩ := takes.exists_cons
  cases mem

theorem not_takes_of_hidden (hidden : isHidden name = true) :
    ¬ Takes extensions [(name, entry)] names content := by
  intro takes
  obtain ⟨_, _, _, mem, visible, -⟩ := takes.exists_cons
  obtain ⟨rfl, -⟩ := Prod.mk.inj (List.mem_singleton.mp mem)
  rw [hidden] at visible
  cases visible

theorem not_takes_link {target : String} :
    ¬ Takes extensions [(name, .link target)] names content := by
  intro takes
  cases takes with
  | file mem _ _ => cases List.mem_singleton.mp mem
  | deeper mem _ _ => cases List.mem_singleton.mp mem

theorem takes_file {held : ByteArray} :
    Takes extensions [(name, .file held)] names content ↔
      isHidden name = false ∧ isWanted extensions name = true ∧ names = [name] ∧
        content = held := by
  constructor
  · intro takes
    cases takes with
    | file mem visible wanted =>
      cases List.mem_singleton.mp mem
      exact ⟨visible, wanted, rfl, rfl⟩
    | deeper mem _ _ => cases List.mem_singleton.mp mem
  · rintro ⟨visible, wanted, rfl, rfl⟩
    exact .file List.mem_cons_self visible wanted

theorem takes_directory {nested : List (String × Tree)} :
    Takes extensions [(name, .directory nested)] names content ↔
      isHidden name = false ∧ ∃ others, names = name :: others ∧
        Takes extensions nested others content := by
  constructor
  · intro takes
    cases takes with
    | file mem _ _ => cases List.mem_singleton.mp mem
    | deeper mem visible takes =>
      cases List.mem_singleton.mp mem
      exact ⟨visible, _, rfl, takes⟩
  · rintro ⟨visible, others, rfl, takes⟩
    exact .deeper List.mem_cons_self visible takes

end Takes

/-! ### Collecting them -/

/-- **What collecting comes to**, below the directory that the names `within` lead to: every file
that is taken is text, and is held under the names that lead to it; under any other key there is
what there was before. -/
structure Gathers (extensions : List String) (within : List String)
    (entries : List (String × Tree)) (found gathered : Table String) : Prop where
  /-- Nothing that is taken is missing. -/
  taken {names : List String} {content : ByteArray} : Takes extensions entries names content →
    ∃ text, String.fromUTF8? content = some text ∧
      gathered.find? ("/".intercalate (within ++ names)) = some text
  /-- Nothing else is touched. -/
  kept {key : String} : (∀ names content, Takes extensions entries names content →
    key ≠ "/".intercalate (within ++ names)) → gathered.find? key = found.find? key

section Gathers

variable {extensions within : List String} {name : String} {entry : Tree}
  {entries rest : List (String × Tree)} {found middle gathered : Table String}

/-- Where nothing is taken, nothing is gathered. -/
theorem Gathers.refl (none : ∀ names content, ¬ Takes extensions entries names content) :
    Gathers extensions within entries found found :=
  ⟨fun takes => absurd takes (none _ _), fun _ => rfl⟩

/-- **A file** is gathered by its name. -/
theorem gathers_file {content : ByteArray} {text : String} (visible : isHidden name = false)
    (wanted : isWanted extensions name = true) (isText : String.fromUTF8? content = some text) :
    Gathers extensions within [(name, .file content)] found
      (found.insert ("/".intercalate (within ++ [name])) text) := by
  constructor
  · intro names other takes
    obtain ⟨-, -, rfl, rfl⟩ := takes_file.mp takes
    exact ⟨text, isText, by rw [Table.find?_insert, if_pos rfl]⟩
  · intro key apart
    have different := apart [name] content (takes_file.mpr ⟨visible, wanted, rfl, rfl⟩)
    rw [Table.find?_insert, if_neg different.symm]

/-- **A directory** is gathered below its name. -/
theorem Gathers.directory (visible : isHidden name = false)
    (gathers : Gathers extensions (within ++ [name]) entries found gathered) :
    Gathers extensions within [(name, .directory entries)] found gathered := by
  have names_eq (others : List String) : within ++ name :: others = within ++ [name] ++ others := by
    simp
  constructor
  · intro names content takes
    obtain ⟨-, others, rfl, takes'⟩ := takes_directory.mp takes
    rw [names_eq]
    exact gathers.taken takes'
  · intro key apart
    refine gathers.kept fun others content takes => ?_
    rw [← names_eq]
    exact apart (name :: others) content (takes_directory.mpr ⟨visible, others, rfl, takes⟩)

/-- **One entry after the other**: what is gathered of the first is not lost, as it has a name of
its own. -/
theorem Gathers.cons (named : ∀ part ∈ within, IsEntryName part)
    (listed : Listed (.directory ((name, entry) :: rest)))
    (first : Gathers extensions within [(name, entry)] found middle)
    (others : Gathers extensions within rest middle gathered) :
    Gathers extensions within ((name, entry) :: rest) found gathered := by
  constructor
  · intro names content takes
    rcases takes_cons.mp takes with takes' | takes'
    · obtain ⟨text, isText, held⟩ := first.taken takes'
      refine ⟨text, isText, (others.kept fun names' content' later same => ?_).trans held⟩
      have slash {parts : List String} (plain : ∀ part ∈ parts, '/' ∉ part.toList) :
          ∀ part ∈ within ++ parts, '/' ∉ part.toList :=
        List.forall_mem_append.mpr ⟨fun part mem => (named part mem).slash, plain⟩
      have whole_eq : within ++ names = within ++ names' := Text.intercalate_inj
        (List.append_ne_nil_of_right_ne_nil _ takes.ne_nil) (slash (takes.slash listed))
        (List.append_ne_nil_of_right_ne_nil _ later.ne_nil) (slash (later.slash listed.tail)) same
      have names_eq : names = names' := List.append_cancel_left whole_eq
      obtain ⟨_, _, _, mem, -, rfl⟩ := takes'.exists_cons
      obtain ⟨rfl, -⟩ := Prod.mk.inj (List.mem_singleton.mp mem)
      obtain ⟨_, _, _, mem', -, cons_eq⟩ := later.exists_cons
      obtain ⟨rfl, -⟩ := List.cons.inj (names_eq.trans cons_eq)
      exact listed.ne_of_mem_tail mem' rfl
    · exact others.taken takes'
  · intro key apart
    have kept := others.kept fun names content takes =>
      apart names content (takes_cons.mpr (.inr takes))
    rw [kept]
    exact first.kept fun names content takes =>
      apart names content (takes_cons.mpr (.inl takes))

end Gathers

theorem pathTo_concat (root : String) (within : List String) (name : String) :
    pathTo root (within ++ [name]) = entryPath (pathTo root within) name := by
  rw [pathTo, List.foldl_append]
  rfl

mutual

/-- **Collecting gathers the files that are taken**, of one entry. -/
theorem gathers_collect {extensions within : List String} {root name : String}
    {found gathered : Table String} (visible : isHidden name = false)
    (named : ∀ part ∈ within ++ [name], IsEntryName part) :
    (entry : Tree) → entry.Listed →
    collect extensions root (pathTo root (within ++ [name])) name found entry = .ok gathered →
    Gathers extensions within [(name, entry)] found gathered
  | .link target, _, collected => by
    obtain rfl := Except.ok.inj collected
    exact .refl fun names content => not_takes_link
  | .file content, _, collected => by
    rw [collect] at collected
    split at collected
    · rename_i unwanted
      obtain rfl := Except.ok.inj collected
      refine .refl fun names content takes => ?_
      obtain ⟨-, wanted, -⟩ := takes_file.mp takes
      rw [wanted] at unwanted
      cases unwanted
    · rename_i wanted
      split at collected
      · cases collected
      · split at collected
        · rename_i text isText
          rw [relativeKey_pathTo root named] at collected
          obtain rfl := Except.ok.inj collected
          exact gathers_file visible (by simpa using wanted) isText
        · cases collected
  | .directory entries, listed, collected => by
    rw [collect] at collected
    split at collected
    · cases collected
    · exact (gathers_collectEntries named entries listed collected).directory visible

/-- **Collecting gathers the files that are taken**, of all entries of a directory. -/
theorem gathers_collectEntries {extensions within : List String} {root : String}
    {found gathered : Table String} (named : ∀ part ∈ within, IsEntryName part) :
    (entries : List (String × Tree)) → Listed (.directory entries) →
    collectEntries extensions root (pathTo root within) found entries = .ok gathered →
    Gathers extensions within entries found gathered
  | [], _, collected => by
    obtain rfl := Except.ok.inj collected
    exact .refl fun names content => not_takes_nil
  | (name, entry) :: rest, listed, collected => by
    rw [collectEntries] at collected
    split at collected
    · rename_i hidden
      have first : Gathers extensions within [(name, entry)] found found :=
        .refl fun names content => not_takes_of_hidden hidden
      exact first.cons named listed (gathers_collectEntries named rest listed.tail collected)
    · rename_i visible
      split at collected
      · cases collected
      · rename_i middle collected'
        rw [← pathTo_concat] at collected'
        have named' : ∀ part ∈ within ++ [name], IsEntryName part :=
          List.forall_mem_append.mpr ⟨named,
            List.forall_mem_singleton.mpr (listed.isEntryName List.mem_cons_self)⟩
        have first := gathers_collect (by simpa using visible) named' entry
          (listed.of_mem List.mem_cons_self) collected'
        exact first.cons named listed (gathers_collectEntries named rest listed.tail collected)

end

end Tree

/-! ### Packages that are made of them -/

namespace FileSystem

open CompilerGateway.Tree (Takes Gathers IsEntryName collectEntries)

/-- **The files that a package takes** from where a path leads. -/
def TakesAt (fs : FileSystem) (extensions : List String) (path : HostPath) (names : List String)
    (content : ByteArray) : Prop :=
  ∃ entries, fs.resolve path = .ok (.directory entries) ∧
    Takes extensions entries names content

section Packages

variable {fs : FileSystem} {extensions names : List String} {path : HostPath} {key : String}
  {content : ByteArray} {package : FetchedPackage}

/-- **A package that can be made** is one of a directory, with what is collected there. -/
theorem package_eq_ok_iff : fs.package extensions path = .ok package ↔
    ∃ entries files, ∃ root : String, path = root ∧
      fs.resolve root = .ok (.directory entries) ∧
      collectEntries extensions root root .empty entries = .ok files ∧
      package = ⟨Tree.lastName root, localVersion, files⟩ := by
  constructor
  · intro made
    unfold FileSystem.package at made
    split at made
    · cases made
    · rename_i root entries found
      cases collected : collectEntries extensions root root .empty entries with
      | error error =>
        rw [collected] at made
        cases made
      | ok files =>
        rw [collected] at made
        exact ⟨entries, files, root, rfl, found, collected, (Except.ok.inj made).symm⟩
    · cases made
  · rintro ⟨entries, files, root, rfl, found, collected, rfl⟩
    simp only [FileSystem.package, found, collected, Except.map]

/-- Its files are those that are taken from the directory. -/
theorem exists_of_package (listed : fs.Listed)
    (made : fs.package extensions path = .ok package) :
    ∃ entries, fs.resolve path = .ok (.directory entries) ∧
      Tree.Listed (.directory entries) ∧ package.version = localVersion ∧
      Gathers extensions [] entries .empty package.files := by
  obtain ⟨entries, files, root, rfl, found, collected, rfl⟩ := package_eq_ok_iff.mp made
  have held := listed_resolve listed found
  exact ⟨entries, found, held, rfl,
    Tree.gathers_collectEntries (by simp) entries held collected⟩

/-- **Every file that is taken** is held as text, under the names that lead to it. -/
theorem TakesAt.exists_text (takes : fs.TakesAt extensions path names content)
    (listed : fs.Listed) (made : fs.package extensions path = .ok package) :
    ∃ text, String.fromUTF8? content = some text ∧
      package.files.find? ("/".intercalate names) = some text := by
  obtain ⟨entries, found, takes⟩ := takes
  obtain ⟨_, found', -, -, gathers⟩ := exists_of_package listed made
  cases found.symm.trans found'
  exact gathers.taken takes

/-- **What a package holds**: the files that are taken from its directory, as text, under the
names that lead to them. -/
theorem find?_files_iff (listed : fs.Listed)
    (made : fs.package extensions path = .ok package) {text : String} :
    package.files.find? key = some text ↔
      ∃ names content, fs.TakesAt extensions path names content ∧
        key = "/".intercalate names ∧ String.fromUTF8? content = some text := by
  obtain ⟨entries, found, -, -, gathers⟩ := exists_of_package listed made
  constructor
  · intro held
    by_cases taken : ∃ names content, Takes extensions entries names content ∧
      key = "/".intercalate names
    · obtain ⟨names, content, takes, rfl⟩ := taken
      obtain ⟨other, isText, held'⟩ := gathers.taken takes
      rw [List.nil_append, held] at held'
      obtain rfl := Option.some.inj held'
      exact ⟨names, content, ⟨entries, found, takes⟩, rfl, isText⟩
    · -- a package starts with nothing in it
      have kept : package.files.find? key = (Table.empty : Table String).find? key :=
        gathers.kept fun names content takes same => taken ⟨names, content, takes, same⟩
      rw [kept] at held
      cases held
  · rintro ⟨names, content, takes, rfl, isText⟩
    obtain ⟨other, isText', held⟩ := takes.exists_text listed made
    obtain rfl := Option.some.inj (isText.symm.trans isText')
    exact held

theorem mem_names_files_iff (listed : fs.Listed)
    (made : fs.package extensions path = .ok package) :
    key ∈ package.files.names ↔
      ∃ names content, fs.TakesAt extensions path names content ∧
        key = "/".intercalate names := by
  rw [Table.mem_names_iff]
  constructor
  · rintro ⟨text, held⟩
    obtain ⟨names, content, takes, key_eq, -⟩ := (find?_files_iff listed made).mp held
    exact ⟨names, content, takes, key_eq⟩
  · rintro ⟨names, content, takes, rfl⟩
    obtain ⟨text, -, held⟩ := takes.exists_text listed made
    exact ⟨text, held⟩

/-- **The parts of a key** are the names that lead to the file. -/
theorem TakesAt.pieces_eq (takes : fs.TakesAt extensions path names content)
    (listed : fs.Listed) : Text.pieces '/' ("/".intercalate names) = names := by
  obtain ⟨entries, found, takes⟩ := takes
  exact Text.pieces_intercalate takes.ne_nil (takes.slash (listed_resolve listed found))

/-- **Only a backslash** can be wrong with such a key. -/
theorem TakesAt.keyFault?_eq_none_iff (takes : fs.TakesAt extensions path names content)
    (listed : fs.Listed) :
    keyFault? ("/".intercalate names) = none ↔ ∀ part ∈ names, '\\' ∉ part.toList := by
  rw [CompilerGateway.keyFault?_eq_none_iff, takes.pieces_eq listed]
  obtain ⟨entries, found, takes⟩ := takes
  have named := takes.isEntryName (listed_resolve listed found)
  constructor
  · intro down part mem
    exact (down part mem).backslash
  · intro plain part mem
    have name := named part mem
    exact ⟨name.ne_empty, name.ne_here, name.ne_up, name.slash, plain part mem⟩

theorem nameFault?_localVersion : nameFault? localVersion = none := by
  decide +kernel

end Packages

end FileSystem

end CompilerGateway
