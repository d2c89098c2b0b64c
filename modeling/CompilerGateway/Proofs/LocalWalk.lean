import Mathlib.Data.List.TakeWhile
import CompilerGateway.Proofs.LocalFiles

/-!
# Walking through a local package

To read a package is to walk through its directory, opening the directories on the way and the
files that are wanted. `CompilerGateway.Tree.ComesBy` says what a walk comes by: entries of some
kind, with no hidden name on the way. Links are not followed, so it does not matter where one
leads; they stand for everything that is neither a directory nor a regular file.

There are two things that can end a walk early, and each of them is about an entry that it comes
by (`CompilerGateway.Tree.Breaks`): the path by which the entry is opened is too long, or it is a
file that is taken and is not text. So where everything can be opened
(`CompilerGateway.Tree.Readable`), the package can be made just if all files that are taken are
text, and which of several others is reported is the only thing that the walk itself decides
(`CompilerGateway.FileSystem.exists_package`, `CompilerGateway.FileSystem.exists_encoding`).
-/

namespace CompilerGateway

namespace Tree

/-! ### Names -/

section Names

variable {extensions : List String} {name extension : String}

theorem map_snd_splitName? (path : String) :
    (splitName? path).map Prod.snd =
      (namedParts path).getLast?.filter fun part => part != ".." := by
  have last_eq : (namedParts path).getLast? =
      ((Text.pieces '/' path).reverse.dropWhile fun part => !isNamed part).head? := by
    rw [namedParts, List.getLast?_eq_head?_reverse, ← List.filter_reverse, List.head?_filter,
      List.find?_eq_head?_dropWhile_not]
  rw [last_eq, splitName?]
  split
  · rename_i none_eq
    rw [none_eq]
    rfl
  · rename_i up_eq
    rw [up_eq]
    rfl
  · rename_i last above notUp last_eq
    rw [last_eq, List.head?_cons, Option.filter_some, if_pos (bne_iff_ne.mpr notUp)]
    split <;> rfl

/-- **The name that a path ends with** is its last part, unless that goes upwards. -/
theorem lastName_eq (path : String) :
    lastName path = ((namedParts path).getLast?.filter fun part => part != "..").getD "" := by
  rw [← map_snd_splitName?, lastName]
  cases splitName? path <;> rfl

theorem extension?_eq_some_iff (visible : isHidden name = false) :
    extension? name = some extension ↔
      ∃ front, name = front ++ "." ++ extension ∧ '.' ∉ extension.toList := by
  constructor
  · intro found
    unfold extension? at found
    split at found
    · cases found
    · cases found
    · rename_i before after _ cut
      obtain rfl := Option.some.inj found
      obtain ⟨name_eq, last⟩ := Text.splitAtLast_eq_some_iff.mp cut
      refine ⟨String.ofList before, String.toList_injective ?_, by simpa using last⟩
      simpa using name_eq
  · rintro ⟨front, rfl, last⟩
    have name_eq : (front ++ "." ++ extension).toList =
        front.toList ++ '.' :: extension.toList := by
      simp
    rw [extension?, name_eq, Text.splitAtLast_append last]
    cases front_eq : front.toList with
    | nil => simp [isHidden, front_eq] at visible
    | cons first rest => simp

/-- **A name is wanted** that ends in a dot and an extension that was asked for. -/
theorem isWanted_iff (visible : isHidden name = false) :
    isWanted extensions name = true ↔ ∃ front, ∃ extension ∈ extensions,
      name = front ++ "." ++ extension ∧ '.' ∉ extension.toList := by
  have wanted_iff : isWanted extensions name = true ↔
      ∃ extension, extension? name = some extension ∧ extension ∈ extensions := by
    rw [isWanted]
    cases extension? name <;> simp
  rw [wanted_iff]
  simp only [extension?_eq_some_iff visible]
  constructor
  · rintro ⟨extension, ⟨front, name_eq, last⟩, asked⟩
    exact ⟨front, extension, asked, name_eq, last⟩
  · rintro ⟨front, extension, asked, name_eq, last⟩
    exact ⟨extension, ⟨front, name_eq, last⟩, asked⟩

end Names

/-! ### What a walk comes by -/

/-- **An entry that a walk comes by**, of a kind that goes by its name and by what it is. No name
that leads to it is hidden. -/
inductive ComesBy (kind : String → Tree → Prop) : List (String × Tree) → List String → Prop where
  /-- An entry of the directory itself. -/
  | here {entries : List (String × Tree)} {name : String} {node : Tree} :
    (name, node) ∈ entries → isHidden name = false → kind name node → ComesBy kind entries [name]
  /-- An entry further down. -/
  | deeper {entries nested : List (String × Tree)} {name : String} {names : List String} :
    (name, .directory nested) ∈ entries → isHidden name = false → ComesBy kind nested names →
    ComesBy kind entries (name :: names)

/-- **What is opened**: a directory, or a file that is wanted. -/
def Opened (extensions : List String) (name : String) : Tree → Prop
  | .directory _ => True
  | .file _ => isWanted extensions name = true
  | .link _ => False

/-- **A source file**: one with an extension that was asked for, which is what stands after the
last dot of its name. -/
def IsSource (extensions : List String) (content : ByteArray) (name : String) (node : Tree) :
    Prop :=
  node = .file content ∧ ∃ front, ∃ extension ∈ extensions,
    name = front ++ "." ++ extension ∧ '.' ∉ extension.toList

/-- **Everything can be opened** that a walk through the directory at `path` opens. -/
def Readable (extensions : List String) (path : String) (entries : List (String × Tree)) : Prop :=
  ∀ names, ComesBy (Opened extensions) entries names →
    (pathTo path names).utf8ByteSize ≤ longestPath

section ComesBy

variable {extensions names : List String} {content : ByteArray} {name : String} {node : Tree}
  {kind : String → Tree → Prop} {entries others : List (String × Tree)}

theorem ComesBy.mono (comesBy : ComesBy kind entries names) (part : entries ⊆ others) :
    ComesBy kind others names := by
  cases comesBy with
  | here mem visible isKind => exact .here (part mem) visible isKind
  | deeper mem visible below => exact .deeper (part mem) visible below

theorem not_comesBy_nil : ¬ ComesBy kind [] names := by
  intro comesBy
  cases comesBy with
  | here mem _ _ => cases mem
  | deeper mem _ _ => cases mem

/-- **What a walk comes by at the first entry**, and after it. -/
theorem comesBy_cons_iff {rest : List (String × Tree)} :
    ComesBy kind ((name, node) :: rest) names ↔
      (isHidden name = false ∧ (names = [name] ∧ kind name node ∨
        ∃ nested others, node = .directory nested ∧ names = name :: others ∧
          ComesBy kind nested others)) ∨
      ComesBy kind rest names := by
  constructor
  · intro comesBy
    cases comesBy with
    | here mem visible isKind =>
      rcases List.mem_cons.mp mem with same | mem
      · cases same
        exact .inl ⟨visible, .inl ⟨rfl, isKind⟩⟩
      · exact .inr (.here mem visible isKind)
    | deeper mem visible below =>
      rcases List.mem_cons.mp mem with same | mem
      · cases same
        exact .inl ⟨visible, .inr ⟨_, _, rfl, rfl, below⟩⟩
      · exact .inr (.deeper mem visible below)
  · rintro (⟨visible, ⟨rfl, isKind⟩ | ⟨nested, others, rfl, rfl, below⟩⟩ | comesBy)
    · exact .here List.mem_cons_self visible isKind
    · exact .deeper List.mem_cons_self visible below
    · exact comesBy.mono (List.subset_cons_self _ _)

/-- **The files that are taken** are the source files that a walk comes by. -/
theorem takes_iff_comesBy :
    Takes extensions entries names content ↔
      ComesBy (IsSource extensions content) entries names := by
  constructor
  · intro takes
    induction takes with
    | file mem visible wanted =>
      exact .here mem visible ⟨rfl, (isWanted_iff visible).mp wanted⟩
    | deeper mem visible _ ih => exact .deeper mem visible ih
  · intro comesBy
    induction comesBy with
    | here mem visible isSource =>
      obtain ⟨rfl, ends⟩ := isSource
      exact .file mem visible ((isWanted_iff visible).mpr ends)
    | deeper mem visible _ ih => exact .deeper mem visible ih

end ComesBy

/-! ### What ends a walk early -/

/-- **An error that a walk can end with**, through the directory at `path` with the given
entries. -/
inductive Breaks (extensions : List String) (path : String) (entries : List (String × Tree)) :
    FetchError → Prop where
  /-- Something cannot be opened. -/
  | tooLong {names : List String} : ComesBy (Opened extensions) entries names →
    longestPath < (pathTo path names).utf8ByteSize →
    Breaks extensions path entries (.io (pathTo path names) LookupFault.nameTooLong.message)
  /-- A file that is taken is not text. -/
  | notText {names : List String} {content : ByteArray} :
    Takes extensions entries names content → String.fromUTF8? content = none →
    Breaks extensions path entries (.encoding (pathTo path names))

section Breaks

variable {extensions : List String} {path name : String} {error : FetchError}
  {entries others nested : List (String × Tree)}

theorem Breaks.mono (breaks : Breaks extensions path entries error) (part : entries ⊆ others) :
    Breaks extensions path others error := by
  cases breaks with
  | tooLong comesBy long => exact .tooLong (comesBy.mono part) long
  | notText takes noText => exact .notText (takes.mono part) noText

theorem Breaks.directory (visible : isHidden name = false)
    (breaks : Breaks extensions (entryPath path name) nested error) :
    Breaks extensions path [(name, .directory nested)] error := by
  cases breaks with
  | @tooLong names comesBy long =>
    have deeper : ComesBy (Opened extensions) [(name, .directory nested)] (name :: names) :=
      .deeper List.mem_cons_self visible comesBy
    exact .tooLong deeper long
  | @notText names content takes noText =>
    have deeper : Takes extensions [(name, .directory nested)] (name :: names) content :=
      .deeper List.mem_cons_self visible takes
    exact .notText deeper noText

/-- An entry whose own path is too long. -/
theorem Breaks.self {entry : Tree} (visible : isHidden name = false)
    (opened : Opened extensions name entry)
    (long : longestPath < (entryPath path name).utf8ByteSize) :
    Breaks extensions path [(name, entry)]
      (.io (entryPath path name) LookupFault.nameTooLong.message) := by
  have comesBy : ComesBy (Opened extensions) [(name, entry)] [name] :=
    .here List.mem_cons_self visible opened
  exact .tooLong comesBy long

end Breaks

mutual

/-- **A walk ends early for no other reason**, at one entry. -/
theorem breaks_of_collect {extensions : List String} {root path name : String}
    {found : Table String} {error : FetchError} (visible : isHidden name = false) :
    (entry : Tree) → collect extensions root (entryPath path name) name found entry = .error error →
    Breaks extensions path [(name, entry)] error
  | .link target, failed => by cases failed
  | .file content, failed => by
    rw [collect] at failed
    split at failed
    · cases failed
    · rename_i wanted
      split at failed
      · rename_i long
        obtain rfl := Except.error.inj failed
        exact .self visible (by simpa [Opened] using wanted) long
      · split at failed
        · cases failed
        · rename_i noText
          obtain rfl := Except.error.inj failed
          have takes : Takes extensions [(name, .file content)] [name] content :=
            .file List.mem_cons_self visible (by simpa using wanted)
          exact .notText takes noText
  | .directory entries, failed => by
    rw [collect] at failed
    split at failed
    · rename_i long
      obtain rfl := Except.error.inj failed
      exact .self visible trivial long
    · exact (breaks_of_collectEntries entries failed).directory visible

/-- **A walk ends early for no other reason**, through all entries of a directory. -/
theorem breaks_of_collectEntries {extensions : List String} {root path : String}
    {found : Table String} {error : FetchError} :
    (entries : List (String × Tree)) →
    collectEntries extensions root path found entries = .error error →
    Breaks extensions path entries error
  | [], failed => by cases failed
  | (name, entry) :: rest, failed => by
    rw [collectEntries] at failed
    split at failed
    · exact (breaks_of_collectEntries rest failed).mono (List.subset_cons_self _ _)
    · rename_i visible
      split at failed
      · rename_i failed'
        obtain rfl := Except.error.inj failed
        exact (breaks_of_collect (by simpa using visible) entry failed').mono (by simp)
      · exact (breaks_of_collectEntries rest failed).mono (List.subset_cons_self _ _)

end

end Tree

/-! ### Packages -/

namespace FileSystem

open CompilerGateway.Tree (Takes Readable pathTo namedParts collectEntries)

section Packages

variable {fs : FileSystem} {extensions : List String} {package : FetchedPackage}
  {entries : List (String × Tree)} {error : FetchError}

/-- **No package is made of anything else** than a directory. -/
theorem exists_io_of_package {path : HostPath}
    (elsewhere : ∀ entries, fs.resolve path ≠ .ok (.directory entries)) :
    ∃ message, fs.package extensions path = .error (.io path message) := by
  unfold FileSystem.package
  split
  · exact ⟨_, rfl⟩
  · rename_i entries found
    exact absurd found (elsewhere entries)
  · exact ⟨_, rfl⟩

variable {path : String}

/-- **Where everything can be opened**, a package that cannot be made has a file that is not
text, and it is one such file that is reported. -/
theorem exists_encoding (found : fs.resolve path = .ok (.directory entries))
    (readable : Readable extensions path entries)
    (failed : fs.package extensions path = .error error) :
    ∃ names content, Takes extensions entries names content ∧
      String.fromUTF8? content = none ∧ error = .encoding (pathTo path names) := by
  simp only [FileSystem.package, found] at failed
  cases collected : collectEntries extensions path path .empty entries with
  | ok files =>
    rw [collected] at failed
    cases failed
  | error error' =>
    rw [collected] at failed
    obtain rfl := Except.error.inj failed
    cases Tree.breaks_of_collectEntries entries collected with
    | tooLong comesBy long => exact absurd (readable _ comesBy) (Nat.not_le.mpr long)
    | notText takes noText => exact ⟨_, _, takes, noText, rfl⟩

/-- **Where everything can be opened**, the package can be made if and only if all files that are
taken are text. -/
theorem exists_package (listed : fs.Listed)
    (found : fs.resolve path = .ok (.directory entries))
    (readable : Readable extensions path entries) :
    (∃ package, fs.package extensions path = .ok package) ↔
      ∀ names content, Takes extensions entries names content →
        ∃ text, String.fromUTF8? content = some text := by
  constructor
  · rintro ⟨package, made⟩ names content takes
    have takesAt : fs.TakesAt extensions path names content := ⟨entries, found, takes⟩
    obtain ⟨text, isText, -⟩ := takesAt.exists_text listed made
    exact ⟨text, isText⟩
  · intro allText
    cases made : fs.package extensions path with
    | ok package => exact ⟨package, rfl⟩
    | error error =>
      obtain ⟨names, content, takes, noText, -⟩ := exists_encoding found readable made
      obtain ⟨text, isText⟩ := allText names content takes
      rw [noText] at isText
      cases isText

/-- **What a package is called** goes by the path alone. -/
theorem name_of_package (made : fs.package extensions path = .ok package) :
    package.name = ((namedParts path).getLast?.filter fun part => part != "..").getD "" := by
  obtain ⟨entries, files, root, path_eq, -, -, rfl⟩ := package_eq_ok_iff.mp made
  obtain rfl := HostPath.text.inj path_eq
  exact Tree.lastName_eq path

end Packages

end FileSystem

end CompilerGateway
