import Mathlib.Data.List.Forall2
import Mathlib.Data.List.Nodup
import CompilerGateway.Proofs.Invocation
import CompilerGateway.Proofs.LocalWalk

/-!
# Listing orders

A directory lists its entries in some order, which means nothing. Two trees that are the same but
for that are related by `CompilerGateway.Tree.Relists`: their directories have the same names, and
under each name there is the same again, up to listing orders.

What is asked of a tree by name does not depend on them. A path leads to the same in two file
systems whose trees are so related (`CompilerGateway.FileSystem.Relists.resolve`), and a walk comes
by the same (`CompilerGateway.Tree.ComesBy.relists`). What a package is made of is said in these
terms alone, so a package that can be made in one of the file systems is made in the other one as
well. Together with what ends a walk early, this is all there is to say about packages that are
read from directories (`CompilerGateway.FileSystem.fetch_directory`).
-/

namespace CompilerGateway

namespace Tree

/-! ### Trees that are the same but for listing orders -/

/-- **The same tree**, but for the orders in which its directories list their entries. -/
inductive Relists : Tree → Tree → Prop where
  | file (content : ByteArray) : Relists (.file content) (.file content)
  | link (target : String) : Relists (.link target) (.link target)
  | directory {entries others : List (String × Tree)} :
    (entries.map Prod.fst).Perm (others.map Prod.fst) →
    (∀ name entry other, (name, entry) ∈ entries → (name, other) ∈ others →
      Relists entry other) →
    Relists (.directory entries) (.directory others)

section Relists

variable {root other node : Tree} {name : String} {entries others : List (String × Tree)}

/-- A directory has one entry of a name. -/
theorem Listed.eq_of_mem (listed : Listed (.directory entries)) (mem : (name, node) ∈ entries)
    (mem' : (name, other) ∈ entries) : node = other := by
  cases listed with
  | directory _ distinct _ =>
    exact (Prod.mk.inj (List.inj_on_of_nodup_map distinct mem mem' rfl)).2

theorem Listed.relists_self (listed : root.Listed) : Relists root root := by
  induction listed with
  | file content => exact .file content
  | link target => exact .link target
  | directory named distinct held ih =>
    refine .directory (.refl _) fun name entry other mem mem' => ?_
    obtain rfl := (Listed.directory named distinct held).eq_of_mem mem mem'
    exact ih _ mem

/-- **Entries in another order** make the same directory. -/
theorem relists_of_perm (listed : Listed (.directory entries)) (perm : entries.Perm others) :
    Relists (.directory entries) (.directory others) := by
  refine .directory (perm.map _) fun name entry other mem mem' => ?_
  obtain rfl := listed.eq_of_mem mem (perm.mem_iff.mpr mem')
  exact (listed.of_mem mem).relists_self

theorem Relists.symm (same : Relists root other) : Relists other root := by
  induction same with
  | file content => exact .file content
  | link target => exact .link target
  | directory perm _ ih =>
    exact .directory perm.symm fun name entry other mem mem' => ih name other entry mem' mem

/-- **Each entry is listed in either order.** -/
theorem Relists.exists_mem (same : Relists (.directory entries) (.directory others))
    (mem : (name, node) ∈ entries) : ∃ other, (name, other) ∈ others ∧ Relists node other := by
  cases same with
  | directory perm below =>
    obtain ⟨⟨_, other⟩, mem', rfl⟩ :=
      List.mem_map.mp (perm.mem_iff.mp (List.mem_map_of_mem (f := Prod.fst) mem))
    exact ⟨other, mem', below _ _ _ mem mem'⟩

/-- It can be held by a file system in either order. -/
theorem Listed.relists (listed : root.Listed) (same : Relists root other) : other.Listed := by
  induction same with
  | file content => exact .file content
  | link target => exact .link target
  | @directory entries others perm below ih =>
    have back : Relists (.directory others) (.directory entries) :=
      (Relists.directory perm below).symm
    cases listed with
    | directory named distinct held =>
      refine .directory (fun entry mem => ?_) (perm.nodup_iff.mp distinct) fun entry mem => ?_
      · obtain ⟨node, mem', -⟩ := back.exists_mem mem
        exact named (entry.1, node) mem'
      · obtain ⟨node, mem', -⟩ := back.exists_mem mem
        exact ih _ _ _ mem' mem (held _ mem')

end Relists

/-! ### What paths lead to -/

section Paths

variable {node : Tree} {name : String} {place : Place} {entries others : List (String × Tree)}
  {present present' : List (String × Tree)} {above above' : List (List (String × Tree))}

theorem Relists.findEntry (same : Relists (.directory entries) (.directory others))
    (found : Table.findEntry name entries = some node) :
    ∃ other, Table.findEntry name others = some other ∧ Relists node other := by
  have mem := Table.mem_of_findEntry found
  obtain ⟨_, mem', -⟩ := same.exists_mem mem
  obtain ⟨other, found'⟩ := Table.exists_findEntry_of_mem mem'
  cases same with
  | directory _ below => exact ⟨other, found', below _ _ _ mem (Table.mem_of_findEntry found')⟩

/-- The topmost directories are the same, too. -/
theorem Relists.topmost (same : Relists (.directory present) (.directory present'))
    (higher : List.Forall₂ (fun held held' => Relists (.directory held) (.directory held'))
      above above') :
    Relists (.directory (Tree.topmost present above))
      (.directory (Tree.topmost present' above')) := by
  have topmost_cons (present held : List (String × Tree)) (above : List (List (String × Tree))) :
      Tree.topmost present (held :: above) = Tree.topmost held above := by
    rw [Tree.topmost, Tree.topmost, List.getLast?_cons, Option.getD_some]
  induction higher generalizing present present' with
  | nil => exact same
  | cons holder _ ih =>
    rw [topmost_cons, topmost_cons]
    exact ih holder

/-- **A path leads to the same in either order**, by the same names. -/
theorem Relists.follow {confined : Bool} {hops : Nat} {names parts : List String}
    (same : Relists (.directory present) (.directory present'))
    (higher : List.Forall₂ (fun held held' => Relists (.directory held) (.directory held'))
      above above')
    (found : follow confined hops names present above parts = .ok place) :
    ∃ node, Tree.follow confined hops names present' above' parts = .ok ⟨place.names, node⟩ ∧
      Relists place.node node := by
  fun_induction Tree.follow confined hops names present above parts generalizing present' above'
  -- the path ends here
  case case1 =>
    obtain rfl := Except.ok.inj found
    exact ⟨.directory present', by rw [Tree.follow], same⟩
  -- it goes on from the same directory
  case case2 staying ih =>
    unfold Tree.follow
    rw [if_pos staying]
    exact ih same higher found
  -- it does not lead out of the root
  case case4 unconfined named ih =>
    cases higher
    rw [Tree.follow, if_neg named, if_pos rfl]
    simp only [if_neg unconfined]
    exact ih same .nil found
  -- it goes up
  case case5 named ih =>
    cases higher with
    | cons holder others =>
      rw [Tree.follow, if_neg named, if_pos rfl]
      exact ih holder others found
  -- it goes down
  case case8 named notUp short entries held ih =>
    obtain ⟨other, held', below⟩ := same.findEntry held
    cases below with
    | @directory _ entries' perm below =>
      unfold Tree.follow
      rw [if_neg named, if_neg notUp, if_neg short, held']
      exact ih (.directory perm below) (.cons same higher) found
  case case9 named notUp short content held =>
    obtain ⟨other, held', below⟩ := same.findEntry held
    cases below
    obtain rfl := Except.ok.inj found
    refine ⟨.file content, ?_, .file content⟩
    unfold Tree.follow
    rw [if_neg named, if_neg notUp, if_neg short, held']
    exact if_pos rfl
  -- it goes on with what a link stands for, from the root on or from the same directory
  case case14 named notUp short target held hops nonempty rooted unconfined ih =>
    obtain ⟨other, held', below⟩ := same.findEntry held
    cases below
    unfold Tree.follow
    rw [if_neg named, if_neg notUp, if_neg short, held']
    simp only [if_neg nonempty, if_pos rooted, if_neg unconfined]
    exact ih (same.topmost higher) .nil found
  case case15 named notUp short target held hops nonempty notRooted ih =>
    obtain ⟨other, held', below⟩ := same.findEntry held
    cases below
    unfold Tree.follow
    rw [if_neg named, if_neg notUp, if_neg short, held']
    simp only [if_neg nonempty, if_neg notRooted]
    exact ih same higher found
  -- everywhere else it leads nowhere
  all_goals cases found

end Paths

end Tree

namespace FileSystem

/-- **The same file system**, but for the orders in which its directories list their entries. -/
structure Relists (fs other : FileSystem) : Prop where
  /-- The trees are the same but for that. -/
  top : Tree.Relists (.directory fs.top) (.directory other.top)
  /-- They are seen from the same directory. -/
  working : other.working = fs.working

section Paths

variable {fs other : FileSystem} {node : Tree} {path : HostPath} {place : Tree.Place}

theorem Listed.relists (listed : fs.Listed) (same : fs.Relists other) : other.Listed :=
  Tree.Listed.relists listed same.top

theorem Relists.symm (same : fs.Relists other) : other.Relists fs :=
  ⟨same.top.symm, same.working.symm⟩

theorem Relists.locate (same : fs.Relists other) (found : fs.locate path = .ok place) :
    ∃ node, other.locate path = .ok ⟨place.names, node⟩ ∧ Tree.Relists place.node node := by
  unfold FileSystem.locate at found ⊢
  split at found
  · cases found
  · rename_i noNul
    rw [if_neg noNul]
    cases path with
    | bytes raw stray => cases found
    | text path =>
      dsimp only at found ⊢
      split at found
      · cases found
      · rename_i nonempty
        rw [if_neg nonempty, locateParts, same.working]
        exact same.top.follow .nil found

/-- **A path that is handed over whole** leads to the same in either order. -/
theorem Relists.resolve (same : fs.Relists other) (found : fs.resolve path = .ok node) :
    ∃ node', other.resolve path = .ok node' ∧ Tree.Relists node node' := by
  obtain ⟨place, located, rfl⟩ := exists_locate_of_resolve found
  obtain ⟨node, located', below⟩ := same.locate located
  refine ⟨node, ?_, below⟩
  rw [FileSystem.resolve] at found ⊢
  split at found
  · cases found
  · rename_i noNul
    rw [if_neg noNul]
    split at found
    · cases found
    · rename_i short
      rw [if_neg short, located']
      rfl

end Paths

end FileSystem

namespace Tree

/-! ### What walks come by -/

section Walks

variable {extensions names : List String} {path : String} {content : ByteArray}
  {entries others : List (String × Tree)} {kind : String → Tree → Prop}

/-- **A walk comes by the same in either order**, if the kind of an entry has nothing to do with
them. -/
theorem ComesBy.relists
    (kindly : ∀ name node other, Relists node other → kind name node → kind name other)
    (comesBy : ComesBy kind entries names)
    (same : Relists (.directory entries) (.directory others)) : ComesBy kind others names := by
  induction comesBy generalizing others with
  | here mem visible isKind =>
    obtain ⟨other, mem', below⟩ := same.exists_mem mem
    exact .here mem' visible (kindly _ _ _ below isKind)
  | deeper mem visible _ ih =>
    obtain ⟨other, mem', below⟩ := same.exists_mem mem
    cases below with
    | directory perm below => exact .deeper mem' visible (ih (.directory perm below))

theorem Readable.relists (readable : Readable extensions path entries)
    (same : Relists (.directory entries) (.directory others)) :
    Readable extensions path others := by
  intro names comesBy
  refine readable names (comesBy.relists (fun name node other below opened => ?_) same.symm)
  cases below <;> exact opened

theorem Takes.relists (takes : Takes extensions entries names content)
    (same : Relists (.directory entries) (.directory others)) :
    Takes extensions others names content := by
  refine takes_iff_comesBy.mpr ((takes_iff_comesBy.mp takes).relists ?_ same)
  intro name node other below isSource
  obtain ⟨rfl, ends⟩ := isSource
  cases below
  exact ⟨rfl, ends⟩

end Walks

end Tree

namespace FileSystem

section Packages

variable {fs other : FileSystem} {extensions names : List String} {path : String}
  {content : ByteArray} {entries : List (String × Tree)} {made : FetchedPackage}

theorem TakesAt.relists (takes : fs.TakesAt extensions path names content)
    (same : fs.Relists other) : other.TakesAt extensions path names content := by
  obtain ⟨entries, found, takes⟩ := takes
  obtain ⟨node, found', below⟩ := same.resolve found
  cases below with
  | directory perm below => exact ⟨_, found', takes.relists (.directory perm below)⟩

/-- **A package that can be made** is made in either order. -/
theorem Relists.package (same : fs.Relists other) (listed : fs.Listed)
    (found : fs.resolve path = .ok (.directory entries))
    (readable : Tree.Readable extensions path entries)
    (ok : fs.package extensions path = .ok made) : other.package extensions path = .ok made := by
  obtain ⟨node, found', below⟩ := same.resolve found
  cases below with
  | @directory _ others perm below =>
    have same' : Tree.Relists (.directory entries) (.directory others) := .directory perm below
    have listed' := listed.relists same
    have allText := (exists_package listed found readable).mp ⟨made, ok⟩
    obtain ⟨made', ok'⟩ := (exists_package listed' found' (readable.relists same')).mpr
      fun names content takes => allText names content (takes.relists same'.symm)
    have files_eq : made'.files = made.files := by
      refine Table.ext_find? fun key => Option.ext fun text => ?_
      rw [find?_files_iff listed' ok', find?_files_iff listed ok]
      constructor
      · rintro ⟨names, content, takes, held⟩
        exact ⟨names, content, takes.relists same.symm, held⟩
      · rintro ⟨names, content, takes, held⟩
        exact ⟨names, content, takes.relists same, held⟩
    have made_eq : made' = made := by
      obtain ⟨_, _, root, path_eq, -, -, rfl⟩ := package_eq_ok_iff.mp ok
      obtain ⟨_, _, root', path_eq', -, -, rfl⟩ := package_eq_ok_iff.mp ok'
      obtain rfl := HostPath.text.inj (path_eq.symm.trans path_eq')
      exact congrArg _ files_eq
    rw [ok', made_eq]

end Packages

end FileSystem

/-! ### Fetching from directories -/

namespace Tree

section Fetching

variable {extensions names : List String} {content : ByteArray} {entries : List (String × Tree)}

/-- **Names lead to one file.** -/
theorem Takes.unique {other : ByteArray} (takes : Takes extensions entries names content)
    (listed : Listed (.directory entries)) (takes' : Takes extensions entries names other) :
    content = other := by
  induction takes with
  | file mem _ _ =>
    cases takes' with
    | file mem' _ _ =>
      cases listed.eq_of_mem mem mem'
      rfl
    | deeper _ _ below => exact absurd rfl below.ne_nil
  | deeper mem _ below ih =>
    cases takes' with
    | file _ _ _ => exact absurd rfl below.ne_nil
    | deeper mem' _ below' =>
      cases listed.eq_of_mem mem mem'
      exact ih (listed.of_mem mem) below'

/-- **Files have keys of their own.** -/
theorem Takes.eq_of_intercalate_eq {names' : List String} {content' : ByteArray}
    (takes : Takes extensions entries names content) (listed : Listed (.directory entries))
    (takes' : Takes extensions entries names' content')
    (same : "/".intercalate names = "/".intercalate names') :
    names = names' ∧ content = content' := by
  obtain rfl := Text.intercalate_inj takes.ne_nil (takes.slash listed) takes'.ne_nil
    (takes'.slash listed) same
  exact ⟨rfl, takes.unique listed takes'⟩

end Fetching

end Tree

namespace FileSystem

open CompilerGateway.Tree (ComesBy IsSource Readable namedParts pathTo takes_iff_comesBy)

theorem takesAt_iff_comesBy {fs : FileSystem} {extensions names : List String} {path : HostPath}
    {content : ByteArray} {entries : List (String × Tree)}
    (found : fs.resolve path = .ok (.directory entries)) :
    fs.TakesAt extensions path names content ↔
      ComesBy (IsSource extensions content) entries names := by
  rw [← takes_iff_comesBy]
  constructor
  · rintro ⟨_, found', takes⟩
    cases found.symm.trans found'
    exact takes
  · intro takes
    exact ⟨entries, found, takes⟩

/-- **Fetching a package from a directory**, wherever the path leads from the root or from the
working directory. Of anything but a directory no package is made. A path that leads to a directory
is a text; of the directory one is made if and only if all source files that a walk comes by are
text, where everything can be opened; otherwise it is one of the others that is reported. The
package has these files and no more, each with its text under a key of its own, which is made of
the names that lead to it from the directory, however the path is spelt. And it is the same
whatever the order in which directories list their entries. -/
theorem fetch_directory {fs : FileSystem} (listed : fs.Listed) (extensions : List String)
    (path : HostPath) :
    ((∀ entries, fs.resolve path ≠ .ok (.directory entries)) →
      ∃ message, fs.fetch extensions (.directory path) = .error (.io path message)) ∧
    ∀ entries, fs.resolve path = .ok (.directory entries) →
      ∃ root : String, path = root ∧ (Readable extensions root entries →
      ((∃ package, fs.fetch extensions (.directory path) = .ok package) ↔
        ∀ names content, ComesBy (IsSource extensions content) entries names →
          ∃ text : String, text.toUTF8 = content) ∧
      (∀ error, fs.fetch extensions (.directory path) = .error error →
        ∃ names content, ComesBy (IsSource extensions content) entries names ∧
          (∀ text : String, text.toUTF8 ≠ content) ∧ error = .encoding (pathTo root names)) ∧
      (∀ names content names' content', ComesBy (IsSource extensions content) entries names →
        ComesBy (IsSource extensions content') entries names' →
        "/".intercalate names = "/".intercalate names' → names = names' ∧ content = content') ∧
      (∀ names content, ComesBy (IsSource extensions content) entries names →
        Tree.relativeKey root (pathTo root names) = "/".intercalate names) ∧
      ∀ package, fs.fetch extensions (.directory path) = .ok package →
        package.name = ((namedParts root).getLast?.filter fun part => part != "..").getD "" ∧
        package.version = "local" ∧
        (∀ key text, package.files.find? key = some text ↔
          ∃ names, ComesBy (IsSource extensions text.toUTF8) entries names ∧
            key = "/".intercalate names) ∧
        ∀ other, fs.Relists other → other.fetch extensions (.directory path) = .ok package) := by
  refine ⟨exists_io_of_package, fun entries found => ?_⟩
  obtain ⟨root, rfl⟩ := exists_text_of_resolve found
  have held := listed_resolve listed found
  refine ⟨root, rfl, fun readable => ⟨?_, ?_, ?_, ?_, ?_⟩⟩
  · rw [fetch, exists_package listed found readable]
    simp only [takes_iff_comesBy, fromUTF8?_eq_some_iff]
  · intro error failed
    obtain ⟨names, content, takes, noText, error_eq⟩ := exists_encoding found readable failed
    refine ⟨names, content, takes_iff_comesBy.mp takes, fun text isText => ?_, error_eq⟩
    rw [fromUTF8?_eq_some_iff.mpr isText] at noText
    cases noText
  · intro names content names' content' comesBy comesBy' same
    exact (takes_iff_comesBy.mpr comesBy).eq_of_intercalate_eq held
      (takes_iff_comesBy.mpr comesBy') same
  · intro names content comesBy
    exact Tree.relativeKey_pathTo root ((takes_iff_comesBy.mpr comesBy).isEntryName held)
  · intro package made
    obtain ⟨_, -, -, version_eq, -⟩ := exists_of_package listed made
    refine ⟨name_of_package made, version_eq, fun key text => ?_, fun other same =>
      same.package listed found readable made⟩
    simp only [find?_files_iff listed made, takesAt_iff_comesBy found, fromUTF8?_eq_some_iff]
    constructor
    · rintro ⟨names, _, comesBy, key_eq, rfl⟩
      exact ⟨names, comesBy, key_eq⟩
    · rintro ⟨names, comesBy, key_eq⟩
      exact ⟨names, _, comesBy, key_eq, rfl⟩

/-- A directory is read to which the path leads up from the working directory and by way of a link
that points to it from the root on. In it there is a file that is hidden and one that is not asked
for, neither of them text, a link, and two files that are taken. It is read in another order too. -/
theorem fetch_directory_reversed :
    let vendor : List (String × Tree) :=
      [("lib", .directory [("Nat.mo", .file "module Nat".toUTF8)]), (".Draft.mo", .file ⟨#[255]⟩),
        ("Blob.bin", .file ⟨#[255]⟩), ("Link.mo", .link "lib/Nat.mo"),
        ("Main.mo", .file "actor Main".toUTF8)]
    let around (vendor : List (String × Tree)) : FileSystem :=
      ⟨[("home", .directory [("deps", .link "/srv/vendor")]),
        ("srv", .directory [("vendor", .directory vendor)])], ["home"]⟩
    let fs := around vendor
    let other := around vendor.reverse
    fs.Listed ∧ fs.resolve "../home/./deps//" = .ok (.directory vendor) ∧
      Readable ["mo"] "../home/./deps//" vendor ∧ fs.Relists other ∧
      ∃ package, other.fetch ["mo"] (.directory "../home/./deps//") = .ok package ∧
        package.name = "deps" ∧ package.files.find? "lib/Nat.mo" = some "module Nat" := by
  intro vendor around fs other
  have inner : Tree.Listed (.directory [("Nat.mo", .file "module Nat".toUTF8)]) :=
    .cons (by decide +kernel) (by decide +kernel) (.file _) .nil
  have middle : Tree.Listed (.directory vendor) :=
    .cons (by decide +kernel) (by decide +kernel) inner <|
    .cons (by decide +kernel) (by decide +kernel) (.file _) <|
    .cons (by decide +kernel) (by decide +kernel) (.file _) <|
    .cons (by decide +kernel) (by decide +kernel) (.link _) <|
    .cons (by decide +kernel) (by decide +kernel) (.file _) .nil
  have home : Tree.Listed (.directory [("deps", .link "/srv/vendor")]) :=
    .cons (by decide +kernel) (by decide +kernel) (.link _) .nil
  have srv : Tree.Listed (.directory [("vendor", .directory vendor)]) :=
    .cons (by decide +kernel) (by decide +kernel) middle .nil
  have listed : fs.Listed :=
    .cons (by decide +kernel) (by decide +kernel) home <|
    .cons (by decide +kernel) (by decide +kernel) srv .nil
  have resolved : fs.resolve "../home/./deps//" = .ok (.directory vendor) := by
    have parts_eq : Text.pieces '/' "../home/./deps//" = ["..", "home", ".", "deps", "", ""] := by
      decide +kernel
    have target_eq : Text.pieces '/' "/srv/vendor" = ["", "srv", "vendor"] := by decide +kernel
    have rooted : Tree.isRooted "../home/./deps//" = false ∧
        Tree.isRooted "/srv/vendor" = true := by
      decide +kernel
    rw [resolve_text (by decide +kernel) (by decide +kernel) (by decide +kernel)]
    simp [locateParts, parts_eq, target_eq, rooted, fs, around, Tree.follow, Tree.topmost,
      Table.findEntry, Tree.mostLinks, Tree.longestName]
    rfl
  have readable : Readable ["mo"] "../home/./deps//" vendor := by
    intro names comesBy
    simp only [vendor, Tree.comesBy_cons_iff, Tree.not_comesBy_nil, Tree.directory.injEq,
      reduceCtorEq, false_and, exists_const, or_false, exists_and_left, exists_eq_left'] at comesBy
    rcases comesBy with ⟨-, ⟨rfl, -⟩ | ⟨_, rfl, -, rfl, -⟩⟩ | ⟨-, rfl, -⟩ | ⟨-, rfl, -⟩ |
      ⟨-, rfl, -⟩ | ⟨-, rfl, -⟩ <;> decide +kernel
  have relisted : fs.Relists other := by
    have reversed : Tree.Relists (.directory vendor) (.directory vendor.reverse) :=
      Tree.relists_of_perm middle (List.reverse_perm _).symm
    have srv' : Tree.Relists (.directory [("vendor", .directory vendor)])
        (.directory [("vendor", .directory vendor.reverse)]) := by
      refine .directory (.refl _) fun name entry other mem mem' => ?_
      cases List.mem_singleton.mp mem
      cases List.mem_singleton.mp mem'
      exact reversed
    refine ⟨.directory (.refl _) fun name entry entry' mem mem' => ?_, rfl⟩
    simp only [fs, other, around, List.mem_cons, Prod.mk.injEq, List.not_mem_nil, or_false]
      at mem mem'
    rcases mem with ⟨rfl, rfl⟩ | ⟨rfl, rfl⟩ <;> simp at mem' <;> subst mem'
    · exact home.relists_self
    · exact srv'
  have hidden : Tree.isHidden ".Draft.mo" = true := by decide +kernel
  have unasked : ∀ front, "Blob.bin" ≠ front ++ "." ++ "mo" := by
    intro front same
    have unwanted : Tree.isWanted ["mo"] "Blob.bin" = false := by decide +kernel
    rw [(Tree.isWanted_iff (by decide +kernel)).mpr ⟨front, "mo", by simp, same, by simp⟩]
      at unwanted
    cases unwanted
  obtain ⟨root, root_eq, onReadable⟩ :=
    (fetch_directory listed ["mo"] "../home/./deps//").2 vendor resolved
  obtain rfl := HostPath.text.inj root_eq
  obtain ⟨made, -, -, -, fetched⟩ := onReadable readable
  obtain ⟨package, ok⟩ := made.mpr fun names content comesBy => by
    simp [vendor, Tree.comesBy_cons_iff, Tree.not_comesBy_nil, IsSource, hidden, unasked]
      at comesBy
    rcases comesBy with ⟨-, -, -, rfl, -⟩ | ⟨-, -, rfl, -⟩
    · exact ⟨"module Nat", rfl⟩
    · exact ⟨"actor Main", rfl⟩
  obtain ⟨name_eq, -, files_iff, relists⟩ := fetched package ok
  refine ⟨listed, resolved, readable, relisted, package, relists other relisted,
    ?_, ?_⟩
  · rw [name_eq]
    decide +kernel
  · refine (files_iff _ _).mpr ⟨["lib", "Nat.mo"], ?_, by decide +kernel⟩
    have asked : "Nat.mo" = "Nat" ++ "." ++ "mo" := by decide +kernel
    exact .deeper List.mem_cons_self (by decide +kernel)
      (.here List.mem_cons_self (by decide +kernel)
        ⟨rfl, "Nat", "mo", by simp, asked, by simp⟩)

end FileSystem

end CompilerGateway
