import CompilerGateway.Proofs.Loading
import CompilerGateway.Proofs.Paths

/-!
# Packages stay in their directories

A package whose name and contents are in order is installed in a directory of its own,
`root/name/version`, and its files at their keys below that (`CompilerGateway.Gateway.home`,
`CompilerGateway.Gateway.placement_eq_delivery`). Slashes at the ends of what is joined never
matter, since what is in order has none there.

So a file of a package is found by going down from the root, by the name, by the version and by
the parts of its key, and never up. The path of a file determines the package and the key, and
the directories of two packages of different names have nothing in common, whatever their
versions are (`CompilerGateway.Gateway.installed_confined`).
-/

namespace CompilerGateway

open VirtualPath

theorem FetchedPackage.Fit.descends_version {package : FetchedPackage} (fit : package.Fit) :
    Descends package.version :=
  descends_of_nameFault? fit.version

theorem FetchedPackage.Fit.descends_of_mem_pieces {package : FetchedPackage} (fit : package.Fit)
    {key part : String} (mem : key ∈ package.files.names) (mem' : part ∈ Text.pieces '/' key) :
    Descends part :=
  keyFault?_eq_none_iff.mp (fit.keys key mem) part mem'

theorem head?_ne_of_keyFault? {key : String} (fit : keyFault? key = none) :
    key.toList.head? ≠ some '/' := by
  intro head
  rw [keyFault?, if_pos head] at fit
  cases fit

/-- A key does not end with a slash: there would be an empty part after it. -/
theorem getLast?_ne_of_keyFault? {key : String} (fit : keyFault? key = none) :
    key.toList.getLast? ≠ some '/' := by
  intro last
  obtain ⟨front, chars⟩ := List.getLast?_eq_some_iff.mp last
  have key_eq : key = String.ofList front ++ "/" ++ "" := by
    rw [← String.toList_inj, chars]
    simp
  have mem : "" ∈ Text.pieces '/' key := by
    rw [key_eq, Text.pieces_slash]
    exact List.mem_append_right _ List.mem_cons_self
  exact (keyFault?_eq_none_iff.mp fit "" mem).ne_empty rfl

theorem ne_empty_of_keyFault? {key : String} (fit : keyFault? key = none) : key ≠ "" := by
  rintro rfl
  exact (keyFault?_eq_none_iff.mp fit "" List.mem_cons_self).ne_empty rfl

namespace Gateway

variable {σ : Type}

/-! ### Where a package goes -/

/-- **The directory of a package**: the version below the name, and both below the root. -/
def home (g : Gateway σ) (name version : String) : String :=
  below g.settings.root (name ++ "/" ++ version)

theorem installPath_eq_home (g : Gateway σ) {name version : String} (named : Descends name)
    (versioned : Descends version) : g.installPath name version = g.home name version := by
  have first {part : String} (down : Descends part) : part.toList.head? ≠ some '/' :=
    fun head => down.slash (List.mem_of_head? head)
  have root_eq : withoutTrailing g.settings.root = g.settings.root :=
    withoutTrailing_eq_self (getLast?_withoutTrailing g.settings.packageRoot)
  rw [installPath, join_eq_below g.settings.root, root_eq, withoutLeading_eq_self (first named),
    join_below named.ne_empty named.getLast?_ne (first versioned), home]

theorem join_home (g : Gateway σ) {name version key : String} (versioned : Descends version)
    (first : key.toList.head? ≠ some '/') :
    join (g.home name version) key = g.home name version ++ "/" ++ key := by
  have last : (name ++ "/" ++ version).toList.getLast? ≠ some '/' :=
    getLast?_append_ne _ versioned.ne_empty versioned.getLast?_ne
  rw [home, join_below (by simp) last first, below_append]

/-- **The requests that bring a package to its directory**: its files in the order of their
keys, and then the registration. -/
def delivery (g : Gateway σ) (entry : String × FetchedPackage) : List Request :=
  (entry.2.files.entries.map fun file =>
    .saveFile (g.home entry.1 entry.2.version ++ "/" ++ file.1) file.2) ++
  [.addPackage entry.1 (g.home entry.1 entry.2.version)]

/-- A package that is in order is placed by just these. -/
theorem placement_eq_delivery (g : Gateway σ) {name : String} {package : FetchedPackage}
    (named : nameFault? name = none) (fit : package.Fit) :
    g.placement (name, package) = g.delivery (name, package) := by
  have home_eq := g.installPath_eq_home (descends_of_nameFault? named) fit.descends_version
  rw [placement, home_eq, writes]
  refine congrArg (· ++ _) (List.map_congr_left fun file mem => ?_)
  have ordered := fit.keys file.1 (List.mem_map_of_mem mem)
  rw [g.join_home fit.descends_version (head?_ne_of_keyFault? ordered)]

/-! ### Paths of files -/

theorem home_append (g : Gateway σ) (name version key : String) :
    g.home name version ++ "/" ++ key =
      below g.settings.root (name ++ "/" ++ (version ++ "/" ++ key)) := by
  rw [home, below_append]
  simp only [String.append_assoc]

/-- **The path of a file determines** the package and the key. -/
theorem home_append_inj {g : Gateway σ} {name name' version version' key key' : String}
    (named : Descends name) (named' : Descends name') (versioned : Descends version)
    (versioned' : Descends version')
    (same : g.home name version ++ "/" ++ key = g.home name' version' ++ "/" ++ key') :
    name = name' ∧ version = version' ∧ key = key' := by
  rw [home_append, home_append, below_right_inj] at same
  obtain ⟨rfl, rests⟩ := eq_of_slash_eq_slash named named' same
  obtain ⟨rfl, rfl⟩ := eq_of_slash_eq_slash versioned versioned' rests
  exact ⟨rfl, rfl, rfl⟩

/-- **The way to a file** leads from the root down by the name, the version and the key. -/
theorem destination_home_append (g : Gateway σ) {name version key : String} (named : Descends name)
    (versioned : Descends version) (keyed : ∀ part ∈ Text.pieces '/' key, Descends part) :
    destination (g.home name version ++ "/" ++ key) =
      destination g.settings.root ++ name :: version :: Text.pieces '/' key := by
  rw [home_append, destination_below, Text.pieces_slash, Text.pieces_slash,
    Text.pieces_of_not_mem named.slash, Text.pieces_of_not_mem versioned.slash]
  exact walk_of_descends (List.forall_mem_cons.mpr ⟨named, List.forall_mem_cons.mpr
    ⟨versioned, keyed⟩⟩)

/-! ### Packages of different names -/

/-- What is below a name is not within what is below another one. -/
theorem isWithin_eq_false {g : Gateway σ} {name name' rest rest' : String} (named : Descends name)
    (named' : Descends name') (different : name ≠ name') (nonempty : rest' ≠ "")
    (last : rest'.toList.getLast? ≠ some '/') :
    isWithin (below g.settings.root (name ++ "/" ++ rest))
      (below g.settings.root (name' ++ "/" ++ rest')) = false :=
  Bool.eq_false_iff.mpr fun within =>
    different (eq_of_isWithin_below named named' nonempty last within)

/-- **Installed packages are confined.** Placing a package that is in order writes its files at
their keys below `root/name/version`, and registers that directory. The way to a file leads
down from the root by the name, the version and the parts of the key, one after the other, and
never up. Its path determines the package and the key; and of two packages of different names
neither directory is within the other, nor is any file of the one within the directory, or the
path of a file, of the other. -/
theorem installed_confined [Backend σ] (g : Gateway σ) {name : String} {package : FetchedPackage}
    (named : nameFault? name = none) (fit : package.fault? = none) :
    let root := g.settings.root
    let home := g.home name package.version
    g.Stops ((package.files.entries.map fun file => .saveFile (home ++ "/" ++ file.1) file.2) ++
      [.addPackage name home]) (place name package g) ∧
    (∀ key ∈ package.files.names,
      let parts := name :: package.version :: Text.pieces '/' key
      home ++ "/" ++ key = below root (name ++ "/" ++ package.version ++ "/" ++ key) ∧
      Text.pieces '/' (name ++ "/" ++ package.version ++ "/" ++ key) = parts ∧
      (∀ part ∈ parts, Descends part) ∧
      destination (home ++ "/" ++ key) = destination root ++ parts ∧
      ∀ taken left, Text.pieces '/' key = taken ++ left →
        walk (destination root) (name :: package.version :: taken) =
          destination root ++ name :: package.version :: taken) ∧
    ∀ name' (package' : FetchedPackage), nameFault? name' = none → package'.fault? = none →
      let home' := g.home name' package'.version
      (∀ key ∈ package.files.names, ∀ key' ∈ package'.files.names,
        home ++ "/" ++ key = home' ++ "/" ++ key' →
          name = name' ∧ package.version = package'.version ∧ key = key') ∧
      (name ≠ name' → home ≠ home' ∧ isWithin home home' = false ∧ isWithin home' home = false ∧
        ∀ key ∈ package.files.names, isWithin (home ++ "/" ++ key) home' = false ∧
          ∀ key' ∈ package'.files.names,
            isWithin (home ++ "/" ++ key) (home' ++ "/" ++ key') = false) := by
  have fit := FetchedPackage.fault?_eq_none_iff.mp fit
  have down := descends_of_nameFault? named
  have stops := stops_place name package g
  rw [g.placement_eq_delivery named fit] at stops
  intro root home
  refine ⟨stops, fun key mem => ?_, fun name' package' named' fit' => ?_⟩
  · have keyed := fun part (mem' : part ∈ Text.pieces '/' key) =>
      fit.descends_of_mem_pieces mem mem'
    refine ⟨below_append _ _ _, ?_, ?_, ?_, fun taken left split => ?_⟩
    · rw [Text.pieces_slash, Text.pieces_slash, Text.pieces_of_not_mem down.slash,
        Text.pieces_of_not_mem fit.descends_version.slash]
      rfl
    · exact List.forall_mem_cons.mpr ⟨down, List.forall_mem_cons.mpr ⟨fit.descends_version, keyed⟩⟩
    · exact g.destination_home_append down fit.descends_version keyed
    · refine walk_of_descends (List.forall_mem_cons.mpr ⟨down, List.forall_mem_cons.mpr
        ⟨fit.descends_version, fun part mem' => ?_⟩⟩)
      exact keyed part (split ▸ List.mem_append_left left mem')
  · have fit' := FetchedPackage.fault?_eq_none_iff.mp fit'
    have down' := descends_of_nameFault? named'
    intro home'
    refine ⟨fun key _ key' _ same => ?_, fun different => ?_⟩
    · exact home_append_inj down down' fit.descends_version fit'.descends_version same
    · have version := fit.descends_version
      have version' := fit'.descends_version
      have apart : isWithin home home' = false :=
        isWithin_eq_false down down' different version'.ne_empty version'.getLast?_ne
      refine ⟨fun same => ?_, apart, ?_, fun key _ => ⟨?_, fun key' mem' => ?_⟩⟩
      · rw [same, isWithin_self] at apart
        cases apart
      · exact isWithin_eq_false down' down different.symm version.ne_empty version.getLast?_ne
      · rw [home_append]
        exact isWithin_eq_false down down' different version'.ne_empty version'.getLast?_ne
      · have ordered := fit'.keys key' mem'
        rw [home_append, home_append]
        exact isWithin_eq_false down down' different (by simp)
          (getLast?_append_ne _ (ne_empty_of_keyFault? ordered) (getLast?_ne_of_keyFault? ordered))

/-- Two packages of which one is named like the beginning of the other, below a root that is
given with slashes at its end. Neither directory is within the other, and each file has its
own path. -/
theorem installed_confined_sibling :
    let package : FetchedPackage :=
      ⟨"any", "0.11.1", Table.ofList [("Array.mo", "module A"), ("util/.x/B.mo", "module B")]⟩
    let sibling : FetchedPackage := ⟨"any", "0.11.1", Table.ofList [("util/.x/B.mo", "module C")]⟩
    let g : Gateway Earnest :=
      .detached "0.14.0" { Settings.standard with packageRoot := "/lib/..//" }
    nameFault? "base" = none ∧ package.fault? = none ∧ nameFault? "base.2" = none ∧
      sibling.fault? = none ∧ g.home "base" "0.11.1" = "/lib/../base/0.11.1" ∧
      isWithin (g.home "base.2" "0.11.1") (g.home "base" "0.11.1") = false ∧
      destination "/lib/../base/0.11.1/util/.x/B.mo" =
        ["base", "0.11.1", "util", ".x", "B.mo"] := by
  intro package sibling g
  have named : nameFault? "base" = none := by decide +kernel
  have fit : package.fault? = none := by decide +kernel
  have named' : nameFault? "base.2" = none := by decide +kernel
  have fit' : sibling.fault? = none := by decide +kernel
  have home_eq : g.home "base" "0.11.1" = "/lib/../base/0.11.1" := by decide +kernel
  obtain ⟨-, files, others⟩ := g.installed_confined named fit
  have mem : "util/.x/B.mo" ∈ package.files.names := by decide +kernel
  obtain ⟨-, -, -, leads, -⟩ := files _ mem
  obtain ⟨-, apart⟩ := others "base.2" sibling named' fit'
  obtain ⟨-, -, within, -⟩ := apart (by decide)
  refine ⟨named, fit, named', fit', home_eq, within, ?_⟩
  have path_eq : "/lib/../base/0.11.1/util/.x/B.mo" =
      g.home "base" "0.11.1" ++ "/" ++ "util/.x/B.mo" := by
    decide +kernel
  rw [path_eq, leads]
  decide +kernel

end Gateway

end CompilerGateway
