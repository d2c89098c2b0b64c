import CompilerGateway.Proofs.CompleteLoad
import CompilerGateway.Proofs.Invocation
import CompilerGateway.Proofs.LocalFiles

/-!
# Loads from local directories

Where packages are read from directories, hardly anything can be wrong with what was fetched.
The version is always the same and is in order, and the parts of a key are names that a directory
has listed: of all that a key is checked for, only a backslash can be in such a name
(`CompilerGateway.FileSystem.fit_iff_of_package`).

So a load of such packages fails over its contents if and only if all directories could be read and
some file that is taken from one of them has a backslash on the way to it; and when it goes
through, every file that is taken is where it belongs, with its very bytes
(`CompilerGateway.Gateway.load_local`).
-/

namespace CompilerGateway

/-- **A package of a directory may be installed** if and only if no name on the way to one of its
files has a backslash in it. -/
theorem FileSystem.fit_iff_of_package {fs : FileSystem} {extensions : List String}
    {path : HostPath} {package : FetchedPackage} (listed : fs.Listed)
    (made : fs.package extensions path = .ok package) :
    package.Fit ↔ ∀ names content, fs.TakesAt extensions path names content →
      ∀ part ∈ names, '\\' ∉ part.toList := by
  constructor
  · intro fit names content takes
    have mem := (mem_names_files_iff listed made).mpr ⟨names, content, takes, rfl⟩
    exact (takes.keyFault?_eq_none_iff listed).mp (fit.keys _ mem)
  · intro plain
    obtain ⟨_, -, -, version_eq, -⟩ := exists_of_package listed made
    refine ⟨version_eq ▸ nameFault?_localVersion, fun key mem => ?_⟩
    obtain ⟨names, content, takes, rfl⟩ := (mem_names_files_iff listed made).mp mem
    exact (takes.keyFault?_eq_none_iff listed).mpr (plain names content takes)

namespace Gateway

section Delivered

variable {σ : Type} [Backend σ] {g : Gateway σ} {fetcher : Fetcher}
  {requests : List (String × Descriptor)} {moves : List Move}

/-- **What a load has done that went through**: packages that are in order were delivered, and
they are what the last descriptors of the requested names were fetched as. -/
theorem exists_delivered_of_ok (ok : (g.load fetcher requests moves).result = some (.ok ())) :
    ∃ placed : Table FetchedPackage,
      (∀ name descriptor, requests.reverse.lookup name = some descriptor →
        ∃ package, fetcher.fetch (some name) descriptor = .ok package ∧
          placed.find? name = some package) ∧
      (∀ name package, placed.find? name = some package →
        nameFault? name = none ∧ package.Fit) ∧
      Backend.Granted (placed.entries.flatMap g.delivery) g.backend ∧
      g.Leads (placed.entries.flatMap g.delivery) (g.load fetcher requests moves).gateway := by
  obtain ⟨milestones, placed, named, fetched, fit, granted, leads⟩ := exists_placed_of_ok ok
  obtain ⟨ended, kept⟩ := Window.complete_run_opening fetched
  have ordered := ordered_of_fetched named fetched fit
  rw [flatMap_placement_eq g ordered] at granted leads
  refine ⟨placed, fun name descriptor asked => ?_, ordered, granted, leads⟩
  rw [← Table.find?_ofList] at asked
  obtain ⟨-, package, isOk⟩ := ended name descriptor asked
  exact ⟨package, isOk, (kept name package).mpr ⟨descriptor, asked, isOk⟩⟩

end Delivered

section Local

variable {σ : Type} [Backend σ] {g : Gateway σ} {fs : FileSystem} {extensions : List String}
  {requests : List (String × Descriptor)} {moves : List Move}

/-- What is asked for last has been asked for. -/
theorem mem_of_lookup_reverse {name : String} {descriptor : Descriptor}
    (asked : requests.reverse.lookup name = some descriptor) : (name, descriptor) ∈ requests := by
  obtain ⟨before, after, split, -⟩ := List.lookup_eq_some_iff.mp asked
  rw [← List.mem_reverse, split]
  exact List.mem_append_right _ List.mem_cons_self

/-- If the contents of a package are objected to, all packages have been fetched. -/
theorem exists_package_of_badContent
    (named : ∀ name ∈ requests.map Prod.fst, nameFault? name = none) {fetcher : Fetcher}
    {name : String} {fault : ContentFault}
    (objected : (g.load fetcher requests moves).result = some (.error (.badContent name fault))) :
    ∀ name descriptor, (Table.ofList requests).find? name = some descriptor →
      ∃ package, fetcher.fetch (some name) descriptor = .ok package := by
  intro other descriptor asked
  have awaited : (g.load fetcher requests moves).result ≠ none := by
    rw [objected]
    exact Option.some_ne_none _
  cases fetched : fetcher.fetch (some other) descriptor with
  | ok package => exact ⟨package, rfl⟩
  | error error =>
    obtain ⟨_, failed⟩ :=
      (load_notFetched_iff named awaited).mpr ⟨other, descriptor, error, asked, fetched⟩
    cases objected.symm.trans failed

/-- **A load from directories fails over its contents** if and only if all of them could be read
and there is a backslash on the way to a file that is taken. -/
theorem load_local_badContent_iff (listed : fs.Listed)
    (directories : ∀ request ∈ requests, ∃ path, request.2 = .directory path)
    (named : ∀ name ∈ requests.map Prod.fst, nameFault? name = none)
    (awaited : (g.load (.ofFileSystem extensions fs) requests moves).result ≠ none) :
    (∃ name fault, (g.load (.ofFileSystem extensions fs) requests moves).result =
        some (.error (.badContent name fault))) ↔
      (∀ name path, requests.reverse.lookup name = some (.directory path) →
        ∃ package, fs.package extensions path = .ok package) ∧
      ∃ name path names content, requests.reverse.lookup name = some (.directory path) ∧
        fs.TakesAt extensions path names content ∧ ∃ part ∈ names, '\\' ∈ part.toList := by
  constructor
  · rintro ⟨name, fault, objected⟩
    have allOk := exists_package_of_badContent named objected
    obtain ⟨other, descriptor, package, asked, made, unfit⟩ :=
      (load_exists_badContent_iff named allOk awaited).mp ⟨name, fault, objected⟩
    rw [Table.find?_ofList] at asked
    obtain ⟨path, rfl⟩ := directories _ (mem_of_lookup_reverse asked)
    have made : fs.package extensions path = .ok package := made
    rw [FileSystem.fit_iff_of_package listed made] at unfit
    obtain ⟨names, content, takes, part, mem, back⟩ : ∃ names content,
        fs.TakesAt extensions path names content ∧ ∃ part ∈ names, '\\' ∈ part.toList := by
      simpa using unfit
    refine ⟨fun name path asked => ?_, other, path, names, content, asked, takes, part, mem, back⟩
    exact allOk name (.directory path) (by rwa [Table.find?_ofList])
  · rintro ⟨read, name, path, names, content, asked, takes, part, mem, back⟩
    have allOk : ∀ name descriptor, (Table.ofList requests).find? name = some descriptor →
        ∃ package, (Fetcher.ofFileSystem extensions fs).fetch (some name) descriptor =
          .ok package := by
      intro name descriptor asked
      rw [Table.find?_ofList] at asked
      obtain ⟨path, rfl⟩ := directories _ (mem_of_lookup_reverse asked)
      exact read name path asked
    obtain ⟨package, made⟩ := read name path asked
    refine (load_exists_badContent_iff named allOk awaited).mpr
      ⟨name, .directory path, package, by rwa [Table.find?_ofList], made, fun fit => ?_⟩
    exact (FileSystem.fit_iff_of_package listed made).mp fit names content takes part mem back

end Local

variable {σ : Type} [Backend σ]

/-- **A load from directories that goes through** has brought every file that is taken to its
place below the root, with the bytes that it has. -/
theorem load_local_delivers {g : Gateway (Recorded σ)} {fs : FileSystem} {extensions : List String}
    {requests : List (String × Descriptor)} {moves : List Move} (listed : fs.Listed)
    (ok : (g.load (.ofFileSystem extensions fs) requests moves).result = some (.ok ()))
    {name : String} {path : HostPath} {names : List String} {content : ByteArray}
    (asked : requests.reverse.lookup name = some (.directory path))
    (takes : fs.TakesAt extensions path names content) :
    let loading := g.load (.ofFileSystem extensions fs) requests moves
    let target :=
      VirtualPath.below g.settings.root (name ++ "/local/" ++ "/".intercalate names)
    ∃ text, text.toUTF8 = content ∧
      ⟨.saveFile target text, none⟩ ∈ loading.gateway.exchanges.drop g.exchanges.length ∧
      ∀ current, g.backend = some current → ∃ next, loading.gateway.backend = some next ∧
        ∀ files : σ → Table String, Backend.Stores files →
          (files next.backend).find? target = some text := by
  intro loading target
  obtain ⟨placed, fetched, ordered, granted, leads⟩ := exists_delivered_of_ok ok
  obtain ⟨package, made, found⟩ := fetched name (.directory path) asked
  have made : fs.package extensions path = .ok package := made
  obtain ⟨text, isText, file⟩ := takes.exists_text listed made
  obtain ⟨_, -, -, version_eq, -⟩ := FileSystem.exists_of_package listed made
  have target_eq : g.home name package.version ++ "/" ++ "/".intercalate names = target := by
    have apart : "/local/" = "/" ++ (FileSystem.localVersion ++ "/") := rfl
    rw [home_append, version_eq]
    simp only [target, apart, String.append_assoc]
  have written : (.saveFile target text : Request) ∈ placed.entries.flatMap g.delivery := by
    refine List.mem_flatMap.mpr ⟨(name, package), Table.mem_entries_iff.mpr found, ?_⟩
    rw [← target_eq]
    exact List.mem_append_left _
      (List.mem_map.mpr ⟨("/".intercalate names, text), Table.mem_entries_iff.mpr file, rfl⟩)
  refine ⟨text, fromUTF8?_eq_some_iff.mp isText, ?_, fun current present => ?_⟩
  · rw [leads.exchanges_of_granted granted, List.drop_left]
    exact List.mem_map.mpr ⟨_, written, rfl⟩
  · have backend_eq := leads.backend_eq
    rw [present] at granted backend_eq
    obtain ⟨next, reached⟩ :=
      Backend.exists_after_some (placed.entries.flatMap g.delivery) current
    refine ⟨next, backend_eq.trans reached, fun files stored => ?_⟩
    obtain ⟨held, -⟩ := files_of_delivered stored.recorded ordered granted reached
    rw [← target_eq]
    exact held name package _ text found file

/-- **Loads from local directories.** A package that can be made of a directory has a version that
is in order and the files that are taken, and of the keys of these just those are refused that have
a backslash in them. So, where the names are in order, the load fails over the contents of a
package if and only if all directories could be read and there is a backslash on the way to a file
that is taken from one of them. And if the load goes through, it has written every such file, with
its very bytes, to where it belongs below the fs. -/
theorem load_local (g : Gateway (Recorded σ)) {fs : FileSystem} (listed : fs.Listed)
    (extensions : List String) {requests : List (String × Descriptor)}
    (directories : ∀ request ∈ requests, ∃ path, request.2 = .directory path)
    (moves : List Move) :
    let loading := g.load (.ofFileSystem extensions fs) requests moves
    (∀ path package, fs.package extensions path = .ok package →
      nameFault? package.version = none ∧
      (∀ key text, package.files.find? key = some text ↔
        ∃ names content, fs.TakesAt extensions path names content ∧
          key = "/".intercalate names ∧ text.toUTF8 = content) ∧
      ∀ key ∈ package.files.names,
        keyFault? key = none ↔ ∀ part ∈ Text.pieces '/' key, '\\' ∉ part.toList) ∧
    ((∀ name ∈ requests.map Prod.fst, nameFault? name = none) → loading.result ≠ none →
      ((∃ name fault, loading.result = some (.error (.badContent name fault))) ↔
        (∀ name path, requests.reverse.lookup name = some (.directory path) →
          ∃ package, fs.package extensions path = .ok package) ∧
        ∃ name path names content, requests.reverse.lookup name = some (.directory path) ∧
          fs.TakesAt extensions path names content ∧ ∃ part ∈ names, '\\' ∈ part.toList)) ∧
    (loading.result = some (.ok ()) → ∀ name path names content,
      requests.reverse.lookup name = some (.directory path) →
      fs.TakesAt extensions path names content →
      let target :=
        VirtualPath.below g.settings.root (name ++ "/local/" ++ "/".intercalate names)
      ∃ text, text.toUTF8 = content ∧
        ⟨.saveFile target text, none⟩ ∈ loading.gateway.exchanges.drop g.exchanges.length ∧
        ∀ current, g.backend = some current → ∃ next, loading.gateway.backend = some next ∧
          ∀ files : σ → Table String, Backend.Stores files →
            (files next.backend).find? target = some text) := by
  intro loading
  refine ⟨fun path package made => ⟨?_, fun key text => ?_, fun key mem => ?_⟩,
    fun named awaited => load_local_badContent_iff listed directories named awaited,
    fun ok name path names content asked takes => load_local_delivers listed ok asked takes⟩
  · obtain ⟨_, -, -, version_eq, -⟩ := FileSystem.exists_of_package listed made
    exact version_eq ▸ FileSystem.nameFault?_localVersion
  · simp only [FileSystem.find?_files_iff listed made, fromUTF8?_eq_some_iff]
  · obtain ⟨names, content, takes, rfl⟩ := (FileSystem.mem_names_files_iff listed made).mp mem
    rw [takes.pieces_eq listed]
    exact takes.keyFault?_eq_none_iff listed

/-- A directory above the working directory is loaded that has a file with a backslash in its name
further down, and two more that do not count, as one of them is hidden and the other one is not
asked for. The load reports that the package is not in order. -/
theorem load_local_backslash :
    let vendor : List (String × Tree) :=
      [(".a\\b.mo", .file "module C".toUTF8), ("a.mo", .file "module A".toUTF8),
        ("lib", .directory [("a\\b.mo", .file "module B".toUTF8)]),
        ("a\\b.txt", .file "notes".toUTF8)]
    let fs : FileSystem :=
      ⟨[("home", .directory []), ("srv", .directory [("vendor", .directory vendor)])], ["home"]⟩
    let requests := [("base", Descriptor.directory "/srv/../srv/vendor/")]
    let moves : List Move := [.start, .finish "base"]
    let g : Gateway (Recorded Unscripted) :=
      ⟨"0.14.0", .standard, some (.fresh (.ofFiles .empty)), .empty, []⟩
    let loading := g.load (.ofFileSystem Tree.sourceExtensions fs) requests moves
    fs.Listed ∧ (∀ request ∈ requests, ∃ path, request.2 = .directory path) ∧
      (∀ name ∈ requests.map Prod.fst, nameFault? name = none) ∧ loading.result ≠ none ∧
      ∃ name fault, loading.result = some (.error (.badContent name fault)) := by
  intro vendor fs requests moves g loading
  let files := Table.ofList [("a.mo", "module A"), ("lib/a\\b.mo", "module B")]
  let package : FetchedPackage := ⟨"vendor", "local", files⟩
  have directories : ∀ request ∈ requests, ∃ path, request.2 = .directory path := by
    simp [requests]
  have named : ∀ name ∈ requests.map Prod.fst, nameFault? name = none := by decide +kernel
  have lib : Tree.Listed (.directory [("a\\b.mo", .file "module B".toUTF8)]) :=
    .cons (by decide +kernel) (by decide +kernel) (.file _) .nil
  have held : Tree.Listed (.directory vendor) :=
    .cons (by decide +kernel) (by decide +kernel) (.file _) <|
    .cons (by decide +kernel) (by decide +kernel) (.file _) <|
    .cons (by decide +kernel) (by decide +kernel) lib <|
    .cons (by decide +kernel) (by decide +kernel) (.file _) .nil
  have srv : Tree.Listed (.directory [("vendor", .directory vendor)]) :=
    .cons (by decide +kernel) (by decide +kernel) held .nil
  have listed : fs.Listed :=
    .cons (by decide +kernel) (by decide +kernel) .nil <|
    .cons (by decide +kernel) (by decide +kernel) srv .nil
  have resolved : fs.resolve "/srv/../srv/vendor/" = .ok (.directory vendor) := by
    have parts_eq : Text.pieces '/' "/srv/../srv/vendor/" =
        ["", "srv", "..", "srv", "vendor", ""] := by decide +kernel
    have rooted : Tree.isRooted "/srv/../srv/vendor/" = true := by decide +kernel
    rw [FileSystem.resolve_text (by decide +kernel) (by decide +kernel) (by decide +kernel)]
    simp [FileSystem.locateParts, parts_eq, rooted, fs, Tree.follow, Table.findEntry,
      Tree.longestName]
    rfl
  have takes : fs.TakesAt Tree.sourceExtensions "/srv/../srv/vendor/" ["lib", "a\\b.mo"]
      "module B".toUTF8 := by
    refine ⟨vendor, resolved, .deeper (by simp [vendor]; rfl) (by decide +kernel) ?_⟩
    exact .file List.mem_cons_self (by decide +kernel) (by decide +kernel)
  have made : fs.package Tree.sourceExtensions "/srv/../srv/vendor/" = .ok package := by
    have gathered : Tree.collectEntries Tree.sourceExtensions "/srv/../srv/vendor/"
        "/srv/../srv/vendor/" .empty vendor = .ok files := rfl
    exact FileSystem.package_eq_ok_iff.mpr ⟨vendor, files, _, rfl, resolved, gathered, rfl⟩
  have awaited : loading.result ≠ none := by
    show (g.load _ _ _).result ≠ none
    rw [load_of_complete rfl (g.fetching_single made)]
    exact Option.some_ne_none _
  have read : ∀ name path, requests.reverse.lookup name = some (.directory path) →
      ∃ package, fs.package Tree.sourceExtensions path = .ok package := by
    intro name path asked
    cases List.mem_singleton.mp (mem_of_lookup_reverse asked)
    exact ⟨package, made⟩
  obtain ⟨-, onNamed, -⟩ := g.load_local listed Tree.sourceExtensions directories moves
  exact ⟨listed, directories, named, awaited, (onNamed named awaited).mpr
    ⟨read, "base", "/srv/../srv/vendor/", _, _, rfl, takes, "a\\b.mo", by simp,
      by decide +kernel⟩⟩

end Gateway

end CompilerGateway
