import CompilerGateway.Gateway.Operations

/-!
# Entry points

The file through which a directory is used, if there is exactly one choice. Candidates have
ranks: a file with a conventional name in the directory itself comes before one in its source
directory, and both come before the only source file of the directory – a rank that libraries
do not have. Of the candidates that are left when those within a package other than the
directory's own are gone, those of the best rank count, and if there is not exactly one of
them there is no entry point.

`EntryPoint.choose` makes the choice from listings; `Gateway.entryPoint` asks the backend
for the listings. A directory that cannot be listed counts as empty.
-/

namespace CompilerGateway

namespace EntryPoint

/-! ### Candidates -/

/-- The conventional names of main files. -/
def mainNames : List String := ["main.mo", "Main.mo"]

/-- The conventional names of library files. -/
def libraryNames : List String := ["lib.mo", "Lib.mo"]

/-- The conventional names of a role. -/
def names : EntryRole → List String
  | .main => mainNames
  | .library => libraryNames

/-- The name of the source directory. -/
def sourceDirectory : String := "src"

/-- What the names of source files end with. -/
def sourceEnding : String := ".mo"

/-- A possible entry point; lower ranks are better. -/
structure Candidate where
  /-- The path of the file. -/
  path : String
  /-- Its rank. -/
  rank : Nat
  deriving DecidableEq

/-- The entries of a directory that have a conventional name. -/
def named (role : EntryRole) (directory : String) (entries : List String) (rank : Nat) :
    List Candidate :=
  (entries.filter fun entry => (names role).contains entry).map fun entry =>
    ⟨VirtualPath.join directory entry, rank⟩

/-- Whether an entry is a source file and not a library file. -/
def isLoneSource (entry : String) : Bool :=
  sourceEnding.toList.isSuffixOf entry.toList && !libraryNames.contains entry

/-- The source file of a directory that has only one, library files aside. -/
def lone (directory : String) (entries : List String) : List Candidate :=
  match entries.filter isLoneSource with
  | [only] => [⟨VirtualPath.join directory only, 2⟩]
  | _ => []

/-- The candidates of a directory with the given entries, whose source directory has the
entries `nested`. -/
def candidates (role : EntryRole) (directory : String) (entries nested : List String) :
    List Candidate :=
  named role directory entries 0
    ++ (if entries.contains sourceDirectory then
          named role (VirtualPath.join directory sourceDirectory) nested 1
        else [])
    ++ (match role with
        | .main => lone directory entries
        | .library => [])

/-! ### The choice -/

/-- Whether a path lies within a package that the directory does not lie in. -/
def isHidden (packages : Table String) (directory path : String) : Bool :=
  packages.values.any fun package =>
    VirtualPath.isWithin path package && !VirtualPath.isWithin directory package

/-- The path of the only candidate of the best rank. -/
def soleBest (found : List Candidate) : Option String :=
  match (found.map Candidate.rank).min? with
  | none => none
  | some best =>
    match found.filter (fun candidate => candidate.rank == best) with
    | [only] => some only.path
    | _ => none

/-- The entry point of a directory. -/
def choose (role : EntryRole) (packages : Table String) (directory : String)
    (entries nested : List String) : Option String :=
  soleBest ((candidates role directory entries nested).filter fun candidate =>
    !isHidden packages directory candidate.path)

end EntryPoint

namespace Gateway

variable {σ : Type} [Backend σ]

/-! ### Asking the backend -/

/-- The entries of a directory, or none if it cannot be listed. -/
def listing (g : Gateway σ) (directory : String) : List String × Gateway σ :=
  match g.list directory with
  | (.ok entries, g) => (entries, g)
  | (.error failure, g) => ([], g.log (.directoryUnavailable directory failure))

/-- The entry point of a directory. The source directory is listed only if the directory has
an entry of that name. -/
def entryPoint (g : Gateway σ) (role : EntryRole) (directory : String) :
    Option String × Gateway σ :=
  let (entries, g) := g.listing directory
  let (nested, g) :=
    if entries.contains EntryPoint.sourceDirectory then
      g.listing (VirtualPath.join directory EntryPoint.sourceDirectory)
    else ([], g)
  let resolved := EntryPoint.choose role g.packages directory entries nested
  (resolved, g.log (.entryResolved directory role resolved))

/-- The main file of a directory. -/
def mainFile (g : Gateway σ) (directory : String) : Option String × Gateway σ :=
  g.entryPoint .main directory

/-- The library file of a directory. -/
def libraryFile (g : Gateway σ) (directory : String) : Option String × Gateway σ :=
  g.entryPoint .library directory

end Gateway

end CompilerGateway
