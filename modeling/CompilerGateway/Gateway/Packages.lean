import CompilerGateway.Gateway.Operations
import CompilerGateway.Package.LocalTree
import CompilerGateway.Package.Window

/-!
# Packages of a gateway

A package is a virtual directory that is registered under a name. The gateway keeps account of
the registrations that the backend accepted from it.

`Gateway.load` fetches several packages and installs them, all or none. Nothing is written
before every package has been fetched and found fit to be installed (`Gateway.install` looks
at all of them first). An installation writes the files of one package after the other, in
the order of the names, and registers each; if one of these requests fails, the registrations
are brought back to what they were – all are dropped, and the earlier ones made again – and
the failure is the result. Failures on the way back only go to the log.
-/

namespace CompilerGateway

/-- A source of packages. It may answer one descriptor differently each time: a fetch is told
from the others by the name that the package is requested under, if it is one of several. -/
structure Fetcher where
  /-- What a fetch comes to. -/
  fetch : Option String → Descriptor → Except FetchError FetchedPackage
  /-- What the log is let know of at the end of a fetch. -/
  notes : Option String → Descriptor → List Event
  /-- None of that is about requests to a backend. -/
  notes_apart : ∀ name descriptor, ∀ event ∈ notes name descriptor, event.isOfRequest = false

namespace Fetcher

/-- A fetcher of which the log knows nothing, and which answers a descriptor always alike. -/
def quiet (fetch : Descriptor → Except FetchError FetchedPackage) : Fetcher where
  fetch _ := fetch
  notes _ _ := []
  notes_apart := by simp

/-- Fetches from the directories of a file system. -/
def ofFileSystem (extensions : List String) (fs : FileSystem) : Fetcher where
  fetch _ := fs.fetch extensions
  notes _ descriptor :=
    match descriptor, fs.fetch extensions descriptor with
    | .directory path, .ok package => [.packageRead path package.files.size]
    | _, _ => []
  notes_apart := by
    intro name descriptor event h
    split at h
    · rw [List.mem_singleton.mp h]
      rfl
    · cases h

/-- The events that belong to a milestone. -/
def events (fetcher : Fetcher) : Milestone → List Event
  | .started name descriptor => [.fetchingNamed name descriptor]
  | .finished name descriptor => fetcher.notes (some name) descriptor

theorem isOfRequest_of_mem_events {fetcher : Fetcher} {milestone : Milestone} {event : Event}
    (h : event ∈ fetcher.events milestone) : event.isOfRequest = false := by
  cases milestone with
  | started name descriptor =>
    rw [List.mem_singleton.mp h]
    rfl
  | finished name descriptor => exact fetcher.notes_apart _ _ _ h

end Fetcher

namespace Gateway

variable {σ : Type} [Backend σ]

/-! ### Registrations -/

/-- Registers a directory under a name. The account changes only if the backend accepts. -/
def register (g : Gateway σ) (name directory : String) : Except Failure Unit × Gateway σ :=
  match (g.log (.registering name directory)).exchange (.addPackage name directory) with
  | (.ok _, g) => (.ok (), { g with packages := g.packages.insert name directory })
  | (.error failure, g) => (.error failure, g)

/-- Drops all registrations. The account changes only if the backend does so. -/
def unregisterAll (g : Gateway σ) : Except Failure Unit × Gateway σ :=
  match (g.log .clearing).exchange .clearPackage with
  | (.ok _, g) => (.ok (), { g with packages := .empty })
  | (.error failure, g) => (.error failure, g)

/-! ### Installation -/

/-- The directory that a package is installed in. -/
def installPath (g : Gateway σ) (name version : String) : String :=
  VirtualPath.join (VirtualPath.join g.settings.root name) version

/-- Writes files below a directory, up to the first failure. -/
def writeFiles (directory : String) :
    List (String × String) → Gateway σ → Except Failure Unit × Gateway σ
  | [], g => (.ok (), g)
  | (key, content) :: rest, g =>
    match g.write (VirtualPath.join directory key) content.toUTF8 with
    | (.error failure, g) => (.error failure, g)
    | (.ok (), g) => writeFiles directory rest g

/-- Writes the files of a package and registers it. -/
def place (name : String) (package : FetchedPackage) (g : Gateway σ) :
    Except Failure Unit × Gateway σ :=
  let directory := g.installPath name package.version
  match writeFiles directory package.files.entries g with
  | (.error failure, g) => (.error failure, g)
  | (.ok (), g) => g.register name directory

/-- Registers packages again, going on after failures. -/
def registerAll : List (String × String) → Gateway σ → Gateway σ
  | [], g => g
  | (name, directory) :: rest, g =>
    match g.register name directory with
    | (.ok (), g) => registerAll rest g
    | (.error failure, g) => registerAll rest (g.log (.restoreFailed name failure))

/-- Brings the registrations back to what they were. -/
def rollBack (earlier : Table String) (g : Gateway σ) : Gateway σ :=
  match g.unregisterAll with
  | (.error failure, g) => g.log (.clearFailed failure)
  | (.ok (), g) => registerAll earlier.entries g

/-- Writes and registers packages, up to the first failure, after which the registrations are
brought back to what they were. -/
def installAll (earlier : Table String) :
    List (String × FetchedPackage) → Gateway σ → Except Failure Unit × Gateway σ
  | [], g => (.ok (), g)
  | (name, package) :: rest, g =>
    match place name package g with
    | (.ok (), g) => installAll earlier rest g
    | (.error failure, g) =>
      (.error failure, (g.log (.installFailed name failure)).rollBack earlier)

/-- The first of several packages that may not be installed, with what is wrong with it. -/
def contentFailure? (packages : Table FetchedPackage) : Option Failure :=
  packages.entries.findSome? fun (name, package) =>
    package.fault?.map (.badContent name)

/-- Installs packages, if all of them may be. -/
def install (packages : Table FetchedPackage) (g : Gateway σ) :
    Except Failure Unit × Gateway σ :=
  match contentFailure? packages with
  | some failure => (.error failure, g)
  | none => installAll g.packages packages.entries g

/-! ### Fetching -/

omit [Backend σ] in
/-- Fetches one package, without installing it. -/
def fetch (g : Gateway σ) (fetcher : Fetcher) (descriptor : Descriptor) :
    Except Failure FetchedPackage × Gateway σ :=
  let g := (g.log (.fetching descriptor)).logAll (fetcher.notes none descriptor)
  match fetcher.fetch none descriptor with
  | .ok package => (.ok package, g)
  | .error error => (.error (.notFetched error), g)

/-- What loading came to. -/
structure Loading (σ : Type) where
  /-- The result, unless the caller stopped waiting. -/
  result : Option (Except Failure Unit)
  /-- What happened to the fetches. -/
  milestones : List Milestone
  /-- The gateway afterwards. -/
  gateway : Gateway σ

/-- The least of several names that cannot name a package, with what is wrong with it. -/
def nameFailure? (requested : Table Descriptor) : Option Failure :=
  requested.names.findSome? fun name => (nameFault? name).map (.badName name)

/-- Fetches packages through a window, things happening in the order of `moves`, and installs
them. Of several requests for one name the last one counts. -/
def load (g : Gateway σ) (fetcher : Fetcher) (requests : List (String × Descriptor))
    (moves : List Move) : Loading σ :=
  let requested := Table.ofList requests
  match nameFailure? requested with
  | some failure => ⟨some (.error failure), [], g⟩
  | none =>
    let (milestones, harvest) :=
      Window.run (fun name => fetcher.fetch (some name)) moves
        (Window.opening g.settings.room requested)
    let g := g.logAll (milestones.flatMap fetcher.events)
    match harvest with
    | .abandoned => ⟨none, milestones, g⟩
    | .failed error => ⟨some (.error (.notFetched error)), milestones, g⟩
    | .complete packages =>
      let (result, g) := g.install packages
      ⟨some result, milestones, g⟩

end Gateway

end CompilerGateway
