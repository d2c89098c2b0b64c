import CompilerGateway.Session
import Mathlib.Data.List.Forall2

/-!
# What is left where contents are blanked out

Contents are the texts of files, of sources and of interfaces, and metadata. This file says when
two things are **alike**, that is, the same but for contents: requests
(`CompilerGateway.Request.Alike`), actions (`CompilerGateway.Action.Alike`,
`CompilerGateway.FileAction.Alike`), fetchers (`CompilerGateway.Fetcher.Alike`) and the steps of a
session (`CompilerGateway.Step.Alike`).

Packages have contents in a table, and can have them blanked out
(`CompilerGateway.FetchedPackage.blank`). Fetching packages and blanking them out is fetching blank
ones, whatever happens in what order (`CompilerGateway.Window.run_blank`), and whether packages may
be installed can be told from the blank ones (`CompilerGateway.Gateway.contentFailure?_blank`).
-/

namespace CompilerGateway

/-! ### Requests and actions -/

/-- **Requests that are the same but for contents.** -/
inductive Request.Alike : Request → Request → Prop where
  /-- Any request is like itself. -/
  | same (request : Request) : Alike request request
  /-- The same file is given another content. -/
  | saveFile (path content content' : String) :
    Alike (.saveFile path content) (.saveFile path content')
  /-- Other metadata is marked as public. -/
  | setPublicMetadata (values values' : String) :
    Alike (.setPublicMetadata values) (.setPublicMetadata values')
  /-- Another source text is parsed. -/
  | parseMotoko (content content' : String) : Alike (.parseMotoko content) (.parseMotoko content')
  /-- Another source text is parsed and typed. -/
  | parseMotokoTypes (content content' : String) :
    Alike (.parseMotokoTypes content) (.parseMotokoTypes content')
  /-- Another interface is parsed. -/
  | parseCandid (content content' : String) : Alike (.parseCandid content) (.parseCandid content')

theorem Request.Alike.operation_eq {request request' : Request} (alike : request.Alike request') :
    request'.operation = request.operation := by
  cases alike <;> rfl

/-- **Actions that are the same but for contents.** What is written is text either time. -/
inductive Action.Alike : Action → Action → Prop where
  /-- Any action is like itself. -/
  | same (action : Action) : Alike action action
  /-- Another text is written to the same file. -/
  | write (path text text' : String) : Alike (.write path text.toUTF8) (.write path text'.toUTF8)
  /-- Another source text is parsed. -/
  | sourceTree (content content' : String) : Alike (.sourceTree content) (.sourceTree content')
  /-- Another source text is parsed and typed. -/
  | typedSourceTree (content content' : String) :
    Alike (.typedSourceTree content) (.typedSourceTree content')
  /-- Another interface is parsed. -/
  | interfaceTree (content content' : String) :
    Alike (.interfaceTree content) (.interfaceTree content')
  /-- Other metadata is marked as public. -/
  | setMetadata (values values' : String) : Alike (.setMetadata values) (.setMetadata values')

/-- **Operations of a handle that are the same but for contents.** -/
inductive FileAction.Alike : FileAction → FileAction → Prop where
  /-- Any operation is like itself. -/
  | same (action : FileAction) : Alike action action
  /-- Another text is written. -/
  | write (text text' : String) : Alike (.write text.toUTF8) (.write text'.toUTF8)

/-! ### Packages -/

namespace Table

variable {α β : Type}

@[simp] theorem names_map (f : α → β) (t : Table α) : (t.map f).names = t.names := by
  rw [names, names, map, List.map_map]
  rfl

theorem map_insert (f : α → β) (t : Table α) (name : String) (value : α) :
    (t.insert name value).map f = (t.map f).insert name (f value) := by
  refine ext_find? fun asked => ?_
  rw [find?_map, find?_insert, find?_insert, find?_map]
  split <;> rfl

end Table

namespace FetchedPackage

/-- **The package with its contents blanked out**: its name, its version and the keys of its files
are left. -/
def blank (package : FetchedPackage) : FetchedPackage :=
  { package with files := package.files.map fun _ => "" }

theorem blank_eq_blank_iff {package package' : FetchedPackage} :
    package.blank = package'.blank ↔ package.name = package'.name ∧
      package.version = package'.version ∧ package.files.names = package'.files.names := by
  obtain ⟨name, version, files⟩ := package
  obtain ⟨name', version', files'⟩ := package'
  have keys : (files.map fun _ => "") = (files'.map fun _ => "") ↔ files.names = files'.names := by
    constructor
    · intro same
      simpa using congrArg Table.names same
    · intro same
      refine Table.ext ?_
      have entries := congrArg (List.map fun key : String => (key, "")) same
      rw [Table.names, Table.names, List.map_map, List.map_map] at entries
      exact entries
  simp [blank, keys]

theorem names_blank (package : FetchedPackage) : package.blank.files.names = package.files.names :=
  Table.names_map _ _

theorem fault?_blank (package : FetchedPackage) : package.blank.fault? = package.fault? := by
  rw [fault?, fault?, names_blank]
  rfl

end FetchedPackage

/-- Whether packages may be installed can be told without their contents. -/
theorem Gateway.contentFailure?_blank (packages : Table FetchedPackage) :
    contentFailure? (packages.map FetchedPackage.blank) = contentFailure? packages := by
  rw [contentFailure?, contentFailure?, Table.map, List.findSome?_map]
  simp only [Function.comp_def, FetchedPackage.fault?_blank]

/-! ### Fetching -/

/-- The harvest with all contents blanked out. -/
def Harvest.blank : Harvest → Harvest
  | .complete packages => .complete (packages.map FetchedPackage.blank)
  | .failed error => .failed error
  | .abandoned => .abandoned

namespace Window

variable {fetch : String → Descriptor → Except FetchError FetchedPackage}

/-- The window with all contents blanked out. -/
def blank (w : Window) : Window := { w with collected := w.collected.map FetchedPackage.blank }

theorem blank_opening (room : Nat) (requested : Table Descriptor) :
    (opening room requested).blank = opening room requested := rfl

theorem start?_blank (w : Window) :
    w.blank.start? = w.start?.map fun (milestone, next) => (milestone, next.blank) := by
  obtain ⟨room, waiting, running, collected⟩ := w
  cases waiting with
  | nil => rfl
  | cons request rest =>
    by_cases fits : running.length < room
    · simp [start?, blank, fits]
    · simp [start?, blank, fits]

/-- Blank packages are collected where packages are. -/
theorem finish?_blank (w : Window) (name : String) :
    w.blank.finish? (fun name descriptor => (fetch name descriptor).map FetchedPackage.blank) name =
      (w.finish? fetch name).map fun (milestone, next) => (milestone, next.map blank) := by
  obtain ⟨room, waiting, running, collected⟩ := w
  simp only [finish?, blank]
  cases running.find? fun request => request.1 == name with
  | none => rfl
  | some request =>
    dsimp only
    cases fetch name request.2 with
    | error error => rfl
    | ok package => simp [Except.map, blank, Table.map_insert]

theorem move?_blank (w : Window) (move : Move) :
    w.blank.move? (fun name descriptor => (fetch name descriptor).map FetchedPackage.blank) move =
      (w.move? fetch move).map fun (milestone, next) => (milestone, next.map blank) := by
  cases move with
  | start =>
    rw [move?, move?, start?_blank]
    cases w.start? <;> rfl
  | finish name => exact w.finish?_blank name

/-- **Fetching packages and blanking them out is fetching blank ones.** -/
theorem run_blank (moves : List Move) (w : Window) :
    run (fun name descriptor => (fetch name descriptor).map FetchedPackage.blank) moves w.blank =
      ((run fetch moves w).1, (run fetch moves w).2.blank) := by
  induction moves generalizing w with
  | nil =>
    have done : w.blank.isDone = w.isDone := rfl
    rw [run, run, done]
    cases w.isDone <;> rfl
  | cons move rest ih =>
    rw [run, run, move?_blank]
    rcases w.move? fetch move with - | ⟨milestone, error | next⟩
    · exact ih w
    · rfl
    · exact congrArg (fun outcome => (milestone :: outcome.1, outcome.2)) (ih next)

end Window

namespace Fetcher

/-- **Fetchers whose packages are the same but for contents**, and that let the log know of the
same things. -/
def Alike (fetcher fetcher' : Fetcher) : Prop :=
  ∀ name descriptor, fetcher.notes name descriptor = fetcher'.notes name descriptor ∧
    (fetcher.fetch name descriptor).map FetchedPackage.blank =
      (fetcher'.fetch name descriptor).map FetchedPackage.blank

/-- What is noted of packages that are read from directories does not depend on their contents. -/
theorem alike_ofFileSystem {extensions : List String} {fs fs' : FileSystem}
    (same : ∀ descriptor, (fs.fetch extensions descriptor).map FetchedPackage.blank =
      (fs'.fetch extensions descriptor).map FetchedPackage.blank) :
    (ofFileSystem extensions fs).Alike (ofFileSystem extensions fs') := by
  refine fun name descriptor => ⟨?_, same descriptor⟩
  have fetched := same descriptor
  simp only [ofFileSystem]
  cases descriptor with
  | repository => rfl
  | directory path =>
    cases found : fs.fetch extensions (.directory path) with
    | error error =>
      cases found' : fs'.fetch extensions (.directory path) with
      | error error' => rfl
      | ok package' =>
        rw [found, found'] at fetched
        cases fetched
    | ok package =>
      cases found' : fs'.fetch extensions (.directory path) with
      | error error' =>
        rw [found, found'] at fetched
        cases fetched
      | ok package' =>
        rw [found, found'] at fetched
        obtain ⟨-, -, keys⟩ := FetchedPackage.blank_eq_blank_iff.mp (Except.ok.inj fetched)
        have sizes := congrArg List.length keys
        simp only [Table.names, List.length_map] at sizes
        simp [Table.size, sizes]

end Fetcher

/-! ### Sessions -/

/-- **Steps that are the same but for contents.** The backends that are attached may be others. -/
inductive Step.Alike {σ τ : Type} : Step σ → Step τ → Prop where
  | attach (backend : σ) (backend' : τ) : Alike (.attach backend) (.attach backend')
  | detach : Alike .detach .detach
  | reattach : Alike .reattach .reattach
  | act {action action' : Action} : action.Alike action' → Alike (.act action) (.act action')
  | file (path : String) {actions actions' : List FileAction} :
    List.Forall₂ FileAction.Alike actions actions' →
    Alike (.file path actions) (.file path actions')
  | fetch {fetcher fetcher' : Fetcher} (descriptor : Descriptor) :
    fetcher.Alike fetcher' → Alike (.fetch fetcher descriptor) (.fetch fetcher' descriptor)
  | load {fetcher fetcher' : Fetcher} (requests : List (String × Descriptor)) (moves : List Move) :
    fetcher.Alike fetcher' → Alike (.load fetcher requests moves) (.load fetcher' requests moves)

/-- The result with the contents of a package that was fetched blanked out. No other result has
anything blanked out. -/
def Result.blank : Result → Result
  | .performed (.ok (.package package)) => .performed (.ok (.package package.blank))
  | result => result

end CompilerGateway
