import CompilerGateway.Proofs.Installation
import CompilerGateway.Proofs.PackageTable

/-!
# Loads that break off

Packages have been fetched and are fit to be installed, and then one of the requests that place
them is refused. `CompilerGateway.BreakOff` is such a load: it says which packages were placed
before that, at which package and at which of its requests it broke off, and with which failure.
An installation comes to a failure in no other way (`CompilerGateway.Gateway.exists_breakOff`).

What follows is decided by the backend alone. The requests up to the refused one have been
attempted, and one to drop all registrations is attempted next; where it is granted, every
earlier registration is attempted once more, and where it is not, nothing is
(`CompilerGateway.Gateway.load_of_breakOff`). The result is the failure that the load broke off
with, whatever happened after.
-/

namespace CompilerGateway

/-! ### What placing and going back do to the account -/

namespace Gateway

section Account

variable {σ : Type}

/-- The account after packages have been placed. -/
def overlaid (g : Gateway σ) (placed : List (String × FetchedPackage)) (packages : Table String) :
    Table String :=
  placed.foldl
    (fun packages entry => packages.insert entry.1 (g.installPath entry.1 entry.2.version)) packages

theorem replay_of_granted_writes {directory : String} {files : List (String × String)}
    {granted : List Request} (part : ∀ request ∈ granted, request ∈ writes directory files)
    (packages : Table String) :
    Attempt.replay (granted.map fun request => ⟨request, none⟩) packages = packages := by
  refine Attempt.replay_eq_self (fun a mem packages => ?_) packages
  obtain ⟨request, mem', rfl⟩ := List.mem_map.mp mem
  exact effect_of_mem_writes (part request mem') packages

theorem replay_placement (g : Gateway σ) (entry : String × FetchedPackage)
    (packages : Table String) :
    Attempt.replay ((g.placement entry).map fun request => ⟨request, none⟩) packages =
      packages.insert entry.1 (g.installPath entry.1 entry.2.version) := by
  rw [placement, List.map_append, Attempt.replay_append,
    replay_of_granted_writes fun _ mem => mem]
  rfl

theorem replay_flatMap_placement (g : Gateway σ) (placed : List (String × FetchedPackage))
    (packages : Table String) :
    Attempt.replay ((placed.flatMap g.placement).map fun request => ⟨request, none⟩) packages =
      g.overlaid placed packages := by
  induction placed generalizing packages with
  | nil => rfl
  | cons entry rest ih =>
    rw [List.flatMap_cons, List.map_append, Attempt.replay_append, replay_placement, ih]
    rfl

/-- The registration of a package is the last of its requests, so what was done before one of
them does nothing to the account. -/
theorem replay_of_placement_eq {g : Gateway σ} {entry : String × FetchedPackage}
    {done unmade : List Request} {request : Request}
    (split : g.placement entry = done ++ request :: unmade) (packages : Table String) :
    Attempt.replay (done.map fun request => ⟨request, none⟩) packages = packages := by
  -- without the registration, which cannot be before anything, there are only files left
  have files := congrArg List.dropLast split
  rw [placement, List.dropLast_concat, List.dropLast_append_cons] at files
  exact replay_of_granted_writes
    (fun request mem => files ▸ List.mem_append_left _ mem) packages

/-- Of registrations under different names, those that were granted are in the account. -/
theorem find?_replay_registrations {made : List Attempt} {entries : List (String × String)}
    (ascending : entries.Pairwise fun a b => a.1 < b.1)
    (requests_eq : made.map Attempt.request =
      entries.map fun entry => .addPackage entry.1 entry.2)
    (packages : Table String) (name directory : String) :
    (Attempt.replay made packages).find? name = some directory ↔
      ⟨.addPackage name directory, none⟩ ∈ made ∨
        packages.find? name = some directory ∧
          ∀ other, ⟨.addPackage name other, none⟩ ∉ made := by
  induction made generalizing entries packages with
  | nil => simp
  | cons a made ih =>
    obtain _ | ⟨⟨first, place⟩, rest⟩ := entries
    · cases requests_eq
    obtain ⟨request_eq, rests_eq⟩ := List.cons.inj requests_eq
    obtain ⟨above, ascending⟩ := List.pairwise_cons.mp ascending
    -- the names ascend, so the first one does not come again
    have onlyOnce : ∀ other, ⟨.addPackage first other, none⟩ ∉ made := by
      intro other mem
      have request := List.mem_map_of_mem (f := Attempt.request) mem
      rw [rests_eq] at request
      obtain ⟨entry, mem', eq⟩ := List.mem_map.mp request
      obtain ⟨same, -⟩ := Request.addPackage.inj eq
      exact String.ne_of_lt (above entry mem') same.symm
    obtain ⟨request, failure⟩ := a
    obtain rfl : request = .addPackage first place := request_eq
    rw [Attempt.replay_cons, ih ascending rests_eq]
    cases failure with
    | some failure => simp [Attempt.effect, Attempt.succeeded]
    | none =>
      by_cases same : first = name
      · subst same
        simp [Attempt.effect, Attempt.succeeded, Request.effect, onlyOnce, eq_comm]
      · have other : ¬ name = first := fun h => same h.symm
        simp [Attempt.effect, Attempt.succeeded, Request.effect, same, other]

end Account

end Gateway

/-! ### Loads that break off -/

open Gateway in
/-- **A load that breaks off**: everything is fetched and fit, and some packages are placed;
then, at the next one, some of its requests are granted and the one after these is refused. -/
structure BreakOff {σ : Type} [Backend σ] (g : Gateway σ) (fetcher : Fetcher)
    (requests : List (String × Descriptor)) (moves : List Move) where
  /-- What happened to the fetches. -/
  milestones : List Milestone
  /-- The packages that were fetched. -/
  packages : Table FetchedPackage
  /-- Those that were placed. -/
  before : List (String × FetchedPackage)
  /-- The name of the package that the load breaks off at. -/
  name : String
  /-- That package. -/
  package : FetchedPackage
  /-- The packages after it. -/
  untouched : List (String × FetchedPackage)
  /-- Of its requests, those that were granted. -/
  done : List Request
  /-- The one that was refused. -/
  refused : Request
  /-- The requests after it. -/
  unmade : List Request
  /-- The failure that the refused request came to. -/
  failure : Failure
  /-- The names that were asked for can name packages. -/
  named : nameFailure? (Table.ofList requests) = none
  /-- Everything was fetched. -/
  fetched : g.fetching fetcher requests moves = (milestones, .complete packages)
  /-- All that was fetched may be installed. -/
  fit : contentFailure? packages = none
  /-- The packages are taken in the order of their names. -/
  entries_eq : packages.entries = before ++ (name, package) :: untouched
  /-- The requests of a package are made in order. -/
  split : g.placement (name, package) = done ++ refused :: unmade
  /-- All went well up to the refused request. -/
  granted : Backend.Granted (before.flatMap g.placement ++ done) g.backend
  /-- That request did not. -/
  fails : (Backend.ask refused
    (Backend.after (before.flatMap g.placement ++ done) g.backend)).1 = some failure

namespace BreakOff

variable {σ : Type} [Backend σ] {g : Gateway σ} {fetcher : Fetcher}
  {requests : List (String × Descriptor)} {moves : List Move}

/-- The requests that are attempted before the load breaks off, the last of them in vain. -/
def made (x : BreakOff g fetcher requests moves) : List Request :=
  x.before.flatMap g.placement ++ x.done ++ [x.refused]

/-- The backend when the load breaks off. -/
def left (x : BreakOff g fetcher requests moves) : Option σ :=
  Backend.after x.made g.backend

/-- The attempts to make the earlier registrations again, if it comes to that. -/
def again (x : BreakOff g fetcher requests moves) : List Attempt :=
  Backend.attempts (Gateway.restoration g.packages) (Backend.ask .clearPackage x.left).2

/-- Where a load breaks off, the account has the packages that were placed. -/
theorem replay_made (x : BreakOff g fetcher requests moves) :
    Attempt.replay (Backend.attempts x.made g.backend) g.packages =
      g.overlaid x.before g.packages := by
  have granted := Backend.attempts_of_granted x.granted
  rw [made, Backend.attempts_append, Attempt.replay_append, granted, List.map_append,
    Attempt.replay_append, Gateway.replay_flatMap_placement,
    Gateway.replay_of_placement_eq x.split, Backend.attempts_cons, x.fails]
  rfl

/-- A load that breaks off leaves it at that, but for the way back. Of requests, the log then has
those that were attempted, after what it was let know of the fetches. -/
theorem exists_load_eq (x : BreakOff g fetcher requests moves) :
    ∃ h, g.Leads x.made h ∧
      h.journal = g.journal ++ x.milestones.flatMap fetcher.events ++
        (Backend.attempts x.made g.backend).flatMap Attempt.events ++
          [.installFailed x.name x.failure] ∧
      g.load fetcher requests moves =
        ⟨some (.error x.failure), x.milestones, h.rollBack g.packages⟩ := by
  have logged := g.leads_logAll_events fetcher x.milestones
  have same := Gateway.placement_congr logged.settings_eq
  have backend_eq : (g.logAll (x.milestones.flatMap fetcher.events)).backend = g.backend :=
    logged.backend_eq
  have split := x.split
  have granted := x.granted
  have fails := x.fails
  rw [← same] at split
  rw [← same, ← backend_eq] at granted fails
  obtain ⟨h, leads, terse, eq⟩ :=
    Gateway.installAll_of_refused g.packages x.untouched split granted fails
  rw [same] at leads
  refine ⟨h.log (.installFailed x.name x.failure), (logged.trans leads).log rfl, ?_, ?_⟩
  · exact congrArg (· ++ [_]) (leads.journal_eq_of_terse terse)
  · rw [Gateway.load_of_complete x.named x.fetched, Gateway.install, x.fit]
    dsimp only
    rw [x.entries_eq]
    exact congrArg (fun outcome => Gateway.Loading.mk (some outcome.1) x.milestones outcome.2) eq

theorem result_load (x : BreakOff g fetcher requests moves) :
    (g.load fetcher requests moves).result = some (.error x.failure) := by
  obtain ⟨h, -, -, eq⟩ := x.exists_load_eq
  rw [eq]

theorem leads_load_of_refused (x : BreakOff g fetcher requests moves)
    (refused : (Backend.ask .clearPackage x.left).1 ≠ none) :
    g.Leads (x.made ++ [.clearPackage]) (g.load fetcher requests moves).gateway := by
  obtain ⟨h, leads, -, eq⟩ := x.exists_load_eq
  rw [left, ← leads.backend_eq] at refused
  rw [eq]
  exact leads.trans (Gateway.leads_rollBack_of_refused g.packages refused)

theorem leads_load_of_cleared (x : BreakOff g fetcher requests moves)
    (cleared : (Backend.ask .clearPackage x.left).1 = none) :
    g.Leads (x.made ++ .clearPackage :: Gateway.restoration g.packages)
      (g.load fetcher requests moves).gateway := by
  obtain ⟨h, leads, -, eq⟩ := x.exists_load_eq
  rw [left, ← leads.backend_eq] at cleared
  rw [eq]
  exact leads.trans (Gateway.leads_rollBack_of_cleared g.packages cleared)

/-! ### The account after the way back -/

theorem packages_load_of_refused (x : BreakOff g fetcher requests moves)
    (refused : (Backend.ask .clearPackage x.left).1 ≠ none) :
    (g.load fetcher requests moves).gateway.packages = g.overlaid x.before g.packages := by
  obtain ⟨failure, fails⟩ := Option.ne_none_iff_exists'.mp refused
  rw [(x.leads_load_of_refused refused).packages_eq, Backend.attempts_append,
    Attempt.replay_append, x.replay_made, ← left, Backend.attempts_cons, fails]
  rfl

theorem packages_load_of_cleared (x : BreakOff g fetcher requests moves)
    (cleared : (Backend.ask .clearPackage x.left).1 = none) :
    (g.load fetcher requests moves).gateway.packages = Attempt.replay x.again .empty := by
  rw [(x.leads_load_of_cleared cleared).packages_eq, Backend.attempts_append,
    Attempt.replay_append, x.replay_made, ← left, Backend.attempts_cons, cleared]
  rfl

/-- What is attempted again is what there was before. -/
theorem find?_of_mem_again (x : BreakOff g fetcher requests moves) {name directory : String}
    {failure : Option Failure} (mem : ⟨.addPackage name directory, failure⟩ ∈ x.again) :
    g.packages.find? name = some directory := by
  have request := List.mem_map_of_mem (f := Attempt.request) mem
  rw [again, Backend.map_request_attempts] at request
  obtain ⟨⟨other, place⟩, mem', eq⟩ := List.mem_map.mp request
  obtain ⟨rfl, rfl⟩ := Request.addPackage.inj eq
  exact Table.mem_entries_iff.mp mem'

/-- Whatever there was before is attempted again. -/
theorem exists_mem_again (x : BreakOff g fetcher requests moves) {name directory : String}
    (found : g.packages.find? name = some directory) :
    ∃ failure, ⟨.addPackage name directory, failure⟩ ∈ x.again := by
  have request : Request.addPackage name directory ∈ x.again.map Attempt.request := by
    rw [again, Backend.map_request_attempts]
    exact List.mem_map_of_mem (f := fun entry => Request.addPackage entry.1 entry.2)
      (Table.mem_entries_iff.mpr found)
  obtain ⟨⟨_, failure⟩, mem, rfl⟩ := List.mem_map.mp request
  exact ⟨failure, mem⟩

theorem find?_replay_again (x : BreakOff g fetcher requests moves) (name directory : String) :
    (Attempt.replay x.again .empty).find? name = some directory ↔
      g.packages.find? name = some directory ∧ ⟨.addPackage name directory, none⟩ ∈ x.again := by
  have requests_eq : x.again.map Attempt.request = Gateway.restoration g.packages :=
    Backend.map_request_attempts _ _
  rw [Gateway.find?_replay_registrations g.packages.sorted requests_eq]
  constructor
  · rintro (mem | ⟨found, -⟩)
    · exact ⟨x.find?_of_mem_again mem, mem⟩
    · cases found
  · rintro ⟨-, mem⟩
    exact .inl mem

/-- **Where all earlier registrations are granted once more, the account is what it was.** -/
theorem replay_again_eq (x : BreakOff g fetcher requests moves)
    (granted : ∀ a ∈ x.again, a.succeeded = true) :
    Attempt.replay x.again .empty = g.packages := by
  refine Table.ext_find? fun name => Option.ext fun directory => ?_
  rw [x.find?_replay_again]
  refine ⟨And.left, fun found => ⟨found, ?_⟩⟩
  obtain ⟨failure, mem⟩ := x.exists_mem_again found
  obtain rfl : failure = none := Option.isNone_iff_eq_none.mp (granted _ mem)
  exact mem

end BreakOff

/-! ### What a load that breaks off comes to -/

variable {σ : Type} [Backend σ] {g : Gateway σ} {fetcher : Fetcher}
  {requests : List (String × Descriptor)} {moves : List Move}

/-- **A load that breaks off** comes to the failure of the request that was refused. That
request is the last one before the way back. If the registrations cannot be dropped, the
account has, besides the earlier ones, those of the packages that were placed; otherwise it has
those of the earlier ones that could be made again, each of which is attempted once. -/
theorem Gateway.load_of_breakOff (x : BreakOff g fetcher requests moves) :
    let loading := g.load fetcher requests moves
    let logged := (loading.gateway.journal.drop g.journal.length).filter Event.isOfRequest
    loading.result = some (.error x.failure) ∧
    ((Backend.ask .clearPackage x.left).1 ≠ none →
      loading.gateway.backend = Backend.after (x.made ++ [.clearPackage]) g.backend ∧
      logged = (Backend.attempts (x.made ++ [.clearPackage]) g.backend).flatMap Attempt.events ∧
      loading.gateway.packages = g.overlaid x.before g.packages) ∧
    ((Backend.ask .clearPackage x.left).1 = none →
      loading.gateway.backend =
        Backend.after (x.made ++ .clearPackage :: restoration g.packages) g.backend ∧
      logged = (Backend.attempts (x.made ++ .clearPackage :: restoration g.packages)
        g.backend).flatMap Attempt.events ∧
      (∀ name directory, loading.gateway.packages.find? name = some directory ↔
        g.packages.find? name = some directory ∧
          ⟨.addPackage name directory, none⟩ ∈ x.again) ∧
      ((∀ a ∈ x.again, a.succeeded = true) → loading.gateway.packages = g.packages)) := by
  intro loading logged
  refine ⟨x.result_load, fun refused => ?_, fun cleared => ?_⟩
  · have leads := x.leads_load_of_refused refused
    exact ⟨leads.backend_eq, leads.filter_drop_journal, x.packages_load_of_refused refused⟩
  · have leads := x.leads_load_of_cleared cleared
    have packages_eq := x.packages_load_of_cleared cleared
    refine ⟨leads.backend_eq, leads.filter_drop_journal, fun name directory => ?_,
      fun granted => ?_⟩
    · rw [packages_eq]
      exact x.find?_replay_again name directory
    · rw [packages_eq]
      exact x.replay_again_eq granted

/-- Two packages are asked for, one of which is registered already; it is placed, and then the
second file of the other one is refused. On the way back the one that was replaced is registered
as it was, but a third one is refused. -/
theorem Gateway.load_of_breakOff_replacing :
    let package : FetchedPackage :=
      ⟨"any", "1", Table.ofList [("a.mo", "module A"), ("b.mo", "module B")]⟩
    let fetcher := Fetcher.quiet fun _ => .ok package
    let requests := [("core", Descriptor.directory "core"), ("base", Descriptor.directory "base")]
    let moves : List Move := [.start, .start, .finish "core", .finish "base"]
    let g : Gateway Earnest :=
      ⟨"0.14.0", .standard, some (.refusing [false, false, false, true] [false, false, true]),
        Table.ofList [("base", "lib/base"), ("time", "lib/time")], []⟩
    let loading := g.load fetcher requests moves
    ∃ x : BreakOff g fetcher requests moves,
      x.before = [("base", package)] ∧ x.name = "core" ∧
      x.refused = .saveFile ".packages/core/1/b.mo" "module B" ∧
      (Backend.ask .clearPackage x.left).1 = none ∧
      loading.result = some (.error x.failure) ∧
      ⟨.addPackage "base" "lib/base", none⟩ ∈ x.again ∧
      loading.gateway.packages = Table.ofList [("base", "lib/base")] := by
  intro package fetcher requests moves g loading
  let x : BreakOff g fetcher requests moves :=
    { milestones := _
      packages := _
      before := [("base", package)]
      name := "core"
      package := package
      untouched := []
      done := [.saveFile ".packages/core/1/a.mo" "module A"]
      refused := .saveFile ".packages/core/1/b.mo" "module B"
      unmade := [.addPackage "core" ".packages/core/1"]
      failure := .reported ⟨"no space left", none⟩
      named := by decide +kernel
      fetched := rfl
      fit := by decide +kernel
      entries_eq := rfl
      split := by decide +kernel
      granted := List.all_eq_true.mp (by decide +kernel)
      fails := rfl }
  have cleared : (Backend.ask .clearPackage x.left).1 = none :=
    Option.isNone_iff_eq_none.mp (by decide +kernel)
  have packages_eq : loading.gateway.packages = Table.ofList [("base", "lib/base")] := by
    decide +kernel
  obtain ⟨result_eq, -, onCleared⟩ := load_of_breakOff x
  obtain ⟨-, -, found_iff, -⟩ := onCleared cleared
  refine ⟨x, rfl, rfl, rfl, cleared, result_eq, ((found_iff _ _).mp ?_).2, packages_eq⟩
  exact (congrArg (fun t => Table.find? t "base") packages_eq).trans (by decide +kernel)

/-- **An installation that fails is one that breaks off.** -/
theorem Gateway.exists_breakOff {milestones : List Milestone} {packages : Table FetchedPackage}
    {failure : Failure} (named : nameFailure? (Table.ofList requests) = none)
    (fetched : g.fetching fetcher requests moves = (milestones, .complete packages))
    (fit : contentFailure? packages = none)
    (fails : ((g.logAll (milestones.flatMap fetcher.events)).install packages).1 =
      .error failure) :
    ∃ x : BreakOff g fetcher requests moves, x.failure = failure := by
  have logged := g.leads_logAll_events fetcher milestones
  have same := placement_congr logged.settings_eq
  have fails' := fails
  rw [install, fit] at fails'
  rcases installAll_cases g.packages packages.entries
    (g.logAll (milestones.flatMap fetcher.events)) with ⟨-, ok, -⟩ | ⟨before, name, package,
      untouched, done, request, unmade, other, entries_eq, split, granted, refused⟩
  · cases ok.symm.trans fails'
  · rw [same] at split granted refused
    rw [logged.backend_eq] at granted refused
    let x : BreakOff g fetcher requests moves :=
      ⟨milestones, packages, before, name, package, untouched, done, request, unmade, other,
        named, fetched, fit, entries_eq, split, granted, refused⟩
    have result_eq := x.result_load
    rw [load_of_complete named fetched, fails] at result_eq
    exact ⟨x, (Except.error.inj (Option.some.inj result_eq)).symm⟩

end CompilerGateway
