import CompilerGateway.Proofs.BreakOff
import CompilerGateway.Proofs.FetchWindow

/-!
# What a load looks at, and in which order

A load looks at the requested names, then at what the fetches come to, then at what was
fetched, and only then makes a request of the backend. Each time it may find several things to
object to, and it reports one of them: of the names the least that is wrong, of the fetches the
first to end by an error, of the packages the first in the order of the names, and of a package
its version or else the least key that is wrong.

`CompilerGateway.Gateway.Course` says which courses a load can take
(`CompilerGateway.Gateway.course_load`), and `CompilerGateway.Gateway.load_checks_first` which
of them it takes when.
-/

namespace CompilerGateway

/-! ### Packages that may be installed -/

namespace FetchedPackage

/-- A package that may be installed. -/
structure Fit (package : FetchedPackage) : Prop where
  /-- The version can name a directory. -/
  version : nameFault? package.version = none
  /-- The keys lead to files within that directory. -/
  keys : ∀ key ∈ package.files.names, keyFault? key = none

/-- **What is wrong first** with a package: its version or, if that is in order, the least of
its keys that are not. -/
inductive FirstFault (package : FetchedPackage) : ContentFault → Prop where
  | version {fault : NameFault} : nameFault? package.version = some fault →
    FirstFault package (.badVersion package.version fault)
  | key {key : String} {fault : KeyFault} : nameFault? package.version = none →
    key ∈ package.files.names → keyFault? key = some fault →
    (∀ other ∈ package.files.names, other < key → keyFault? other = none) →
    FirstFault package (.badKey key fault)

theorem fault?_eq_some_iff {package : FetchedPackage} {fault : ContentFault} :
    package.fault? = some fault ↔ package.FirstFault fault := by
  rw [fault?]
  cases version : nameFault? package.version with
  | some objection =>
    constructor
    · intro h
      obtain rfl := Option.some.inj h
      exact .version version
    · intro h
      cases h with
      | version version' =>
        obtain rfl := Option.some.inj (version.symm.trans version')
        rfl
      | key none => cases version.symm.trans none
  | none =>
    dsimp only
    rw [Table.findSome?_names_eq_some_iff]
    constructor
    · rintro ⟨key, mem, holds, least⟩
      obtain ⟨objection, found, rfl⟩ := Option.map_eq_some_iff.mp holds
      exact .key version mem found fun other mem less =>
        Option.map_eq_none_iff.mp (least other mem less)
    · intro h
      cases h with
      | version some => cases version.symm.trans some
      | key _ mem found least =>
        exact ⟨_, mem, by rw [found]; rfl, fun other mem less => by rw [least other mem less]; rfl⟩

theorem FirstFault.not_fit {package : FetchedPackage} {fault : ContentFault}
    (first : package.FirstFault fault) : ¬ package.Fit := by
  intro fit
  cases first with
  | version found => cases fit.version.symm.trans found
  | key _ mem found => cases (fit.keys _ mem).symm.trans found

theorem fault?_eq_none_iff {package : FetchedPackage} : package.fault? = none ↔ package.Fit := by
  rw [fault?]
  cases version : nameFault? package.version with
  | some objection =>
    refine ⟨fun h => (Option.some_ne_none _ h).elim, fun fit => ?_⟩
    cases version.symm.trans fit.version
  | none =>
    dsimp only
    rw [List.findSome?_eq_none_iff]
    exact ⟨fun none => ⟨version, fun key mem => Option.map_eq_none_iff.mp (none key mem)⟩,
      fun fit key mem => Option.map_eq_none_iff.mpr (fit.keys key mem)⟩

end FetchedPackage

namespace Gateway

/-- **The least name that is wrong** is objected to. -/
theorem nameFailure?_eq_some_iff {requests : List (String × Descriptor)} {failure : Failure} :
    nameFailure? (Table.ofList requests) = some failure ↔ ∃ name fault,
      failure = .badName name fault ∧ name ∈ requests.map Prod.fst ∧
      nameFault? name = some fault ∧
      ∀ other ∈ requests.map Prod.fst, other < name → nameFault? other = none := by
  rw [nameFailure?, Table.findSome?_names_eq_some_iff]
  simp only [Table.mem_names_ofList, Option.map_eq_none_iff, Option.map_eq_some_iff]
  constructor
  · rintro ⟨name, mem, ⟨fault, found, rfl⟩, least⟩
    exact ⟨name, fault, rfl, mem, found, least⟩
  · rintro ⟨name, fault, rfl, mem, found, least⟩
    exact ⟨name, mem, ⟨fault, found, rfl⟩, least⟩

theorem nameFailure?_eq_none_iff {requests : List (String × Descriptor)} :
    nameFailure? (Table.ofList requests) = none ↔
      ∀ name ∈ requests.map Prod.fst, nameFault? name = none := by
  simp only [nameFailure?, List.findSome?_eq_none_iff, Table.mem_names_ofList,
    Option.map_eq_none_iff]

/-- **The first package that is wrong** is objected to. -/
theorem contentFailure?_eq_some_iff {packages : Table FetchedPackage} {failure : Failure} :
    contentFailure? packages = some failure ↔ ∃ name package fault,
      failure = .badContent name fault ∧ packages.find? name = some package ∧
      package.FirstFault fault ∧
      ∀ other held, other < name → packages.find? other = some held → held.Fit := by
  rw [contentFailure?, Table.findSome?_entries_eq_some_iff]
  simp only [Option.map_eq_none_iff, Option.map_eq_some_iff, FetchedPackage.fault?_eq_some_iff,
    FetchedPackage.fault?_eq_none_iff]
  constructor
  · rintro ⟨name, package, found, ⟨fault, first, rfl⟩, least⟩
    exact ⟨name, package, fault, rfl, found, first, least⟩
  · rintro ⟨name, package, fault, rfl, found, first, least⟩
    exact ⟨name, package, found, ⟨fault, first, rfl⟩, least⟩

theorem contentFailure?_eq_none_iff {packages : Table FetchedPackage} :
    contentFailure? packages = none ↔
      ∀ name package, packages.find? name = some package → package.Fit := by
  simp only [contentFailure?, List.findSome?_eq_none_iff, Option.map_eq_none_iff,
    FetchedPackage.fault?_eq_none_iff, ← Table.mem_entries_iff, Prod.forall]

/-! ### The courses that a load can take -/

variable {σ : Type} [Backend σ]

/-- **A gateway that has not been touched**: no request was attempted, and nothing about its
backend and its registrations is different. -/
structure Untouched (g h : Gateway σ) : Prop where
  /-- The backend is as it was. -/
  backend : h.backend = g.backend
  /-- So is the account. -/
  packages : h.packages = g.packages
  /-- What is new in the log is not about requests. -/
  quiet : (h.journal.drop g.journal.length).filter Event.isOfRequest = []

theorem Leads.untouched {g h : Gateway σ} (leads : g.Leads [] h) : g.Untouched h :=
  ⟨leads.backend_eq, leads.packages_eq, leads.filter_drop_journal⟩

/-- **The courses that a load can take.** -/
inductive Course (g : Gateway σ) (fetcher : Fetcher) (requests : List (String × Descriptor))
    (moves : List Move) : Loading σ → Prop where
  /-- A name is objected to. -/
  | badName {failure : Failure} : nameFailure? (Table.ofList requests) = some failure →
    Course g fetcher requests moves ⟨some (.error failure), [], g⟩
  /-- The caller stops waiting. -/
  | abandoned {milestones : List Milestone} {h : Gateway σ} :
    nameFailure? (Table.ofList requests) = none →
    g.fetching fetcher requests moves = (milestones, .abandoned) → g.Leads [] h →
    Course g fetcher requests moves ⟨none, milestones, h⟩
  /-- A fetch ends by an error. -/
  | notFetched {milestones : List Milestone} {error : FetchError} {h : Gateway σ} :
    nameFailure? (Table.ofList requests) = none →
    g.fetching fetcher requests moves = (milestones, .failed error) → g.Leads [] h →
    Course g fetcher requests moves ⟨some (.error (.notFetched error)), milestones, h⟩
  /-- A package is objected to. -/
  | badContent {milestones : List Milestone} {packages : Table FetchedPackage} {failure : Failure}
    {h : Gateway σ} : nameFailure? (Table.ofList requests) = none →
    g.fetching fetcher requests moves = (milestones, .complete packages) →
    contentFailure? packages = some failure → g.Leads [] h →
    Course g fetcher requests moves ⟨some (.error failure), milestones, h⟩
  /-- The packages are installed, or the installation breaks off. -/
  | installing {milestones : List Milestone} {packages : Table FetchedPackage}
    {result : Except Failure Unit} {h : Gateway σ} :
    nameFailure? (Table.ofList requests) = none →
    g.fetching fetcher requests moves = (milestones, .complete packages) →
    contentFailure? packages = none →
    (∀ failure, result = .error failure →
      ∃ x : BreakOff g fetcher requests moves, x.failure = failure) →
    Course g fetcher requests moves ⟨some result, milestones, h⟩

theorem course_load (g : Gateway σ) (fetcher : Fetcher) (requests : List (String × Descriptor))
    (moves : List Move) :
    g.Course fetcher requests moves (g.load fetcher requests moves) := by
  cases named : nameFailure? (Table.ofList requests) with
  | some failure =>
    rw [load_of_badName named]
    exact .badName named
  | none =>
    rcases fetched : g.fetching fetcher requests moves with ⟨milestones, harvest⟩
    have logged := g.leads_logAll_events fetcher milestones
    cases harvest with
    | abandoned =>
      rw [load_of_abandoned named fetched]
      exact .abandoned named fetched logged
    | failed error =>
      rw [load_of_failed named fetched]
      exact .notFetched named fetched logged
    | complete packages =>
      rw [load_of_complete named fetched]
      cases fit : contentFailure? packages with
      | some failure =>
        rw [install, fit]
        exact .badContent named fetched fit logged
      | none => exact .installing named fetched fit fun _ => exists_breakOff named fetched fit

end Gateway

/-! ### Objections, and failures of requests -/

/-- Whether a failure is over what was asked for or fetched. -/
def Failure.isObjection : Failure → Bool
  | .badName _ _ => true
  | .badContent _ _ => true
  | .notFetched _ => true
  | _ => false

variable {σ : Type} [Backend σ] {g : Gateway σ} {fetcher : Fetcher}
  {requests : List (String × Descriptor)} {moves : List Move}

/-- No request comes to an objection. -/
theorem Backend.isObjection_of_ask {request : Request} {backend : Option σ} {failure : Failure}
    (refused : (ask request backend).1 = some failure) : failure.isObjection = false := by
  cases backend with
  | none =>
    obtain rfl := Option.some.inj refused
    rfl
  | some backend =>
    rw [ask] at refused
    split at refused
    · generalize respond request backend = responded at refused
      obtain ⟨fault | reply, next⟩ := responded
      · obtain rfl := Option.some.inj refused
        cases fault <;> rfl
      · cases refused
    · obtain rfl := Option.some.inj refused
      rfl

namespace Gateway

/-- Nor does an installation. -/
theorem isObjection_of_breaksOff {failure : Failure}
    (breaksOff : ∃ x : BreakOff g fetcher requests moves, x.failure = failure) :
    failure.isObjection = false := by
  obtain ⟨x, rfl⟩ := breaksOff
  exact Backend.isObjection_of_ask x.fails

/-! ### Which course a load takes -/

/-- **Nothing is touched** before all names, fetches and packages are found to be in order. -/
theorem load_untouched_or (g : Gateway σ) (fetcher : Fetcher)
    (requests : List (String × Descriptor)) (moves : List Move) :
    g.Untouched (g.load fetcher requests moves).gateway ∨
      (∀ name ∈ requests.map Prod.fst, nameFault? name = none) ∧
      ∀ name descriptor, (Table.ofList requests).find? name = some descriptor →
        .finished name descriptor ∈ (g.load fetcher requests moves).milestones ∧
          ∃ package, fetcher.fetch (some name) descriptor = .ok package ∧ package.Fit := by
  have course := g.course_load fetcher requests moves
  generalize g.load fetcher requests moves = loading at course ⊢
  cases course with
  | badName named => exact .inl (Leads.refl).untouched
  | abandoned named fetched leads => exact .inl leads.untouched
  | notFetched named fetched leads => exact .inl leads.untouched
  | badContent named fetched unfit leads => exact .inl leads.untouched
  | installing named fetched fit breaksOff =>
    refine .inr ⟨nameFailure?_eq_none_iff.mp named, fun name descriptor found => ?_⟩
    have harvest := Window.complete_run_opening fetched
    obtain ⟨ended, package, isOk⟩ := harvest.1 name descriptor found
    have kept := (harvest.2 name package).mpr ⟨descriptor, found, isOk⟩
    exact ⟨ended, package, isOk, contentFailure?_eq_none_iff.mp fit name package kept⟩

/-- **A name is objected to** if and only if it is the least that is wrong. -/
theorem load_badName_iff {name : String} {fault : NameFault} :
    (g.load fetcher requests moves).result = some (.error (.badName name fault)) ↔
      name ∈ requests.map Prod.fst ∧ nameFault? name = some fault ∧
        ∀ other ∈ requests.map Prod.fst, other < name → nameFault? other = none := by
  have course := g.course_load fetcher requests moves
  generalize g.load fetcher requests moves = loading at course ⊢
  -- on every other course all names are in order
  have inOrder (named : nameFailure? (Table.ofList requests) = none) :
      ¬ (name ∈ requests.map Prod.fst ∧ nameFault? name = some fault ∧
        ∀ other ∈ requests.map Prod.fst, other < name → nameFault? other = none) := by
    rintro ⟨mem, found, -⟩
    cases (nameFailure?_eq_none_iff.mp named name mem).symm.trans found
  cases course with
  | badName named =>
    constructor
    · intro result_eq
      obtain rfl := Except.error.inj (Option.some.inj result_eq)
      obtain ⟨_, _, failure_eq, least⟩ := nameFailure?_eq_some_iff.mp named
      obtain ⟨rfl, rfl⟩ := Failure.badName.inj failure_eq
      exact least
    · intro least
      have named' := nameFailure?_eq_some_iff.mpr ⟨name, fault, rfl, least⟩
      obtain rfl := Option.some.inj (named.symm.trans named')
      rfl
  | abandoned named => exact ⟨nofun, fun h => absurd h (inOrder named)⟩
  | notFetched named => exact ⟨nofun, fun h => absurd h (inOrder named)⟩
  | badContent named fetched unfit =>
    obtain ⟨_, _, _, rfl, -⟩ := contentFailure?_eq_some_iff.mp unfit
    exact ⟨nofun, fun h => absurd h (inOrder named)⟩
  | installing named fetched fit breaksOff =>
    refine ⟨fun result_eq => ?_, fun h => absurd h (inOrder named)⟩
    cases isObjection_of_breaksOff (breaksOff _ (Option.some.inj result_eq))

/-- **Some name is objected to** if one is wrong, and then no fetch begins. -/
theorem load_of_exists_badName {name : String} (mem : name ∈ requests.map Prod.fst)
    (bad : nameFault? name ≠ none) :
    (∃ least fault, (g.load fetcher requests moves).result =
      some (.error (.badName least fault))) ∧
    (g.load fetcher requests moves).milestones = [] := by
  cases named : nameFailure? (Table.ofList requests) with
  | none => exact absurd (nameFailure?_eq_none_iff.mp named name mem) bad
  | some failure =>
    rw [load_of_badName named]
    obtain ⟨least, fault, rfl, -⟩ := nameFailure?_eq_some_iff.mp named
    exact ⟨⟨least, fault, rfl⟩, rfl⟩

/-- **A load fails over a fetch** if and only if one fails. -/
theorem load_notFetched_iff (named : ∀ name ∈ requests.map Prod.fst, nameFault? name = none)
    (awaited : (g.load fetcher requests moves).result ≠ none) :
    (∃ error, (g.load fetcher requests moves).result = some (.error (.notFetched error))) ↔
      ∃ name descriptor error, (Table.ofList requests).find? name = some descriptor ∧
        fetcher.fetch (some name) descriptor = .error error := by
  have course := g.course_load fetcher requests moves
  generalize g.load fetcher requests moves = loading at course awaited ⊢
  -- a complete harvest has no room for a fetch that fails
  have allOk {milestones : List Milestone} {packages : Table FetchedPackage}
      (fetched : g.fetching fetcher requests moves = (milestones, .complete packages)) :
      ¬ ∃ name descriptor error, (Table.ofList requests).find? name = some descriptor ∧
        fetcher.fetch (some name) descriptor = .error error := by
    rintro ⟨name, descriptor, error, found, fails⟩
    obtain ⟨-, package, isOk⟩ := (Window.complete_run_opening fetched).1 name descriptor found
    cases isOk.symm.trans fails
  cases course with
  | badName bad => cases (nameFailure?_eq_none_iff.mpr named).symm.trans bad
  | abandoned => exact absurd rfl awaited
  | @notFetched _ error _ _ fetched =>
    obtain ⟨name, descriptor, found, fails⟩ := Window.failed_run_opening fetched
    exact ⟨fun _ => ⟨name, descriptor, error, found, fails⟩, fun _ => ⟨error, rfl⟩⟩
  | badContent _ fetched unfit =>
    obtain ⟨_, _, _, rfl, -⟩ := contentFailure?_eq_some_iff.mp unfit
    exact ⟨nofun, fun h => absurd h (allOk fetched)⟩
  | installing _ fetched _ breaksOff =>
    refine ⟨fun ⟨_, result_eq⟩ => ?_, fun h => absurd h (allOk fetched)⟩
    cases isObjection_of_breaksOff (breaksOff _ (Option.some.inj result_eq))

/-- **Where no fetch fails**, what is brought in is what the fetches come to, and it is what the
load looks at for an objection. -/
theorem exists_harvest (named : ∀ name ∈ requests.map Prod.fst, nameFault? name = none)
    (allOk : ∀ name descriptor, (Table.ofList requests).find? name = some descriptor →
      ∃ package, fetcher.fetch (some name) descriptor = .ok package)
    (awaited : (g.load fetcher requests moves).result ≠ none) :
    ∃ packages : Table FetchedPackage,
      (∀ name package, packages.find? name = some package ↔
        ∃ descriptor, (Table.ofList requests).find? name = some descriptor ∧
          fetcher.fetch (some name) descriptor = .ok package) ∧
      ∀ name fault, (g.load fetcher requests moves).result =
          some (.error (.badContent name fault)) ↔
        contentFailure? packages = some (.badContent name fault) := by
  have course := g.course_load fetcher requests moves
  generalize g.load fetcher requests moves = loading at course awaited ⊢
  cases course with
  | badName bad => cases (nameFailure?_eq_none_iff.mpr named).symm.trans bad
  | abandoned => exact absurd rfl awaited
  | notFetched _ fetched =>
    obtain ⟨name, descriptor, found, fails⟩ := Window.failed_run_opening fetched
    obtain ⟨package, isOk⟩ := allOk name descriptor found
    cases isOk.symm.trans fails
  | @badContent _ packages _ _ _ fetched unfit =>
    refine ⟨packages, (Window.complete_run_opening fetched).2, fun name fault => ?_⟩
    rw [unfit]
    simp
  | @installing _ packages _ _ _ fetched fit breaksOff =>
    refine ⟨packages, (Window.complete_run_opening fetched).2, fun name fault => ?_⟩
    rw [fit]
    refine ⟨fun result_eq => ?_, nofun⟩
    cases isObjection_of_breaksOff (breaksOff _ (Option.some.inj result_eq))

/-- **A package is objected to** if and only if it is the first that is wrong, and for what is
wrong with it first. -/
theorem load_badContent_iff (named : ∀ name ∈ requests.map Prod.fst, nameFault? name = none)
    (allOk : ∀ name descriptor, (Table.ofList requests).find? name = some descriptor →
      ∃ package, fetcher.fetch (some name) descriptor = .ok package)
    (awaited : (g.load fetcher requests moves).result ≠ none) {name : String}
    {fault : ContentFault} :
    (g.load fetcher requests moves).result = some (.error (.badContent name fault)) ↔
      ∃ descriptor package, (Table.ofList requests).find? name = some descriptor ∧
        fetcher.fetch (some name) descriptor = .ok package ∧ package.FirstFault fault ∧
        ∀ other asked held, other < name → (Table.ofList requests).find? other = some asked →
          fetcher.fetch (some other) asked = .ok held → held.Fit := by
  obtain ⟨packages, kept, result_iff⟩ := exists_harvest named allOk awaited
  rw [result_iff, contentFailure?_eq_some_iff]
  constructor
  · rintro ⟨_, package, _, failure_eq, found, first, least⟩
    obtain ⟨rfl, rfl⟩ := Failure.badContent.inj failure_eq
    obtain ⟨descriptor, asked, isOk⟩ := (kept _ _).mp found
    refine ⟨descriptor, package, asked, isOk, first, ?_⟩
    intro other asked held less found isOk
    exact least other held less ((kept _ _).mpr ⟨asked, found, isOk⟩)
  · rintro ⟨descriptor, package, asked, isOk, first, least⟩
    refine ⟨name, package, fault, rfl, (kept _ _).mpr ⟨descriptor, asked, isOk⟩, first, ?_⟩
    intro other held less found
    obtain ⟨asked, found, isOk⟩ := (kept _ _).mp found
    exact least other asked held less found isOk

/-- **Some package is objected to** if and only if one is wrong. -/
theorem load_exists_badContent_iff
    (named : ∀ name ∈ requests.map Prod.fst, nameFault? name = none)
    (allOk : ∀ name descriptor, (Table.ofList requests).find? name = some descriptor →
      ∃ package, fetcher.fetch (some name) descriptor = .ok package)
    (awaited : (g.load fetcher requests moves).result ≠ none) :
    (∃ name fault,
      (g.load fetcher requests moves).result = some (.error (.badContent name fault))) ↔
      ∃ name descriptor package, (Table.ofList requests).find? name = some descriptor ∧
        fetcher.fetch (some name) descriptor = .ok package ∧ ¬ package.Fit := by
  constructor
  · rintro ⟨name, fault, result_eq⟩
    obtain ⟨descriptor, package, found, isOk, first, -⟩ :=
      (load_badContent_iff named allOk awaited).mp result_eq
    exact ⟨name, descriptor, package, found, isOk, first.not_fit⟩
  · rintro ⟨name, descriptor, package, found, isOk, unfit⟩
    obtain ⟨packages, kept, result_iff⟩ := exists_harvest named allOk awaited
    have brought := (kept name package).mpr ⟨descriptor, found, isOk⟩
    cases objection : contentFailure? packages with
    | none => exact absurd (contentFailure?_eq_none_iff.mp objection name package brought) unfit
    | some failure =>
      obtain ⟨first, _, fault, rfl, -⟩ := contentFailure?_eq_some_iff.mp objection
      exact ⟨first, fault, (result_iff first fault).mpr objection⟩

theorem milestones_load (named : nameFailure? (Table.ofList requests) = none) :
    (g.load fetcher requests moves).milestones = (g.fetching fetcher requests moves).1 := by
  rcases fetched : g.fetching fetcher requests moves with ⟨milestones, harvest⟩
  cases harvest with
  | abandoned => rw [load_of_abandoned named fetched]
  | failed error => rw [load_of_failed named fetched]
  | complete packages => rw [load_of_complete named fetched]

/-- **Nothing is touched by a load that is given up**, and it could have gone on. -/
theorem load_of_givenUp (givenUp : (g.load fetcher requests moves).result = none) :
    g.Untouched (g.load fetcher requests moves).gateway ∧
      ∃ move milestone, (g.load fetcher requests (moves ++ [move])).milestones =
        (g.load fetcher requests moves).milestones ++ [milestone] := by
  have course := g.course_load fetcher requests moves
  generalize g.load fetcher requests moves = loading at course givenUp ⊢
  cases course with
  | abandoned named fetched leads =>
    refine ⟨leads.untouched, ?_⟩
    obtain ⟨move, milestone, goesOn⟩ := Window.abandoned_run_opening g.settings.room_pos fetched
    exact ⟨move, milestone, (milestones_load named).trans goesOn⟩
  | _ => cases givenUp

/-- **A load does not go on forever**: it has two milestones for each name, at most. -/
theorem length_milestones_load_le (g : Gateway σ) (fetcher : Fetcher)
    (requests : List (String × Descriptor)) (moves : List Move) :
    (g.load fetcher requests moves).milestones.length ≤ 2 * (Table.ofList requests).size := by
  cases named : nameFailure? (Table.ofList requests) with
  | some failure =>
    rw [load_of_badName named]
    exact Nat.zero_le _
  | none =>
    rw [milestones_load named]
    exact Window.length_milestones_le moves _ _

/-- **A load looks at everything first.** Nothing is touched before all names, all fetches and
all packages are in order. If a name is not, the least such name is the failure, and no fetch
begins. If the names are, and the load is waited for, then its failure is that of a fetch if
and only if one fails; and if none does, it is that of a package if and only if one is not in
order, and then it is the first one, and the first thing that is wrong with it. A load that is
given up has touched nothing; it can go on until it comes to a result, and not forever. -/
theorem load_checks_first (g : Gateway σ) (fetcher : Fetcher)
    (requests : List (String × Descriptor)) (moves : List Move) :
    let requested := Table.ofList requests
    let names := requests.map Prod.fst
    let loading := g.load fetcher requests moves
    (g.Untouched loading.gateway ∨
      (∀ name ∈ names, nameFault? name = none) ∧
      ∀ name descriptor, requested.find? name = some descriptor →
        .finished name descriptor ∈ loading.milestones ∧
          ∃ package, fetcher.fetch (some name) descriptor = .ok package ∧ package.Fit) ∧
    (∀ name fault, loading.result = some (.error (.badName name fault)) ↔
      name ∈ names ∧ nameFault? name = some fault ∧
        ∀ other ∈ names, other < name → nameFault? other = none) ∧
    ((∃ name ∈ names, nameFault? name ≠ none) →
      (∃ name fault, loading.result = some (.error (.badName name fault))) ∧
      loading.milestones = []) ∧
    ((∀ name ∈ names, nameFault? name = none) → loading.result ≠ none →
      ((∃ error, loading.result = some (.error (.notFetched error))) ↔
        ∃ name descriptor error, requested.find? name = some descriptor ∧
          fetcher.fetch (some name) descriptor = .error error) ∧
      ((∀ name descriptor, requested.find? name = some descriptor →
          ∃ package, fetcher.fetch (some name) descriptor = .ok package) →
        ((∃ name fault, loading.result = some (.error (.badContent name fault))) ↔
          ∃ name descriptor package, requested.find? name = some descriptor ∧
            fetcher.fetch (some name) descriptor = .ok package ∧ ¬ package.Fit) ∧
        ∀ name fault, loading.result = some (.error (.badContent name fault)) ↔
          ∃ descriptor package, requested.find? name = some descriptor ∧
            fetcher.fetch (some name) descriptor = .ok package ∧ package.FirstFault fault ∧
            ∀ other asked held, other < name → requested.find? other = some asked →
              fetcher.fetch (some other) asked = .ok held → held.Fit)) ∧
    (loading.result = none → g.Untouched loading.gateway ∧
      ∃ move milestone, (g.load fetcher requests (moves ++ [move])).milestones =
        loading.milestones ++ [milestone]) ∧
    loading.milestones.length ≤ 2 * requested.size := by
  intro requested names loading
  refine ⟨g.load_untouched_or fetcher requests moves, fun name fault => load_badName_iff, ?_, ?_,
    load_of_givenUp, g.length_milestones_load_le fetcher requests moves⟩
  · rintro ⟨name, mem, bad⟩
    exact load_of_exists_badName mem bad
  · intro named awaited
    refine ⟨load_notFetched_iff named awaited, fun allOk => ?_⟩
    exact ⟨load_exists_badContent_iff named allOk awaited,
      fun name fault => load_badContent_iff named allOk awaited⟩

/-- Two packages are fetched, the later one first, and neither is in order: of one a key is
wrong, of the other the version and a key. The load reports the version, which belongs to the
lesser name. -/
theorem load_checks_first_unfit :
    let package (version key : String) : FetchedPackage :=
      ⟨"any", version, Table.ofList [(key, "module A")]⟩
    let fetcher := Fetcher.quiet fun
      | .directory "base" => .ok (package "1/2" "/base.mo")
      | _ => .ok (package "1" "../core.mo")
    let requests := [("core", Descriptor.directory "core"), ("base", Descriptor.directory "base")]
    let moves : List Move := [.start, .start, .finish "core", .finish "base"]
    let g : Gateway Earnest :=
      ⟨"0.14.0", .standard, some (.refusing [] []), Table.ofList [("time", "lib/time")], []⟩
    let loading := g.load fetcher requests moves
    (∀ name ∈ requests.map Prod.fst, nameFault? name = none) ∧ loading.result ≠ none ∧
      loading.result = some (.error (.badContent "base" (.badVersion "1/2" .separator))) := by
  intro package fetcher requests moves g loading
  have named : ∀ name ∈ requests.map Prod.fst, nameFault? name = none := by decide +kernel
  have awaited : loading.result ≠ none := by
    rw [← Option.isSome_iff_ne_none]
    decide +kernel
  have entries_eq : (Table.ofList requests).entries =
      [("base", .directory "base"), ("core", .directory "core")] := by
    decide +kernel
  have allOk : ∀ name descriptor, (Table.ofList requests).find? name = some descriptor →
      ∃ package, fetcher.fetch (some name) descriptor = .ok package := by
    intro name descriptor found
    have mem := Table.mem_entries_iff.mpr found
    rw [entries_eq] at mem
    rcases List.mem_cons.mp mem with same | mem
    · obtain ⟨rfl, rfl⟩ := Prod.mk.inj same
      exact ⟨_, rfl⟩
    · obtain ⟨rfl, rfl⟩ := Prod.mk.inj (List.mem_singleton.mp mem)
      exact ⟨_, rfl⟩
  obtain ⟨-, -, -, onNamed, -⟩ := g.load_checks_first fetcher requests moves
  obtain ⟨-, onFetched⟩ := onNamed named awaited
  refine ⟨named, awaited, ((onFetched allOk).2 _ _).mpr
    ⟨.directory "base", package "1/2" "/base.mo", ?_, rfl, ?_, ?_⟩⟩
  · decide +kernel
  · exact .version (by decide +kernel)
  · intro other asked held less found
    have mem := Table.mem_entries_iff.mpr found
    rw [entries_eq] at mem
    have notLess : ¬ "base" < "base" ∧ ¬ "core" < "base" := by decide +kernel
    rcases List.mem_cons.mp mem with same | mem
    · obtain ⟨rfl, rfl⟩ := Prod.mk.inj same
      exact absurd less notLess.1
    · obtain ⟨rfl, rfl⟩ := Prod.mk.inj (List.mem_singleton.mp mem)
      exact absurd less notLess.2
end Gateway

end CompilerGateway
