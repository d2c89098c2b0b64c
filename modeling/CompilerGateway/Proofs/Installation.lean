import CompilerGateway.Proofs.Operations

/-!
# Installing packages, and the way back

What an installation attempts is laid down before it begins: for each package, in the order of
the names, its files in the order of their keys and then its registration
(`CompilerGateway.Gateway.placement`). It stops at the first of these requests that fails, and
then goes back: all registrations are dropped and, if that succeeds, the earlier ones made
again, each whatever became of the others (`CompilerGateway.Gateway.leads_rollBack_of_cleared`).

An installation has two outcomes: all packages are placed, or it breaks off at one
(`CompilerGateway.Gateway.installAll_cases`), and then it goes back
(`CompilerGateway.Gateway.installAll_of_refused`). A load comes to an installation only if its
names are in order and everything was fetched; the last section has one equation for each of
the ways that it can take before.
-/

namespace CompilerGateway

namespace Gateway

variable {σ : Type} [Backend σ]

/-! ### Placing packages -/

/-- The requests that write files below a directory. -/
def writes (directory : String) (files : List (String × String)) : List Request :=
  files.map fun file => .saveFile (VirtualPath.join directory file.1) file.2

/-- The requests that place a package. -/
def placement (g : Gateway σ) (entry : String × FetchedPackage) : List Request :=
  let directory := g.installPath entry.1 entry.2.version
  writes directory entry.2.files.entries ++ [.addPackage entry.1 directory]

theorem effect_of_mem_writes {directory : String} {files : List (String × String)}
    {request : Request} (mem : request ∈ writes directory files) (packages : Table String) :
    request.effect packages = packages := by
  obtain ⟨file, -, rfl⟩ := List.mem_map.mp mem
  rfl

omit [Backend σ] in
theorem placement_congr {g h : Gateway σ} (same : h.settings = g.settings) :
    h.placement = g.placement := by
  funext entry
  simp [placement, installPath, same]

/-- Files are written up to the first that fails. -/
theorem stops_writeFiles (directory : String) (files : List (String × String)) (g : Gateway σ) :
    g.Stops (writes directory files) (writeFiles directory files g) := by
  induction files generalizing g with
  | nil => exact Stops.none
  | cons file rest ih =>
    obtain ⟨key, content⟩ := file
    have isText := fromUTF8?_toUTF8 content
    have first : g.Stops [.saveFile (VirtualPath.join directory key) content]
        (g.write (VirtualPath.join directory key) content.toUTF8) :=
      .single (failure?_write isText) (leads_write isText)
    rw [writes, List.map_cons, ← List.singleton_append, writeFiles]
    generalize g.write (VirtualPath.join directory key) content.toUTF8 = written at first ⊢
    obtain ⟨failure | ⟨⟩, h⟩ := written
    · exact first.orElse
    · exact first.andThen (ih h)

theorem terse_writeFiles (directory : String) (files : List (String × String)) (g : Gateway σ) :
    g.Terse (writeFiles directory files g).2 := by
  induction files generalizing g with
  | nil => exact .refl g
  | cons file rest ih =>
    obtain ⟨key, content⟩ := file
    have first := g.terse_write (VirtualPath.join directory key) content.toUTF8
    rw [writeFiles]
    generalize g.write (VirtualPath.join directory key) content.toUTF8 = written at first ⊢
    obtain ⟨failure | ⟨⟩, h⟩ := written
    · exact first
    · exact first.trans (ih h)

/-- **A package is placed up to the first request that fails.** -/
theorem stops_place (name : String) (package : FetchedPackage) (g : Gateway σ) :
    g.Stops (g.placement (name, package)) (place name package g) := by
  have files := stops_writeFiles (g.installPath name package.version) package.files.entries g
  rw [placement, place]
  generalize writeFiles (g.installPath name package.version) package.files.entries g = written
    at files ⊢
  obtain ⟨failure | ⟨⟩, h⟩ := written
  · exact files.orElse
  · exact files.andThen (.single (failure?_register _ _ _) (leads_register _ _ _))

theorem terse_place (name : String) (package : FetchedPackage) (g : Gateway σ) :
    g.Terse (place name package g).2 := by
  have files :=
    terse_writeFiles (g.installPath name package.version) package.files.entries g
  rw [place]
  generalize writeFiles (g.installPath name package.version) package.files.entries g = written
    at files ⊢
  obtain ⟨failure | ⟨⟩, h⟩ := written
  · exact files
  · exact files.trans (h.terse_register _ _)

/-! ### The way back -/

/-- The requests that make registrations again. -/
def restoration (packages : Table String) : List Request :=
  packages.entries.map fun entry => .addPackage entry.1 entry.2

/-- Registrations are made again whatever becomes of each. -/
theorem leads_registerAll (entries : List (String × String)) (g : Gateway σ) :
    g.Leads (entries.map fun entry => .addPackage entry.1 entry.2) (registerAll entries g) := by
  induction entries generalizing g with
  | nil => exact .refl
  | cons entry rest ih =>
    obtain ⟨name, directory⟩ := entry
    have first := g.leads_register name directory
    rw [List.map_cons, ← List.singleton_append, registerAll]
    generalize g.register name directory = registered at first ⊢
    obtain ⟨failure | ⟨⟩, h⟩ := registered
    · exact (first.log rfl).trans (ih _)
    · exact first.trans (ih h)

theorem leads_rollBack_of_refused {g : Gateway σ} (earlier : Table String)
    (refused : (Backend.ask .clearPackage g.backend).1 ≠ none) :
    g.Leads [.clearPackage] (g.rollBack earlier) := by
  have first := g.leads_unregisterAll
  rw [← failure?_unregisterAll] at refused
  rw [rollBack]
  generalize g.unregisterAll = cleared at first refused ⊢
  obtain ⟨failure | ⟨⟩, h⟩ := cleared
  · exact first.log rfl
  · exact absurd rfl refused

theorem leads_rollBack_of_cleared {g : Gateway σ} (earlier : Table String)
    (cleared : (Backend.ask .clearPackage g.backend).1 = none) :
    g.Leads (.clearPackage :: restoration earlier) (g.rollBack earlier) := by
  have first := g.leads_unregisterAll
  rw [← failure?_unregisterAll] at cleared
  rw [rollBack]
  generalize g.unregisterAll = outcome at first cleared ⊢
  obtain ⟨failure | ⟨⟩, h⟩ := outcome
  · cases cleared
  · exact first.trans (leads_registerAll earlier.entries h)

theorem exists_leads_rollBack (earlier : Table String) (g : Gateway σ) :
    ∃ requests, g.Leads requests (g.rollBack earlier) := by
  by_cases cleared : (Backend.ask .clearPackage g.backend).1 = none
  · exact ⟨_, leads_rollBack_of_cleared earlier cleared⟩
  · exact ⟨_, leads_rollBack_of_refused earlier cleared⟩

/-! ### Placing several packages -/

/-- Where the first packages are placed, the next request that fails ends the installation. -/
theorem installAll_of_refused {g : Gateway σ} (earlier : Table String)
    {before : List (String × FetchedPackage)} (untouched : List (String × FetchedPackage))
    {name : String} {package : FetchedPackage}
    {done unmade : List Request} {request : Request} {failure : Failure}
    (split : g.placement (name, package) = done ++ request :: unmade)
    (granted : Backend.Granted (before.flatMap g.placement ++ done) g.backend)
    (refused : (Backend.ask request
      (Backend.after (before.flatMap g.placement ++ done) g.backend)).1 = some failure) :
    ∃ h, g.Leads (before.flatMap g.placement ++ done ++ [request]) h ∧ g.Terse h ∧
      installAll earlier (before ++ (name, package) :: untouched) g =
        (.error failure, (h.log (.installFailed name failure)).rollBack earlier) := by
  induction before generalizing g with
  | nil =>
    have outcome := (stops_place name package g).of_refused split granted refused
    have terse := terse_place name package g
    rw [List.nil_append, installAll]
    generalize place name package g = placed at outcome terse ⊢
    obtain ⟨failure' | ⟨⟩, h⟩ := placed
    · obtain ⟨same, leads⟩ := outcome
      obtain rfl := Except.error.inj same
      exact ⟨h, leads, terse, rfl⟩
    · cases outcome.1
  | cons entry rest ih =>
    obtain ⟨other, placedPackage⟩ := entry
    simp only [List.flatMap_cons, List.append_assoc] at granted refused ⊢
    obtain ⟨first, others⟩ := Backend.granted_append.mp granted
    have outcome := (stops_place other placedPackage g).of_granted first
    have terse := terse_place other placedPackage g
    rw [List.cons_append, installAll]
    generalize place other placedPackage g = placed at outcome terse ⊢
    obtain ⟨failure' | ⟨⟩, h⟩ := placed
    · cases outcome.1
    · have leads := outcome.2
      -- the gateway has moved on, but the requests of the other packages are still the same
      have same := placement_congr leads.settings_eq
      rw [Backend.after_append, ← leads.backend_eq, ← same] at refused
      rw [← leads.backend_eq, ← same] at others
      rw [← same] at split
      obtain ⟨k, leads', terse', eq⟩ := ih split others refused
      rw [same, List.append_assoc] at leads'
      exact ⟨k, leads.trans leads', terse.trans terse', eq⟩

/-- **An installation either places all packages or breaks off at one.** -/
theorem installAll_cases (earlier : Table String) (entries : List (String × FetchedPackage))
    (g : Gateway σ) :
    (Backend.Granted (entries.flatMap g.placement) g.backend ∧
      (installAll earlier entries g).1 = .ok () ∧
      g.Leads (entries.flatMap g.placement) (installAll earlier entries g).2) ∨
    ∃ before name package untouched done request unmade failure,
      entries = before ++ (name, package) :: untouched ∧
      g.placement (name, package) = done ++ request :: unmade ∧
      Backend.Granted (before.flatMap g.placement ++ done) g.backend ∧
      (Backend.ask request
        (Backend.after (before.flatMap g.placement ++ done) g.backend)).1 = some failure := by
  induction entries generalizing g with
  | nil => exact .inl ⟨Backend.granted_nil _, rfl, .refl⟩
  | cons entry rest ih =>
    obtain ⟨name, package⟩ := entry
    have outcome := stops_place name package g
    rw [installAll]
    generalize place name package g = placed at outcome ⊢
    cases outcome with
    | short split granted refused leads =>
      exact .inr ⟨[], name, package, rest, _, _, _, _, rfl, split, granted, refused⟩
    | @through h leads granted =>
      have same := placement_congr leads.settings_eq
      rcases ih h with ⟨others, ok, leads'⟩ | ⟨before, other, placedPackage, untouched, done,
        request, unmade, failure, rfl, split, others, refused⟩
      · rw [same, leads.backend_eq] at others
        rw [same] at leads'
        refine .inl ⟨?_, ok, ?_⟩
        · rw [List.flatMap_cons]
          exact Backend.granted_append.mpr ⟨granted, others⟩
        · rw [List.flatMap_cons]
          exact leads.trans leads'
      · rw [same] at split
        rw [same, leads.backend_eq] at others refused
        refine .inr ⟨(name, package) :: before, other, placedPackage, untouched, done, request,
          unmade, failure, rfl, split, ?_, ?_⟩
        · rw [List.flatMap_cons, List.append_assoc]
          exact Backend.granted_append.mpr ⟨granted, others⟩
        · rwa [List.flatMap_cons, List.append_assoc, Backend.after_append]

theorem exists_leads_installAll (earlier : Table String) (entries : List (String × FetchedPackage))
    (g : Gateway σ) : ∃ requests, g.Leads requests (installAll earlier entries g).2 := by
  -- either all packages are placed, or there is the one to break off at
  rcases installAll_cases earlier entries g with ⟨-, -, leads⟩ | ⟨before, name, package,
    untouched, done, request, unmade, failure, entries_eq, split, granted, refused⟩
  · exact ⟨_, leads⟩
  · obtain ⟨h, leads, -, eq⟩ := installAll_of_refused earlier untouched split granted refused
    obtain ⟨back, leads'⟩ := exists_leads_rollBack earlier (h.log (.installFailed name failure))
    rw [entries_eq, eq]
    exact ⟨_, (leads.log rfl).trans leads'⟩

theorem exists_leads_install (packages : Table FetchedPackage) (g : Gateway σ) :
    ∃ requests, g.Leads requests (g.install packages).2 := by
  rw [install]
  split
  · exact ⟨[], .refl⟩
  · exact exists_leads_installAll g.packages packages.entries g

/-! ### Loading -/

omit [Backend σ] in
/-- What the fetches of a load come to, and what happens to them. -/
def fetching (g : Gateway σ) (fetcher : Fetcher) (requests : List (String × Descriptor))
    (moves : List Move) : List Milestone × Harvest :=
  Window.run (fun name => fetcher.fetch (some name)) moves
    (Window.opening g.settings.room (Table.ofList requests))

omit [Backend σ] in
/-- **A single fetch** that begins and ends. -/
theorem fetching_single (g : Gateway σ) {fetcher : Fetcher} {name : String}
    {descriptor : Descriptor} {package : FetchedPackage}
    (fetched : fetcher.fetch (some name) descriptor = .ok package) :
    g.fetching fetcher [(name, descriptor)] [.start, .finish name] =
      ([.started name descriptor, .finished name descriptor],
        .complete (Table.ofList [(name, package)])) := by
  have waiting : (Table.ofList [(name, descriptor)]).entries = [(name, descriptor)] := rfl
  have collected : Table.empty.insert name package = Table.ofList [(name, package)] := rfl
  simp [fetching, Window.run, Window.opening, waiting, Window.move?, Window.start?,
    Window.finish?, g.settings.room_pos, fetched, Except.map, Window.isDone, collected]

variable {g : Gateway σ} {fetcher : Fetcher} {requests : List (String × Descriptor)}
  {moves : List Move} {milestones : List Milestone}

theorem leads_logAll_events (g : Gateway σ) (fetcher : Fetcher) (milestones : List Milestone) :
    g.Leads [] (g.logAll (milestones.flatMap fetcher.events)) :=
  Leads.refl.logAll fun event mem => by
    obtain ⟨milestone, -, mem⟩ := List.mem_flatMap.mp mem
    exact Fetcher.isOfRequest_of_mem_events mem

theorem load_of_badName {failure : Failure}
    (badName : nameFailure? (Table.ofList requests) = some failure) :
    g.load fetcher requests moves = ⟨some (.error failure), [], g⟩ := by
  rw [load]
  simp only [badName]

theorem load_of_abandoned (named : nameFailure? (Table.ofList requests) = none)
    (fetched : g.fetching fetcher requests moves = (milestones, .abandoned)) :
    g.load fetcher requests moves =
      ⟨none, milestones, g.logAll (milestones.flatMap fetcher.events)⟩ := by
  rw [fetching] at fetched
  rw [load]
  simp only [named, fetched]

theorem load_of_failed {error : FetchError}
    (named : nameFailure? (Table.ofList requests) = none)
    (fetched : g.fetching fetcher requests moves = (milestones, .failed error)) :
    g.load fetcher requests moves =
      ⟨some (.error (.notFetched error)), milestones,
        g.logAll (milestones.flatMap fetcher.events)⟩ := by
  rw [fetching] at fetched
  rw [load]
  simp only [named, fetched]

theorem load_of_complete {packages : Table FetchedPackage}
    (named : nameFailure? (Table.ofList requests) = none)
    (fetched : g.fetching fetcher requests moves = (milestones, .complete packages)) :
    g.load fetcher requests moves =
      ⟨some ((g.logAll (milestones.flatMap fetcher.events)).install packages).1, milestones,
        ((g.logAll (milestones.flatMap fetcher.events)).install packages).2⟩ := by
  rw [fetching] at fetched
  rw [load]
  simp only [named, fetched]

theorem exists_leads_load (g : Gateway σ) (fetcher : Fetcher)
    (requests : List (String × Descriptor)) (moves : List Move) :
    ∃ made, g.Leads made (g.load fetcher requests moves).gateway := by
  cases named : nameFailure? (Table.ofList requests) with
  | some failure =>
    rw [load_of_badName named]
    exact ⟨[], .refl⟩
  | none =>
    rcases fetched : g.fetching fetcher requests moves with ⟨milestones, harvest⟩
    have events := g.leads_logAll_events fetcher milestones
    cases harvest with
    | abandoned =>
      rw [load_of_abandoned named fetched]
      exact ⟨[], events⟩
    | failed error =>
      rw [load_of_failed named fetched]
      exact ⟨[], events⟩
    | complete packages =>
      rw [load_of_complete named fetched]
      obtain ⟨made, leads⟩ := exists_leads_install packages
        (g.logAll (milestones.flatMap fetcher.events))
      exact ⟨_, events.trans leads⟩

end Gateway

end CompilerGateway
