import CompilerGateway.Proofs.ByteOrder
import CompilerGateway.Proofs.Calls
import CompilerGateway.Proofs.Confinement
import CompilerGateway.Proofs.FileTable

/-!
# Loads that go through

Once everything is fetched and found fit, a load either places all packages or breaks off at one
of them (`CompilerGateway.Gateway.granted_or_breakOff`), and it is the backend that decides. A
load that goes through has made just the requests that bring each package to its directory
(`CompilerGateway.Gateway.exists_placed_of_ok`); the registrations, and the files of a backend
that keeps files, can be read off these.

What is fetched does not depend on the order in which fetches end, and of the requests only the
last one of each name counts. So two loads that are waited for come to the same, whatever that
is, if these last requests are the same (`CompilerGateway.Gateway.load_congr`). The one
exception is that of several fetches that fail it is the first to end that is reported.
-/

namespace CompilerGateway

namespace Gateway

section Outcome

variable {σ : Type} [Backend σ] {g : Gateway σ} {fetcher : Fetcher}
  {requests : List (String × Descriptor)} {moves : List Move} {milestones : List Milestone}
  {packages : Table FetchedPackage}

/-! ### All packages are placed, or the load breaks off -/

/-- Where a request is refused on the way, not all of them are granted. -/
theorem not_granted_of_refused {entries before untouched : List (String × FetchedPackage)}
    {entry : String × FetchedPackage} {done unmade : List Request} {request : Request}
    {failure : Failure} (entries_eq : entries = before ++ entry :: untouched)
    (split : g.placement entry = done ++ request :: unmade)
    (refused : (Backend.ask request
      (Backend.after (before.flatMap g.placement ++ done) g.backend)).1 = some failure) :
    ¬ Backend.Granted (entries.flatMap g.placement) g.backend := by
  intro granted
  have whole : entries.flatMap g.placement =
      (before.flatMap g.placement ++ done) ++
        request :: (unmade ++ untouched.flatMap g.placement) := by
    rw [entries_eq, List.flatMap_append, List.flatMap_cons, split]
    simp only [List.append_assoc, List.cons_append]
  rw [whole, Backend.granted_append, Backend.granted_cons] at granted
  cases granted.2.1.symm.trans refused

/-- **It is for the backend to decide** whether a load goes through. -/
theorem granted_or_breakOff (named : nameFailure? (Table.ofList requests) = none)
    (fetched : g.fetching fetcher requests moves = (milestones, .complete packages))
    (fit : contentFailure? packages = none) :
    Backend.Granted (packages.entries.flatMap g.placement) g.backend ∨
      ∃ x : BreakOff g fetcher requests moves, x.packages = packages := by
  rcases installAll_cases g.packages packages.entries g with ⟨granted, -, -⟩ | ⟨before, name,
    package, untouched, done, request, unmade, failure, entries_eq, split, granted, refused⟩
  · exact .inl granted
  · exact .inr ⟨⟨milestones, packages, before, name, package, untouched, done, request, unmade,
      failure, named, fetched, fit, entries_eq, split, granted, refused⟩, rfl⟩

/-- **Where all requests are granted, a load goes through**, and has made these requests. -/
theorem load_of_granted (named : nameFailure? (Table.ofList requests) = none)
    (fetched : g.fetching fetcher requests moves = (milestones, .complete packages))
    (fit : contentFailure? packages = none)
    (granted : Backend.Granted (packages.entries.flatMap g.placement) g.backend) :
    (g.load fetcher requests moves).result = some (.ok ()) ∧
      g.Leads (packages.entries.flatMap g.placement) (g.load fetcher requests moves).gateway := by
  have logged := g.leads_logAll_events fetcher milestones
  have same := placement_congr logged.settings_eq
  rw [load_of_complete named fetched, install, fit]
  rcases installAll_cases g.packages packages.entries
    (g.logAll (milestones.flatMap fetcher.events)) with ⟨-, ok, leads⟩ | ⟨_, _, _, _, _, _, _, _,
      entries_eq, split, -, refused⟩
  · rw [same] at leads
    exact ⟨congrArg some ok, logged.trans leads⟩
  · rw [same] at split refused
    rw [logged.backend_eq] at refused
    exact absurd granted (not_granted_of_refused entries_eq split refused)

/-- **What a load has done that went through.** -/
theorem exists_placed_of_ok (ok : (g.load fetcher requests moves).result = some (.ok ())) :
    ∃ milestones packages, nameFailure? (Table.ofList requests) = none ∧
      g.fetching fetcher requests moves = (milestones, .complete packages) ∧
      contentFailure? packages = none ∧
      Backend.Granted (packages.entries.flatMap g.placement) g.backend ∧
      g.Leads (packages.entries.flatMap g.placement) (g.load fetcher requests moves).gateway := by
  have course := g.course_load fetcher requests moves
  generalize loading_eq : g.load fetcher requests moves = loading at course ok ⊢
  cases course with
  | installing named fetched fit =>
    rcases granted_or_breakOff named fetched fit with granted | ⟨x, -⟩
    · have leads := (load_of_granted named fetched fit granted).2
      rw [loading_eq] at leads
      exact ⟨_, _, named, fetched, fit, granted, leads⟩
    · have failed := x.result_load
      rw [loading_eq] at failed
      cases failed.symm.trans ok
  | _ => cases ok

/-! ### What has been fetched -/

omit [Backend σ] in
/-- What is fetched are packages for the requested names. -/
theorem mem_names_iff_of_fetched
    (fetched : g.fetching fetcher requests moves = (milestones, .complete packages))
    (name : String) : name ∈ packages.names ↔ name ∈ requests.map Prod.fst := by
  obtain ⟨ended, kept⟩ := Window.complete_run_opening fetched
  rw [Table.mem_names_iff, ← Table.mem_names_ofList, Table.mem_names_iff]
  constructor
  · rintro ⟨package, found⟩
    obtain ⟨descriptor, asked, -⟩ := (kept name package).mp found
    exact ⟨descriptor, asked⟩
  · rintro ⟨descriptor, asked⟩
    obtain ⟨-, package, isOk⟩ := ended name descriptor asked
    exact ⟨package, (kept name package).mpr ⟨descriptor, asked, isOk⟩⟩

omit [Backend σ] in
/-- What has passed both checks is in order. -/
theorem ordered_of_fetched (named : nameFailure? (Table.ofList requests) = none)
    (fetched : g.fetching fetcher requests moves = (milestones, .complete packages))
    (fit : contentFailure? packages = none) (name : String) (package : FetchedPackage)
    (found : packages.find? name = some package) : nameFault? name = none ∧ package.Fit :=
  ⟨nameFailure?_eq_none_iff.mp named name
      ((mem_names_iff_of_fetched fetched name).mp (Table.mem_names_iff.mpr ⟨package, found⟩)),
    contentFailure?_eq_none_iff.mp fit name package found⟩

/-! ### Two loads -/

variable {requests' : List (String × Descriptor)} {moves' : List Move}
  {milestones' : List Milestone}

/-- A load only knows the table of its requests. -/
theorem load_eq_of_ofList_eq (g : Gateway σ) (fetcher : Fetcher) (moves : List Move)
    (same : Table.ofList requests' = Table.ofList requests) :
    g.load fetcher requests' moves = g.load fetcher requests moves := by
  rw [load, load, same]

/-- **Loads that have fetched the same** come to the same. -/
theorem load_congr_of_complete (same : Table.ofList requests' = Table.ofList requests)
    (named : nameFailure? (Table.ofList requests) = none)
    (fetched : g.fetching fetcher requests moves = (milestones, .complete packages))
    (fetched' : g.fetching fetcher requests' moves' = (milestones', .complete packages)) :
    (g.load fetcher requests' moves').result = (g.load fetcher requests moves).result ∧
      (g.load fetcher requests' moves').gateway.backend =
        (g.load fetcher requests moves).gateway.backend ∧
      (g.load fetcher requests' moves').gateway.packages =
        (g.load fetcher requests moves).gateway.packages := by
  have named' : nameFailure? (Table.ofList requests') = none := same ▸ named
  cases fit : contentFailure? packages with
  | some failure =>
    rw [load_of_complete named fetched, load_of_complete named' fetched', install, install, fit]
    exact ⟨rfl, rfl, rfl⟩
  | none =>
    rcases granted_or_breakOff named fetched fit with granted | ⟨x, rfl⟩
    · obtain ⟨ok, leads⟩ := load_of_granted named fetched fit granted
      obtain ⟨ok', leads'⟩ := load_of_granted named' fetched' fit granted
      exact ⟨ok'.trans ok.symm, leads'.backend_eq.trans leads.backend_eq.symm,
        leads'.packages_eq.trans leads.packages_eq.symm⟩
    · -- the other one breaks off at the same request
      let x' : BreakOff g fetcher requests' moves' :=
        { x with milestones := milestones', named := named', fetched := fetched' }
      refine ⟨x'.result_load.trans x.result_load.symm, ?_⟩
      by_cases cleared : (Backend.ask .clearPackage x.left).1 = none
      · have leads := x.leads_load_of_cleared cleared
        have leads' := x'.leads_load_of_cleared cleared
        exact ⟨leads'.backend_eq.trans leads.backend_eq.symm,
          leads'.packages_eq.trans leads.packages_eq.symm⟩
      · have leads := x.leads_load_of_refused cleared
        have leads' := x'.leads_load_of_refused cleared
        exact ⟨leads'.backend_eq.trans leads.backend_eq.symm,
          leads'.packages_eq.trans leads.packages_eq.symm⟩

/-- **Only the last request of each name counts**, and only the order of failures can be seen
from the order in which fetches end. -/
theorem load_congr (same : Table.ofList requests' = Table.ofList requests)
    (awaited : (g.load fetcher requests moves).result ≠ none)
    (awaited' : (g.load fetcher requests' moves').result ≠ none) :
    (g.load fetcher requests' moves').gateway.backend =
        (g.load fetcher requests moves).gateway.backend ∧
      (g.load fetcher requests' moves').gateway.packages =
        (g.load fetcher requests moves).gateway.packages ∧
      ((g.load fetcher requests' moves').result = (g.load fetcher requests moves).result ∨
        ∃ error error',
          (g.load fetcher requests moves).result = some (.error (.notFetched error)) ∧
          (g.load fetcher requests' moves').result = some (.error (.notFetched error'))) := by
  cases named : nameFailure? (Table.ofList requests) with
  | some failure =>
    have named' : nameFailure? (Table.ofList requests') = some failure := same ▸ named
    rw [load_of_badName named, load_of_badName named']
    exact ⟨rfl, rfl, .inl rfl⟩
  | none =>
    have named' : nameFailure? (Table.ofList requests') = none := same ▸ named
    rcases fetched : g.fetching fetcher requests moves with ⟨milestones, harvest⟩
    rcases fetched' : g.fetching fetcher requests' moves' with ⟨milestones', harvest'⟩
    -- a fetch that fails for the one does not end with a package for the other
    have apart {ms ms' : List Milestone} {rs rs' : List (String × Descriptor)} {vs vs' : List Move}
        {brought : Table FetchedPackage} {error : FetchError}
        (eq : Table.ofList rs' = Table.ofList rs)
        (complete : g.fetching fetcher rs vs = (ms, .complete brought))
        (failed : g.fetching fetcher rs' vs' = (ms', .failed error)) : False := by
      obtain ⟨name, descriptor, found, fails⟩ := Window.failed_run_opening failed
      rw [eq] at found
      obtain ⟨-, package, isOk⟩ := (Window.complete_run_opening complete).1 name descriptor found
      cases isOk.symm.trans fails
    cases harvest with
    | abandoned =>
      rw [load_of_abandoned named fetched] at awaited
      exact absurd rfl awaited
    | failed error =>
      cases harvest' with
      | abandoned =>
        rw [load_of_abandoned named' fetched'] at awaited'
        exact absurd rfl awaited'
      | failed error' =>
        rw [load_of_failed named fetched, load_of_failed named' fetched']
        exact ⟨rfl, rfl, .inr ⟨error, error', rfl, rfl⟩⟩
      | complete packages' => exact (apart same.symm fetched' fetched).elim
    | complete packages =>
      cases harvest' with
      | abandoned =>
        rw [load_of_abandoned named' fetched'] at awaited'
        exact absurd rfl awaited'
      | failed error' => exact (apart same fetched fetched').elim
      | complete packages' =>
        have packages_eq : packages' = packages := by
          refine Table.ext_find? fun name => Option.ext fun package => ?_
          rw [(Window.complete_run_opening fetched').2, (Window.complete_run_opening fetched).2,
            same]
        obtain ⟨result_eq, backend_eq, account_eq⟩ :=
          load_congr_of_complete same named fetched (packages_eq ▸ fetched')
        exact ⟨backend_eq, account_eq, .inl result_eq⟩

end Outcome

/-! ### What deliveries come to -/

section Deliveries

variable {σ : Type} {g : Gateway σ} {placed : Table FetchedPackage}

/-- Packages that are in order are placed by their deliveries. -/
theorem flatMap_placement_eq (g : Gateway σ)
    (ordered : ∀ name package, placed.find? name = some package →
      nameFault? name = none ∧ package.Fit) :
    placed.entries.flatMap g.placement = placed.entries.flatMap g.delivery := by
  rw [List.flatMap_def, List.flatMap_def]
  refine congrArg List.flatten (List.map_congr_left fun entry mem => ?_)
  obtain ⟨named, fit⟩ := ordered entry.1 entry.2 (Table.mem_entries_iff.mp mem)
  exact g.placement_eq_delivery named fit

/-- **The account after packages have been placed**: their directories over what there was. -/
theorem find?_overlaid (g : Gateway σ)
    (ordered : ∀ name package, placed.find? name = some package →
      nameFault? name = none ∧ package.Fit) (packages : Table String) (name : String) :
    (g.overlaid placed.entries packages).find? name =
      ((placed.find? name).map fun package => g.home name package.version).or
        (packages.find? name) := by
  have overlaid_eq : g.overlaid placed.entries packages =
      (placed.entries.map fun entry => (entry.1, g.home entry.1 entry.2.version)).foldl
        (fun packages p => packages.insert p.1 p.2) packages := by
    have homes : (placed.entries.map fun entry => (entry.1, g.home entry.1 entry.2.version)) =
        placed.entries.map fun entry => (entry.1, g.installPath entry.1 entry.2.version) := by
      refine List.map_congr_left fun entry mem => ?_
      obtain ⟨named, fit⟩ := ordered entry.1 entry.2 (Table.mem_entries_iff.mp mem)
      rw [g.installPath_eq_home (VirtualPath.descends_of_nameFault? named) fit.descends_version]
    rw [homes, List.foldl_map, overlaid]
  rw [overlaid_eq, Table.find?_foldl_insert, Table.lookup_reverse_map_entries]

theorem keepsFiles_of_mem_delivery {entry : String × FetchedPackage} {request : Request}
    (mem : request ∈ g.delivery entry) : request.keepsFiles = true := by
  rcases List.mem_append.mp mem with mem | mem
  · obtain ⟨file, -, rfl⟩ := List.mem_map.mp mem
    rfl
  · rw [List.mem_singleton.mp mem]
    rfl

/-- **What deliveries write**: the files of the packages, each at its key below the directory. -/
theorem mem_written_iff {path content : String} :
    (path, content) ∈ (placed.entries.flatMap g.delivery).flatMap Request.written ↔
      ∃ name package key, placed.find? name = some package ∧
        package.files.find? key = some content ∧
        path = g.home name package.version ++ "/" ++ key := by
  simp only [List.mem_flatMap]
  constructor
  · rintro ⟨request, ⟨⟨name, package⟩, mem, mem'⟩, written⟩
    rcases List.mem_append.mp mem' with mem' | mem'
    · obtain ⟨⟨key, held⟩, file, rfl⟩ := List.mem_map.mp mem'
      obtain ⟨rfl, rfl⟩ := Prod.mk.inj (List.mem_singleton.mp written)
      exact ⟨name, package, key, Table.mem_entries_iff.mp mem, Table.mem_entries_iff.mp file, rfl⟩
    · rw [List.mem_singleton.mp mem'] at written
      cases written
  · rintro ⟨name, package, key, found, file, rfl⟩
    refine ⟨.saveFile (g.home name package.version ++ "/" ++ key) content,
      ⟨(name, package), Table.mem_entries_iff.mpr found, ?_⟩, List.mem_singleton_self _⟩
    rw [delivery]
    exact List.mem_append_left _
      (List.mem_map.mpr ⟨(key, content), Table.mem_entries_iff.mpr file, rfl⟩)

variable [Backend σ] {files : σ → Table String} {backend next : σ}

/-- **The files after deliveries**: each file of a package at its path, and at any other path
what was there before. -/
theorem files_of_delivered (stored : Backend.Stores files)
    (ordered : ∀ name package, placed.find? name = some package →
      nameFault? name = none ∧ package.Fit)
    (granted : Backend.Granted (placed.entries.flatMap g.delivery) (some backend))
    (reached : Backend.after (placed.entries.flatMap g.delivery) (some backend) = some next) :
    (∀ name package key content, placed.find? name = some package →
      package.files.find? key = some content →
      (files next).find? (g.home name package.version ++ "/" ++ key) = some content) ∧
    ∀ path, (∀ name package, placed.find? name = some package →
        ∀ key ∈ package.files.names, path ≠ g.home name package.version ++ "/" ++ key) →
      (files next).find? path = (files backend).find? path := by
  have keep : ∀ request ∈ placed.entries.flatMap g.delivery, request.keepsFiles = true := by
    intro request mem
    obtain ⟨entry, -, mem⟩ := List.mem_flatMap.mp mem
    exact keepsFiles_of_mem_delivery mem
  have found_eq := stored.find?_after granted keep reached
  refine ⟨fun name package key content found file => ?_, fun path other => ?_⟩
  · rw [found_eq]
    have mem : (g.home name package.version ++ "/" ++ key, content) ∈
        (placed.entries.flatMap g.delivery).flatMap Request.written :=
      mem_written_iff.mpr ⟨name, package, key, found, file, rfl⟩
    cases last : ((placed.entries.flatMap g.delivery).flatMap Request.written).reverse.lookup
      (g.home name package.version ++ "/" ++ key) with
    | none =>
      rw [Table.lookup_eq_none_iff, List.map_reverse, List.mem_reverse] at last
      exact absurd (List.mem_map_of_mem (f := Prod.fst) mem) last
    | some written =>
      -- whatever was written there last is the file of that package and key
      obtain ⟨before, after, split, -⟩ := List.lookup_eq_some_iff.mp last
      have mem' : (g.home name package.version ++ "/" ++ key, written) ∈
          (placed.entries.flatMap g.delivery).flatMap Request.written := by
        rw [← List.mem_reverse, split]
        exact List.mem_append_right _ List.mem_cons_self
      obtain ⟨name', package', key', found', file', path_eq⟩ := mem_written_iff.mp mem'
      obtain ⟨named, fit⟩ := ordered name package found
      obtain ⟨named', fit'⟩ := ordered name' package' found'
      obtain ⟨rfl, -, rfl⟩ := home_append_inj (VirtualPath.descends_of_nameFault? named)
        (VirtualPath.descends_of_nameFault? named') fit.descends_version fit'.descends_version
        path_eq
      obtain rfl := Option.some.inj (found.symm.trans found')
      obtain rfl := Option.some.inj (file.symm.trans file')
      rfl
  · rw [found_eq]
    have absent : ((placed.entries.flatMap g.delivery).flatMap
        Request.written).reverse.lookup path = none := by
      rw [Table.lookup_eq_none_iff, List.map_reverse, List.mem_reverse]
      intro mem
      obtain ⟨⟨_, content⟩, mem', rfl⟩ := List.mem_map.mp mem
      obtain ⟨name, package, key, found, file, path_eq⟩ := mem_written_iff.mp mem'
      exact other name package found key (Table.mem_names_iff.mpr ⟨content, file⟩) path_eq
    rw [absent, Option.none_or]

end Deliveries

/-! ### What a load comes to that goes through -/

variable {σ : Type} [Backend σ]

/-- **A load that goes through** has made just the requests that bring each requested package,
as it is fetched by the last descriptor given for its name, to its directory: in the order of
the names its files in the order of their keys, and its registration. The account is then what
it was, with the new directories over it; and a backend that stores files holds those of the
packages, and all others as they were.

What a load comes to depends on the last descriptors alone: neither the order of requests of
different names nor an earlier request for a name matters, and neither does the order in which
things happen, but for which of several failed fetches is reported. -/
theorem load_delivers (g : Gateway (Recorded σ)) (fetcher : Fetcher)
    (requests : List (String × Descriptor)) (moves : List Move) :
    let loading := g.load fetcher requests moves
    (loading.result = some (.ok ()) → ∃ placed : Table FetchedPackage,
      (∀ name, name ∈ placed.names ↔ name ∈ requests.map Prod.fst) ∧
      (∀ name package, placed.find? name = some package ↔
        ∃ descriptor, requests.reverse.lookup name = some descriptor ∧
          fetcher.fetch (some name) descriptor = .ok package) ∧
      (placed.names.Pairwise fun name other => Text.bytes name < Text.bytes other) ∧
      (∀ name package, placed.find? name = some package →
        package.files.names.Pairwise fun key other => Text.bytes key < Text.bytes other) ∧
      (loading.gateway.exchanges =
        g.exchanges ++
          (placed.entries.flatMap g.delivery).map fun request => (⟨request, none⟩ : Exchange)) ∧
      (∀ name, loading.gateway.packages.find? name =
        ((placed.find? name).map fun package => g.home name package.version).or
          (g.packages.find? name)) ∧
      ∀ current, g.backend = some current → ∃ next, loading.gateway.backend = some next ∧
        ∀ files : σ → Table String, Backend.Stores files →
          (∀ name package key content, placed.find? name = some package →
            package.files.find? key = some content →
            (files next.backend).find? (g.home name package.version ++ "/" ++ key) =
              some content) ∧
          ∀ path, (∀ name package, placed.find? name = some package →
              ∀ key ∈ package.files.names,
                path ≠ g.home name package.version ++ "/" ++ key) →
            (files next.backend).find? path = (files current.backend).find? path) ∧
    (∀ requests' : List (String × Descriptor),
      (∀ name, requests'.reverse.lookup name = requests.reverse.lookup name) →
      g.load fetcher requests' moves = loading ∧
      ∀ moves' : List Move, let other := g.load fetcher requests' moves'
        loading.result ≠ none → other.result ≠ none →
          other.gateway.backend = loading.gateway.backend ∧
          other.gateway.packages = loading.gateway.packages ∧
          (other.result = loading.result ∨ ∃ error error',
            loading.result = some (.error (.notFetched error)) ∧
            other.result = some (.error (.notFetched error')))) ∧
    (∀ requests' : List (String × Descriptor), requests'.Perm requests →
      (requests.map Prod.fst).Nodup →
      ∀ name, requests'.reverse.lookup name = requests.reverse.lookup name) ∧
    ∀ earlier : List (String × Descriptor),
      (∀ name ∈ earlier.map Prod.fst, name ∈ requests.map Prod.fst) →
      ∀ name, (earlier ++ requests).reverse.lookup name = requests.reverse.lookup name := by
  intro loading
  refine ⟨fun ok => ?_, fun requests' same => ?_,
    fun requests' perm distinct => Table.lookup_reverse_perm perm distinct,
    fun earlier again => Table.lookup_reverse_append again⟩
  · obtain ⟨milestones, placed, named, fetched, fit, granted, leads⟩ := exists_placed_of_ok ok
    have kept := (Window.complete_run_opening fetched).2
    have ordered := ordered_of_fetched named fetched fit
    have requests_eq := flatMap_placement_eq g ordered
    refine ⟨placed, mem_names_iff_of_fetched fetched, fun name package => ?_, placed.pairwise_bytes,
      fun _ package _ => package.files.pairwise_bytes, ?_, fun name => ?_,
      fun current present => ?_⟩
    · rw [kept, Table.find?_ofList]
    · rw [← requests_eq]
      exact leads.exchanges_of_granted granted
    · rw [leads.packages_eq, Backend.attempts_of_granted granted, replay_flatMap_placement,
        find?_overlaid g ordered]
    · rw [requests_eq, present] at granted
      obtain ⟨next, reached⟩ :=
        Backend.exists_after_some (placed.entries.flatMap g.delivery) current
      refine ⟨next, by rw [leads.backend_eq, requests_eq, present, reached],
        fun files stored => ?_⟩
      have delivered := files_of_delivered stored.recorded ordered granted reached
      exact delivered
  · have table_eq : Table.ofList requests' = Table.ofList requests :=
      Table.ext_find? fun name => by rw [Table.find?_ofList, Table.find?_ofList, same]
    exact ⟨g.load_eq_of_ofList_eq fetcher moves table_eq,
      fun moves' awaited awaited' => load_congr table_eq awaited awaited'⟩

/-- A load that replaces a package, which is requested twice and not first in order. The file
that only the earlier version has stays where it is. -/
theorem load_delivers_replacing :
    let fetcher := Fetcher.quiet fun descriptor =>
      .ok ⟨"any", "1", Table.ofList [("b.mo", descriptor.render), ("a.mo", "module A")]⟩
    let requests : List (String × Descriptor) :=
      [("core", .directory "core"), ("base", .directory "old"), ("base", .directory "new")]
    let moves : List Move := [.start, .start, .finish "core", .finish "base"]
    let files := Table.ofList [("base/1/b.mo", "module B"), ("base/1/gone.mo", "module C")]
    let g : Gateway (Recorded Unscripted) :=
      ⟨"0.14.0", { Settings.standard with packageRoot := "/" }, some (.fresh (.ofFiles files)),
        Table.ofList [("base", "base/0"), ("prior", "prior/2")], []⟩
    let loading := g.load fetcher requests moves
    loading.result = some (.ok ()) ∧
      loading.gateway.exchanges = ([.saveFile "base/1/a.mo" "module A",
        .saveFile "base/1/b.mo" "new", .addPackage "base" "base/1",
        .saveFile "core/1/a.mo" "module A", .saveFile "core/1/b.mo" "core",
        .addPackage "core" "core/1"] : List Request).map (fun request => ⟨request, none⟩) ∧
      loading.gateway.packages.find? "base" = some "base/1" ∧
      loading.gateway.packages.find? "prior" = some "prior/2" ∧
      (∀ next, loading.gateway.backend = some next →
        next.backend.held.files.find? "base/1/b.mo" = some "new" ∧
        next.backend.held.files.find? "base/1/gone.mo" = some "module C") ∧
      g.load fetcher [("base", .directory "new"), ("core", .directory "core")] moves = loading := by
  intro fetcher requests moves files g loading
  let package (descriptor : Descriptor) : FetchedPackage :=
    ⟨"any", "1", Table.ofList [("b.mo", descriptor.render), ("a.mo", "module A")]⟩
  have ok : loading.result = some (.ok ()) := rfl
  obtain ⟨through, others, -, -⟩ := g.load_delivers fetcher requests moves
  obtain ⟨placed, -, found_iff, -, -, calls, account, stored⟩ := through ok
  have placed_eq : placed = (Table.ofList requests).map package := by
    refine Table.ext_find? fun name => Option.ext fun other => ?_
    rw [found_iff, Table.find?_map, Table.find?_ofList, Option.map_eq_some_iff]
    exact exists_congr fun _ => and_congr_right fun _ => ⟨Except.ok.inj, congrArg _⟩
  have entries_eq : placed.entries =
      [("base", package (.directory "new")), ("core", package (.directory "core"))] := by
    rw [placed_eq]
    rfl
  have base : placed.find? "base" = some (package (.directory "new")) := by
    rw [placed_eq]
    rfl
  have path_eq : g.home "base" "1" ++ "/" ++ "b.mo" = "base/1/b.mo" := by decide +kernel
  refine ⟨ok, ?_, ?_, ?_, fun next reached => ?_, ?_⟩
  · rw [calls, entries_eq]
    exact congrArg (List.map _) (by decide +kernel)
  · rw [account, base]
    decide +kernel
  · rw [account, placed_eq]
    decide +kernel
  · obtain ⟨last, last_eq, kept⟩ := stored _ rfl
    obtain rfl := Option.some.inj (last_eq.symm.trans reached)
    obtain ⟨held, unchanged⟩ := kept _ Unscripted.stores_files
    have apart : ∀ entry ∈ placed.entries, ∀ key ∈ entry.2.files.names,
        "base/1/gone.mo" ≠ g.home entry.1 entry.2.version ++ "/" ++ key := by
      rw [entries_eq]
      decide +kernel
    have newest : last.backend.held.files.find? (g.home "base" "1" ++ "/" ++ "b.mo") =
        some "new" :=
      held "base" (package (.directory "new")) "b.mo" "new" base (by decide +kernel)
    rw [path_eq] at newest
    have stale : files.find? "base/1/gone.mo" = some "module C" := by decide +kernel
    refine ⟨newest, (unchanged "base/1/gone.mo" fun name other found => ?_).trans stale⟩
    exact apart (name, other) (Table.mem_entries_iff.mpr found)
  · refine (others _ fun name => ?_).1
    rw [← Table.find?_ofList, ← Table.find?_ofList]
    exact congrArg (Table.find? · name) (by decide +kernel)

end Gateway

end CompilerGateway
