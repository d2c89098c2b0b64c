import CompilerGateway.Proofs.CompleteLoad
import CompilerGateway.Proofs.EntryRanking
import CompilerGateway.Proofs.MovingPath
import CompilerGateway.Proofs.Registrations

/-!
# Registrations that come from loads

A load registers packages in the directories that it installs them in, and when it breaks off it
makes registrations again that there were before. Everything else but a registration by hand makes
none. So in a session without these, at any time, every package that is registered is where a load
puts it: in the directory of its version, below its name, below the root
(`CompilerGateway.Session.allInstalled_run`).

Where one package is installed, no other is: a path within the directories of two packages tells
that they are the same (`CompilerGateway.Gateway.eq_of_isWithin_home`).
-/

namespace CompilerGateway

open VirtualPath

namespace Gateway

section Homes

variable {σ : Type} {g h : Gateway σ} {name name' version version' package path : String}

/-- **A directory that a load can register for a name**: that of some version. -/
def IsHome (g : Gateway σ) (name package : String) : Prop :=
  ∃ version, nameFault? name = none ∧ nameFault? version = none ∧ package = g.home name version

/-- **All packages are installed** in the directories that loads put them in. -/
def AllInstalled (g : Gateway σ) : Prop :=
  ∀ name package, g.packages.find? name = some package → g.IsHome name package

theorem isHome_congr (same : h.settings = g.settings) : h.IsHome = g.IsHome := by
  funext name package
  simp only [IsHome, home, same]

theorem allInstalled_of_empty (empty : g.packages = .empty) : g.AllInstalled := by
  intro name package found
  rw [empty] at found
  cases found

/-- What is within the directory of a package is below its name. -/
theorem exists_eq_of_isWithin_home (versioned : Descends version)
    (within : isWithin path (g.home name version) = true) :
    ∃ rest, path = below g.settings.root (name ++ "/" ++ rest) := by
  have nonempty : name ++ "/" ++ version ≠ "" := by simp
  have last := getLast?_append_ne (name ++ "/") versioned.ne_empty versioned.getLast?_ne
  rw [home] at within
  rcases (isWithin_iff (below_ne_empty nonempty) (getLast?_below nonempty last)).mp within with
    rfl | ⟨rest, rfl⟩
  · exact ⟨version, rfl⟩
  · refine ⟨version ++ "/" ++ rest, ?_⟩
    rw [below_append]
    simp only [String.append_assoc]

/-- **A path is within the directory of one package** at most. -/
theorem eq_of_isWithin_home (isHome : g.IsHome name package) (within : isWithin path package = true)
    {package' : String} (isHome' : g.IsHome name' package')
    (within' : isWithin path package' = true) : name = name' := by
  obtain ⟨version, named, versioned, rfl⟩ := isHome
  obtain ⟨version', named', versioned', rfl⟩ := isHome'
  have down := descends_of_nameFault? versioned
  have down' := descends_of_nameFault? versioned'
  obtain ⟨rest, rfl⟩ := exists_eq_of_isWithin_home down within
  exact eq_of_isWithin_below (descends_of_nameFault? named) (descends_of_nameFault? named')
    down'.ne_empty down'.getLast?_ne within'

/-! ### Requests that register where loads do -/

/-- **Requests that register packages only where loads put them.** -/
def Homely (g : Gateway σ) (requests : List Request) : Prop :=
  ∀ name package, .addPackage name package ∈ requests → g.IsHome name package

theorem homely_nil : g.Homely [] := fun _ _ mem => by cases mem

theorem homely_append {requests more : List Request} :
    g.Homely (requests ++ more) ↔ g.Homely requests ∧ g.Homely more := by
  simp only [Homely, List.mem_append, or_imp, forall_and]

/-- Packages that are in order are placed where they belong. -/
theorem homely_placements {entries : List (String × FetchedPackage)}
    (ordered : ∀ name package, (name, package) ∈ entries →
      nameFault? name = none ∧ package.Fit) : g.Homely (entries.flatMap g.placement) := by
  intro name package mem
  obtain ⟨⟨other, fetched⟩, mem', mem⟩ := List.mem_flatMap.mp mem
  obtain ⟨named, fit⟩ := ordered other fetched mem'
  rcases List.mem_append.mp mem with mem | mem
  · obtain ⟨_, -, same⟩ := List.mem_map.mp mem
    exact absurd same (by simp)
  · have same := List.mem_singleton.mp mem
    rw [Request.addPackage.injEq] at same
    obtain ⟨name_eq, package_eq⟩ := same
    rw [name_eq, package_eq]
    exact ⟨fetched.version, named, fit.version,
      g.installPath_eq_home (descends_of_nameFault? named) fit.descends_version⟩

/-- What is made again was there before. -/
theorem AllInstalled.homely_restoration (installed : g.AllInstalled) :
    g.Homely (restoration g.packages) := by
  intro name package mem
  obtain ⟨⟨other, directory⟩, mem', same⟩ := List.mem_map.mp mem
  obtain ⟨rfl, rfl⟩ := Request.addPackage.inj same
  exact installed _ _ (Table.mem_entries_iff.mp mem')

end Homes

variable {σ : Type} [Backend σ] {g h : Gateway σ}

/-- What is registered after an attempt was registered before, or is what was requested. -/
theorem of_find?_follow {g : Gateway σ} {request : Request} {name package : String}
    (found : (g.follow request).packages.find? name = some package) :
    g.packages.find? name = some package ∨ request = .addPackage name package := by
  rw [follow, Attempt.effect] at found
  split at found
  · cases request with
    | addPackage other directory =>
      simp only [Request.effect, Table.find?_insert] at found
      split at found
      · rename_i same
        obtain rfl := Option.some.inj found
        exact .inr (congrArg (Request.addPackage · directory) same)
      · exact .inl found
    | clearPackage => cases found
    | _ => exact .inl found
  · exact .inl found

/-- **Such requests leave all packages installed.** -/
theorem AllInstalled.leads (installed : g.AllInstalled) {requests : List Request}
    (leads : g.Leads requests h) (homely : g.Homely requests) : h.AllInstalled := by
  induction leads with
  | refl => exact installed
  | log _ _ ih => exact ih homely
  | @follow requests h request before ih =>
    intro name package found
    have home_eq : (h.follow request).IsHome = g.IsHome := isHome_congr before.settings_eq
    rw [home_eq]
    rcases of_find?_follow found with found | rfl
    · have held := ih (fun name package mem => homely name package (List.mem_append_left _ mem))
      exact isHome_congr before.settings_eq ▸ held name package found
    · exact homely name package (List.mem_append_right _ List.mem_cons_self)

/-! ### Loads -/

/-- Up to where a load breaks off, packages are placed where they belong. -/
theorem homely_made {fetcher : Fetcher} {requests : List (String × Descriptor)}
    {moves : List Move} (x : BreakOff g fetcher requests moves) : g.Homely x.made := by
  have ordered := ordered_of_fetched x.named x.fetched x.fit
  have homely : g.Homely (x.packages.entries.flatMap g.placement) :=
    homely_placements fun name package mem => ordered name package (Table.mem_entries_iff.mp mem)
  have whole : x.packages.entries.flatMap g.placement =
      x.made ++ (x.unmade ++ x.untouched.flatMap g.placement) := by
    rw [x.entries_eq, List.flatMap_append, List.flatMap_cons, x.split, BreakOff.made]
    simp only [List.append_assoc, List.cons_append, List.nil_append]
  rw [whole] at homely
  exact (homely_append.mp homely).1

/-- **A load leaves all packages installed**, whether or not it goes through. -/
theorem AllInstalled.load (installed : g.AllInstalled) (fetcher : Fetcher)
    (requests : List (String × Descriptor)) (moves : List Move) :
    (g.load fetcher requests moves).gateway.AllInstalled := by
  have course := g.course_load fetcher requests moves
  generalize loading_eq : g.load fetcher requests moves = loading at course ⊢
  cases course with
  | badName _ => exact installed
  | abandoned _ _ leads => exact installed.leads leads homely_nil
  | notFetched _ _ leads => exact installed.leads leads homely_nil
  | badContent _ _ _ leads => exact installed.leads leads homely_nil
  | installing named fetched fit =>
    rcases granted_or_breakOff named fetched fit with granted | ⟨x, -⟩
    · obtain ⟨-, leads⟩ := load_of_granted named fetched fit granted
      rw [loading_eq] at leads
      refine installed.leads leads (homely_placements fun name package mem => ?_)
      exact ordered_of_fetched named fetched fit name package (Table.mem_entries_iff.mp mem)
    · have gateway_eq := congrArg Loading.gateway loading_eq
      by_cases cleared : (Backend.ask .clearPackage x.left).1 = none
      · refine installed.leads (gateway_eq ▸ x.leads_load_of_cleared cleared) ?_
        refine homely_append.mpr ⟨homely_made x, fun name package mem => ?_⟩
        rcases List.mem_cons.mp mem with same | mem
        · cases same
        · exact installed.homely_restoration name package mem
      · refine installed.leads (gateway_eq ▸ x.leads_load_of_refused cleared) ?_
        refine homely_append.mpr ⟨homely_made x, fun name package mem => ?_⟩
        cases List.mem_singleton.mp mem

end Gateway

/-! ### Everything else -/

variable {σ : Type} [Backend σ] {g : Gateway σ}

/-- Only a registration asks for one. -/
theorem Action.eq_register_of_asks {action : Action} {arguments : List Positional}
    (asks : action.asks = some (.ok (.addPackage, arguments))) :
    ∃ name package, action = .register name package := by
  cases action with
  | register name package => exact ⟨name, package, rfl⟩
  | write path content =>
    rw [Action.asks] at asks
    split at asks <;> cases asks
  | compile path mode =>
    rw [asks_compile] at asks
    cases mode_eq : Gateway.modeOf mode <;> rw [mode_eq] at asks <;> cases asks
  | _ => cases asks

namespace Gateway.AllInstalled

/-- **Any other operation leaves all packages installed.** -/
theorem perform (installed : g.AllInstalled) {action : Action}
    (other : ∀ name package, action ≠ .register name package) :
    (action.perform g).2.AllInstalled := by
  cases asks : action.asks with
  | none =>
    rcases Action.eq_of_asks_eq_none asks with ⟨role, directory, rfl⟩ | ⟨name, rfl⟩
    · refine installed.leads (g.leads_entryPoint role directory) fun name package mem => ?_
      rcases List.mem_cons.mp mem with same | mem
      · cases same
      · split at mem
        · cases List.mem_singleton.mp mem
        · cases mem
    · exact installed
  | some asked =>
    cases asked with
    | error failure =>
      rw [action.perform_of_objection g asks]
      exact installed
    | ok asked =>
      obtain ⟨op, arguments⟩ := asked
      obtain ⟨request, operation_eq, -, answers⟩ := action.exists_answers g asks
      refine installed.leads answers.leads fun name package mem => ?_
      -- the request would be a registration, and so the operation
      obtain rfl := List.mem_singleton.mp mem
      obtain rfl : Operation.addPackage = op := operation_eq
      obtain ⟨name, package, rfl⟩ := Action.eq_register_of_asks asks
      exact absurd rfl (other name package)

theorem onGateway (installed : g.AllInstalled) (path : String) (action : FileAction) :
    (action.onGateway g path).2.AllInstalled := by
  have readThen {parse : String → Action}
      (other : ∀ content name package, parse content ≠ .register name package) :
      (g.readThen path parse).2.AllInstalled := by
    have read : ((Action.read path).perform g).2.AllInstalled := installed.perform (by simp)
    replace read : (g.read path).2.AllInstalled := read
    rw [Gateway.readThen]
    generalize g.read path = found at read ⊢
    obtain ⟨failure | content, h⟩ := found
    · exact read
    · exact read.perform (other content)
  cases action with
  | path => exact installed
  | sourceTree => exact readThen (by simp)
  | typedSourceTree => exact readThen (by simp)
  | _ => exact installed.perform (by simp)

theorem performAll {h : FileHandle σ} (installed : h.gateway.AllInstalled)
    (actions : List FileAction) : (FileAction.performAll actions h).2.gateway.AllInstalled := by
  induction actions generalizing h with
  | nil => exact installed
  | cons action rest ih =>
    have first : (action.perform h).2.gateway.AllInstalled := by
      rw [action.perform_eq h]
      exact installed.onGateway h.path action
    exact ih first

end Gateway.AllInstalled

namespace Session

/-- **A step leaves all packages installed**, unless it is a registration. -/
theorem allInstalled_perform {s : Session σ} (installed : s.gateway.AllInstalled) {step : Step σ}
    (other : ∀ name package, step ≠ .act (.register name package)) :
    (s.perform step).2.gateway.AllInstalled := by
  cases step with
  | attach backend => exact Gateway.allInstalled_of_empty rfl
  | detach => exact Gateway.allInstalled_of_empty rfl
  | reattach =>
    rw [Session.perform]
    cases s.parked with
    | none => exact installed
    | some backend => exact Gateway.allInstalled_of_empty rfl
  | act action =>
    have other' := fun name package same => other name package (congrArg Step.act same)
    exact installed.perform other'
  | file path actions => exact installed.performAll actions
  | fetch fetcher descriptor =>
    show (s.gateway.fetch fetcher descriptor).2.AllInstalled
    rw [Gateway.fetch]
    cases fetcher.fetch none descriptor <;> exact installed
  | load fetcher requests moves => exact installed.load fetcher requests moves

/-- **At any time of a session without registrations by hand, all packages are installed.** -/
theorem allInstalled_run {s : Session σ} (installed : s.gateway.AllInstalled)
    {steps : List (Step σ)}
    (others : ∀ step ∈ steps, ∀ name package, step ≠ .act (.register name package)) :
    (s.run steps).2.gateway.AllInstalled := by
  induction steps generalizing s with
  | nil => exact installed
  | cons step rest ih =>
    obtain ⟨first, others⟩ := List.forall_mem_cons.mp others
    exact ih (allInstalled_perform installed first) others

end Session

end CompilerGateway
