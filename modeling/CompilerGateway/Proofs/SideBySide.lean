import CompilerGateway.Proofs.InStep
import CompilerGateway.Proofs.MovingPath

/-!
# Every operation stays in step

What is shown of one exchange in `CompilerGateway.Proofs.InStep` is carried here through all that a
gateway does: actions (`CompilerGateway.Action.perform_inStep`), the operations of a handle on a
file (`CompilerGateway.FileAction.performAll_inStep`), installations with their way back, and loads
(`CompilerGateway.Gateway.load_inStep`).

Contents come in at few places only – where a file is written, a text is parsed or metadata is set –
and there the requests are alike. Everywhere else the two gateways make the same request, as what
they go by is the same: names, versions, keys, settings, and the results so far.
-/

namespace CompilerGateway

variable {σ τ : Type} [Backend σ] [Backend τ]

namespace Gateway

variable {g : Gateway (Watched σ)} {g' : Gateway (Watched τ)}

/-! ### Single requests -/

theorem write_inStep (alike : g.Alike g') (path text text' : String) :
    InStep Eq (g.write path text.toUTF8) (g'.write path text'.toUTF8) := by
  rw [write, fromUTF8?_toUTF8, write, fromUTF8?_toUTF8]
  intro concurs
  obtain ⟨same, after⟩ :=
    exchange_inStep (alike.log (.writing path)) (.saveFile path text text') concurs
  exact ⟨eq_of_heq same, after⟩

theorem write_same (alike : g.Alike g') (path : String) (content : ByteArray) :
    InStep Eq (g.write path content) (g'.write path content) := by
  rw [write, write]
  cases String.fromUTF8? content with
  | none => exact .refl _ alike
  | some text => exact exchange_same (alike.log (.writing path)) _

theorem compile_same (alike : g.Alike g') (path : String) (mode : Option String) :
    InStep Eq (g.compile path mode) (g'.compile path mode) := by
  rw [compile, compile]
  cases modeOf mode with
  | error failure => exact .refl _ alike
  | ok mode => exact .codeOf _ (exchange_same alike _)

/-- The account after a request to change it, if it was granted. -/
def accounted {ρ : Type} (f : Table String → Table String) :
    Except Failure Unit → Gateway ρ → Except Failure Unit × Gateway ρ
  | .ok _, g => (.ok (), { g with packages := f g.packages })
  | .error failure, g => (.error failure, g)

theorem register_eq_accounted (g : Gateway σ) (name directory : String) :
    g.register name directory = accounted (·.insert name directory)
      ((g.log (.registering name directory)).exchange (.addPackage name directory)).1
      ((g.log (.registering name directory)).exchange (.addPackage name directory)).2 := by
  rw [register]
  rcases (g.log (.registering name directory)).exchange (.addPackage name directory) with
    ⟨failure | reply, h⟩ <;> rfl

theorem unregisterAll_eq_accounted (g : Gateway σ) :
    g.unregisterAll = accounted (fun _ => .empty) ((g.log .clearing).exchange .clearPackage).1
      ((g.log .clearing).exchange .clearPackage).2 := by
  rw [unregisterAll]
  rcases (g.log .clearing).exchange .clearPackage with ⟨failure | reply, h⟩ <;> rfl

theorem accounted_inStep {exchanged : Except Failure Unit × Gateway (Watched σ)}
    {exchanged' : Except Failure Unit × Gateway (Watched τ)}
    (inStep : InStep Eq exchanged exchanged') (f : Table String → Table String) :
    InStep Eq (accounted f exchanged.1 exchanged.2) (accounted f exchanged'.1 exchanged'.2) := by
  have keeps : ∀ {ρ : Type} (result : Except Failure Unit) (g : Gateway (Watched ρ)),
      g.Continues (accounted f result g).2 := by
    rintro ρ (failure | ⟨⟩) g <;> exact .of_eq rfl
  refine InStep.andThen inStep keeps keeps ?_
  rintro (failure | ⟨⟩) g g' alike
  · exact .refl _ alike
  · exact .refl _ (alike.account f)

theorem register_same (alike : g.Alike g') (name directory : String) :
    InStep Eq (g.register name directory) (g'.register name directory) := by
  rw [register_eq_accounted, register_eq_accounted]
  exact accounted_inStep
    (exchange_same (alike.log (.registering name directory)) (.addPackage name directory)) _

theorem unregisterAll_same (alike : g.Alike g') : InStep Eq g.unregisterAll g'.unregisterAll := by
  rw [unregisterAll_eq_accounted, unregisterAll_eq_accounted]
  exact accounted_inStep (exchange_same (alike.log .clearing) .clearPackage) _

/-! ### Entry points -/

/-- The entries of a directory, once it has been listed. -/
def listed {ρ : Type} (directory : String) :
    Except Failure (List String) → Gateway ρ → List String × Gateway ρ
  | .ok entries, g => (entries, g)
  | .error failure, g => ([], g.log (.directoryUnavailable directory failure))

theorem listing_same (alike : g.Alike g') (directory : String) :
    InStep Eq (g.listing directory) (g'.listing directory) := by
  have listing_eq : ∀ {ρ : Type} [Backend ρ] (g : Gateway ρ), g.listing directory =
      listed directory (g.list directory).1 (g.list directory).2 := by
    intro ρ _ g
    rw [listing]
    rcases g.list directory with ⟨failure | entries, h⟩ <;> rfl
  have keeps : ∀ {ρ : Type} (result : Except Failure (List String)) (g : Gateway (Watched ρ)),
      g.Continues (listed directory result g).2 := by
    rintro ρ (failure | entries) g <;> exact .of_eq rfl
  rw [listing_eq, listing_eq]
  refine InStep.andThen (exchange_same alike _) keeps keeps ?_
  rintro (failure | entries) g g' alike
  · exact .refl _ (alike.log _)
  · exact .refl _ alike

/-- The choice of an entry point, once the source directory has been listed, too. -/
def chosen {ρ : Type} (role : EntryRole) (directory : String) (entries nested : List String)
    (g : Gateway ρ) : Option String × Gateway ρ :=
  (EntryPoint.choose role g.packages directory entries nested,
    g.log (.entryResolved directory role
      (EntryPoint.choose role g.packages directory entries nested)))

theorem chosen_same (alike : g.Alike g') (role : EntryRole) (directory : String)
    (entries nested : List String) :
    InStep Eq (chosen role directory entries nested g)
      (chosen role directory entries nested g') := by
  rw [chosen, chosen, alike.packages_eq]
  exact .refl _ (alike.log _)

/-- What is done once a directory has been listed. -/
def resolved {ρ : Type} [Backend ρ] (role : EntryRole) (directory : String)
    (entries : List String) (g : Gateway ρ) : Option String × Gateway ρ :=
  if entries.contains EntryPoint.sourceDirectory then
    let (nested, g) := g.listing (VirtualPath.join directory EntryPoint.sourceDirectory)
    chosen role directory entries nested g
  else chosen role directory entries [] g

theorem entryPoint_eq_resolved (g : Gateway σ) (role : EntryRole) (directory : String) :
    g.entryPoint role directory =
      resolved role directory (g.listing directory).1 (g.listing directory).2 := by
  rw [entryPoint, resolved]
  rcases g.listing directory with ⟨entries, h⟩
  dsimp only
  split <;> rfl

theorem entryPoint_same (alike : g.Alike g') (role : EntryRole) (directory : String) :
    InStep Eq (g.entryPoint role directory) (g'.entryPoint role directory) := by
  have keeps : ∀ {ρ : Type} [Backend ρ] (entries : List String) (g : Gateway (Watched ρ)),
      g.Continues (resolved role directory entries g).2 := by
    intro ρ _ entries g
    rw [resolved]
    split
    · exact (Leads.log (g.leads_listing _) rfl).continues
    · exact .of_eq rfl
  rw [entryPoint_eq_resolved, entryPoint_eq_resolved]
  refine InStep.andThen (listing_same alike directory) keeps keeps fun entries g g' alike => ?_
  rw [resolved, resolved]
  split
  · refine InStep.andThen (f := chosen role directory entries) (k := chosen role directory entries)
      (listing_same alike _) (fun _ _ => .of_eq rfl) (fun _ _ => .of_eq rfl) ?_
    exact fun nested g g' alike => chosen_same alike role directory entries nested
  · exact chosen_same alike role directory entries []

/-- Whether an operation is there can be told from what the backends have in common. -/
theorem operation_same (alike : g.Alike g') (name : String) :
    InStep Eq (g.operation name, g) (g'.operation name, g') := by
  intro concurs
  refine ⟨?_, alike⟩
  have backends := alike.backends
  rw [operation, operation]
  cases present : g.backend with
  | none =>
    rw [present] at backends
    cases present' : g'.backend with
    | none => rfl
    | some w' =>
      rw [present'] at backends
      cases backends
  | some w =>
    rw [present] at backends
    cases present' : g'.backend with
    | none =>
      rw [present'] at backends
      cases backends
    | some w' =>
      rw [present'] at backends
      cases backends with
      | some asked =>
        have offers : ∀ op, Backend.supports w op = Backend.supports w' op :=
          (concurs w w' present present').supports_eq asked
        simp only [offers]

end Gateway

/-! ### Actions -/

open Gateway in
/-- **An action is in step**, with whatever content. -/
theorem Action.perform_inStep {g : Gateway (Watched σ)} {g' : Gateway (Watched τ)}
    (alike : g.Alike g') {action action' : Action} (actions : action.Alike action') :
    InStep Eq (action.perform g) (action'.perform g') := by
  -- the parsers take a text and nothing else, and what they answer has a code or has not
  have parsed : ∀ {α : Type} (operation : Operation) (form : α → Answer)
      {exchanged : Except Failure (Outcome α) × Gateway (Watched σ)}
      {exchanged' : Except Failure (Outcome α) × Gateway (Watched τ)},
      InStep (fun reply reply' => HEq reply reply') exchanged exchanged' →
      InStep Eq (CompilerGateway.answering form (codeOf operation exchanged))
        (CompilerGateway.answering form (codeOf operation exchanged')) :=
    fun operation form _ _ inStep => .answering form (.codeOf operation fun concurs =>
      ⟨eq_of_heq (inStep concurs).1, (inStep concurs).2⟩)
  cases actions with
  | write path text text' => exact .answering _ (write_inStep alike path text text')
  | sourceTree content content' =>
    exact parsed _ _ (exchange_inStep alike (.parseMotoko content content'))
  | typedSourceTree content content' =>
    exact parsed _ _ (exchange_inStep alike (.parseMotokoTypes content content'))
  | interfaceTree content content' =>
    exact parsed _ _ (exchange_inStep alike (.parseCandid content content'))
  | setMetadata values values' =>
    refine .answering _ fun concurs => ?_
    obtain ⟨same, after⟩ := exchange_inStep alike (.setPublicMetadata values values') concurs
    exact ⟨eq_of_heq same, after⟩
  | same =>
    cases action with
    | read path => exact .answering _ (exchange_same alike _)
    | write path content => exact .answering _ (write_same alike path content)
    | rename path target => exact .answering _ (exchange_same alike _)
    | delete path => exact .answering _ (exchange_same (alike.log _) _)
    | list directory => exact .answering _ (exchange_same alike _)
    | check path => exact .answering _ (exchange_same alike _)
    | run path libraries => exact .answering _ (exchange_same alike _)
    | compile path mode => exact .answering _ (compile_same alike path mode)
    | interface path => exact .answering _ (.codeOf _ (exchange_same alike _))
    | sourceTree content => exact .answering _ (.codeOf _ (exchange_same alike _))
    | typedSourceTree content => exact .answering _ (.codeOf _ (exchange_same alike _))
    | interfaceTree content => exact .answering _ (.codeOf _ (exchange_same alike _))
    | setAliases aliases => exact .answering _ (exchange_same (alike.log _) _)
    | setMetadata values => exact .answering _ (exchange_same alike _)
    | register name directory => exact .answering _ (register_same alike name directory)
    | unregisterAll => exact .answering _ (unregisterAll_same alike)
    | entryPoint role directory =>
      intro concurs
      obtain ⟨same, after⟩ := entryPoint_same alike role directory concurs
      exact ⟨congrArg (fun found => Except.ok (Answer.entry found)) same, after⟩
    | operation name => exact .answering _ (operation_same alike name)

/-! ### Handles on files -/

namespace FileAction

open Gateway (InStep exchange_same)

variable {g : Gateway (Watched σ)} {g' : Gateway (Watched τ)}

/-- What was read is the same of both, so the same is done with it. -/
theorem readThen_same (alike : g.Alike g') (path : String) (action : String → Action) :
    InStep Eq (g.readThen path action) (g'.readThen path action) := by
  have readThen_eq : ∀ {ρ : Type} [Backend ρ] (g : Gateway ρ), g.readThen path action =
      Gateway.thenDo (fun content g => (action content).perform g) (g.read path).1
        (g.read path).2 := by
    intro ρ _ g
    rw [Gateway.readThen]
    rcases g.read path with ⟨failure | content, h⟩ <;> rfl
  have keeps : ∀ {ρ : Type} [Backend ρ] (content : String) (g : Gateway (Watched ρ)),
      g.Continues ((action content).perform g).2 := by
    intro ρ _ content g
    obtain ⟨requests, leads⟩ := (action content).exists_leads g
    exact leads.continues
  rw [readThen_eq, readThen_eq]
  exact .thenDo (exchange_same alike (.readFile path)) keeps keeps
    fun content _ _ alike => Action.perform_inStep alike (.same _)

theorem onGateway_inStep (alike : g.Alike g') (path : String) {action action' : FileAction}
    (actions : action.Alike action') :
    InStep Eq (action.onGateway g path) (action'.onGateway g' path) := by
  cases actions with
  | write text text' => exact Action.perform_inStep alike (.write path text text')
  | same =>
    cases action with
    | path => exact .refl _ alike
    | sourceTree => exact readThen_same alike path .sourceTree
    | typedSourceTree => exact readThen_same alike path .typedSourceTree
    | _ => exact Action.perform_inStep alike (.same _)

omit [Backend σ] [Backend τ] in
theorem target?_of_alike {action action' : FileAction} (actions : action.Alike action')
    (answer : Except Failure Answer) : target? (action, answer) = target? (action', answer) := by
  cases actions <;> rfl

/-- **The operations of two handles on one path are in step**, and the paths stay the same. -/
theorem performAll_inStep {actions actions' : List FileAction}
    (all : List.Forall₂ FileAction.Alike actions actions') (alike : g.Alike g') (path : String)
    (concurs : (performAll actions (g.file path)).2.gateway.Concurs
      (performAll actions' (g'.file path)).2.gateway) :
    (performAll actions (g.file path)).1 = (performAll actions' (g'.file path)).1 ∧
      (performAll actions (g.file path)).2.gateway.Alike
        (performAll actions' (g'.file path)).2.gateway := by
  induction all generalizing g g' path with
  | nil => exact ⟨rfl, alike⟩
  | @cons action action' rest rest' first others ih =>
    rw [performAll_cons, performAll_cons, perform_eq, perform_eq] at concurs ⊢
    -- the first operation leads on to the others, so the backends have concurred after it
    have continues : ∀ {ρ : Type} [Backend ρ] (rest : List FileAction) (path : String)
        (h : Gateway (Watched ρ)), h.Continues (performAll rest ⟨path, h⟩).2.gateway := by
      intro ρ _ rest path h
      obtain ⟨requests, leads⟩ := exists_leads_performAll rest ⟨path, h⟩
      exact leads.continues
    obtain ⟨same, alike⟩ := onGateway_inStep alike path first
      (concurs.of_continues (continues _ _ _) (continues _ _ _))
    have moved := target?_of_alike first (action.onGateway g path).1
    dsimp only [Gateway.file] at same moved concurs ⊢
    rw [← same, ← moved] at concurs ⊢
    obtain ⟨sames, alike⟩ := ih alike _ concurs
    exact ⟨congrArg (List.cons _) sames, alike⟩

end FileAction

/-! ### Installations -/

namespace Gateway

variable {g : Gateway (Watched σ)} {g' : Gateway (Watched τ)}

omit [Backend τ] in
theorem continues_writeFiles (directory : String) (files : List (String × String))
    (g : Gateway (Watched σ)) : g.Continues (writeFiles directory files g).2 := by
  obtain ⟨requests, leads⟩ := (stops_writeFiles directory files g).exists_leads
  exact leads.continues

omit [Backend τ] in
theorem continues_register (name directory : String) (g : Gateway (Watched σ)) :
    g.Continues (g.register name directory).2 :=
  (g.leads_register name directory).continues

/-- Files under the same keys are written up to the same one. -/
theorem writeFiles_inStep (alike : g.Alike g') (directory : String)
    {files files' : List (String × String)}
    (keys : files.map Prod.fst = files'.map Prod.fst) :
    InStep Eq (writeFiles directory files g) (writeFiles directory files' g') := by
  have writeFiles_eq : ∀ {ρ : Type} [Backend ρ] (key content : String)
      (rest : List (String × String)) (g : Gateway ρ),
      writeFiles directory ((key, content) :: rest) g =
        thenDo (fun _ g => writeFiles directory rest g)
          (g.write (VirtualPath.join directory key) content.toUTF8).1
          (g.write (VirtualPath.join directory key) content.toUTF8).2 := by
    intro ρ _ key content rest g
    rw [writeFiles]
    rcases g.write (VirtualPath.join directory key) content.toUTF8 with ⟨failure | ⟨⟩, h⟩ <;> rfl
  induction files generalizing files' g g' with
  | nil =>
    obtain rfl : files' = [] := List.map_eq_nil_iff.mp keys.symm
    exact .refl _ alike
  | cons file rest ih =>
    obtain - | ⟨⟨key', content'⟩, rest'⟩ := files'
    · cases keys
    obtain ⟨key, content⟩ := file
    obtain ⟨rfl, others⟩ := List.cons.inj keys
    rw [writeFiles_eq, writeFiles_eq]
    exact .thenDo (write_inStep alike _ content content')
      (fun _ g => continues_writeFiles directory rest g)
      (fun _ g => continues_writeFiles directory rest' g) fun _ _ _ alike => ih alike others

/-- Packages that are the same but for contents are placed up to the same request. -/
theorem place_inStep (alike : g.Alike g') (name : String) {package package' : FetchedPackage}
    (blanks : package.blank = package'.blank) :
    InStep Eq (place name package g) (place name package' g') := by
  obtain ⟨-, versions, keys⟩ := FetchedPackage.blank_eq_blank_iff.mp blanks
  have place_eq : ∀ {ρ : Type} [Backend ρ] (package : FetchedPackage) (g : Gateway ρ),
      place name package g =
        thenDo (fun _ h => h.register name (g.installPath name package.version))
          (writeFiles (g.installPath name package.version) package.files.entries g).1
          (writeFiles (g.installPath name package.version) package.files.entries g).2 := by
    intro ρ _ package g
    rw [place]
    rcases writeFiles (g.installPath name package.version) package.files.entries g with
      ⟨failure | ⟨⟩, h⟩ <;> rfl
  have directories : g'.installPath name package'.version = g.installPath name package.version := by
    rw [installPath, installPath, alike.settings_eq, versions]
  rw [place_eq, place_eq, directories]
  exact .thenDo (writeFiles_inStep alike _ keys) (fun _ h => continues_register _ _ h)
    (fun _ h => continues_register _ _ h) fun _ _ _ alike => register_same alike _ _

/-- The next registration that is made again, once there is a result for the one before. -/
def goneOn {ρ : Type} [Backend ρ] (name : String) (rest : List (String × String)) :
    Except Failure Unit → Gateway ρ → Unit × Gateway ρ
  | .ok _, g => ((), registerAll rest g)
  | .error failure, g => ((), registerAll rest (g.log (.restoreFailed name failure)))

theorem registerAll_same (alike : g.Alike g') (entries : List (String × String)) :
    InStep Eq ((), registerAll entries g) ((), registerAll entries g') := by
  have registerAll_eq : ∀ {ρ : Type} [Backend ρ] (name directory : String)
      (rest : List (String × String)) (g : Gateway ρ),
      ((), registerAll ((name, directory) :: rest) g) =
        goneOn name rest (g.register name directory).1 (g.register name directory).2 := by
    intro ρ _ name directory rest g
    rw [registerAll]
    rcases g.register name directory with ⟨failure | ⟨⟩, h⟩ <;> rfl
  induction entries generalizing g g' with
  | nil => exact .refl _ alike
  | cons entry rest ih =>
    obtain ⟨name, directory⟩ := entry
    have keeps : ∀ {ρ : Type} [Backend ρ] (result : Except Failure Unit)
        (g : Gateway (Watched ρ)), g.Continues (goneOn name rest result g).2 := by
      rintro ρ _ (failure | ⟨⟩) g
      · exact (Leads.trans (.log .refl rfl) (leads_registerAll rest _)).continues
      · exact (leads_registerAll rest g).continues
    rw [registerAll_eq, registerAll_eq]
    refine InStep.andThen (register_same alike name directory) keeps keeps ?_
    rintro (failure | ⟨⟩) g g' alike
    · exact ih (alike.log _)
    · exact ih alike

/-- The way back, once there is a result for dropping the registrations. -/
def broughtBack {ρ : Type} [Backend ρ] (earlier : Table String) :
    Except Failure Unit → Gateway ρ → Unit × Gateway ρ
  | .ok _, g => ((), registerAll earlier.entries g)
  | .error failure, g => ((), g.log (.clearFailed failure))

theorem rollBack_same (alike : g.Alike g') (earlier : Table String) :
    InStep Eq ((), g.rollBack earlier) ((), g'.rollBack earlier) := by
  have rollBack_eq : ∀ {ρ : Type} [Backend ρ] (g : Gateway ρ),
      ((), g.rollBack earlier) = broughtBack earlier g.unregisterAll.1 g.unregisterAll.2 := by
    intro ρ _ g
    rw [rollBack]
    rcases g.unregisterAll with ⟨failure | ⟨⟩, h⟩ <;> rfl
  have keeps : ∀ {ρ : Type} [Backend ρ] (result : Except Failure Unit) (g : Gateway (Watched ρ)),
      g.Continues (broughtBack earlier result g).2 := by
    rintro ρ _ (failure | ⟨⟩) g
    · exact .of_eq rfl
    · exact (leads_registerAll earlier.entries g).continues
  rw [rollBack_eq, rollBack_eq]
  refine InStep.andThen (unregisterAll_same alike) keeps keeps ?_
  rintro (failure | ⟨⟩) g g' alike
  · exact .refl _ (alike.log _)
  · exact registerAll_same alike earlier.entries

/-- The installation of the other packages, once there is a result for the one before. -/
def installed {ρ : Type} [Backend ρ] (earlier : Table String) (name : String)
    (rest : List (String × FetchedPackage)) :
    Except Failure Unit → Gateway ρ → Except Failure Unit × Gateway ρ
  | .ok _, g => installAll earlier rest g
  | .error failure, g => (.error failure, (g.log (.installFailed name failure)).rollBack earlier)

theorem installAll_inStep (alike : g.Alike g') (earlier : Table String)
    {entries entries' : List (String × FetchedPackage)}
    (blanks : entries.map (fun entry => (entry.1, entry.2.blank)) =
      entries'.map fun entry => (entry.1, entry.2.blank)) :
    InStep Eq (installAll earlier entries g) (installAll earlier entries' g') := by
  have installAll_eq : ∀ {ρ : Type} [Backend ρ] (name : String) (package : FetchedPackage)
      (rest : List (String × FetchedPackage)) (g : Gateway ρ),
      installAll earlier ((name, package) :: rest) g =
        installed earlier name rest (place name package g).1 (place name package g).2 := by
    intro ρ _ name package rest g
    rw [installAll]
    rcases place name package g with ⟨failure | ⟨⟩, h⟩ <;> rfl
  have keeps : ∀ {ρ : Type} [Backend ρ] (name : String) (rest : List (String × FetchedPackage))
      (result : Except Failure Unit) (g : Gateway (Watched ρ)),
      g.Continues (installed earlier name rest result g).2 := by
    rintro ρ _ name rest (failure | ⟨⟩) g
    · obtain ⟨requests, leads⟩ :=
        exists_leads_rollBack earlier (g.log (.installFailed name failure))
      exact (Leads.trans (.log .refl rfl) leads).continues
    · obtain ⟨requests, leads⟩ := exists_leads_installAll earlier rest g
      exact leads.continues
  induction entries generalizing entries' g g' with
  | nil =>
    obtain rfl : entries' = [] := List.map_eq_nil_iff.mp blanks.symm
    exact .refl _ alike
  | cons entry rest ih =>
    obtain - | ⟨⟨name', package'⟩, rest'⟩ := entries'
    · cases blanks
    obtain ⟨name, package⟩ := entry
    obtain ⟨first, others⟩ := List.cons.inj blanks
    obtain ⟨rfl, blank⟩ := Prod.mk.inj first
    rw [installAll_eq, installAll_eq]
    refine InStep.andThen (place_inStep alike name blank) (keeps name rest) (keeps name rest') ?_
    rintro (failure | ⟨⟩) g g' alike
    · intro concurs
      exact ⟨rfl, (rollBack_same (alike.log (.installFailed name failure)) earlier concurs).2⟩
    · exact ih alike others

theorem install_inStep (alike : g.Alike g') {packages packages' : Table FetchedPackage}
    (blanks : packages.map FetchedPackage.blank = packages'.map FetchedPackage.blank) :
    InStep Eq (g.install packages) (g'.install packages') := by
  have fit : contentFailure? packages = contentFailure? packages' := by
    rw [← contentFailure?_blank, blanks, contentFailure?_blank]
  rw [install, install, fit]
  split
  · exact .refl _ alike
  · rw [alike.packages_eq]
    exact installAll_inStep alike g'.packages (congrArg Table.entries blanks)

/-! ### Fetches and loads -/

variable {fetcher fetcher' : Fetcher}

omit [Backend σ] [Backend τ] in
/-- A fetch comes to the same package but for contents, or to the same failure. -/
theorem fetch_alike (alike : g.Alike g') (fetchers : fetcher.Alike fetcher')
    (descriptor : Descriptor) :
    (g.fetch fetcher descriptor).1.map FetchedPackage.blank =
        (g'.fetch fetcher' descriptor).1.map FetchedPackage.blank ∧
      (g.fetch fetcher descriptor).2.Alike (g'.fetch fetcher' descriptor).2 := by
  obtain ⟨notes, fetched⟩ := fetchers none descriptor
  have logged := (alike.log (.fetching descriptor)).logAll (fetcher.notes none descriptor)
  rw [fetch, fetch, ← notes]
  generalize fetcher.fetch none descriptor = outcome at fetched ⊢
  generalize fetcher'.fetch none descriptor = outcome' at fetched ⊢
  cases outcome with
  | error error =>
    cases outcome' with
    | error error' =>
      obtain rfl : error = error' := Except.error.inj fetched
      exact ⟨rfl, logged⟩
    | ok package' => cases fetched
  | ok package =>
    cases outcome' with
    | error error' => cases fetched
    | ok package' => exact ⟨congrArg Except.ok (Except.ok.inj fetched), logged⟩

omit [Backend σ] [Backend τ] in
/-- **What is fetched is the same but for contents**, and the same happens to the fetches. -/
theorem fetching_alike (alike : g.Alike g') (fetchers : fetcher.Alike fetcher')
    (requests : List (String × Descriptor)) (moves : List Move) :
    (g.fetching fetcher requests moves).1 = (g'.fetching fetcher' requests moves).1 ∧
      (g.fetching fetcher requests moves).2.blank =
        (g'.fetching fetcher' requests moves).2.blank := by
  have fetches : (fun name descriptor =>
      (fetcher.fetch (some name) descriptor).map FetchedPackage.blank) =
      fun name descriptor => (fetcher'.fetch (some name) descriptor).map FetchedPackage.blank :=
    funext fun name => funext fun descriptor => (fetchers (some name) descriptor).2
  have run := @Window.run_blank (fun name => fetcher.fetch (some name)) moves
    (Window.opening g.settings.room (Table.ofList requests))
  have run' := @Window.run_blank (fun name => fetcher'.fetch (some name)) moves
    (Window.opening g'.settings.room (Table.ofList requests))
  rw [Window.blank_opening] at run run'
  rw [fetches, alike.settings_eq, run'] at run
  obtain ⟨milestones, harvests⟩ := Prod.mk.inj run
  rw [fetching, fetching, alike.settings_eq]
  exact ⟨milestones.symm, harvests.symm⟩

omit [Backend σ] [Backend τ] in
theorem flatMap_events_of_alike (fetchers : fetcher.Alike fetcher') (milestones : List Milestone) :
    milestones.flatMap fetcher.events = milestones.flatMap fetcher'.events := by
  refine congrArg (milestones.flatMap ·) (funext fun milestone => ?_)
  cases milestone with
  | started name descriptor => rfl
  | finished name descriptor => exact (fetchers (some name) descriptor).1

/-- **Loads are in step**, whatever the contents of the packages. -/
theorem load_inStep (alike : g.Alike g') (fetchers : fetcher.Alike fetcher')
    (requests : List (String × Descriptor)) (moves : List Move)
    (concurs : (g.load fetcher requests moves).gateway.Concurs
      (g'.load fetcher' requests moves).gateway) :
    (g.load fetcher requests moves).result = (g'.load fetcher' requests moves).result ∧
      (g.load fetcher requests moves).milestones = (g'.load fetcher' requests moves).milestones ∧
      (g.load fetcher requests moves).gateway.Alike (g'.load fetcher' requests moves).gateway := by
  cases named : nameFailure? (Table.ofList requests) with
  | some failure =>
    rw [load_of_badName named, load_of_badName named]
    exact ⟨rfl, rfl, alike⟩
  | none =>
    obtain ⟨same, harvests⟩ := fetching_alike alike fetchers requests moves
    rcases fetched : g.fetching fetcher requests moves with ⟨milestones, harvest⟩
    rcases fetched' : g'.fetching fetcher' requests moves with ⟨milestones', harvest'⟩
    rw [fetched, fetched'] at same harvests
    obtain rfl : milestones = milestones' := same
    have logged := alike.logAll (milestones.flatMap fetcher.events)
    have events := flatMap_events_of_alike fetchers milestones
    cases harvest with
    | abandoned =>
      cases harvest' with
      | abandoned =>
        rw [load_of_abandoned named fetched, load_of_abandoned named fetched', ← events]
        exact ⟨rfl, rfl, logged⟩
      | failed error => cases harvests
      | complete packages => cases harvests
    | failed error =>
      cases harvest' with
      | abandoned => cases harvests
      | failed error' =>
        obtain rfl : error = error' := Harvest.failed.inj harvests
        rw [load_of_failed named fetched, load_of_failed named fetched', ← events]
        exact ⟨rfl, rfl, logged⟩
      | complete packages => cases harvests
    | complete packages =>
      cases harvest' with
      | abandoned => cases harvests
      | failed error => cases harvests
      | complete packages' =>
        rw [load_of_complete named fetched, load_of_complete named fetched', ← events] at concurs ⊢
        obtain ⟨result, after⟩ :=
          install_inStep logged (Harvest.complete.inj harvests) concurs
        exact ⟨congrArg some result, rfl, after⟩

end Gateway

end CompilerGateway
