import CompilerGateway.Proofs.Conduct

/-!
# The requests of each operation

An operation of a gateway leads it on by the requests that it makes
(`CompilerGateway.Gateway.Leads`). The single operations make one request at most; looking for
an entry point makes one or two; the operations of a file handle are those of the gateway. The
result of writing a file or of registering a package fails just as its request does, which is
what an installation goes by.

`CompilerGateway.Action.exists_leads` and `CompilerGateway.FileAction.exists_leads` sum up what
is needed of them for whole sessions.
-/

namespace CompilerGateway

namespace Gateway

variable {σ : Type} [Backend σ]

/-! ### Single requests -/

theorem leads_exchange (g : Gateway σ) {request : Request}
    (unannounced : request.announcement = [])
    (plain : ∀ packages, request.effect packages = packages) :
    g.Leads [request] (g.exchange request).2 :=
  g.exchange_eq_follow unannounced plain ▸ Leads.single request

theorem leads_codeOf {g : Gateway σ} {α : Type} {operation : Operation}
    {exchanged : Except Failure (Outcome α) × Gateway σ} {requests : List Request}
    (leads : g.Leads requests exchanged.2) :
    g.Leads requests (codeOf operation exchanged).2 := by
  obtain ⟨failure | outcome, h⟩ := exchanged
  · exact leads
  · simp only [codeOf]
    split
    · exact leads
    · exact leads.log rfl

/-- An announced exchange is an attempt, where a request does nothing to the registrations. -/
theorem leads_announced (g : Gateway σ) (request : Request)
    (plain : ∀ packages, request.effect packages = packages) :
    g.Leads [request] ((g.logAll request.announcement).exchange request).2 := by
  rw [g.exchange_logAll_eq_follow request plain]
  exact .single request

/-- Where what is written is text, writing is one attempt. -/
theorem leads_write {g : Gateway σ} {path text : String} {content : ByteArray}
    (isText : String.fromUTF8? content = some text) :
    g.Leads [.saveFile path text] (g.write path content).2 := by
  rw [write, isText]
  exact g.leads_announced (.saveFile path text) fun _ => rfl

theorem failure?_write {g : Gateway σ} {path text : String} {content : ByteArray}
    (isText : String.fromUTF8? content = some text) :
    failure? (g.write path content).1 = (Backend.ask (.saveFile path text) g.backend).1 := by
  rw [write, isText]
  exact failure?_exchange (g.log (.writing path)) (.saveFile path text)

theorem exists_leads_write (g : Gateway σ) (path : String) (content : ByteArray) :
    ∃ requests, g.Leads requests (g.write path content).2 := by
  cases isText : String.fromUTF8? content with
  | none =>
    rw [write, isText]
    exact ⟨[], .refl⟩
  | some text => exact ⟨_, leads_write isText⟩

theorem terse_write (g : Gateway σ) (path : String) (content : ByteArray) :
    g.Terse (g.write path content).2 := by
  cases isText : String.fromUTF8? content with
  | none =>
    rw [write, isText]
    exact .refl g
  | some text =>
    rw [write, isText]
    exact g.exchange_logAll_eq_follow (.saveFile path text) (fun _ => rfl) ▸ .follow g _

theorem leads_delete (g : Gateway σ) (path : String) :
    g.Leads [.removeFile path] (g.delete path).2 :=
  g.leads_announced (.removeFile path) fun _ => rfl

theorem leads_setAliases (g : Gateway σ) (aliases : AliasTable) :
    g.Leads [.setActorAliases aliases.pairs] (g.setAliases aliases).2 :=
  g.leads_announced (.setActorAliases aliases.pairs) fun _ => rfl

theorem exists_leads_compile (g : Gateway σ) (path : String) (mode : Option String) :
    ∃ requests, g.Leads requests (g.compile path mode).2 := by
  rw [compile]
  split
  · exact ⟨[], .refl⟩
  · exact ⟨_, leads_codeOf (g.leads_exchange rfl fun _ => rfl)⟩

theorem leads_interface (g : Gateway σ) (path : String) :
    g.Leads [.candid path] (g.interface path).2 :=
  leads_codeOf (g.leads_exchange rfl fun _ => rfl)

theorem leads_sourceTree (g : Gateway σ) (content : String) :
    g.Leads [.parseMotoko content] (g.sourceTree content).2 :=
  leads_codeOf (g.leads_exchange rfl fun _ => rfl)

theorem leads_typedSourceTree (g : Gateway σ) (content : String) :
    g.Leads [.parseMotokoTypes content] (g.typedSourceTree content).2 :=
  leads_codeOf (g.leads_exchange rfl fun _ => rfl)

theorem leads_interfaceTree (g : Gateway σ) (content : String) :
    g.Leads [.parseCandid content] (g.interfaceTree content).2 :=
  leads_codeOf (g.leads_exchange rfl fun _ => rfl)

/-! ### Registrations -/

/-- **Registering a package is one attempt**, and the account follows it. -/
theorem register_snd (g : Gateway σ) (name directory : String) :
    (g.register name directory).2 = g.follow (.addPackage name directory) := by
  rw [register]
  rcases exchanged : (g.log (.registering name directory)).exchange
    (.addPackage name directory) with ⟨failure | reply, h⟩
  · exact (follow_of_error exchanged).symm
  · exact (follow_of_ok exchanged).symm

theorem leads_register (g : Gateway σ) (name directory : String) :
    g.Leads [.addPackage name directory] (g.register name directory).2 :=
  g.register_snd name directory ▸ .single _

theorem terse_register (g : Gateway σ) (name directory : String) :
    g.Terse (g.register name directory).2 :=
  g.register_snd name directory ▸ .follow g _

theorem failure?_register (g : Gateway σ) (name directory : String) :
    failure? (g.register name directory).1 =
      (Backend.ask (.addPackage name directory) g.backend).1 := by
  have fails := failure?_exchange (g.log (.registering name directory)) (.addPackage name directory)
  rw [register]
  generalize (g.log (.registering name directory)).exchange (.addPackage name directory) = exchanged
    at fails ⊢
  obtain ⟨failure | ⟨⟩, h⟩ := exchanged <;> exact fails

/-- **Dropping all registrations is one attempt**, and the account follows it. -/
theorem unregisterAll_snd (g : Gateway σ) : g.unregisterAll.2 = g.follow .clearPackage := by
  rw [unregisterAll]
  rcases exchanged : (g.log .clearing).exchange .clearPackage with ⟨failure | reply, h⟩
  · exact (follow_of_error exchanged).symm
  · exact (follow_of_ok exchanged).symm

theorem leads_unregisterAll (g : Gateway σ) : g.Leads [.clearPackage] g.unregisterAll.2 :=
  g.unregisterAll_snd ▸ .single _

theorem failure?_unregisterAll (g : Gateway σ) :
    failure? g.unregisterAll.1 = (Backend.ask .clearPackage g.backend).1 := by
  have fails := failure?_exchange (g.log .clearing) .clearPackage
  rw [unregisterAll]
  generalize (g.log .clearing).exchange .clearPackage = exchanged at fails ⊢
  obtain ⟨failure | ⟨⟩, h⟩ := exchanged <;> exact fails

/-! ### Entry points -/

theorem leads_listing (g : Gateway σ) (directory : String) :
    g.Leads [.readDir directory] (g.listing directory).2 := by
  have leads : g.Leads [.readDir directory] (g.list directory).2 :=
    g.leads_exchange rfl fun _ => rfl
  rw [listing]
  generalize g.list directory = listed at leads ⊢
  obtain ⟨failure | entries, h⟩ := listed
  · exact leads.log rfl
  · exact leads

theorem exists_leads_entryPoint (g : Gateway σ) (role : EntryRole) (directory : String) :
    ∃ requests, g.Leads requests (g.entryPoint role directory).2 := by
  have first := g.leads_listing directory
  rw [entryPoint]
  generalize g.listing directory = listed at first ⊢
  obtain ⟨entries, h⟩ := listed
  by_cases nested : entries.contains EntryPoint.sourceDirectory = true
  · have second := first.trans
      (h.leads_listing (VirtualPath.join directory EntryPoint.sourceDirectory))
    simp only [nested, if_true]
    exact ⟨_, second.log rfl⟩
  · simp only [nested, if_false, Bool.false_eq_true]
    exact ⟨_, first.log rfl⟩

end Gateway

/-! ### Actions -/

variable {σ : Type} [Backend σ]

theorem Action.exists_leads (g : Gateway σ) (action : Action) :
    ∃ requests, g.Leads requests (action.perform g).2 := by
  cases action with
  | read path => exact ⟨_, g.leads_exchange rfl fun _ => rfl⟩
  | write path content => exact g.exists_leads_write path content
  | rename path target => exact ⟨_, g.leads_exchange rfl fun _ => rfl⟩
  | delete path => exact ⟨_, g.leads_delete path⟩
  | list directory => exact ⟨_, g.leads_exchange rfl fun _ => rfl⟩
  | check path => exact ⟨_, g.leads_exchange rfl fun _ => rfl⟩
  | run path libraries => exact ⟨_, g.leads_exchange rfl fun _ => rfl⟩
  | compile path mode => exact g.exists_leads_compile path mode
  | interface path => exact ⟨_, g.leads_interface path⟩
  | sourceTree content => exact ⟨_, g.leads_sourceTree content⟩
  | typedSourceTree content => exact ⟨_, g.leads_typedSourceTree content⟩
  | interfaceTree content => exact ⟨_, g.leads_interfaceTree content⟩
  | setAliases aliases => exact ⟨_, g.leads_setAliases aliases⟩
  | setMetadata values => exact ⟨_, g.leads_exchange rfl fun _ => rfl⟩
  | register name directory => exact ⟨_, g.leads_register name directory⟩
  | unregisterAll => exact ⟨_, g.leads_unregisterAll⟩
  | entryPoint role directory => exact g.exists_leads_entryPoint role directory
  | operation name => exact ⟨[], .refl⟩

namespace FileAction

/-- An operation of a handle is one of its gateway, or two. -/
theorem exists_leads (h : FileHandle σ) (action : FileAction) :
    ∃ requests, h.gateway.Leads requests (action.perform h).2.gateway := by
  have read : ∃ requests, h.gateway.Leads requests h.read.2.gateway :=
    Action.exists_leads h.gateway (.read h.path)
  cases action with
  | path => exact ⟨[], .refl⟩
  | read => exact read
  | write content => exact Action.exists_leads h.gateway (.write h.path content)
  | rename target =>
    obtain ⟨requests, leads⟩ := Action.exists_leads h.gateway (.rename h.path target)
    refine ⟨requests, ?_⟩
    have same : (h.rename target).2.gateway = (h.gateway.rename h.path target).2 := by
      rw [FileHandle.rename, FileHandle.use]
      rcases h.gateway.rename h.path target with ⟨failure | ⟨⟩, g⟩ <;> rfl
    exact same ▸ leads
  | delete => exact Action.exists_leads h.gateway (.delete h.path)
  | check => exact Action.exists_leads h.gateway (.check h.path)
  | run libraries => exact Action.exists_leads h.gateway (.run h.path libraries)
  | compile mode => exact Action.exists_leads h.gateway (.compile h.path mode)
  | interface => exact Action.exists_leads h.gateway (.interface h.path)
  | sourceTree =>
    obtain ⟨requests, leads⟩ := read
    simp only [perform, answering, FileHandle.sourceTree]
    generalize h.read = found at leads ⊢
    obtain ⟨failure | content, h'⟩ := found
    · exact ⟨requests, leads⟩
    · exact ⟨_, leads.trans (h'.gateway.leads_sourceTree content)⟩
  | typedSourceTree =>
    obtain ⟨requests, leads⟩ := read
    simp only [perform, answering, FileHandle.typedSourceTree]
    generalize h.read = found at leads ⊢
    obtain ⟨failure | content, h'⟩ := found
    · exact ⟨requests, leads⟩
    · exact ⟨_, leads.trans (h'.gateway.leads_typedSourceTree content)⟩

theorem exists_leads_performAll (actions : List FileAction) (h : FileHandle σ) :
    ∃ requests, h.gateway.Leads requests (performAll actions h).2.gateway := by
  induction actions generalizing h with
  | nil => exact ⟨[], .refl⟩
  | cons action rest ih =>
    obtain ⟨requests, leads⟩ := action.exists_leads h
    obtain ⟨more, leads'⟩ := ih (action.perform h).2
    exact ⟨_, leads.trans leads'⟩

end FileAction

end CompilerGateway
