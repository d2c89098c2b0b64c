import CompilerGateway.Proofs.Calls
import CompilerGateway.Proofs.Installation

/-!
# One law for all calls

Sixteen operations of a gateway come to one call of the backend each, and what is to be said of
them is the same for all. What an action asks for is an operation of the backend with positional
arguments (`CompilerGateway.Action.asks`), unless one of its arguments is objected to, and how a
reply is turned into an answer depends on the request alone (`CompilerGateway.Request.answer`).

Everything else is common to them: where there is no backend, or one without the operation,
there is no call; otherwise there is exactly one, and its fault becomes the failure
(`CompilerGateway.Backend.reply`, `CompilerGateway.Gateway.Answers`). The gate that a call goes
through lets pass what a look-up of the operation by its name finds
(`CompilerGateway.Action.perform_of_asks`).
-/

namespace CompilerGateway

/-! ### What is asked -/

/-- **What an action asks for**: an operation with its positional arguments, or else the
failure that one of its own arguments is. No directories for libraries are none of them, and no
mode, or an empty one, is the standard one. Actions that are not single calls ask for nothing. -/
def Action.asks : Action → Option (Except Failure (Operation × List Positional))
  | .read path => some (.ok (.readFile, [.text path]))
  | .write path content =>
    match String.fromUTF8? content with
    | none => some (.error (.notText path))
    | some text => some (.ok (.saveFile, [.text path, .text text]))
  | .rename path target => some (.ok (.renameFile, [.text path, .text target]))
  | .delete path => some (.ok (.removeFile, [.text path]))
  | .list directory => some (.ok (.readDir, [.text directory]))
  | .check path => some (.ok (.check, [.text path]))
  | .run path libraries => some (.ok (.run, [.texts (libraries.getD []), .text path]))
  | .compile path mode =>
    match mode.getD "" with
    | "" | "ic" => some (.ok (.compileWasm, [.text "ic", .text path]))
    | "wasi" => some (.ok (.compileWasm, [.text "wasi", .text path]))
    | other => some (.error (.noSuchMode other))
  | .interface path => some (.ok (.candid, [.text path]))
  | .sourceTree content => some (.ok (.parseMotoko, [.text content]))
  | .typedSourceTree content => some (.ok (.parseMotokoTypes, [.text content]))
  | .interfaceTree content => some (.ok (.parseCandid, [.text content]))
  | .setAliases aliases => some (.ok (.setActorAliases, [.pairs aliases.pairs]))
  | .setMetadata values => some (.ok (.setPublicMetadata, [.text values]))
  | .register name directory => some (.ok (.addPackage, [.text name, .text directory]))
  | .unregisterAll => some (.ok (.clearPackage, []))
  | .entryPoint _ _ | .operation _ => none

/-- The mode rule of a compilation. -/
theorem Action.asks_compile (path : String) (mode : Option String) :
    (Action.compile path mode).asks =
      some ((Gateway.modeOf mode).map fun m => (.compileWasm, [.text m.name, .text path])) := by
  rcases mode with _ | name
  · rfl
  · rw [asks, Option.getD_some]
    split
    · rfl
    · rfl
    · rfl
    · rename_i nonempty ic wasi
      have unknown : WasmMode.ofName? name = none := by
        rw [WasmMode.ofName?, List.find?_eq_none]
        intro m _
        cases m with
        | ic => exact fun same => ic (beq_iff_eq.mp same).symm
        | wasi => exact fun same => wasi (beq_iff_eq.mp same).symm
      rw [Gateway.modeOf, if_neg nonempty, unknown]
      rfl

/-! ### What is answered -/

/-- The code, or the failure that there is none. -/
def Outcome.answer {α : Type} (operation : Operation) (form : α → Answer) :
    Outcome α → Except Failure Answer
  | .produced code _ => .ok (form code)
  | .refused diagnostics => .error (.notCompiled operation (diagnostics.getD []))

/-- **What becomes of a reply**: it is the answer as it is, and where code was asked for, the
code is. -/
def Request.answer : (request : Request) → request.Reply → Except Failure Answer
  | .readFile _, content => .ok (.text content)
  | .saveFile _ _, _ => .ok .nothing
  | .renameFile _ _, _ => .ok .nothing
  | .removeFile _, _ => .ok .nothing
  | .readDir _, entries => .ok (.texts entries)
  | .addPackage _ _, _ => .ok .nothing
  | .clearPackage, _ => .ok .nothing
  | .setActorAliases _, _ => .ok .nothing
  | .setPublicMetadata _, _ => .ok .nothing
  | .check _, diagnostics => .ok (.diagnostics diagnostics)
  | .run _ _, output => .ok (.output output)
  | .compileWasm _ _, outcome => outcome.answer .compileWasm .artifact
  | .candid _, outcome => outcome.answer .candid .text
  | .parseMotoko _, outcome => outcome.answer .parseMotoko .tree
  | .parseMotokoTypes _, outcome => outcome.answer .parseMotokoTypes .typedTree
  | .parseCandid _, outcome => outcome.answer .parseCandid .tree

variable {σ : Type} [Backend σ]

/-- The reply of a backend, or the failure that there is instead of it. -/
def Backend.reply (request : Request) : Option σ → Except Failure request.Reply
  | none => .error .noBackend
  | some backend =>
    if supports backend request.operation then
      match (respond request backend).1 with
      | .ok reply => .ok reply
      | .error fault => .error (.ofFault request.operation fault)
    else .error (.noSuchOperation request.operation.name)

namespace Gateway

theorem exchange_fst (g : Gateway σ) (request : Request) :
    (g.exchange request).1 = Backend.reply request g.backend := by
  rw [exchange]
  cases g.backend with
  | none => rfl
  | some backend =>
    by_cases supported : Backend.supports backend request.operation = true
    · simp only [Backend.reply, supported, if_true]
      rcases Backend.respond request backend with ⟨fault | reply, next⟩ <;> rfl
    · simp only [Backend.reply, supported, if_false, Bool.false_eq_true]

/-- **A request has been made and its reply is the answer**, as it is or for its code. -/
structure Answers (g : Gateway σ) (request : Request)
    (performed : Except Failure Answer × Gateway σ) : Prop where
  /-- There was this request and no other. -/
  leads : g.Leads [request] performed.2
  /-- The result is its reply. -/
  result : performed.1 = (Backend.reply request g.backend).bind request.answer

omit [Backend σ] in
theorem fst_answering {α : Type} (form : α → Answer) (performed : Except Failure α × Gateway σ) :
    (answering form performed).1 = performed.1.bind fun value => .ok (form value) := by
  obtain ⟨failure | value, h⟩ := performed <;> rfl

omit [Backend σ] in
theorem fst_answering_codeOf {α : Type} (operation : Operation) (form : α → Answer)
    (exchanged : Except Failure (Outcome α) × Gateway σ) :
    (answering form (codeOf operation exchanged)).1 =
      exchanged.1.bind (Outcome.answer operation form) := by
  obtain ⟨failure | ⟨code, diagnostics⟩ | diagnostics, h⟩ := exchanged <;> rfl

variable {g : Gateway σ}

theorem answers_exchange {request : Request} {form : request.Reply → Answer}
    (unannounced : request.announcement = [])
    (plain : ∀ packages, request.effect packages = packages)
    (same : ∀ reply, request.answer reply = .ok (form reply)) :
    g.Answers request (answering form (g.exchange request)) where
  leads := g.leads_exchange unannounced plain
  result := by
    rw [fst_answering, exchange_fst, funext same]

theorem answers_announced (g : Gateway σ) {request : Request} {form : request.Reply → Answer}
    (plain : ∀ packages, request.effect packages = packages)
    (same : ∀ reply, request.answer reply = .ok (form reply)) :
    g.Answers request
      (answering form ((g.logAll request.announcement).exchange request)) where
  leads := g.leads_announced request plain
  result := by
    rw [fst_answering, exchange_fst, funext same]
    rfl

/-- Where code is asked for, the reply is an outcome, and the answer is for its code. -/
theorem answers_codeOf {α : Type} {form : α → Answer} {request : Request}
    {exchanged : Except Failure (Outcome α) × Gateway σ}
    (leads : g.Leads [request] exchanged.2)
    (result : exchanged.1.bind (Outcome.answer request.operation form) =
      (Backend.reply request g.backend).bind request.answer) :
    g.Answers request (answering form (codeOf request.operation exchanged)) where
  leads := leads_codeOf leads
  result := (fst_answering_codeOf request.operation form exchanged).trans result

theorem fst_register (g : Gateway σ) (name directory : String) :
    (g.register name directory).1 = Backend.reply (.addPackage name directory) g.backend := by
  have exchanged_eq := (g.log (.registering name directory)).exchange_fst
    (.addPackage name directory)
  rw [register]
  generalize (g.log (.registering name directory)).exchange (.addPackage name directory) = exchanged
    at exchanged_eq ⊢
  obtain ⟨failure | ⟨⟩, h⟩ := exchanged <;> exact exchanged_eq

theorem fst_unregisterAll (g : Gateway σ) :
    g.unregisterAll.1 = Backend.reply .clearPackage g.backend := by
  have exchanged_eq := (g.log .clearing).exchange_fst .clearPackage
  rw [unregisterAll]
  generalize (g.log .clearing).exchange .clearPackage = exchanged at exchanged_eq ⊢
  obtain ⟨failure | ⟨⟩, h⟩ := exchanged <;> exact exchanged_eq

end Gateway

/-! ### All actions -/

namespace Action

/-- **What is objected to is not attempted.** -/
theorem perform_of_objection (g : Gateway σ) {action : Action} {failure : Failure}
    (asks : action.asks = some (.error failure)) : action.perform g = (.error failure, g) := by
  -- only two actions look at an argument before anything else
  cases action with
  | write path content =>
    rw [Action.asks] at asks
    split at asks
    · rename_i isText
      cases asks
      rw [perform, Gateway.write, isText]
      rfl
    · cases asks
  | compile path mode =>
    rw [asks_compile] at asks
    cases mode_eq : Gateway.modeOf mode with
    | ok m =>
      rw [mode_eq] at asks
      cases asks
    | error other =>
      rw [mode_eq] at asks
      cases asks
      rw [perform, Gateway.compile, mode_eq]
      rfl
  | _ => cases asks

theorem answers_write {g : Gateway σ} {path text : String} {content : ByteArray}
    (isText : String.fromUTF8? content = some text) :
    g.Answers (.saveFile path text) ((Action.write path content).perform g) := by
  rw [perform, Gateway.write, isText]
  exact g.answers_announced (fun _ => rfl) fun _ => rfl

theorem answers_compile {g : Gateway σ} {path : String} {mode : Option String} {m : WasmMode}
    (mode_eq : Gateway.modeOf mode = .ok m) :
    g.Answers (.compileWasm m path) ((Action.compile path mode).perform g) := by
  rw [perform, Gateway.compile, mode_eq]
  exact Gateway.answers_codeOf (g.leads_exchange rfl fun _ => rfl)
    (congrArg (Except.bind · _) (g.exchange_fst (.compileWasm m path)))

/-- **What is asked for is requested**, and its reply is the answer. -/
theorem exists_answers (g : Gateway σ) {action : Action} {op : Operation}
    {arguments : List Positional} (asks : action.asks = some (.ok (op, arguments))) :
    ∃ request : Request, request.operation = op ∧ request.arguments = arguments ∧
      g.Answers request (action.perform g) := by
  -- the request can be read off the action, and each operation is known to make it
  cases action with
  | read path =>
    cases asks
    exact ⟨.readFile path, rfl, rfl, Gateway.answers_exchange rfl (fun _ => rfl) fun _ => rfl⟩
  | write path content =>
    rw [Action.asks] at asks
    split at asks
    · cases asks
    · rename_i text isText
      cases asks
      exact ⟨.saveFile path text, rfl, rfl, answers_write isText⟩
  | rename path target =>
    cases asks
    exact ⟨.renameFile path target, rfl, rfl,
      Gateway.answers_exchange rfl (fun _ => rfl) fun _ => rfl⟩
  | delete path =>
    cases asks
    exact ⟨.removeFile path, rfl, rfl, g.answers_announced (fun _ => rfl) fun _ => rfl⟩
  | list directory =>
    cases asks
    exact ⟨.readDir directory, rfl, rfl, Gateway.answers_exchange rfl (fun _ => rfl) fun _ => rfl⟩
  | check path =>
    cases asks
    exact ⟨.check path, rfl, rfl, Gateway.answers_exchange rfl (fun _ => rfl) fun _ => rfl⟩
  | run path libraries =>
    cases asks
    exact ⟨.run (libraries.getD []) path, rfl, rfl,
      Gateway.answers_exchange rfl (fun _ => rfl) fun _ => rfl⟩
  | compile path mode =>
    rw [asks_compile] at asks
    cases mode_eq : Gateway.modeOf mode with
    | error failure =>
      rw [mode_eq] at asks
      cases asks
    | ok m =>
      rw [mode_eq] at asks
      cases asks
      exact ⟨.compileWasm m path, rfl, rfl, answers_compile mode_eq⟩
  | interface path =>
    cases asks
    exact ⟨.candid path, rfl, rfl, Gateway.answers_codeOf (g.leads_exchange rfl fun _ => rfl)
      (congrArg (Except.bind · _) (g.exchange_fst (.candid path)))⟩
  | sourceTree content =>
    cases asks
    exact ⟨.parseMotoko content, rfl, rfl,
      Gateway.answers_codeOf (g.leads_exchange rfl fun _ => rfl)
      (congrArg (Except.bind · _) (g.exchange_fst (.parseMotoko content)))⟩
  | typedSourceTree content =>
    cases asks
    exact ⟨.parseMotokoTypes content, rfl, rfl,
      Gateway.answers_codeOf (g.leads_exchange rfl fun _ => rfl)
      (congrArg (Except.bind · _) (g.exchange_fst (.parseMotokoTypes content)))⟩
  | interfaceTree content =>
    cases asks
    exact ⟨.parseCandid content, rfl, rfl,
      Gateway.answers_codeOf (g.leads_exchange rfl fun _ => rfl)
      (congrArg (Except.bind · _) (g.exchange_fst (.parseCandid content)))⟩
  | setAliases aliases =>
    cases asks
    exact ⟨.setActorAliases aliases.pairs, rfl, rfl,
      g.answers_announced (fun _ => rfl) fun _ => rfl⟩
  | setMetadata values =>
    cases asks
    exact ⟨.setPublicMetadata values, rfl, rfl,
      Gateway.answers_exchange rfl (fun _ => rfl) fun _ => rfl⟩
  | register name directory =>
    cases asks
    refine ⟨.addPackage name directory, rfl, rfl, g.leads_register name directory, ?_⟩
    rw [perform, Gateway.fst_answering, Gateway.fst_register]
    rfl
  | unregisterAll =>
    cases asks
    refine ⟨.clearPackage, rfl, rfl, g.leads_unregisterAll, ?_⟩
    rw [perform, Gateway.fst_answering, Gateway.fst_unregisterAll]
    rfl
  | entryPoint role directory => cases asks
  | operation name => cases asks

end Action

/-! ### The law -/

namespace Gateway.Answers

variable {g : Gateway σ} {request : Request} {performed : Except Failure Answer × Gateway σ}

theorem backend_eq (answers : g.Answers request performed) :
    performed.2.backend = (Backend.ask request g.backend).2 :=
  answers.leads.backend_eq

theorem packages_eq (answers : g.Answers request performed) :
    performed.2.packages =
      Attempt.effect ⟨request, (Backend.ask request g.backend).1⟩ g.packages :=
  answers.leads.packages_eq

/-- Without a backend there is no call. -/
theorem of_none (answers : g.Answers request performed) (absent : g.backend = none) :
    performed.1 = .error .noBackend ∧ performed.2.backend = none ∧
      performed.2.packages = g.packages := by
  have backend_eq := answers.backend_eq
  have packages_eq := answers.packages_eq
  have result := answers.result
  rw [absent] at backend_eq packages_eq result
  exact ⟨result, backend_eq, packages_eq⟩

variable {backend : σ}

/-- Nor is there one of an operation that the backend does not have. -/
theorem of_unsupported (answers : g.Answers request performed) (present : g.backend = some backend)
    (unsupported : Backend.supports backend request.operation = false) :
    performed.1 = .error (.noSuchOperation request.operation.name) ∧
      performed.2.backend = some backend ∧ performed.2.packages = g.packages := by
  have backend_eq := answers.backend_eq
  have packages_eq := answers.packages_eq
  have result := answers.result
  simp only [present, Backend.ask, Backend.reply, unsupported, if_false, Bool.false_eq_true]
    at backend_eq packages_eq result
  exact ⟨result, backend_eq, packages_eq⟩

/-- Otherwise the backend has been asked, once, and its answer decides. -/
theorem of_supported (answers : g.Answers request performed) (present : g.backend = some backend)
    (supported : Backend.supports backend request.operation = true)
    {answered : Except Fault request.Reply} {next : σ}
    (responded : Backend.respond request backend = (answered, next)) :
    performed.2.backend = some next ∧
      match answered with
      | .ok reply => performed.1 = request.answer reply ∧
          performed.2.packages = request.effect g.packages
      | .error fault => performed.1 = .error (.ofFault request.operation fault) ∧
          performed.2.packages = g.packages := by
  have backend_eq := answers.backend_eq
  have packages_eq := answers.packages_eq
  have result := answers.result
  simp only [present, Backend.ask, Backend.reply, supported, if_true, responded]
    at backend_eq packages_eq result
  cases answered with
  | ok reply => exact ⟨backend_eq, result, packages_eq⟩
  | error fault => exact ⟨backend_eq, result, packages_eq⟩

end Gateway.Answers

/-- **The gate for a look-up** lets pass the same operations as that for a call. -/
theorem Gateway.operation_name (g : Gateway σ) (op : Operation) :
    g.operation op.name =
      match g.backend with
      | none => .error .noBackend
      | some backend =>
        if Backend.supports backend op then .ok op else .error (.noSuchOperation op.name) := by
  rw [operation]
  cases g.backend with
  | none => rfl
  | some backend => simp only [Operation.ofName?_name]

/-- The kinds that a message shows are those of the arguments that were passed. -/
theorem Failure.kindsText_operation (request : Request) :
    kindsText request.operation =
      ", ".intercalate (request.arguments.map fun argument => argument.kind.name) := by
  rw [kindsText, ← request.kind_arguments, List.map_map, Function.comp_def]

/-- Only looking for an entry point and looking up an operation are no single calls. -/
theorem Action.eq_of_asks_eq_none {action : Action} (asksNothing : action.asks = none) :
    (∃ role directory, action = .entryPoint role directory) ∨ ∃ name, action = .operation name := by
  cases action with
  | entryPoint role directory => exact .inl ⟨role, directory, rfl⟩
  | operation name => exact .inr ⟨name, rfl⟩
  | write path content =>
    rw [asks] at asksNothing
    split at asksNothing <;> cases asksNothing
  | compile path mode =>
    rw [asks_compile] at asksNothing
    cases asksNothing
  | _ => cases asksNothing

/-- What is written is text if it is the bytes of one, and these are then what is asked for. -/
theorem Action.asks_write (path : String) (content : ByteArray) :
    (∀ text : String, text.toUTF8 = content →
      (Action.write path content).asks = some (.ok (.saveFile, [.text path, .text text]))) ∧
    ((∀ text : String, text.toUTF8 ≠ content) →
      (Action.write path content).asks = some (.error (.notText path))) := by
  refine ⟨fun text isText => ?_, fun notText => ?_⟩
  · rw [asks, fromUTF8?_eq_some_iff.mpr isText]
  · cases found : String.fromUTF8? content with
    | none => rw [asks, found]
    | some text => exact absurd (fromUTF8?_eq_some_iff.mp found) (notText text)

/-- **One law for all calls.** An argument that is objected to is the failure, whether or not
there is a backend; then the lack of a backend is, and then that the backend does not have the
operation, which is also what a look-up by its name comes to. In all these cases nothing is
called and the account stays as it is.

Otherwise there is exactly one call, of the operation and with the arguments that the action
asks for. Its reply is the answer, or the code in it is; the error that it reports is the
failure, in its own words; and for a value that is raised the failure names the operation and
the kinds of its arguments. The account follows a registration or a removal if it is granted. -/
theorem Action.perform_of_asks (g : Gateway (Recorded σ)) (action : Action) :
    let result := (action.perform g).1
    let after := (action.perform g).2
    (action.asks = none → (∃ role directory, action = .entryPoint role directory) ∨
      ∃ name, action = .operation name) ∧
    (∀ path content, action = .write path content →
      (∀ text : String, text.toUTF8 = content →
        action.asks = some (.ok (.saveFile, [.text path, .text text]))) ∧
      ((∀ text : String, text.toUTF8 ≠ content) → action.asks = some (.error (.notText path)))) ∧
    (∀ failure, action.asks = some (.error failure) →
      result = .error failure ∧ after.backend = g.backend ∧ after.packages = g.packages) ∧
    ∀ op arguments, action.asks = some (.ok (op, arguments)) →
      (g.backend = none → g.operation op.name = .error .noBackend ∧
        result = .error .noBackend ∧ after.backend = none ∧ after.packages = g.packages) ∧
      ∀ current, g.backend = some current →
        (Backend.supports current.backend op = false →
          g.operation op.name = .error (.noSuchOperation op.name) ∧
          result = .error (.noSuchOperation op.name) ∧
          after.backend = some current ∧ after.packages = g.packages) ∧
        (Backend.supports current.backend op = true → g.operation op.name = .ok op ∧
          ∃ request : Request, request.operation = op ∧ request.arguments = arguments ∧
            ∃ answered next, Backend.respond request current.backend = (answered, next) ∧
              after.backend =
                some ⟨next, current.exchanges ++ [⟨request, Recorded.faultOf answered⟩]⟩ ∧
              (∀ reply, answered = .ok reply →
                result = request.answer reply ∧ after.packages = request.effect g.packages) ∧
              (∀ error, answered = .error (.error error) →
                result = .error (.reported error) ∧ after.packages = g.packages ∧
                (Failure.reported error).message = error.message ∧
                (Failure.reported error).cause? = error.cause) ∧
              ∀ payload, answered = .error (.raised payload) →
                result = .error (.raised op payload) ∧ after.packages = g.packages ∧
                (Failure.raised op payload).message = "unable to execute " ++ op.name ++ "(" ++
                  ", ".intercalate (arguments.map fun argument => argument.kind.name) ++
                  "):\n" ++ payload.render) := by
  intro result after
  refine ⟨Action.eq_of_asks_eq_none, ?_, fun failure objection => ?_,
    fun op arguments asked => ?_⟩
  · rintro path content rfl
    exact Action.asks_write path content
  · have performed := action.perform_of_objection g objection
    exact ⟨congrArg Prod.fst performed, congrArg (·.2.backend) performed,
      congrArg (·.2.packages) performed⟩
  · obtain ⟨request, rfl, rfl, answers⟩ := action.exists_answers g asked
    refine ⟨fun absent => ⟨?_, answers.of_none absent⟩, fun current present =>
      ⟨fun unsupported => ⟨?_, answers.of_unsupported present unsupported⟩,
        fun supported => ⟨?_, request, rfl, rfl, ?_⟩⟩⟩
    · rw [g.operation_name, absent]
    · rw [g.operation_name, present]
      exact if_neg (Bool.eq_false_iff.mp unsupported)
    · rw [g.operation_name, present]
      exact if_pos supported
    · rcases responded : Backend.respond request current.backend with ⟨answered, next⟩
      -- the recording backend answers as the one in it does
      have recorded : Backend.respond request current =
          (answered, ⟨next, current.exchanges ++ [⟨request, Recorded.faultOf answered⟩]⟩) := by
        simp only [Backend.respond, responded]
      obtain ⟨backend_eq, rest⟩ := answers.of_supported present supported recorded
      refine ⟨answered, next, rfl, backend_eq, ?_, ?_, ?_⟩
      · rintro reply rfl
        exact rest
      · rintro error rfl
        exact ⟨rest.1, rest.2, rfl, rfl⟩
      · rintro payload rfl
        refine ⟨rest.1, rest.2, ?_⟩
        exact congrArg (fun kinds => "unable to execute " ++ request.operation.name ++ "(" ++
          kinds ++ "):\n" ++ payload.render) (Failure.kindsText_operation request)

/-- A backend that raises a value when it is to run a file, without directories for libraries.
The failure shows that there were two arguments. -/
theorem Action.perform_of_asks_raised :
    let action := Action.run "Main.mo" none
    let g : Gateway (Recorded Scripted) :=
      ⟨"0.14.0", .standard, some (.fresh (.ofFiles .empty [] fun _ => [.raise (.str "boom")])),
        Table.ofList [("base", "lib/base")], []⟩
    let result := (action.perform g).1
    let after := (action.perform g).2
    action.asks = some (.ok (.run, [.texts [], .text "Main.mo"])) ∧
      g.operation "run" = .ok .run ∧ result = .error (.raised .run (.str "boom")) ∧
      (Failure.raised .run (.str "boom")).message =
        "unable to execute run(array, string):\n\"boom\"" ∧
      after.exchanges = [⟨.run [] "Main.mo", some (.raised (.str "boom"))⟩] ∧
      after.packages = g.packages := by
  intro action g result after
  obtain ⟨-, -, -, law⟩ := action.perform_of_asks g
  obtain ⟨-, onBackend⟩ := law .run [.texts [], .text "Main.mo"] rfl
  obtain ⟨-, onSupported⟩ := onBackend _ rfl
  obtain ⟨found, request, op_eq, arguments_eq, answered, next, responded, backend_eq, -, -,
    raised⟩ := onSupported rfl
  cases request with
  | run libraries path =>
    obtain ⟨rfl, rfl⟩ : libraries = [] ∧ path = "Main.mo" := by
      simpa [Request.arguments] using arguments_eq
    have answered_eq : answered = .error (.raised (.str "boom")) :=
      (congrArg Prod.fst responded).symm
    obtain ⟨result_eq, packages_eq, message_eq⟩ := raised _ answered_eq
    refine ⟨rfl, found, result_eq, message_eq.trans (by decide +kernel), ?_, packages_eq⟩
    rw [Gateway.exchanges, backend_eq, answered_eq]
    rfl
  | _ => cases op_eq

end CompilerGateway
