import CompilerGateway.Proofs.BreakOff
import CompilerGateway.Proofs.Chronicle
import CompilerGateway.Proofs.Invocation

/-!
# What can be learnt from a log

A log that was kept during a session is read afterwards. What it says of calls is what the
backends received, in the order in which they did
(`CompilerGateway.Chronicle.map_ownFields`, over `CompilerGateway.Session.chronicle_run`); of a
request that was refused before there was a call it says nothing of the kind
(`CompilerGateway.Action.journal_of_refusal`).

A load that breaks off is the one occasion for other warnings. Its log is known to the last event
(`CompilerGateway.BreakOff.journal_load`): the requests up to the refused one, one warning that the
installation failed, and then the requests of the way back, each followed by a warning of its own
if it failed.
-/

namespace CompilerGateway

/-! ### Reading calls off a log -/

/-- What the log says when a call is made. -/
def Event.callMessage : String := "invoking compiler backend"

/-- No other event says what this one says. -/
theorem Event.exists_eq_invoking {event : Event} (saying : (event.message == callMessage) = true) :
    ∃ operation, event = .invoking operation := by
  cases event with
  | invoking operation => exact ⟨operation, rfl⟩
  | _ => simp [message, callMessage] at saying

theorem Exchange.filter_message_events (x : Exchange) :
    x.events.filter (fun event => event.message == Event.callMessage) =
      [.invoking x.request.operation] := by
  obtain ⟨request, fault⟩ := x
  rcases fault with - | fault
  · rfl
  · cases fault <;> rfl

/-- **The calls of a log**, each with its operation and the number of its arguments. -/
theorem Chronicle.map_ownFields {calls : List Exchange} {events : List Event}
    (chronicle : Chronicle calls events) :
    (events.filter fun event => event.message == Event.callMessage).map
        (fun event => (event.level, event.ownFields)) =
      calls.map fun x => (.debug, [("operation", .bare x.request.operation.name),
        ("arguments", .count x.request.arguments.length)]) := by
  have arguments_eq : ∀ request : Request,
      request.operation.argumentKinds.length = request.arguments.length := fun request => by
    rw [← request.kind_arguments, List.length_map]
  -- only an event of a call says so, and of those of one call just the first
  have found : (events.filter fun event => event.message == Event.callMessage) =
      calls.map fun x => .invoking x.request.operation := by
    have within : (events.filter fun event => event.message == Event.callMessage) =
        (events.filter Event.isOfCall).filter fun event => event.message == Event.callMessage := by
      rw [List.filter_filter]
      refine List.filter_congr fun event _ => ?_
      cases saying : event.message == Event.callMessage with
      | false => rfl
      | true =>
        obtain ⟨operation, rfl⟩ := Event.exists_eq_invoking saying
        rfl
    rw [within, chronicle.filter_isOfCall, List.filter_flatMap]
    simp only [Exchange.filter_message_events]
    exact List.map_eq_flatMap.symm
  rw [found, List.map_map]
  refine List.map_congr_left fun x _ => ?_
  simp only [Function.comp_apply, Event.level, Event.ownFields, arguments_eq]

/-! ### Refusals -/

/-- **Whether the failure is that there is no call**: no backend, no such operation, or an argument
that is objected to. -/
def Failure.isRefusal : Failure → Bool
  | .noBackend | .noSuchOperation _ | .notText _ | .noSuchMode _ => true
  | _ => false

/-- A request that is refused does not reach the backend. -/
theorem Attempt.exchanges_of_refusal {request : Request} {failure : Failure}
    (refusal : failure.isRefusal = true) : Attempt.exchanges ⟨request, some failure⟩ = [] := by
  cases failure <;> first | rfl | cases refusal

/-- A reply is never taken for a refusal. -/
theorem Request.isRefusal_of_answer {request : Request} {reply : request.Reply}
    {failure : Failure} (answer : request.answer reply = .error failure) :
    failure.isRefusal = false := by
  have ofOutcome : ∀ {α : Type} (operation : Operation) (form : α → Answer) (outcome : Outcome α),
      outcome.answer operation form = .error failure → failure.isRefusal = false := by
    rintro α operation form (⟨code, diagnostics⟩ | diagnostics) eq
    · cases eq
    · cases eq
      rfl
  cases request with
  | compileWasm mode path => exact ofOutcome _ _ _ answer
  | candid path => exact ofOutcome _ _ _ answer
  | parseMotoko content => exact ofOutcome _ _ _ answer
  | parseMotokoTypes content => exact ofOutcome _ _ _ answer
  | parseCandid content => exact ofOutcome _ _ _ answer
  | _ => cases answer

variable {σ : Type} [Backend σ]

/-- **A refusal leaves no trace of a call**, neither with the backend nor in the log. -/
theorem Action.journal_of_refusal (g : Gateway (Recorded σ)) {action : Action} {failure : Failure}
    (refused : (action.perform g).1 = .error failure) (refusal : failure.isRefusal = true) :
    (action.perform g).2.exchanges = g.exchanges ∧
      ∃ events, (action.perform g).2.journal = g.journal ++ events ∧
        ∀ event ∈ events, event.isOfCall = false := by
  cases asks : action.asks with
  | none =>
    rcases action.eq_of_asks_eq_none asks with ⟨role, directory, rfl⟩ | ⟨name, rfl⟩
    · cases refused
    · exact ⟨rfl, [], by simp [perform], by simp⟩
  | some asked =>
    rcases asked with objection | ⟨operation, arguments⟩
    · rw [action.perform_of_objection g asks]
      exact ⟨rfl, [], by simp, by simp⟩
    · obtain ⟨request, -, -, answers⟩ := action.exists_answers g asks
      have result := answers.result
      -- it is the request that was refused, not its reply
      have failed : (Backend.ask request g.backend).1 = some failure := by
        rw [← g.failure?_exchange, g.exchange_fst]
        cases replied : Backend.reply request g.backend with
        | error other =>
          rw [replied, refused] at result
          exact congrArg some (Except.error.inj result).symm
        | ok reply =>
          rw [replied, refused] at result
          exact absurd refusal (Bool.eq_false_iff.mp (Request.isRefusal_of_answer result.symm))
      have noCall : (Backend.attempts [request] g.backend).flatMap Attempt.exchanges = [] := by
        rw [Backend.attempts_cons, Backend.attempts_nil, List.flatMap_singleton, failed,
          Attempt.exchanges_of_refusal refusal]
      refine ⟨by rw [answers.leads.exchanges_eq, noCall, List.append_nil], ?_⟩
      obtain ⟨events, journal_eq, chronicle⟩ := answers.leads.exists_chronicle
      rw [noCall] at chronicle
      refine ⟨events, journal_eq, fun event mem => ?_⟩
      have none := chronicle.filter_isOfCall
      exact Bool.eq_false_iff.mpr (List.filter_eq_nil_iff.mp none event mem)

/-! ### Loads that break off -/

/-- Whether the event is about an installation that failed, or about something that failed on the
way back. -/
def Event.isOfSetback : Event → Bool
  | .installFailed _ _ | .clearFailed _ | .restoreFailed _ _ => true
  | _ => false

/-- An event is about a request or about a setback, not both. -/
theorem Event.isOfSetback_eq_false {event : Event} (about : event.isOfRequest = true) :
    event.isOfSetback = false := by
  cases event with
  | installFailed name failure => cases about
  | clearFailed failure => cases about
  | restoreFailed name failure => cases about
  | _ => rfl

/-- **The warning that a request of the way back failed**, if it did. -/
def Attempt.complaint : Attempt → List Event
  | ⟨.clearPackage, some failure⟩ => [.clearFailed failure]
  | ⟨.addPackage name _, some failure⟩ => [.restoreFailed name failure]
  | _ => []

theorem Attempt.filter_isOfSetback_events (a : Attempt) :
    a.events.filter Event.isOfSetback = [] :=
  List.filter_eq_nil_iff.mpr fun _ mem =>
    Bool.eq_false_iff.mp (Event.isOfSetback_eq_false (isOfRequest_of_mem_events mem))

theorem Attempt.filter_isOfSetback_complaint (a : Attempt) :
    a.complaint.filter Event.isOfSetback = a.complaint := by
  obtain ⟨request, failure⟩ := a
  cases request <;> cases failure <;> rfl

namespace Gateway

/-- The log of registrations that are made again. -/
theorem journal_registerAll (entries : List (String × String)) (g : Gateway σ) :
    (registerAll entries g).journal = g.journal ++
      (Backend.attempts (entries.map fun entry => .addPackage entry.1 entry.2) g.backend).flatMap
        fun a => a.events ++ a.complaint := by
  induction entries generalizing g with
  | nil => simp [registerAll]
  | cons entry rest ih =>
    obtain ⟨name, directory⟩ := entry
    have fails := g.failure?_register name directory
    have next := g.register_snd name directory
    rw [registerAll]
    generalize g.register name directory = registered at fails next ⊢
    obtain ⟨failure | ⟨⟩, h⟩ := registered
    · obtain rfl : h = g.follow (.addPackage name directory) := next
      have failed : (Backend.ask (.addPackage name directory) g.backend).1 = some failure :=
        fails.symm
      dsimp only
      rw [ih]
      simp [log, follow, failed, Attempt.complaint]
    · obtain rfl : h = g.follow (.addPackage name directory) := next
      have granted : (Backend.ask (.addPackage name directory) g.backend).1 = none := fails.symm
      dsimp only
      rw [ih]
      simp [follow, granted, Attempt.complaint]

end Gateway

namespace BreakOff

variable {g : Gateway σ} {fetcher : Fetcher} {requests : List (String × Descriptor)}
  {moves : List Move}

/-- **The requests of the way back**, with what became of each: that to drop all registrations,
and if it was granted, those that make the earlier ones again. -/
def wayBack (x : BreakOff g fetcher requests moves) : List Attempt :=
  ⟨.clearPackage, (Backend.ask .clearPackage x.left).1⟩ ::
    if (Backend.ask .clearPackage x.left).1 = none then x.again else []

/-- **The log of a load that breaks off**, to the last event. -/
theorem journal_load (x : BreakOff g fetcher requests moves) :
    (g.load fetcher requests moves).gateway.journal =
      g.journal ++ x.milestones.flatMap fetcher.events ++
        (Backend.attempts x.made g.backend).flatMap Attempt.events ++
          .installFailed x.name x.failure ::
            x.wayBack.flatMap fun a => a.events ++ a.complaint := by
  obtain ⟨h, leads, journal_eq, eq⟩ := x.exists_load_eq
  have fails := h.failure?_unregisterAll
  have next := h.unregisterAll_snd
  have left_eq : h.backend = x.left := leads.backend_eq
  rw [eq, wayBack, ← left_eq]
  dsimp only
  rw [Gateway.rollBack]
  generalize h.unregisterAll = cleared at fails next ⊢
  obtain ⟨failure | ⟨⟩, k⟩ := cleared
  · obtain rfl : k = h.follow .clearPackage := next
    have failed : (Backend.ask .clearPackage h.backend).1 = some failure := fails.symm
    simp [Gateway.log, Gateway.follow, failed, Attempt.complaint, journal_eq]
  · obtain rfl : k = h.follow .clearPackage := next
    have granted : (Backend.ask .clearPackage h.backend).1 = none := fails.symm
    dsimp only
    rw [Gateway.journal_registerAll, again, ← left_eq]
    simp [Gateway.follow, granted, Attempt.complaint, journal_eq, Gateway.restoration]

/-- One warning that the installation failed, and after it one for each request of the way back
that failed. -/
theorem exists_journal_split (x : BreakOff g fetcher requests moves) :
    ∃ earlier later, (g.load fetcher requests moves).gateway.journal =
        g.journal ++ x.milestones.flatMap fetcher.events ++ earlier ++
          .installFailed x.name x.failure :: later ∧
      earlier.filter Event.isOfSetback = [] ∧
      later.filter Event.isOfSetback = x.wayBack.flatMap Attempt.complaint := by
  refine ⟨_, _, x.journal_load, ?_, ?_⟩
  · rw [List.filter_flatMap]
    simp [Attempt.filter_isOfSetback_events]
  · rw [List.filter_flatMap]
    simp [Attempt.filter_isOfSetback_events, Attempt.filter_isOfSetback_complaint]

end BreakOff

/-! ### Whole sessions -/

namespace Session

/-- **The log of a session is a faithful record of what its backends received**, whatever was done
and whatever they answered.

It has one debug event for each call, with the operation and the number of arguments, in the order
of the calls; one warning for each fault, of the kind of the fault, directly after the event of its
call; and nothing else that is about a call. Requests that are refused before there is a call are
not among them. And a load that fails while it writes or registers lets the log know of that once,
and then of each request of the way back that failed. -/
theorem log_run (s : Session (Recorded σ)) (steps : List (Step (Recorded σ))) :
    let g := (s.run steps).2.gateway
    let received := s.received steps
    (∃ events, g.journal = s.gateway.journal ++ events ∧
      (events.filter fun event => event.message == Event.callMessage).map
          (fun event => (event.level, event.ownFields)) =
        received.map (fun x => (.debug, [("operation", .bare x.request.operation.name),
          ("arguments", .count x.request.arguments.length)])) ∧
      events.filter Event.isOfCall = received.flatMap Exchange.events ∧
      ∀ before x after, received = before ++ x :: after → ∃ earlier later,
        events = earlier ++ x.events ++ later ∧
        earlier.filter Event.isOfCall = before.flatMap Exchange.events ∧
        later.filter Event.isOfCall = after.flatMap Exchange.events) ∧
    (∀ (action : Action) (failure : Failure), (action.perform g).1 = .error failure →
      failure.isRefusal = true →
      (action.perform g).2.exchanges = g.exchanges ∧
      ∃ events, (action.perform g).2.journal = g.journal ++ events ∧
        ∀ event ∈ events, event.isOfCall = false) ∧
    (∀ fetcher requests moves milestones packages failure,
      Gateway.nameFailure? (Table.ofList requests) = none →
      g.fetching fetcher requests moves = (milestones, .complete packages) →
      Gateway.contentFailure? packages = none →
      (g.load fetcher requests moves).result = some (.error failure) →
      ∃ x : BreakOff g fetcher requests moves, x.failure = failure) ∧
    ∀ fetcher requests moves (x : BreakOff g fetcher requests moves), ∃ earlier later,
      (g.load fetcher requests moves).gateway.journal =
        g.journal ++ x.milestones.flatMap fetcher.events ++ earlier ++
          .installFailed x.name x.failure :: later ∧
      earlier.filter Event.isOfSetback = [] ∧
      later.filter Event.isOfSetback = x.wayBack.flatMap Attempt.complaint := by
  intro g received
  refine ⟨?_, fun action failure => action.journal_of_refusal g, ?_,
    fun fetcher requests moves x => x.exists_journal_split⟩
  · obtain ⟨events, journal_eq, chronicle⟩ := s.chronicle_run steps
    refine ⟨events, journal_eq, chronicle.map_ownFields, chronicle.filter_isOfCall,
      fun before x after split => ?_⟩
    obtain ⟨earlier, later, events_eq, front, back⟩ := chronicle.exists_split split
    exact ⟨earlier, later, events_eq, front.filter_isOfCall, back.filter_isOfCall⟩
  · intro fetcher requests moves milestones packages failure named fetched fit fails
    rw [Gateway.load_of_complete named fetched] at fails
    exact Gateway.exists_breakOff named fetched fit (Option.some.inj fails)

/-- A package is registered and a file that is not there is to be moved. After that a compilation
for an unknown target leaves no trace; and a load breaks off at its second file, and on the way
back the package cannot be registered again. -/
theorem log_run_twice_refused :
    let package : FetchedPackage :=
      ⟨"any", "1", Table.ofList [("a.mo", "module A"), ("b.mo", "module B")]⟩
    let fetcher := Fetcher.quiet fun _ => .ok package
    let noSpace : BackendError := ⟨"no space left", none⟩
    let steps : List (Step (Recorded Earnest)) :=
      [.attach (.fresh (.refusing [false, true] [false, true])),
        .act (.register "base" "lib/base"), .file "A.mo" [.rename "B.mo"]]
    let g := ((opening (Gateway.detached "0.14.0" .standard)).run steps).2.gateway
    let refused := (Action.compile "A.mo" (some "wasm")).perform g
    let requests := [("core", Descriptor.directory "core")]
    let loading := g.load fetcher requests [.start, .finish "core"]
    let missing : BackendError := ⟨"file not found: A.mo", none⟩
    (g.journal.filter Event.isOfCall =
      [.invoking .addPackage, .invoking .renameFile, .backendFailed .renameFile missing]) ∧
    (∃ earlier later, g.journal =
      earlier ++ [.invoking .renameFile, .backendFailed .renameFile missing] ++ later) ∧
    refused.1 = .error (.noSuchMode "wasm") ∧ refused.2.exchanges = g.exchanges ∧
    loading.result = some (.error (.reported noSpace)) ∧
    (∃ x : BreakOff g fetcher requests [.start, .finish "core"], x.failure = .reported noSpace) ∧
    ∃ earlier later, loading.gateway.journal =
        g.journal ++ [.fetchingNamed "core" (.directory "core")] ++ earlier ++
          .installFailed "core" (.reported noSpace) :: later ∧
      earlier.filter Event.isOfSetback = [] ∧
      later.filter Event.isOfSetback = [.restoreFailed "base" (.reported noSpace)] := by
  intro package fetcher noSpace steps g refused requests loading missing
  obtain ⟨⟨events, journal_eq, -, calls_eq, together⟩, onRefusal, onFailure, onBreakOff⟩ :=
    log_run (opening (Gateway.detached "0.14.0" .standard)) steps
  let x : BreakOff g fetcher requests [.start, .finish "core"] :=
    { milestones := _
      packages := _
      before := []
      name := "core"
      package := package
      untouched := []
      done := [.saveFile ".packages/core/1/a.mo" "module A"]
      refused := .saveFile ".packages/core/1/b.mo" "module B"
      unmade := [.addPackage "core" ".packages/core/1"]
      failure := .reported noSpace
      named := by decide +kernel
      fetched := rfl
      fit := by decide +kernel
      entries_eq := rfl
      split := by decide +kernel
      granted := List.all_eq_true.mp (by decide +kernel)
      fails := rfl }
  obtain ⟨earlier, later, events_eq, -, -⟩ :=
    together [⟨.addPackage "base" "lib/base", none⟩]
      ⟨.renameFile "A.mo" "B.mo", some (.error missing)⟩ [] rfl
  refine ⟨(congrArg (List.filter Event.isOfCall) journal_eq).trans calls_eq,
    ⟨earlier, later, journal_eq.trans events_eq⟩, rfl,
    (onRefusal (.compile "A.mo" (some "wasm")) _ rfl rfl).1, x.result_load,
    onFailure _ _ _ _ _ _ x.named x.fetched x.fit x.result_load, onBreakOff _ _ _ x⟩

end Session

end CompilerGateway
