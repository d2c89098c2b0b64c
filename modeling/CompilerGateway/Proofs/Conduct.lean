import CompilerGateway.Proofs.Attempts

/-!
# How a gateway gets from one state to another

A gateway attempts requests one after the other, and writes to its log in between. That is all
that its operations do, down to the installation of packages with its way back; so what holds
of attempts and of log entries holds of every operation.

* `CompilerGateway.Gateway.follow` – the gateway after an attempt: its backend has been asked,
  its registrations have followed a request that was granted, its log has the events.
* `CompilerGateway.Gateway.Leads` – a gateway leads to a later one by a list of requests. The
  backend, the registrations and the log of the later one can be read off that list
  (`CompilerGateway.Gateway.Leads.backend_eq`, `CompilerGateway.Gateway.Leads.packages_eq`,
  `CompilerGateway.Gateway.Leads.filter_drop_journal`).
* `CompilerGateway.Gateway.Terse` – between two states nothing but requests was logged; then the
  log has the events of the attempts and no others
  (`CompilerGateway.Gateway.Leads.journal_eq_of_terse`).
* `CompilerGateway.Gateway.Stops` – requests are made up to the first one that fails.
-/

namespace CompilerGateway

namespace Gateway

variable {σ : Type} [Backend σ]

/-! ### One attempt -/

/-- The gateway after an attempt. -/
def follow (g : Gateway σ) (request : Request) : Gateway σ :=
  { g with
    backend := (Backend.ask request g.backend).2
    packages := Attempt.effect ⟨request, (Backend.ask request g.backend).1⟩ g.packages
    journal := g.journal ++ Attempt.events ⟨request, (Backend.ask request g.backend).1⟩ }

omit [Backend σ] in
@[simp] theorem logAll_nil (g : Gateway σ) : g.logAll [] = g := by
  simp [logAll]

/-- **An exchange fails just as the request does.** -/
theorem failure?_exchange (g : Gateway σ) (request : Request) :
    failure? (g.exchange request).1 = (Backend.ask request g.backend).1 := by
  rw [exchange]
  cases g.backend with
  | none => rfl
  | some backend =>
    by_cases supported : Backend.supports backend request.operation = true
    · simp only [Backend.ask, supported, if_true]
      rcases Backend.respond request backend with ⟨fault | reply, next⟩ <;> rfl
    · simp only [Backend.ask, supported, if_false, Bool.false_eq_true, failure?]

/-- **What an exchange leaves behind**: the backend has been asked, and the log has the traffic
of the attempt. The account of the registrations is not its business. -/
theorem exchange_snd (g : Gateway σ) (request : Request) :
    (g.exchange request).2 =
      { g with
        backend := (Backend.ask request g.backend).2
        journal := g.journal ++ Attempt.traffic ⟨request, (Backend.ask request g.backend).1⟩ } := by
  obtain ⟨version, settings, backend, packages, journal⟩ := g
  rw [exchange]
  cases backend with
  | none => simp [Backend.ask, Attempt.traffic]
  | some backend =>
    by_cases supported : Backend.supports backend request.operation = true
    · simp only [Backend.ask, supported, if_true]
      rcases Backend.respond request backend with ⟨fault | reply, next⟩
      · cases fault <;> simp [Attempt.traffic, log, Failure.ofFault, faultEvent]
      · simp [Attempt.traffic, log]
    · simp [Backend.ask, supported, Attempt.traffic]

/-- An announced exchange is an attempt; where it goes well, the account is left to be put in
order. -/
theorem follow_of_ok {g h : Gateway σ} {request : Request} {reply : request.Reply}
    (granted : (g.logAll request.announcement).exchange request = (.ok reply, h)) :
    g.follow request = { h with packages := request.effect h.packages } := by
  have fails := failure?_exchange (g.logAll request.announcement) request
  have leaves := exchange_snd (g.logAll request.announcement) request
  rw [granted] at fails leaves
  have granted' : (Backend.ask request g.backend).1 = none := fails.symm
  simp only at leaves
  simp [follow, leaves, logAll, granted', Attempt.effect, Attempt.succeeded, Attempt.events]

/-- Where it does not go well, there is nothing to put in order. -/
theorem follow_of_error {g h : Gateway σ} {request : Request} {failure : Failure}
    (refused : (g.logAll request.announcement).exchange request = (.error failure, h)) :
    g.follow request = h := by
  have fails := failure?_exchange (g.logAll request.announcement) request
  have leaves := exchange_snd (g.logAll request.announcement) request
  rw [refused] at fails leaves
  have refused' : (Backend.ask request g.backend).1 = some failure := fails.symm
  simp only at leaves
  simp [follow, leaves, logAll, refused', Attempt.effect, Attempt.succeeded, Attempt.events]

/-- An announced exchange is an attempt, where a request does nothing to the registrations. -/
theorem exchange_logAll_eq_follow (g : Gateway σ) (request : Request)
    (plain : ∀ packages, request.effect packages = packages) :
    ((g.logAll request.announcement).exchange request).2 = g.follow request := by
  rcases exchanged : (g.logAll request.announcement).exchange request with ⟨failure | reply, h⟩
  · exact (follow_of_error exchanged).symm
  · rw [follow_of_ok exchanged, plain]

theorem exchange_eq_follow (g : Gateway σ) {request : Request}
    (unannounced : request.announcement = [])
    (plain : ∀ packages, request.effect packages = packages) :
    (g.exchange request).2 = g.follow request := by
  simpa [unannounced] using g.exchange_logAll_eq_follow request plain

/-! ### Several attempts -/

/-- **A gateway leads to a later one** by the requests that are attempted in between; the log
may be let know of other things, too. -/
inductive Leads (g : Gateway σ) : List Request → Gateway σ → Prop where
  /-- Nothing has happened. -/
  | refl : Leads g [] g
  /-- Something was logged that is not about a request. -/
  | log {requests : List Request} {h : Gateway σ} {event : Event} :
    Leads g requests h → event.isOfRequest = false → Leads g requests (h.log event)
  /-- A request was attempted. -/
  | follow {requests : List Request} {h : Gateway σ} (request : Request) :
    Leads g requests h → Leads g (requests ++ [request]) (h.follow request)

namespace Leads

variable {g h k : Gateway σ} {requests more : List Request}

theorem single (request : Request) : g.Leads [request] (g.follow request) :=
  Leads.follow request .refl

theorem trans (first : g.Leads requests h) (second : h.Leads more k) :
    g.Leads (requests ++ more) k := by
  induction second with
  | refl => simpa using first
  | log _ apart ih => exact ih.log apart
  | follow request _ ih => simpa using ih.follow request

theorem logAll (first : g.Leads requests h) {events : List Event}
    (apart : ∀ event ∈ events, event.isOfRequest = false) : g.Leads requests (h.logAll events) := by
  induction events generalizing h with
  | nil => simpa using first
  | cons event rest ih =>
    have next := ih (first.log (apart event List.mem_cons_self)) fun other mem =>
      apart other (List.mem_cons_of_mem _ mem)
    simpa [Gateway.logAll, Gateway.log] using next

theorem settings_eq (first : g.Leads requests h) : h.settings = g.settings := by
  induction first with
  | refl => rfl
  | log _ _ ih => exact ih
  | follow _ _ ih => exact ih

theorem backend_eq (first : g.Leads requests h) : h.backend = Backend.after requests g.backend := by
  induction first with
  | refl => rfl
  | log _ _ ih => exact ih
  | follow request _ ih => simp [Gateway.follow, ih]

/-- **The account is the attempts, replayed.** -/
theorem packages_eq (first : g.Leads requests h) :
    h.packages = Attempt.replay (Backend.attempts requests g.backend) g.packages := by
  induction first with
  | refl => rfl
  | log _ _ ih => exact ih
  | follow request before ih =>
    -- the last request is asked of the backend that those before it have left
    simp [Gateway.follow, ih, before.backend_eq]

/-- The log is only added to, and what it then says of requests is what happened to them. -/
theorem exists_journal_eq (first : g.Leads requests h) :
    ∃ events, h.journal = g.journal ++ events ∧
      events.filter Event.isOfRequest =
        (Backend.attempts requests g.backend).flatMap Attempt.events := by
  induction first with
  | refl => exact ⟨[], by simp, rfl⟩
  | @log _ _ event _ apart ih =>
    obtain ⟨events, journal_eq, filter_eq⟩ := ih
    refine ⟨events ++ [event], by simp [Gateway.log, journal_eq], ?_⟩
    simp [filter_eq, apart]
  | @follow requests next request before ih =>
    obtain ⟨events, journal_eq, filter_eq⟩ := ih
    refine ⟨events ++ Attempt.events ⟨request, (Backend.ask request next.backend).1⟩,
      by simp [Gateway.follow, journal_eq], ?_⟩
    have all : (Attempt.events ⟨request, (Backend.ask request next.backend).1⟩).filter
        Event.isOfRequest = Attempt.events ⟨request, (Backend.ask request next.backend).1⟩ :=
      List.filter_eq_self.mpr fun event mem => Attempt.isOfRequest_of_mem_events mem
    rw [List.filter_append, filter_eq, all, Backend.attempts_append, ← before.backend_eq]
    simp

/-- **The log says of requests what happened.** -/
theorem filter_drop_journal (first : g.Leads requests h) :
    (h.journal.drop g.journal.length).filter Event.isOfRequest =
      (Backend.attempts requests g.backend).flatMap Attempt.events := by
  obtain ⟨events, journal_eq, filter_eq⟩ := first.exists_journal_eq
  rw [journal_eq, List.drop_left, filter_eq]

end Leads

/-! ### Nothing but requests in the log -/

omit [Backend σ] in
/-- **Between two states the log was let know of nothing but requests.** -/
def Terse (g h : Gateway σ) : Prop :=
  ∃ events, h.journal = g.journal ++ events ∧ ∀ event ∈ events, event.isOfRequest = true

namespace Terse

variable {g h k : Gateway σ}

omit [Backend σ] in
theorem refl (g : Gateway σ) : g.Terse g := ⟨[], by simp, by simp⟩

omit [Backend σ] in
theorem trans (first : g.Terse h) (second : h.Terse k) : g.Terse k := by
  obtain ⟨events, journal_eq, all⟩ := first
  obtain ⟨others, journal_eq', all'⟩ := second
  refine ⟨events ++ others, by rw [journal_eq', journal_eq, List.append_assoc], fun event mem => ?_⟩
  exact (List.mem_append.mp mem).elim (all event) (all' event)

theorem follow (g : Gateway σ) (request : Request) : g.Terse (g.follow request) :=
  ⟨_, rfl, fun _ mem => Attempt.isOfRequest_of_mem_events mem⟩

end Terse

/-- **What the log then has are the attempts**, and nothing else. -/
theorem Leads.journal_eq_of_terse {g h : Gateway σ} {requests : List Request}
    (leads : g.Leads requests h) (terse : g.Terse h) :
    h.journal =
      g.journal ++ (Backend.attempts requests g.backend).flatMap Attempt.events := by
  obtain ⟨events, journal_eq, all⟩ := terse
  have filter_eq := leads.filter_drop_journal
  rw [journal_eq, List.drop_left, List.filter_eq_self.mpr all] at filter_eq
  rw [journal_eq, filter_eq]

/-! ### Requests up to the first failure -/

/-- **Requests are made up to the first that fails.** The result says whether one did. -/
inductive Stops (g : Gateway σ) (requests : List Request) :
    Except Failure Unit × Gateway σ → Prop where
  /-- All of them were granted. -/
  | through {h : Gateway σ} : g.Leads requests h → Backend.Granted requests g.backend →
    Stops g requests (.ok (), h)
  /-- One failed, and no other was attempted after it. -/
  | short {done rest : List Request} {request : Request} {failure : Failure} {h : Gateway σ} :
    requests = done ++ request :: rest → Backend.Granted done g.backend →
    (Backend.ask request (Backend.after done g.backend)).1 = some failure →
    g.Leads (done ++ [request]) h → Stops g requests (.error failure, h)

namespace Stops

variable {g h : Gateway σ} {requests more : List Request}
  {outcome : Except Failure Unit × Gateway σ}

theorem none : Stops g [] (.ok (), g) := .through .refl (Backend.granted_nil _)

theorem single {request : Request}
    (fails : failure? outcome.1 = (Backend.ask request g.backend).1)
    (leads : g.Leads [request] outcome.2) : Stops g [request] outcome := by
  obtain ⟨failure | ⟨⟩, h⟩ := outcome
  · have split : [request] = [] ++ request :: [] := rfl
    exact .short split (Backend.granted_nil _) fails.symm leads
  · exact .through leads (Backend.granted_cons.mpr ⟨fails.symm, Backend.granted_nil _⟩)

/-- Where the first requests are all granted, the others follow. -/
theorem andThen (first : Stops g requests (.ok (), h)) (second : Stops h more outcome) :
    Stops g (requests ++ more) outcome := by
  cases first with
  | through leads granted =>
    have before := leads.backend_eq
    -- the second list is attempted where the first one has left the backend
    cases second with
    | through leads' granted' =>
      rw [before] at granted'
      exact .through (leads.trans leads') (Backend.granted_append.mpr ⟨granted, granted'⟩)
    | short split granted' refused leads' =>
      rw [before] at granted' refused
      refine .short (by rw [split, List.append_assoc])
        (Backend.granted_append.mpr ⟨granted, granted'⟩) (by rwa [Backend.after_append]) ?_
      rw [List.append_assoc]
      exact leads.trans leads'

/-- After a failure, the others are not attempted. -/
theorem orElse {failure : Failure} (first : Stops g requests (.error failure, h)) :
    Stops g (requests ++ more) (.error failure, h) := by
  cases first with
  | short split granted refused leads =>
    exact .short (by rw [split, List.append_assoc, List.cons_append]) granted refused leads

theorem exists_leads (stops : Stops g requests outcome) : ∃ made, g.Leads made outcome.2 := by
  cases stops with
  | through leads _ => exact ⟨_, leads⟩
  | short _ _ _ leads => exact ⟨_, leads⟩

theorem of_granted (stops : Stops g requests outcome)
    (granted : Backend.Granted requests g.backend) :
    outcome.1 = .ok () ∧ g.Leads requests outcome.2 := by
  cases stops with
  | through leads _ => exact ⟨rfl, leads⟩
  | short split _ refused _ =>
    rw [split] at granted
    have := (Backend.granted_cons.mp (Backend.granted_append.mp granted).2).1
    rw [this] at refused
    cases refused

theorem of_refused (stops : Stops g requests outcome) {done rest : List Request}
    {request : Request} {failure : Failure} (split : requests = done ++ request :: rest)
    (granted : Backend.Granted done g.backend)
    (refused : (Backend.ask request (Backend.after done g.backend)).1 = some failure) :
    outcome.1 = .error failure ∧ g.Leads (done ++ [request]) outcome.2 := by
  cases stops with
  | through _ all =>
    rw [split] at all
    have := (Backend.granted_cons.mp (Backend.granted_append.mp all).2).1
    rw [this] at refused
    cases refused
  | short split' granted' refused' leads =>
    obtain ⟨rfl, rfl⟩ := Backend.first_refusal_unique (split.symm.trans split') granted
      (by simp [refused]) granted' (by simp [refused'])
    rw [refused] at refused'
    obtain rfl := Option.some.inj refused'
    exact ⟨rfl, leads⟩

end Stops

end Gateway

end CompilerGateway
