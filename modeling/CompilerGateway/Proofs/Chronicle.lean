import CompilerGateway.Proofs.Calls
import CompilerGateway.Proofs.Registrations
import Mathlib.Data.List.Induction

/-!
# The log as a chronicle of calls

Whenever a backend is called, the log is let know of it before, and if the backend answers by a
fault, of that directly after. So the log of a session can be read as a list of calls with other
things in between, and `CompilerGateway.Chronicle` says that it reads as a given list.

Nothing but a call leaves a trace of one: requests that are refused before there is a call do not
(`CompilerGateway.Attempt.chronicle`), and what operations let the log know of besides is about
other things. So the log is a chronicle of what the backends of a session received
(`CompilerGateway.Session.chronicle_run`), also where one backend took the place of another.
-/

namespace CompilerGateway

/-! ### Chronicles -/

/-- Whether the event is about a call: that it is made, or that it was answered by a fault. -/
def Event.isOfCall : Event → Bool
  | .invoking _ | .backendFailed _ _ | .backendRaised _ => true
  | _ => false

/-- A call is a request. -/
theorem Event.isOfCall_eq_false {event : Event} (apart : event.isOfRequest = false) :
    event.isOfCall = false := by
  cases event with
  | invoking operation => cases apart
  | backendFailed operation error => cases apart
  | backendRaised operation => cases apart
  | _ => rfl

/-- **The events of a call**: that it is made, and then the fault, if there is one. -/
def Exchange.events (x : Exchange) : List Event :=
  .invoking x.request.operation :: x.fault.toList.map (Gateway.faultEvent x.request.operation)

theorem Exchange.isOfCall_of_mem_events {x : Exchange} {event : Event} (mem : event ∈ x.events) :
    event.isOfCall = true := by
  rcases List.mem_cons.mp mem with rfl | mem
  · rfl
  · obtain ⟨fault, -, rfl⟩ := List.mem_map.mp mem
    cases fault <;> rfl

/-- **A log that is a chronicle of calls**: their events stand in it in order, those of each call
together, and nothing else in it is about a call. -/
inductive Chronicle : List Exchange → List Event → Prop where
  /-- Nothing has happened. -/
  | nil : Chronicle [] []
  /-- Something was logged that is not about a call. -/
  | aside {calls : List Exchange} {events : List Event} {event : Event} :
    Chronicle calls events → event.isOfCall = false → Chronicle calls (events ++ [event])
  /-- There was a call. -/
  | call {calls : List Exchange} {events : List Event} (x : Exchange) :
    Chronicle calls events → Chronicle (calls ++ [x]) (events ++ x.events)

namespace Chronicle

variable {calls more : List Exchange} {events others : List Event}

theorem append (first : Chronicle calls events) (second : Chronicle more others) :
    Chronicle (calls ++ more) (events ++ others) := by
  induction second with
  | nil => simpa using first
  | aside _ apart ih =>
    rw [← List.append_assoc]
    exact ih.aside apart
  | call x _ ih =>
    rw [← List.append_assoc, ← List.append_assoc]
    exact ih.call x

theorem single (x : Exchange) : Chronicle [x] x.events := Chronicle.call x .nil

theorem asides (apart : ∀ event ∈ events, event.isOfCall = false) : Chronicle [] events := by
  induction events using List.reverseRecOn with
  | nil => exact .nil
  | append_singleton events event ih =>
    exact (ih fun other mem => apart other (List.mem_append_left _ mem)).aside
      (apart event (List.mem_append_right _ List.mem_cons_self))

/-- **Of calls, the log has their events** and no others. -/
theorem filter_isOfCall (chronicle : Chronicle calls events) :
    events.filter Event.isOfCall = calls.flatMap Exchange.events := by
  induction chronicle with
  | nil => rfl
  | aside _ apart ih => simp [ih, apart]
  | call x _ ih =>
    have all : x.events.filter Event.isOfCall = x.events :=
      List.filter_eq_self.mpr fun event mem => x.isOfCall_of_mem_events mem
    simp [ih, all]

/-- **The events of one call stand together**, after those of the calls before it and before
those of the calls after it. -/
theorem exists_split (chronicle : Chronicle calls events) {before after : List Exchange}
    {x : Exchange} (split : calls = before ++ x :: after) :
    ∃ earlier later, events = earlier ++ x.events ++ later ∧
      Chronicle before earlier ∧ Chronicle after later := by
  induction chronicle generalizing after with
  | nil => simp at split
  | @aside calls events event _ apart ih =>
    obtain ⟨earlier, later, rfl, front, back⟩ := ih split
    exact ⟨earlier, later ++ [event], by simp, front, back.aside apart⟩
  | @call calls events y chronicle ih =>
    -- the call is the last one, or one of those before
    rcases List.eq_nil_or_concat after with rfl | ⟨between, last, rfl⟩
    · obtain ⟨rfl, same⟩ := List.append_inj' split rfl
      obtain ⟨rfl, -⟩ := List.cons.inj same
      exact ⟨events, [], by simp, chronicle, .nil⟩
    · rw [List.concat_eq_append, ← List.cons_append, ← List.append_assoc] at split
      obtain ⟨rfl, same⟩ := List.append_inj' split rfl
      obtain ⟨rfl, -⟩ := List.cons.inj same
      obtain ⟨earlier, later, rfl, front, back⟩ := ih rfl
      refine ⟨earlier, later ++ y.events, by simp, front, ?_⟩
      rw [List.concat_eq_append]
      exact back.call y

end Chronicle

/-! ### What a gateway does -/

/-- The traffic of an attempt is the call that it came to, if it came to one. -/
theorem Attempt.traffic_eq (a : Attempt) : a.traffic = a.exchanges.flatMap Exchange.events := by
  obtain ⟨request, failure⟩ := a
  rcases failure with - | failure
  · rfl
  · cases failure <;> rfl

/-- **An attempt leaves the trace of the call that it came to**, and none if there was no call. -/
theorem Attempt.chronicle (a : Attempt) : Chronicle a.exchanges a.events := by
  have announced : Chronicle [] a.request.announcement := by
    refine .asides fun event mem => ?_
    cases request : a.request <;> simp [request, Request.announcement] at mem <;> subst mem <;> rfl
  have traffic : Chronicle a.exchanges a.traffic := by
    rw [a.traffic_eq]
    obtain ⟨request, failure⟩ := a
    rcases failure with - | failure
    · exact .single _
    · cases failure with
      | reported error => exact .single _
      | raised operation payload => exact .single _
      | _ => exact .nil
  exact announced.append traffic

variable {σ : Type} [Backend σ]

namespace Gateway

/-- **What a gateway does is added to the chronicle.** -/
theorem Leads.exists_chronicle {g h : Gateway σ} {requests : List Request}
    (leads : g.Leads requests h) :
    ∃ events, h.journal = g.journal ++ events ∧
      Chronicle ((Backend.attempts requests g.backend).flatMap Attempt.exchanges) events := by
  induction leads with
  | refl => exact ⟨[], by simp, .nil⟩
  | @log _ _ event _ apart ih =>
    obtain ⟨events, journal_eq, chronicle⟩ := ih
    exact ⟨events ++ [event], by simp [Gateway.log, journal_eq],
      chronicle.aside (Event.isOfCall_eq_false apart)⟩
  | @follow requests next request before ih =>
    obtain ⟨events, journal_eq, chronicle⟩ := ih
    refine ⟨_, by rw [Gateway.follow, journal_eq, List.append_assoc], ?_⟩
    rw [Backend.attempts_append, List.flatMap_append, ← before.backend_eq, Backend.attempts_cons,
      Backend.attempts_nil, List.flatMap_singleton]
    exact chronicle.append (Attempt.chronicle _)

end Gateway

/-! ### Whole sessions -/

namespace Session

/-- **What the backends of a session receive in a step**: what the one that is attached notes
during it. Attaching and detaching are no calls. -/
def receivedIn (s : Session (Recorded σ)) : Step (Recorded σ) → List Exchange
  | .attach _ | .detach | .reattach => []
  | step => (s.perform step).2.gateway.exchanges.drop s.gateway.exchanges.length

/-- **What the backends of a session receive**, one step after the other. -/
def received (s : Session (Recorded σ)) : List (Step (Recorded σ)) → List Exchange
  | [] => []
  | step :: rest => s.receivedIn step ++ (s.perform step).2.received rest

/-- A step either changes the backend, and then nobody is called, or it makes requests. -/
theorem exists_leads_of_receivedIn (s : Session (Recorded σ)) (step : Step (Recorded σ)) :
    (s.receivedIn step = [] ∧ ∃ events, (∀ event ∈ events, event.isOfCall = false) ∧
      (s.perform step).2.gateway.journal = s.gateway.journal ++ events) ∨
    ∃ requests, s.gateway.Leads requests (s.perform step).2.gateway ∧
      s.receivedIn step =
        (s.perform step).2.gateway.exchanges.drop s.gateway.exchanges.length := by
  cases step with
  | attach backend => exact .inl ⟨rfl, [.attached], by simp [Event.isOfCall], rfl⟩
  | detach => exact .inl ⟨rfl, [], by simp, by simp [perform, Gateway.detach]⟩
  | reattach =>
    refine .inl ⟨rfl, ?_⟩
    cases parked : s.parked with
    | none => exact ⟨[], by simp, by simp [perform, parked]⟩
    | some backend =>
      exact ⟨[.attached], by simp [Event.isOfCall],
        by simp [perform, parked, Gateway.attach, Gateway.log]⟩
  | act action =>
    obtain ⟨requests, leads⟩ := action.exists_leads s.gateway
    exact .inr ⟨requests, leads, rfl⟩
  | file path actions =>
    obtain ⟨requests, leads⟩ := FileAction.exists_leads_performAll actions (s.gateway.file path)
    exact .inr ⟨requests, leads, rfl⟩
  | fetch fetcher descriptor =>
    obtain ⟨requests, leads⟩ := exists_leads_fetch s.gateway fetcher descriptor
    exact .inr ⟨requests, leads, rfl⟩
  | load fetcher requests moves =>
    obtain ⟨made, leads⟩ := s.gateway.exists_leads_load fetcher requests moves
    exact .inr ⟨made, leads, rfl⟩

theorem chronicle_perform (s : Session (Recorded σ)) (step : Step (Recorded σ)) :
    ∃ events, (s.perform step).2.gateway.journal = s.gateway.journal ++ events ∧
      Chronicle (s.receivedIn step) events := by
  rcases s.exists_leads_of_receivedIn step with ⟨received_eq, events, apart, journal_eq⟩ |
    ⟨requests, leads, received_eq⟩
  · rw [received_eq]
    exact ⟨events, journal_eq, .asides apart⟩
  · rw [received_eq, leads.exchanges_eq, List.drop_left]
    exact leads.exists_chronicle

/-- **The log of a session is a chronicle of what its backends receive.** -/
theorem chronicle_run (s : Session (Recorded σ)) (steps : List (Step (Recorded σ))) :
    ∃ events, (s.run steps).2.gateway.journal = s.gateway.journal ++ events ∧
      Chronicle (s.received steps) events := by
  induction steps generalizing s with
  | nil => exact ⟨[], by simp [run], .nil⟩
  | cons step rest ih =>
    obtain ⟨events, journal_eq, chronicle⟩ := s.chronicle_perform step
    obtain ⟨others, journal_eq', chronicle'⟩ := ih (s.perform step).2
    refine ⟨events ++ others, ?_, chronicle.append chronicle'⟩
    rw [run]
    dsimp only
    rw [journal_eq', journal_eq, List.append_assoc]

end Session

end CompilerGateway
