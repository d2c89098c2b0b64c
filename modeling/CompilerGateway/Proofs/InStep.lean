import CompilerGateway.Proofs.Contents
import CompilerGateway.Proofs.Invocation

/-!
# Two gateways in step

Two gateways perform operations that are the same but for contents, each with a backend of its
own. What the backends answer is not known, only that they answer alike wherever they are asked
alike (`CompilerGateway.Watched.Concurs`): the first call of the one as the first call of the other,
and so on, as far as both have come. Nothing is said of calls that are not made.

Then the two stay in step: an operation comes to the same results, and leaves the gateways alike
(`CompilerGateway.Gateway.Alike`), with the same settings, registrations and log. This is shown for
the exchange of a request (`CompilerGateway.Gateway.exchange_inStep`), and carried from there
through everything that a gateway does, up to loads
(`CompilerGateway.Gateway.load_inStep`). An operation that goes on after a result goes on alike, as
the results were the same; and what the backends did until then they did concurring, as they
concur in the end (`CompilerGateway.Gateway.Concurs.of_continues`).
-/

namespace CompilerGateway

/-! ### Watched backends -/

/-- **A backend that is watched**: it is known what it was asked, and in which state it was then. -/
structure Watched (σ : Type) where
  /-- The backend. -/
  backend : σ
  /-- The states in which it was asked something, and what that was, oldest first. -/
  past : List (σ × Request)

namespace Watched

section Watching

variable {σ : Type}

/-- A backend that has not been watched before. -/
def fresh (backend : σ) : Watched σ := ⟨backend, []⟩

/-- The states that the backend has been in, and is in now. -/
def states (w : Watched σ) : List σ := w.past.map Prod.fst ++ [w.backend]

instance [Backend σ] : Backend (Watched σ) where
  supports w op := Backend.supports w.backend op
  respond request w :=
    ((Backend.respond request w.backend).1,
      ⟨(Backend.respond request w.backend).2, w.past ++ [(w.backend, request)]⟩)

/-- A backend has been watched further. -/
def Continues (w later : Watched σ) : Prop :=
  (∃ more, later.past = w.past ++ more) ∧ ∃ more, later.states = w.states ++ more

theorem Continues.refl (w : Watched σ) : w.Continues w := ⟨⟨[], by simp⟩, ⟨[], by simp⟩⟩

theorem Continues.trans {w middle later : Watched σ} (first : w.Continues middle)
    (second : middle.Continues later) : w.Continues later := by
  obtain ⟨⟨calls, past_eq⟩, ⟨turns, states_eq⟩⟩ := first
  obtain ⟨⟨calls', past_eq'⟩, ⟨turns', states_eq'⟩⟩ := second
  exact ⟨⟨calls ++ calls', by rw [past_eq', past_eq, List.append_assoc]⟩,
    ⟨turns ++ turns', by rw [states_eq', states_eq, List.append_assoc]⟩⟩

theorem continues_called (w : Watched σ) (request : Request) (next : σ) :
    w.Continues ⟨next, w.past ++ [(w.backend, request)]⟩ :=
  ⟨⟨_, rfl⟩, ⟨[next], by simp [states]⟩⟩

variable [Backend σ]

/-- A request for an operation that the backend has is noted. -/
theorem ask_of_supported {w : Watched σ} {request : Request}
    (supported : Backend.supports w.backend request.operation = true) :
    (Backend.ask request (some w)).2 =
      some ⟨(Backend.respond request w.backend).2, w.past ++ [(w.backend, request)]⟩ := by
  have supported' : Backend.supports w request.operation = true := supported
  simp only [Backend.ask, supported', if_true, Backend.respond]
  cases (Backend.respond request w.backend).1 <;> rfl

theorem ask_of_unsupported {w : Watched σ} {request : Request}
    (unsupported : Backend.supports w.backend request.operation = false) :
    (Backend.ask request (some w)).2 = some w := by
  have unsupported' : Backend.supports w request.operation = false := unsupported
  simp only [Backend.ask, unsupported', if_false, Bool.false_eq_true]

theorem exists_ask (w : Watched σ) (request : Request) :
    ∃ later, (Backend.ask request (some w)).2 = some later ∧ w.Continues later := by
  cases supported : Backend.supports w.backend request.operation with
  | true => exact ⟨_, ask_of_supported supported, w.continues_called request _⟩
  | false => exact ⟨w, ask_of_unsupported supported, .refl w⟩

theorem exists_after (requests : List Request) (w : Watched σ) :
    ∃ later, Backend.after requests (some w) = some later ∧ w.Continues later := by
  induction requests generalizing w with
  | nil => exact ⟨w, rfl, .refl w⟩
  | cons request rest ih =>
    obtain ⟨middle, asked, first⟩ := w.exists_ask request
    obtain ⟨later, reached, second⟩ := ih middle
    exact ⟨later, by rw [Backend.after_cons, asked, reached], first.trans second⟩

end Watching

/-! ### Backends that answer alike -/

variable {σ τ : Type}

/-- **Backends that were asked alike.** -/
def Alike (w : Watched σ) (w' : Watched τ) : Prop :=
  List.Forall₂ (fun call call' => call.2.Alike call'.2) w.past w'.past

variable [Backend σ] [Backend τ]

/-- **Backends that answer corresponding calls alike**, as far as both have come. -/
structure Concurs (w : Watched σ) (w' : Watched τ) : Prop where
  /-- They have the same operations at any time. -/
  offers : ∀ (n : Nat) (state : σ) (state' : τ), w.states[n]? = some state →
    w'.states[n]? = some state' → ∀ op, Backend.supports state op = Backend.supports state' op
  /-- Where a call is the same of both but for contents, so is the value or the fault that it is
  answered with. -/
  answers : ∀ (n : Nat) (call : σ × Request) (call' : τ × Request), w.past[n]? = some call →
    w'.past[n]? = some call' → call.2.Alike call'.2 →
    HEq (Backend.respond call.2 call.1).1 (Backend.respond call'.2 call'.1).1

namespace Concurs

variable {w later : Watched σ} {w' later' : Watched τ}

/-- Backends that have come equally far concur if they do so call by call. -/
theorem of_forall₂ (offers : List.Forall₂ (fun state state' =>
      ∀ op, Backend.supports state op = Backend.supports state' op) w.states w'.states)
    (answers : List.Forall₂ (fun call call' => call.2.Alike call'.2 →
      HEq (Backend.respond call.2 call.1).1 (Backend.respond call'.2 call'.1).1) w.past w'.past) :
    w.Concurs w' where
  offers n _ _ at_n at_n' :=
    (List.forall₂_iff_zip.mp offers).2
      (List.mem_of_getElem? (i := n) (List.getElem?_zip_eq_some.mpr ⟨at_n, at_n'⟩))
  answers n _ _ at_n at_n' :=
    (List.forall₂_iff_zip.mp answers).2
      (List.mem_of_getElem? (i := n) (List.getElem?_zip_eq_some.mpr ⟨at_n, at_n'⟩))

/-- Backends that concur have concurred before. -/
theorem of_continues (concurs : later.Concurs later') (continues : w.Continues later)
    (continues' : w'.Continues later') : w.Concurs w' := by
  obtain ⟨⟨calls, past_eq⟩, ⟨turns, states_eq⟩⟩ := continues
  obtain ⟨⟨calls', past_eq'⟩, ⟨turns', states_eq'⟩⟩ := continues'
  refine ⟨fun n state state' at_n at_n' => concurs.offers n state state' ?_ ?_,
    fun n call call' at_n at_n' => concurs.answers n call call' ?_ ?_⟩
  · rw [states_eq, List.getElem?_append_left (List.getElem?_eq_some_iff.mp at_n).1, at_n]
  · rw [states_eq', List.getElem?_append_left (List.getElem?_eq_some_iff.mp at_n').1, at_n']
  · rw [past_eq, List.getElem?_append_left (List.getElem?_eq_some_iff.mp at_n).1, at_n]
  · rw [past_eq', List.getElem?_append_left (List.getElem?_eq_some_iff.mp at_n').1, at_n']

/-- Backends that were asked alike have the same operations now. -/
theorem supports_eq (concurs : w.Concurs w') (alike : w.Alike w') (op : Operation) :
    Backend.supports w.backend op = Backend.supports w'.backend op := by
  have lengths := alike.length_eq
  refine concurs.offers w.past.length _ _ ?_ ?_ op
  · rw [states, List.getElem?_append_right (by simp)]
    simp
  · rw [states, List.getElem?_append_right (by simp [lengths])]
    simp [lengths]

end Concurs

/-- Alike requests that are answered alike have the same reply. -/
theorem heq_reply_of_supported {request request' : Request} (requests : request.Alike request')
    {backend : σ} {backend' : τ}
    (supported : Backend.supports backend request.operation = true)
    (supported' : Backend.supports backend' request'.operation = true)
    (answered : HEq (Backend.respond request backend).1 (Backend.respond request' backend').1) :
    HEq (Backend.reply request (some backend)) (Backend.reply request' (some backend')) := by
  rw [Backend.reply, Backend.reply]
  simp only [supported, supported', if_true]
  generalize (Backend.respond request backend).1 = answer at answered ⊢
  generalize (Backend.respond request' backend').1 = answer' at answered ⊢
  -- for each kind of request, both answers are of one type
  cases requests <;>
    · obtain rfl := eq_of_heq answered
      cases answer <;> rfl

theorem heq_reply_of_unsupported {request request' : Request} (requests : request.Alike request')
    {backend : σ} {backend' : τ}
    (unsupported : Backend.supports backend request.operation = false)
    (unsupported' : Backend.supports backend' request'.operation = false) :
    HEq (Backend.reply request (some backend)) (Backend.reply request' (some backend')) := by
  rw [Backend.reply, Backend.reply]
  simp only [unsupported, unsupported', if_false, Bool.false_eq_true]
  cases requests <;> rfl

/-- **One request**, made of both: the reply is the same, and they have been asked alike. -/
theorem ask_alike {request request' : Request} (requests : request.Alike request')
    {backend : Option (Watched σ)} {backend' : Option (Watched τ)}
    (alike : Option.Rel Watched.Alike backend backend')
    (concurs : ∀ w w', (Backend.ask request backend).2 = some w →
      (Backend.ask request' backend').2 = some w' → w.Concurs w') :
    HEq (Backend.reply request backend) (Backend.reply request' backend') ∧
      Option.Rel Watched.Alike (Backend.ask request backend).2
        (Backend.ask request' backend').2 := by
  cases alike with
  | none => exact ⟨by cases requests <;> rfl, .none⟩
  | @some w w' alike =>
    obtain ⟨later, asked, continues⟩ := w.exists_ask request
    obtain ⟨later', asked', continues'⟩ := w'.exists_ask request'
    have concur := concurs later later' asked asked'
    have offers := (concur.of_continues continues continues').supports_eq alike
    cases supported : Backend.supports w.backend request.operation with
    | false =>
      have supported' : Backend.supports w'.backend request'.operation = false := by
        rw [requests.operation_eq, ← offers, supported]
      rw [ask_of_unsupported supported, ask_of_unsupported supported']
      exact ⟨heq_reply_of_unsupported requests supported supported', .some alike⟩
    | true =>
      have supported' : Backend.supports w'.backend request'.operation = true := by
        rw [requests.operation_eq, ← offers, supported]
      rw [ask_of_supported supported] at asked ⊢
      rw [ask_of_supported supported'] at asked' ⊢
      obtain rfl := Option.some.inj asked
      obtain rfl := Option.some.inj asked'
      -- the call is the last one that either backend has noted
      have answered : HEq (Backend.respond request w).1 (Backend.respond request' w').1 :=
        concur.answers w.past.length (w.backend, request) (w'.backend, request') (by simp)
          (by simp [alike.length_eq]) requests
      exact ⟨heq_reply_of_supported requests supported supported' answered,
        .some (List.rel_append alike (.cons requests .nil))⟩

end Watched

/-! ### Gateways in step -/

/-- A request fails just as there is no reply to it. -/
theorem Backend.failure?_reply {σ : Type} [Backend σ] (request : Request) (backend : Option σ) :
    failure? (Backend.reply request backend) = (Backend.ask request backend).1 := by
  cases backend with
  | none => rfl
  | some backend =>
    by_cases supported : Backend.supports backend request.operation = true
    · simp only [Backend.reply, Backend.ask, supported, if_true]
      rcases Backend.respond request backend with ⟨fault | reply, next⟩ <;> rfl
    · simp only [Backend.reply, Backend.ask, supported, if_false, Bool.false_eq_true]
      rfl

theorem Request.Alike.failure?_eq {request request' : Request} (requests : request.Alike request')
    {reply : Except Failure request.Reply} {reply' : Except Failure request'.Reply}
    (same : HEq reply reply') : failure? reply = failure? reply' := by
  cases requests <;>
    · obtain rfl := eq_of_heq same
      cases reply <;> rfl

theorem Attempt.traffic_eq_of_alike {request request' : Request}
    (requests : request.Alike request') (failure : Option Failure) :
    traffic ⟨request, failure⟩ = traffic ⟨request', failure⟩ := by
  simp only [traffic, requests.operation_eq]

namespace Gateway

variable {σ τ : Type}

/-- **Gateways that are alike**: nothing can be told of them that is not the same of both. -/
structure Alike (g : Gateway (Watched σ)) (g' : Gateway (Watched τ)) : Prop where
  version_eq : g.version = g'.version
  settings_eq : g.settings = g'.settings
  packages_eq : g.packages = g'.packages
  journal_eq : g.journal = g'.journal
  /-- The backends have been asked alike, if there are any. -/
  backends : Option.Rel Watched.Alike g.backend g'.backend

namespace Alike

variable {g : Gateway (Watched σ)} {g' : Gateway (Watched τ)}

theorem logAll (alike : g.Alike g') (events : List Event) :
    (g.logAll events).Alike (g'.logAll events) :=
  { alike with journal_eq := congrArg (· ++ events) alike.journal_eq }

theorem log (alike : g.Alike g') (event : Event) : (g.log event).Alike (g'.log event) :=
  alike.logAll [event]

theorem attach (alike : g.Alike g') {w : Watched σ} {w' : Watched τ} (backends : w.Alike w') :
    (g.attach w).Alike (g'.attach w') :=
  { alike.log .attached with packages_eq := rfl, backends := .some backends }

theorem detach (alike : g.Alike g') : g.detach.2.Alike g'.detach.2 :=
  { alike with packages_eq := rfl, backends := .none }

theorem isAttached_eq (alike : g.Alike g') : g.isAttached = g'.isAttached := by
  have backends := alike.backends
  rw [isAttached, isAttached]
  generalize g.backend = backend at backends
  generalize g'.backend = backend' at backends
  cases backends <;> rfl

theorem account (alike : g.Alike g') (f : Table String → Table String) :
    Alike { g with packages := f g.packages } { g' with packages := f g'.packages } :=
  { alike with packages_eq := congrArg f alike.packages_eq }

end Alike

variable [Backend σ] [Backend τ]

/-- The backends of two gateways answer corresponding calls alike. -/
def Concurs (g : Gateway (Watched σ)) (g' : Gateway (Watched τ)) : Prop :=
  ∀ w w', g.backend = some w → g'.backend = some w' → w.Concurs w'

/-- The backend has been watched further, if there was one. -/
def Continues {ρ : Type} (g h : Gateway (Watched ρ)) : Prop :=
  ∀ w, g.backend = some w → ∃ later, h.backend = some later ∧ w.Continues later

theorem Continues.of_eq {ρ : Type} {g h : Gateway (Watched ρ)} (same : h.backend = g.backend) :
    g.Continues h :=
  fun w present => ⟨w, same.trans present, .refl w⟩

omit [Backend τ] in
theorem Leads.continues {g h : Gateway (Watched σ)} {requests : List Request}
    (leads : g.Leads requests h) : g.Continues h := by
  intro w present
  obtain ⟨later, reached, continues⟩ := w.exists_after requests
  exact ⟨later, by rw [leads.backend_eq, present, reached], continues⟩

/-- **Where they concur in the end, they have concurred before.** -/
theorem Concurs.of_continues {g h : Gateway (Watched σ)} {g' h' : Gateway (Watched τ)}
    (concurs : h.Concurs h') (continues : g.Continues h) (continues' : g'.Continues h') :
    g.Concurs g' := by
  intro w w' present present'
  obtain ⟨later, reached, further⟩ := continues w present
  obtain ⟨later', reached', further'⟩ := continues' w' present'
  exact (concurs later later' reached reached').of_continues further further'

/-- **Operations that are in step**: if the backends have concurred up to the end, the results
correspond and the gateways are alike. -/
def InStep {α β : Type} (related : α → β → Prop) (performed : α × Gateway (Watched σ))
    (performed' : β × Gateway (Watched τ)) : Prop :=
  performed.2.Concurs performed'.2 →
    related performed.1 performed'.1 ∧ performed.2.Alike performed'.2

/-- Goes on after a result, if there is one. -/
def thenDo {ρ α β : Type} (next : α → Gateway ρ → Except Failure β × Gateway ρ) :
    Except Failure α → Gateway ρ → Except Failure β × Gateway ρ
  | .ok value, g => next value g
  | .error failure, g => (.error failure, g)

theorem continues_thenDo {ρ α β : Type}
    {next : α → Gateway (Watched ρ) → Except Failure β × Gateway (Watched ρ)}
    (continues : ∀ value g, Continues g (next value g).2) (result : Except Failure α)
    (g : Gateway (Watched ρ)) : g.Continues (thenDo next result g).2 := by
  cases result with
  | ok value => exact continues value g
  | error failure => exact .of_eq rfl

namespace InStep

theorem refl {γ : Type} (value : γ) {g : Gateway (Watched σ)} {g' : Gateway (Watched τ)}
    (alike : g.Alike g') : InStep Eq (value, g) (value, g') :=
  fun _ => ⟨rfl, alike⟩

/-- **What goes on after a result goes on in step**, as the result was the same. -/
theorem andThen {α β : Type} {performed : α × Gateway (Watched σ)}
    {performed' : α × Gateway (Watched τ)} {f : α → Gateway (Watched σ) → β × Gateway (Watched σ)}
    {k : α → Gateway (Watched τ) → β × Gateway (Watched τ)}
    (inStep : InStep Eq performed performed') (continues : ∀ value g, Continues g (f value g).2)
    (continues' : ∀ value g, Continues g (k value g).2)
    (onward : ∀ value {g : Gateway (Watched σ)} {g' : Gateway (Watched τ)}, g.Alike g' →
      InStep Eq (f value g) (k value g')) :
    InStep Eq (f performed.1 performed.2) (k performed'.1 performed'.2) := by
  intro concurs
  obtain ⟨same, alike⟩ := inStep (concurs.of_continues (continues _ _) (continues' _ _))
  rw [← same] at concurs ⊢
  exact onward _ alike concurs

variable {α β : Type} {performed : Except Failure α × Gateway (Watched σ)}
  {performed' : Except Failure α × Gateway (Watched τ)}

theorem thenDo {next : α → Gateway (Watched σ) → Except Failure β × Gateway (Watched σ)}
    {next' : α → Gateway (Watched τ) → Except Failure β × Gateway (Watched τ)}
    (inStep : InStep Eq performed performed') (continues : ∀ value g, Continues g (next value g).2)
    (continues' : ∀ value g, Continues g (next' value g).2)
    (onward : ∀ value {g : Gateway (Watched σ)} {g' : Gateway (Watched τ)}, g.Alike g' →
      InStep Eq (next value g) (next' value g')) :
    InStep Eq (thenDo next performed.1 performed.2) (thenDo next' performed'.1 performed'.2) := by
  refine InStep.andThen inStep (continues_thenDo continues) (continues_thenDo continues') ?_
  rintro (failure | value) g g' alike
  · exact .refl _ alike
  · exact onward value alike

theorem answering (form : α → Answer) (inStep : InStep Eq performed performed') :
    InStep Eq (answering form performed) (answering form performed') := by
  intro concurs
  obtain ⟨same, alike⟩ := inStep concurs
  exact ⟨congrArg (Except.map form) same, alike⟩

end InStep

/-! ### One exchange -/

variable {g : Gateway (Watched σ)} {g' : Gateway (Watched τ)}

/-- **An exchange of alike requests is in step.** -/
theorem exchange_inStep (alike : g.Alike g') {request request' : Request}
    (requests : request.Alike request') :
    InStep (fun reply reply' => HEq reply reply') (g.exchange request) (g'.exchange request') := by
  intro concurs
  rw [exchange_snd, exchange_snd] at concurs
  obtain ⟨replies, backends⟩ := Watched.ask_alike requests alike.backends concurs
  have failures := requests.failure?_eq replies
  rw [Backend.failure?_reply, Backend.failure?_reply] at failures
  rw [exchange_fst, exchange_fst, exchange_snd, exchange_snd, failures]
  refine ⟨replies, { alike with journal_eq := ?_, backends := backends }⟩
  rw [alike.journal_eq, Attempt.traffic_eq_of_alike requests]

/-- The same request is answered by the same reply. -/
theorem exchange_same (alike : g.Alike g') (request : Request) :
    InStep Eq (g.exchange request) (g'.exchange request) := by
  intro concurs
  obtain ⟨same, alike⟩ := exchange_inStep alike (.same request) concurs
  exact ⟨eq_of_heq same, alike⟩

/-- Whether there is code can be told from the outcome. -/
theorem InStep.codeOf {α : Type} {exchanged : Except Failure (Outcome α) × Gateway (Watched σ)}
    {exchanged' : Except Failure (Outcome α) × Gateway (Watched τ)} (operation : Operation)
    (inStep : InStep Eq exchanged exchanged') :
    InStep Eq (codeOf operation exchanged) (codeOf operation exchanged') := by
  have keeps : ∀ {ρ : Type} (result : Except Failure (Outcome α)) (g : Gateway (Watched ρ)),
      g.Continues (Gateway.codeOf operation (result, g)).2 := by
    rintro ρ (failure | ⟨code, diagnostics⟩ | diagnostics) g <;> exact .of_eq rfl
  refine InStep.andThen (f := fun result g => Gateway.codeOf operation (result, g))
    (k := fun result g => Gateway.codeOf operation (result, g)) inStep keeps keeps ?_
  rintro (failure | ⟨code, diagnostics⟩ | diagnostics) g g' alike
  · exact .refl _ alike
  · exact .refl _ alike
  · exact .refl _ (alike.log _)

end Gateway

end CompilerGateway
