import CompilerGateway.Session

/-!
# Requests that are attempted

What becomes of a request does not depend on the gateway that makes it, only on the backend:
there may be none, it may lack the operation, it may answer by a fault. This file says what
that comes to for one request and for several.

* `CompilerGateway.Attempt` – a request and the failure that it came to, with the events that
  the log then has of it (`CompilerGateway.Attempt.events`) and what it does to the
  registrations (`CompilerGateway.Attempt.effect`).
* `CompilerGateway.Backend.ask` – one request: a failure or none, and the backend afterwards.
* `CompilerGateway.Backend.after` and `CompilerGateway.Backend.attempts` – several requests,
  each made whatever became of those before: the backend afterwards, and the attempts.
-/

namespace CompilerGateway

/-! ### Attempts and what they leave behind -/

/-- The failure of a result, if it is one. -/
def failure? {α : Type} : Except Failure α → Option Failure
  | .ok _ => none
  | .error failure => some failure

/-- The registrations after the request has been granted. -/
def Request.effect : Request → Table String → Table String
  | .addPackage name directory, packages => packages.insert name directory
  | .clearPackage, _ => .empty
  | _, packages => packages

/-- The event that lets the log know that the request is about to be attempted, if one does. -/
def Request.announcement : Request → List Event
  | .saveFile path _ => [.writing path]
  | .removeFile path => [.deleting path]
  | .setActorAliases aliases => [.aliasing aliases]
  | .addPackage name directory => [.registering name directory]
  | .clearPackage => [.clearing]
  | _ => []

/-- A request that was attempted, and the failure that it came to, if it did. The request may
not have reached a backend. -/
structure Attempt where
  /-- The request. -/
  request : Request
  /-- The failure. -/
  failure : Option Failure

namespace Attempt

/-- Whether the request was granted. -/
def succeeded (a : Attempt) : Bool := a.failure.isNone

/-- The events of a request that reaches a backend, and of the fault that it is answered by. -/
def traffic (a : Attempt) : List Event :=
  match a.failure with
  | none => [.invoking a.request.operation]
  | some (.reported error) =>
    [.invoking a.request.operation, .backendFailed a.request.operation error]
  | some (.raised _ _) => [.invoking a.request.operation, .backendRaised a.request.operation]
  | _ => []

/-- All events of the attempt. -/
def events (a : Attempt) : List Event := a.request.announcement ++ a.traffic

/-- The registrations after the attempt. -/
def effect (a : Attempt) (packages : Table String) : Table String :=
  if a.succeeded then a.request.effect packages else packages

/-- The registrations after several attempts. -/
def replay (made : List Attempt) (packages : Table String) : Table String :=
  made.foldl (fun packages a => a.effect packages) packages

@[simp] theorem replay_nil (packages : Table String) : replay [] packages = packages := rfl

@[simp] theorem replay_cons (a : Attempt) (rest : List Attempt) (packages : Table String) :
    replay (a :: rest) packages = replay rest (a.effect packages) := rfl

@[simp] theorem replay_append (made more : List Attempt) (packages : Table String) :
    replay (made ++ more) packages = replay more (replay made packages) :=
  List.foldl_append

theorem replay_eq_self {made : List Attempt}
    (idle : ∀ a ∈ made, ∀ packages, a.effect packages = packages) (packages : Table String) :
    replay made packages = packages := by
  induction made generalizing packages with
  | nil => rfl
  | cons a rest ih =>
    rw [replay_cons, idle a List.mem_cons_self,
      ih fun other mem => idle other (List.mem_cons_of_mem _ mem)]

theorem isOfRequest_of_mem_events {a : Attempt} {event : Event} (h : event ∈ a.events) :
    event.isOfRequest = true := by
  obtain ⟨request, failure⟩ := a
  rcases List.mem_append.mp h with h | h
  · -- there is one announcement at most, and it is about the request
    cases request <;> simp [Request.announcement] at h <;> rw [h] <;> rfl
  · simp only [traffic] at h
    split at h <;> simp at h
    · rw [h]
      rfl
    · rcases h with rfl | rfl <;> rfl
    · rcases h with rfl | rfl <;> rfl

end Attempt

/-! ### Asking a backend -/

namespace Backend

variable {σ : Type} [Backend σ]

/-- Makes a request of a backend, if there is one and it has the operation. -/
def ask (request : Request) : Option σ → Option Failure × Option σ
  | none => (some .noBackend, none)
  | some backend =>
    if supports backend request.operation then
      match respond request backend with
      | (.ok _, backend) => (none, some backend)
      | (.error fault, backend) => (some (.ofFault request.operation fault), some backend)
    else (some (.noSuchOperation request.operation.name), some backend)

/-- The backend after requests, whatever became of each. -/
def after (requests : List Request) (backend : Option σ) : Option σ :=
  requests.foldl (fun backend request => (ask request backend).2) backend

/-- What becomes of requests, each made whatever became of those before. -/
def attempts : List Request → Option σ → List Attempt
  | [], _ => []
  | request :: rest, backend =>
    ⟨request, (ask request backend).1⟩ :: attempts rest (ask request backend).2

@[simp] theorem after_nil (backend : Option σ) : after [] backend = backend := rfl

@[simp] theorem after_cons (request : Request) (rest : List Request) (backend : Option σ) :
    after (request :: rest) backend = after rest (ask request backend).2 := rfl

@[simp] theorem after_append (requests more : List Request) (backend : Option σ) :
    after (requests ++ more) backend = after more (after requests backend) :=
  List.foldl_append

@[simp] theorem attempts_nil (backend : Option σ) : attempts [] backend = [] := rfl

@[simp] theorem attempts_cons (request : Request) (rest : List Request) (backend : Option σ) :
    attempts (request :: rest) backend =
      ⟨request, (ask request backend).1⟩ :: attempts rest (ask request backend).2 := rfl

@[simp] theorem attempts_append (requests more : List Request) (backend : Option σ) :
    attempts (requests ++ more) backend =
      attempts requests backend ++ attempts more (after requests backend) := by
  induction requests generalizing backend with
  | nil => rfl
  | cons request rest ih => simp [ih]

@[simp] theorem map_request_attempts (requests : List Request) (backend : Option σ) :
    (attempts requests backend).map Attempt.request = requests := by
  induction requests generalizing backend with
  | nil => rfl
  | cons request rest ih => simp [ih]

/-- Where there is no backend, none comes up, and nothing is granted. -/
theorem after_none (requests : List Request) : after requests (none : Option σ) = none := by
  induction requests with
  | nil => rfl
  | cons request rest ih => exact ih

theorem succeeded_of_mem_attempts_none {requests : List Request} {a : Attempt}
    (h : a ∈ attempts requests (none : Option σ)) : a.succeeded = false := by
  induction requests with
  | nil => cases h
  | cons request rest ih =>
    rcases List.mem_cons.mp h with rfl | h
    · rfl
    · exact ih h

/-- Whether requests are all granted. -/
def Granted (requests : List Request) (backend : Option σ) : Prop :=
  ∀ a ∈ attempts requests backend, a.succeeded = true

theorem granted_nil (backend : Option σ) : Granted [] backend := by
  simp [Granted]

theorem granted_cons {request : Request} {rest : List Request} {backend : Option σ} :
    Granted (request :: rest) backend ↔
      (ask request backend).1 = none ∧ Granted rest (ask request backend).2 := by
  simp [Granted, Attempt.succeeded]

theorem granted_append {requests more : List Request} {backend : Option σ} :
    Granted (requests ++ more) backend ↔
      Granted requests backend ∧ Granted more (after requests backend) := by
  simp only [Granted, attempts_append, List.mem_append, or_imp, forall_and]

theorem attempts_of_granted {requests : List Request} {backend : Option σ}
    (granted : Granted requests backend) :
    attempts requests backend = requests.map fun request => ⟨request, none⟩ := by
  induction requests generalizing backend with
  | nil => rfl
  | cons request rest ih =>
    obtain ⟨first, others⟩ := granted_cons.mp granted
    simp [first, ih others]

/-- **There is one first failure.** -/
theorem first_refusal_unique {done done' rest rest' : List Request} {request request' : Request}
    {backend : Option σ} (split : done ++ request :: rest = done' ++ request' :: rest')
    (granted : Granted done backend) (refused : (ask request (after done backend)).1 ≠ none)
    (granted' : Granted done' backend) (refused' : (ask request' (after done' backend)).1 ≠ none) :
    done = done' ∧ request = request' := by
  -- where one list of granted requests ends before the other, a request is granted and refused
  induction done generalizing done' backend with
  | nil =>
    cases done' with
    | nil => exact ⟨rfl, (List.cons.inj split).1⟩
    | cons head tail =>
      obtain ⟨rfl, -⟩ := List.cons.inj split
      exact absurd (granted_cons.mp granted').1 refused
  | cons head tail ih =>
    cases done' with
    | nil =>
      obtain ⟨rfl, -⟩ := List.cons.inj split
      exact absurd (granted_cons.mp granted).1 refused'
    | cons head' tail' =>
      obtain ⟨rfl, tails⟩ := List.cons.inj split
      obtain ⟨rfl, rfl⟩ := ih tails (granted_cons.mp granted).2 refused
        (granted_cons.mp granted').2 refused'
      exact ⟨rfl, rfl⟩

/-- A backend stays a backend. -/
theorem ask_some (request : Request) (backend : σ) :
    ∃ failure next, ask request (some backend) = (failure, some next) := by
  rw [ask]
  split
  · rcases respond request backend with ⟨_ | _, next⟩ <;> exact ⟨_, _, rfl⟩
  · exact ⟨_, _, rfl⟩

theorem exists_after_some (requests : List Request) (backend : σ) :
    ∃ next, after requests (some backend) = some next := by
  induction requests generalizing backend with
  | nil => exact ⟨backend, rfl⟩
  | cons request rest ih =>
    obtain ⟨failure, middle, asked⟩ := ask_some request backend
    rw [after_cons, asked]
    exact ih middle

end Backend

end CompilerGateway
