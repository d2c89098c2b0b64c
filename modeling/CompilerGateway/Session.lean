import CompilerGateway.Session.Action

/-!
# Sessions

A session is what somebody does with a gateway over time: performing operations, and changing
the backend. A backend that is detached is kept, in place of one that was kept before, so that
it can be attached again, with whatever state it is in.

`Session.perform` makes one step and `Session.run` several. Every state of a session that
starts with `Session.opening` is reached by steps, so a statement about all lists of steps is
one about all sessions. A fetcher comes with the step that needs it: fetchers may answer
differently each time.
-/

namespace CompilerGateway

/-- Something that is done in a session with backends of states `σ`. -/
inductive Step (σ : Type) where
  /-- A backend is attached. -/
  | attach (backend : σ)
  /-- The backend is detached. -/
  | detach
  /-- The backend that was detached last is attached again. -/
  | reattach
  /-- An operation is performed. -/
  | act (action : Action)
  /-- Operations of a handle on a file are performed. -/
  | file (path : String) (actions : List FileAction)
  /-- A package is fetched. -/
  | fetch (fetcher : Fetcher) (descriptor : Descriptor)
  /-- Packages are fetched, things happening in the given order, and installed. -/
  | load (fetcher : Fetcher) (requests : List (String × Descriptor)) (moves : List Move)

/-- Steps with another kind of backend. -/
def Step.map {σ τ : Type} (f : σ → τ) : Step σ → Step τ
  | .attach backend => .attach (f backend)
  | .detach => .detach
  | .reattach => .reattach
  | .act action => .act action
  | .file path actions => .file path actions
  | .fetch fetcher descriptor => .fetch fetcher descriptor
  | .load fetcher requests moves => .load fetcher requests moves

/-- What a step comes to. -/
inductive Result where
  /-- The backend has been attached. -/
  | attached
  /-- The backend has been detached, if there was one. -/
  | detached (wasAttached : Bool)
  /-- The backend that was kept has been attached, if there was one. -/
  | reattached (wasKept : Bool)
  /-- The operation has been performed. -/
  | performed (answer : Except Failure Answer)
  /-- The operations of the handle have been performed. -/
  | handled (answers : List (Except Failure Answer × String))
  /-- Loading has been given up. -/
  | cancelled

/-- A gateway in use. -/
structure Session (σ : Type) where
  /-- The gateway. -/
  gateway : Gateway σ
  /-- The backend that was detached last. -/
  parked : Option σ
  /-- What happened to fetches, oldest first. -/
  fetches : List FetchEvent

namespace Session

variable {σ : Type}

/-- A session that begins with the given gateway. -/
def opening (gateway : Gateway σ) : Session σ := ⟨gateway, none, []⟩

variable [Backend σ]

/-- Makes a step. -/
def perform (s : Session σ) : Step σ → Result × Session σ
  | .attach backend => (.attached, { s with gateway := s.gateway.attach backend })
  | .detach =>
    let (backend, gateway) := s.gateway.detach
    (.detached backend.isSome, { s with gateway := gateway, parked := backend })
  | .reattach =>
    match s.parked with
    | none => (.reattached false, s)
    | some backend =>
      (.reattached true, { s with gateway := s.gateway.attach backend, parked := none })
  | .act action =>
    let (answer, gateway) := action.perform s.gateway
    (.performed answer, { s with gateway := gateway })
  | .file path actions =>
    let (answers, handle) := FileAction.performAll actions (s.gateway.file path)
    (.handled answers, { s with gateway := handle.gateway })
  | .fetch fetcher descriptor =>
    let (package, gateway) := s.gateway.fetch fetcher descriptor
    (.performed (package.map .package),
      { s with gateway := gateway, fetches := s.fetches ++ [.began descriptor, .ended descriptor] })
  | .load fetcher requests moves =>
    let loading := s.gateway.load fetcher requests moves
    (match loading.result with
      | some loaded => .performed (loaded.map fun _ => .nothing)
      | none => .cancelled,
      { s with
        gateway := loading.gateway
        fetches := s.fetches ++ loading.milestones.map Milestone.fetchEvent })

/-- Makes steps one after the other. -/
def run (s : Session σ) : List (Step σ) → List Result × Session σ
  | [] => ([], s)
  | step :: rest =>
    let (result, s) := s.perform step
    let (results, s) := s.run rest
    (result :: results, s)

end Session

end CompilerGateway
