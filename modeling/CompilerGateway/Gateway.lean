import CompilerGateway.Event

/-!
# The gateway to a compiler backend

A gateway holds at most one backend, the registrations of packages that it made with it, and
the events that it let its log know of, oldest first.

Everything that a backend is asked passes through `Gateway.exchange`. Without a backend, or
with one that does not have the operation, there is no request at all; otherwise there is
exactly one, with an event before it and, if it is answered by a fault, an event after it.
`Gateway.codeOf` goes on from there to the code of an outcome.

An operation takes the gateway and gives its result together with the gateway after it; it
does so too where the result is a failure.
-/

namespace CompilerGateway

/-- A gateway to a backend with states `σ`. -/
structure Gateway (σ : Type) where
  /-- The label of the compiler version. -/
  version : String
  /-- The settings. -/
  settings : Settings
  /-- The backend, if one is attached. -/
  backend : Option σ
  /-- The directories of the packages registered with the backend, by their names. -/
  packages : Table String
  /-- The events so far. -/
  journal : List Event

namespace Gateway

variable {σ : Type}

/-! ### Gateways and their backends -/

/-- A gateway without a backend. -/
def detached (version : String) (settings : Settings) : Gateway σ :=
  ⟨version, settings, none, .empty, []⟩

/-- Lets the log know of an event. -/
def log (g : Gateway σ) (event : Event) : Gateway σ := { g with journal := g.journal ++ [event] }

/-- Lets the log know of several events. -/
def logAll (g : Gateway σ) (events : List Event) : Gateway σ :=
  { g with journal := g.journal ++ events }

/-- Attaches a backend in place of the one that was there. What was registered with that one
is forgotten. -/
def attach (g : Gateway σ) (backend : σ) : Gateway σ :=
  { g.log .attached with backend := some backend, packages := .empty }

/-- Takes the backend away. What was registered with it is forgotten. -/
def detach (g : Gateway σ) : Option σ × Gateway σ :=
  (g.backend, { g with backend := none, packages := .empty })

/-- Whether a backend is attached. -/
def isAttached (g : Gateway σ) : Bool := g.backend.isSome

variable [Backend σ]

/-- The operation of the given name, if the backend has it. -/
def operation (g : Gateway σ) (name : String) : Except Failure Operation :=
  match g.backend with
  | none => .error .noBackend
  | some backend =>
    match Operation.ofName? name with
    | none => .error (.noSuchOperation name)
    | some op =>
      if Backend.supports backend op then .ok op else .error (.noSuchOperation name)

/-! ### Requests -/

/-- The event for a fault of the backend. -/
def faultEvent (operation : Operation) : Fault → Event
  | .error error => .backendFailed operation error
  | .raised _ => .backendRaised operation

/-- Makes a request, if there is a backend and it has the operation. -/
def exchange (g : Gateway σ) (request : Request) : Except Failure request.Reply × Gateway σ :=
  match g.backend with
  | none => (.error .noBackend, g)
  | some backend =>
    if Backend.supports backend request.operation then
      match Backend.respond request backend with
      | (.ok reply, backend) =>
        (.ok reply, { g.log (.invoking request.operation) with backend := some backend })
      | (.error fault, backend) =>
        (.error (.ofFault request.operation fault),
          { (g.log (.invoking request.operation)).log (faultEvent request.operation fault) with
            backend := some backend })
    else (.error (.noSuchOperation request.operation.name), g)

/-- The code of an outcome, with an event and a failure where there is none. -/
def codeOf {α : Type} (operation : Operation) :
    Except Failure (Outcome α) × Gateway σ → Except Failure α × Gateway σ
  | (.error failure, g) => (.error failure, g)
  | (.ok outcome, g) =>
    match outcome.code with
    | .ok code => (.ok code, g)
    | .error diagnostics => (.error (.notCompiled operation diagnostics), g.log (.noCode operation))

end Gateway

end CompilerGateway
