import CompilerGateway.Backend.Request

/-!
# Compiler backends

A backend is known by what it does: from a state it answers a request or refuses it, and is
in another state afterwards. `Backend σ` says so of the states `σ`; nothing is assumed of the
answers, nor that two equal requests are answered alike.

`Recorded σ` is the same backend keeping a record of the requests that it received and of the
faults that it answered them with, oldest first.
-/

namespace CompilerGateway

/-! ### Faults -/

/-- An error that a backend reports. -/
structure BackendError where
  /-- What it says. -/
  message : String
  /-- What the error that caused it says, if one did. -/
  cause : Option String
  deriving DecidableEq

/-- Why a backend does not answer a request. -/
inductive Fault where
  /-- It reports an error. -/
  | error (error : BackendError)
  /-- It raises a value that is no error. -/
  | raised (payload : Json)

/-! ### Backends -/

/-- The states of a compiler backend. -/
class Backend (σ : Type) where
  /-- Whether this build of the backend has the operation. -/
  supports : σ → Operation → Bool
  /-- The answer to a request, and the state after it. -/
  respond : (request : Request) → σ → Except Fault request.Reply × σ

/-! ### Recorded backends -/

/-- A request that a backend received, and the fault that it answered with, if any. -/
structure Exchange where
  /-- The request. -/
  request : Request
  /-- The fault, unless the request was answered. -/
  fault : Option Fault

/-- Whether the request was answered. -/
def Exchange.succeeded (x : Exchange) : Bool := x.fault.isNone

/-- A backend with a record of what it was asked. -/
structure Recorded (σ : Type) where
  /-- The backend. -/
  backend : σ
  /-- What it was asked, oldest first. -/
  exchanges : List Exchange

namespace Recorded

variable {σ : Type}

/-- A backend that has not been asked anything. -/
def fresh (backend : σ) : Recorded σ := ⟨backend, []⟩

/-- The fault in an answer. -/
def faultOf {α : Type} : Except Fault α → Option Fault
  | .ok _ => none
  | .error fault => some fault

instance [Backend σ] : Backend (Recorded σ) where
  supports r op := Backend.supports r.backend op
  respond request r :=
    let (answer, backend) := Backend.respond request r.backend
    (answer, ⟨backend, r.exchanges ++ [⟨request, faultOf answer⟩]⟩)

end Recorded

end CompilerGateway
