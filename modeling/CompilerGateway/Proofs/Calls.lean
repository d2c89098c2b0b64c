import CompilerGateway.Proofs.Conduct
import CompilerGateway.Proofs.PackageTable

/-!
# The calls that a backend receives

A recorded backend notes what it is asked. Where a gateway leads to a later one, what its
backend has noted in between are the attempts that reached it
(`CompilerGateway.Gateway.Leads.exchanges_eq`), and where all of them were granted, the requests
without a fault (`CompilerGateway.Gateway.Leads.exchanges_of_granted`).
-/

namespace CompilerGateway

/-- **What the backend of a gateway has been asked**, oldest first. -/
def Gateway.exchanges {σ : Type} (g : Gateway (Recorded σ)) : List Exchange :=
  match g.backend with
  | none => []
  | some recorded => recorded.exchanges

variable {σ : Type} [Backend σ]

/-- No attempt reaches a backend that is not there. -/
theorem Backend.flatMap_exchanges_none (requests : List Request) :
    (attempts requests (none : Option σ)).flatMap Attempt.exchanges = [] := by
  induction requests with
  | nil => rfl
  | cons request rest ih => exact ih

namespace Gateway.Leads

variable {g h : Gateway (Recorded σ)} {requests : List Request}

/-- **The backend notes the attempts that reach it.** -/
theorem exchanges_eq (leads : g.Leads requests h) :
    h.exchanges =
      g.exchanges ++ (Backend.attempts requests g.backend).flatMap Attempt.exchanges := by
  have backend_eq := leads.backend_eq
  cases present : g.backend with
  | none =>
    rw [present, Backend.after_none] at backend_eq
    rw [Backend.flatMap_exchanges_none, exchanges, exchanges, backend_eq, present]
    rfl
  | some current =>
    obtain ⟨next, reached⟩ := Backend.exists_after_some requests current
    rw [present, reached] at backend_eq
    rw [exchanges, exchanges, backend_eq, present]
    exact Recorded.exchanges_after reached

theorem exchanges_of_granted (leads : g.Leads requests h)
    (granted : Backend.Granted requests g.backend) :
    h.exchanges = g.exchanges ++ requests.map fun request => ⟨request, none⟩ := by
  rw [leads.exchanges_eq, Backend.attempts_of_granted granted, List.flatMap_map]
  exact congrArg _ List.map_eq_flatMap.symm

end Gateway.Leads

end CompilerGateway
