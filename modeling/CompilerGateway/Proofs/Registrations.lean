import CompilerGateway.Proofs.Installation
import CompilerGateway.Proofs.PackageTable

/-!
# The account of registrations, over whole sessions

A gateway keeps account of the packages that it has registered with its backend, and the
backend keeps a table of its own. This file relates the two, for every session and whatever
fails in it.

The relation is by the exchanges with the backend since it was last attached
(`CompilerGateway.Session.attachedAs` is the state that it was in then): replayed from nothing,
they give the account, and replayed from the table that the backend came with, they give its
table (`CompilerGateway.Gateway.AccountsSince`). So the account is always a part of the table.
It is all of it where the backend came with an empty table, and from the first time on that
the registrations have been dropped; a backend that was detached and is attached again comes
with what it had.

No operation loses the account (`CompilerGateway.Gateway.AccountsSince.leads`), so no step of a
session does (`CompilerGateway.Session.Mirrors.perform`), so no session does.
-/

namespace CompilerGateway

/-! ### The account of a gateway -/

/-- **The account of a gateway** whose backend was in the given state when it was attached: by
the exchanges since then, account and table come about from nothing and from what there was. -/
def Gateway.AccountsSince {σ : Type} (table : σ → Table String) (attached : Recorded σ)
    (g : Gateway (Recorded σ)) : Prop :=
  ∃ current exchanges, g.backend = some current ∧
    current.exchanges = attached.exchanges ++ exchanges ∧
    g.packages = Exchange.replay exchanges .empty ∧
    table current.backend = Exchange.replay exchanges (table attached.backend)

namespace Gateway

variable {σ : Type} [Backend σ] {table : σ → Table String}

omit [Backend σ] in
theorem accountsSince_attach (g : Gateway (Recorded σ)) (r : Recorded σ) :
    (g.attach r).AccountsSince table r :=
  ⟨r, [], rfl, by simp, rfl, rfl⟩

/-- **No operation loses the account.** -/
theorem AccountsSince.leads (tracked : Backend.Tracks table) {attached : Recorded σ}
    {g h : Gateway (Recorded σ)} {requests : List Request}
    (account : g.AccountsSince table attached) (leads : g.Leads requests h) :
    h.AccountsSince table attached := by
  obtain ⟨current, exchanges, backend_eq, exchanges_eq, packages_eq, table_eq⟩ := account
  obtain ⟨next, after_eq⟩ := Backend.exists_after_some requests current
  have exchanges_eq' := Recorded.exchanges_after after_eq
  have table_eq' := tracked.recorded.after after_eq
  -- account and table follow the same attempts, and what the backend notes is these
  refine ⟨next, exchanges ++ (Backend.attempts requests (some current)).flatMap
    Attempt.exchanges, ?_, ?_, ?_, ?_⟩
  · rw [leads.backend_eq, backend_eq, after_eq]
  · rw [exchanges_eq', exchanges_eq, List.append_assoc]
  · rw [leads.packages_eq, backend_eq, packages_eq, Exchange.replay_append,
      Attempt.replay_exchanges]
  · rw [table_eq', table_eq, Exchange.replay_append, Attempt.replay_exchanges]

/-- Without a backend nothing is registered. -/
theorem Leads.packages_eq_of_none {σ : Type} [Backend σ] {g h : Gateway σ}
    {requests : List Request} (leads : g.Leads requests h) (absent : g.backend = none) :
    h.packages = g.packages := by
  rw [leads.packages_eq, absent]
  refine Attempt.replay_eq_self (fun a mem packages => ?_) _
  rw [Attempt.effect, Backend.succeeded_of_mem_attempts_none mem]
  rfl

end Gateway

/-! ### Steps of a session -/

namespace Session

section Steps

variable {σ : Type}

/-- The backend that is attached after a step, as it was when it was attached, where `earlier`
is that of the one attached before. -/
def attachedBy (s : Session σ) (earlier : Option σ) : Step σ → Option σ
  | .attach backend => some backend
  | .detach => none
  | .reattach => s.parked.or earlier
  | _ => earlier

variable [Backend σ]

/-- **The backend that is attached after several steps, as it was when it was attached.** -/
def attachedAs (s : Session σ) (earlier : Option σ) : List (Step σ) → Option σ
  | [] => earlier
  | step :: rest => (s.perform step).2.attachedAs (s.attachedBy earlier step) rest

theorem exists_leads_fetch (g : Gateway σ) (fetcher : Fetcher) (descriptor : Descriptor) :
    ∃ requests, g.Leads requests (g.fetch fetcher descriptor).2 := by
  have logged : g.Leads []
      ((g.log (.fetching descriptor)).logAll (fetcher.notes none descriptor)) :=
    (Gateway.Leads.refl.log rfl).logAll (fetcher.notes_apart none descriptor)
  rw [Gateway.fetch]
  cases fetcher.fetch none descriptor <;> exact ⟨[], logged⟩

/-- **What a step can do**: bring in a backend, take it away, or let the gateway make requests
of the one that it has. -/
theorem perform_cases (s : Session σ) (earlier : Option σ) (step : Step σ) :
    (∃ backend, s.attachedBy earlier step = some backend ∧
      (s.perform step).2.gateway = s.gateway.attach backend) ∨
    (s.attachedBy earlier step = none ∧ (s.perform step).2.gateway = s.gateway.detach.2) ∨
    (s.attachedBy earlier step = earlier ∧
      ∃ requests, s.gateway.Leads requests (s.perform step).2.gateway) := by
  cases step with
  | attach backend => exact .inl ⟨backend, rfl, rfl⟩
  | detach => exact .inr (.inl ⟨rfl, rfl⟩)
  | reattach =>
    cases parked : s.parked with
    | none =>
      refine .inr (.inr ⟨by simp [attachedBy, parked], [], ?_⟩)
      simp only [perform, parked]
      exact .refl
    | some backend => exact .inl ⟨backend, by simp [attachedBy, parked], by simp [perform, parked]⟩
  | act action => exact .inr (.inr ⟨rfl, action.exists_leads s.gateway⟩)
  | file path actions =>
    exact .inr (.inr ⟨rfl, FileAction.exists_leads_performAll actions (s.gateway.file path)⟩)
  | fetch fetcher descriptor =>
    exact .inr (.inr ⟨rfl, exists_leads_fetch s.gateway fetcher descriptor⟩)
  | load fetcher requests moves =>
    exact .inr (.inr ⟨rfl, s.gateway.exists_leads_load fetcher requests moves⟩)

end Steps

/-! ### Whole sessions -/

variable {σ : Type} {table : σ → Table String}

/-- **What holds of the account at any time**, if the attached backend is one that was attached
in the given state. -/
structure Mirrors (table : σ → Table String) (attached : Option (Recorded σ))
    (g : Gateway (Recorded σ)) : Prop where
  /-- Without a backend there are no registrations. -/
  absent : g.backend = none → g.packages = .empty
  /-- With one there is an account of them. -/
  present : g.backend ≠ none → ∃ start, attached = some start ∧ g.AccountsSince table start

variable [Backend σ]

theorem Mirrors.perform (tracked : Backend.Tracks table) {s : Session (Recorded σ)}
    {attached : Option (Recorded σ)} (mirrors : Mirrors table attached s.gateway)
    (step : Step (Recorded σ)) :
    Mirrors table (s.attachedBy attached step) (s.perform step).2.gateway := by
  rcases s.perform_cases attached step with ⟨backend, attached_eq, gateway_eq⟩ |
    ⟨attached_eq, gateway_eq⟩ | ⟨attached_eq, requests, leads⟩
  · rw [attached_eq, gateway_eq]
    exact ⟨fun absent => absurd absent (Option.some_ne_none backend),
      fun _ => ⟨backend, rfl, s.gateway.accountsSince_attach backend⟩⟩
  · rw [attached_eq, gateway_eq]
    exact ⟨fun _ => rfl, fun present => absurd rfl present⟩
  · rw [attached_eq]
    refine ⟨fun absent => ?_, fun present => ?_⟩
    · have before : s.gateway.backend = none := by
        cases backend_eq : s.gateway.backend with
        | none => rfl
        | some backend =>
          obtain ⟨next, after_eq⟩ := Backend.exists_after_some requests backend
          rw [leads.backend_eq, backend_eq, after_eq] at absent
          cases absent
      rw [leads.packages_eq_of_none before]
      exact mirrors.absent before
    · have before : s.gateway.backend ≠ none := fun before =>
        present (by rw [leads.backend_eq, before, Backend.after_none])
      obtain ⟨start, start_eq, account⟩ := mirrors.present before
      exact ⟨start, start_eq, account.leads tracked leads⟩

theorem Mirrors.run (tracked : Backend.Tracks table) (steps : List (Step (Recorded σ)))
    {s : Session (Recorded σ)} {attached : Option (Recorded σ)}
    (mirrors : Mirrors table attached s.gateway) :
    Mirrors table (s.attachedAs attached steps) (s.run steps).2.gateway := by
  induction steps generalizing s attached with
  | nil => exact mirrors
  | cons step rest ih => exact ih (mirrors.perform tracked step)

theorem mirrors_run_opening (tracked : Backend.Tracks table) (version : String)
    (settings : Settings) (steps : List (Step (Recorded σ))) :
    Mirrors table ((opening (Gateway.detached version settings)).attachedAs none steps)
      ((opening (Gateway.detached version settings)).run steps).2.gateway :=
  .run tracked steps ⟨fun _ => rfl, fun present => absurd rfl present⟩

/-- The account of a session that has come to have a backend. -/
theorem exists_account (tracked : Backend.Tracks table) {version : String} {settings : Settings}
    {steps : List (Step (Recorded σ))} {current : Recorded σ}
    (present : ((opening (Gateway.detached version settings)).run steps).2.gateway.backend =
      some current) :
    ∃ attached exchanges,
      (opening (Gateway.detached version settings)).attachedAs none steps = some attached ∧
      current.exchanges = attached.exchanges ++ exchanges ∧
      ((opening (Gateway.detached version settings)).run steps).2.gateway.packages =
        Exchange.replay exchanges .empty ∧
      table current.backend = Exchange.replay exchanges (table attached.backend) := by
  obtain ⟨attached, attached_eq, found, exchanges, found_eq, account⟩ :=
    (mirrors_run_opening tracked version settings steps).present
      (by rw [present]; exact Option.some_ne_none current)
  obtain rfl : found = current := Option.some.inj (found_eq.symm.trans present)
  exact ⟨attached, exchanges, attached_eq, account⟩

/-- **The account of registrations, at any time of any session.** Without a backend there are
none. With one, the account is what the exchanges since it was last attached come to, replayed
in order; so it is part of the backend's table, and all of it if the backend came with an empty
table or the registrations have been dropped since. -/
theorem packages_run (tracked : Backend.Tracks table) (version : String) (settings : Settings)
    (steps : List (Step (Recorded σ))) :
    let opened := Session.opening (Gateway.detached version settings)
    let g := (opened.run steps).2.gateway
    (g.backend = none → g.packages = .empty) ∧
    ∀ current, g.backend = some current → ∃ attached exchanges,
      opened.attachedAs none steps = some attached ∧
      current.exchanges = attached.exchanges ++ exchanges ∧
      g.packages = Exchange.replay exchanges .empty ∧
      table current.backend = Exchange.replay exchanges (table attached.backend) ∧
      (∀ name directory, g.packages.find? name = some directory →
        (table current.backend).find? name = some directory) ∧
      (table attached.backend = .empty ∨
          (∃ x ∈ exchanges, x.succeeded = true ∧ x.request = .clearPackage) →
        g.packages = table current.backend) := by
  intro opened g
  refine ⟨(mirrors_run_opening tracked version settings steps).absent, fun current present => ?_⟩
  obtain ⟨attached, exchanges, attached_eq, exchanges_eq, packages_eq, table_eq⟩ :=
    exists_account tracked present
  refine ⟨attached, exchanges, attached_eq, exchanges_eq, packages_eq, table_eq, ?_, ?_⟩
  · intro name directory
    rw [packages_eq, table_eq]
    exact Exchange.find?_replay_of_empty name directory
  · intro known
    rw [packages_eq, table_eq]
    exact (Exchange.replay_eq_of_known known).symm

/-- A backend is attached, two packages are registered with it – the second one is refused –
and it is detached and attached again: its table has the first package, and the account has
only what is registered from then on. -/
theorem packages_run_reattached :
    let table := fun e : Earnest => e.scripted.packages
    let steps : List (Step (Recorded Earnest)) :=
      [.attach (.fresh (.refusing [] [false, true])), .act (.register "base" "lib/base"),
        .act (.register "core" "lib/core"), .detach, .reattach,
        .act (.register "time" "lib/time")]
    let g := ((opening (Gateway.detached "0.14.0" .standard)).run steps).2.gateway
    Backend.Tracks table ∧ ∃ current, g.backend = some current ∧
      g.packages = Table.ofList [("time", "lib/time")] ∧
      table current.backend = Table.ofList [("base", "lib/base"), ("time", "lib/time")] ∧
      ∀ name directory, g.packages.find? name = some directory →
        (table current.backend).find? name = some directory := by
  intro table steps g
  have tracked : Backend.Tracks table := Earnest.tracks_packages
  obtain ⟨attached, exchanges, -, -, -, -, part, -⟩ :=
    (packages_run tracked "0.14.0" .standard steps).2 _ rfl
  exact ⟨tracked, _, rfl, rfl, rfl, part⟩

end Session

end CompilerGateway
