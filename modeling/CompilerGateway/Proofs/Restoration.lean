import CompilerGateway.Proofs.BreakOff
import CompilerGateway.Proofs.Registrations

/-!
# What a backend is left with when a load breaks off

A load that breaks off drops all registrations and makes those of the account again. The
backend does not know about the account: it is left with just that, whatever its table held
before (`CompilerGateway.BreakOff.table_load`). So it has the registrations back that it had
before the load if the account had all of them, and not otherwise.

The account has all of them in a session whose backend came with an empty table, or whose
registrations have been dropped since. It has not where a backend was attached with a table
that was not empty, as when it was detached and is attached again: then a load that breaks off
takes away what the backend came with (`CompilerGateway.Session.registrations_lost`).
-/

namespace CompilerGateway

namespace BreakOff

variable {σ : Type} [Backend σ] {g : Gateway σ} {fetcher : Fetcher}
  {requests : List (String × Descriptor)} {moves : List Move}

/-- **The way back succeeds**: the registrations are dropped, and those of the account are all
made again. -/
structure Restored (x : BreakOff g fetcher requests moves) : Prop where
  /-- The registrations are dropped. -/
  cleared : (Backend.ask .clearPackage x.left).1 = none
  /-- The earlier ones are granted once more. -/
  granted : ∀ a ∈ x.again, a.succeeded = true

/-- **After the way back the backend has the account**, and nothing else. -/
theorem table_load {table : σ → Table String} (tracked : Backend.Tracks table)
    (x : BreakOff g fetcher requests moves) (restored : x.Restored) {backend : σ}
    (present : g.backend = some backend) :
    ∃ next, (g.load fetcher requests moves).gateway.backend = some next ∧
      table next = g.packages := by
  have backend_eq := (x.leads_load_of_cleared restored.cleared).backend_eq
  have cleared := restored.cleared
  have replayed := x.replay_again_eq restored.granted
  rw [left, present] at cleared
  rw [again, left, present] at replayed
  rw [present] at backend_eq
  obtain ⟨next, reached⟩ :=
    Backend.exists_after_some (x.made ++ .clearPackage :: Gateway.restoration g.packages) backend
  refine ⟨next, backend_eq.trans reached, ?_⟩
  -- whatever the table was when the registrations were dropped, it is empty then
  rw [tracked.after reached, Backend.attempts_append, Attempt.replay_append, Backend.attempts_cons,
    Attempt.replay_cons, cleared]
  exact replayed

end BreakOff

namespace Session

variable {σ : Type} [Backend σ] {table : σ → Table String}

/-- **What a load that breaks off does to the table of the backend**, at any time of any
session, if the way back succeeds. The table is what it was before if and only if the account
had all of it; so it is if the backend came with an empty table or the registrations have been
dropped since. -/
theorem table_load_of_breakOff (tracked : Backend.Tracks table) (version : String)
    (settings : Settings) (steps : List (Step (Recorded σ))) :
    let opened := Session.opening (Gateway.detached version settings)
    let g := (opened.run steps).2.gateway
    ∀ current, g.backend = some current → ∃ attached exchanges,
      opened.attachedAs none steps = some attached ∧
      current.exchanges = attached.exchanges ++ exchanges ∧
      ∀ fetcher requests moves, ∀ x : BreakOff g fetcher requests moves, x.Restored →
        ∃ next, (g.load fetcher requests moves).gateway.backend = some next ∧
          table next.backend = g.packages ∧
          (table next.backend = table current.backend ↔
            ∀ name directory, (table current.backend).find? name = some directory →
              g.packages.find? name = some directory) ∧
          (table attached.backend = .empty ∨
              (∃ x ∈ exchanges, x.succeeded = true ∧ x.request = .clearPackage) →
            table next.backend = table current.backend) := by
  intro opened g current present
  obtain ⟨attached, exchanges, attached_eq, exchanges_eq, packages_eq, table_eq⟩ :=
    exists_account tracked present
  refine ⟨attached, exchanges, attached_eq, exchanges_eq, ?_⟩
  intro fetcher requests moves x restored
  obtain ⟨next, next_eq, left⟩ := x.table_load tracked.recorded restored present
  have part : ∀ name directory, g.packages.find? name = some directory →
      (table current.backend).find? name = some directory := by
    intro name directory
    rw [packages_eq, table_eq]
    exact Exchange.find?_replay_of_empty name directory
  refine ⟨next, next_eq, left, ?_, fun known => ?_⟩
  · rw [left]
    constructor
    · intro same name directory found
      rwa [same]
    · intro whole
      exact Table.ext_find? fun name => Option.ext fun directory =>
        ⟨part name directory, whole name directory⟩
  · rw [left, packages_eq, table_eq, Exchange.replay_eq_of_known known]

/-- A backend with an empty table is attached and a package registered; then two are loaded, and
the second one cannot be written. The first one is gone again, the earlier one is not. -/
theorem table_load_of_breakOff_fresh :
    let table := fun e : Earnest => e.scripted.packages
    let steps : List (Step (Recorded Earnest)) :=
      [.attach (.fresh (.refusing [false, true] [])), .act (.register "prior" "vendor/prior")]
    let package : FetchedPackage := ⟨"any", "1", Table.ofList [("a.mo", "module A")]⟩
    let fetcher := Fetcher.quiet fun _ => .ok package
    let requests := [("base", Descriptor.directory "base"), ("core", Descriptor.directory "core")]
    let moves : List Move := [.start, .start, .finish "base", .finish "core"]
    let g := ((opening (Gateway.detached "0.14.0" .standard)).run steps).2.gateway
    Backend.Tracks table ∧ ∃ current, g.backend = some current ∧
      ∃ x : BreakOff g fetcher requests moves, x.Restored ∧
        ∃ next, (g.load fetcher requests moves).gateway.backend = some next ∧
          table next.backend = table current.backend := by
  intro table steps package fetcher requests moves g
  let x : BreakOff g fetcher requests moves :=
    { milestones := _
      packages := _
      before := [("base", package)]
      name := "core"
      package := package
      untouched := []
      done := []
      refused := .saveFile ".packages/core/1/a.mo" "module A"
      unmade := [.addPackage "core" ".packages/core/1"]
      failure := .reported ⟨"no space left", none⟩
      named := by decide +kernel
      fetched := rfl
      fit := by decide +kernel
      entries_eq := rfl
      split := by decide +kernel
      granted := List.all_eq_true.mp (by decide +kernel)
      fails := rfl }
  have restored : x.Restored :=
    ⟨Option.isNone_iff_eq_none.mp (by decide +kernel), List.all_eq_true.mp (by decide +kernel)⟩
  have tracked : Backend.Tracks table := Earnest.tracks_packages
  obtain ⟨attached, exchanges, attached_eq, -, load_eq⟩ :=
    table_load_of_breakOff tracked "0.14.0" .standard steps _ rfl
  obtain ⟨next, next_eq, -, -, kept⟩ := load_eq fetcher requests moves x restored
  obtain rfl := Option.some.inj attached_eq
  exact ⟨tracked, _, rfl, x, restored, next, next_eq, kept (.inl rfl)⟩

/-- **Registrations may be lost.** A backend is attached, a package registered with it, and it
is detached and attached again. A load breaks off at its first request, and the way back
succeeds; the backend does not have the package any more. -/
theorem registrations_lost :
    let table := fun e : Earnest => e.scripted.packages
    let steps : List (Step (Recorded Earnest)) :=
      [.attach (.fresh (.refusing [true] [])), .act (.register "prior" "vendor/prior"), .detach,
        .reattach]
    let package : FetchedPackage := ⟨"any", "1", Table.ofList [("a.mo", "module A")]⟩
    let fetcher := Fetcher.quiet fun _ => .ok package
    let requests := [("base", Descriptor.directory "base")]
    let moves : List Move := [.start, .finish "base"]
    let g := ((opening (Gateway.detached "0.14.0" .standard)).run steps).2.gateway
    Backend.Tracks table ∧
      ∃ current x next, g.backend = some current ∧
        (x : BreakOff g fetcher requests moves).Restored ∧
        (g.load fetcher requests moves).gateway.backend = some next ∧
        (table current.backend).find? "prior" = some "vendor/prior" ∧
        (table next.backend).find? "prior" = none := by
  intro table steps package fetcher requests moves g
  let x : BreakOff g fetcher requests moves :=
    { milestones := _
      packages := _
      before := []
      name := "base"
      package := package
      untouched := []
      done := []
      refused := .saveFile ".packages/base/1/a.mo" "module A"
      unmade := [.addPackage "base" ".packages/base/1"]
      failure := .reported ⟨"no space left", none⟩
      named := by decide +kernel
      fetched := rfl
      fit := by decide +kernel
      entries_eq := rfl
      split := by decide +kernel
      granted := List.all_eq_true.mp (by decide +kernel)
      fails := rfl }
  have restored : x.Restored :=
    ⟨Option.isNone_iff_eq_none.mp (by decide +kernel), List.all_eq_true.mp (by decide +kernel)⟩
  obtain ⟨next, next_eq, left⟩ := x.table_load Earnest.tracks_packages.recorded restored rfl
  -- the account was forgotten when the backend was detached
  have emptied : table next.backend = .empty := left.trans rfl
  refine ⟨Earnest.tracks_packages, _, x, next, rfl, restored, next_eq, by decide +kernel, ?_⟩
  rw [emptied]
  rfl

end Session

end CompilerGateway
