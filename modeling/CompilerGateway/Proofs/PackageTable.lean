import CompilerGateway.Backend.Scripted
import CompilerGateway.Proofs.Attempts

/-!
# Backends with a table of packages

A backend keeps a table of the packages that were registered with it. A gateway never sees it;
it only knows which of its requests were granted. What is assumed of the table is
`CompilerGateway.Backend.Tracks`: granted requests do to it what they say, and nothing else
does anything to it.

The table then follows the requests: by the attempts of a gateway
(`CompilerGateway.Backend.Tracks.after`), and by what a recorded backend notes of them
(`CompilerGateway.Exchange.replay`, `CompilerGateway.Attempt.replay_exchanges`).

Scripted backends have such a table as long as their script does not make up answers about
packages; `CompilerGateway.Earnest` are those.
-/

namespace CompilerGateway

/-! ### Tables of backends -/

/-- **A view of the table of packages** that a backend has. A granted request to register a
package sets its name, one to drop the registrations empties the table, and any other request,
and any that fails, leaves it as it is. -/
def Backend.Tracks {σ : Type} [Backend σ] (table : σ → Table String) : Prop :=
  ∀ request backend, table (Backend.respond request backend).2 =
    match (Backend.respond request backend).1 with
    | .ok _ => request.effect (table backend)
    | .error _ => table backend

/-! ### What recorded backends know of attempts -/

/-- The registrations after an exchange. -/
def Exchange.effect (x : Exchange) (packages : Table String) : Table String :=
  if x.succeeded then x.request.effect packages else packages

/-- **The registrations after several exchanges**: those that succeeded, replayed in order. -/
def Exchange.replay (exchanges : List Exchange) (packages : Table String) : Table String :=
  exchanges.foldl (fun packages x => x.effect packages) packages

namespace Exchange

@[simp] theorem replay_nil (packages : Table String) : replay [] packages = packages := rfl

@[simp] theorem replay_cons (x : Exchange) (rest : List Exchange) (packages : Table String) :
    replay (x :: rest) packages = replay rest (x.effect packages) := rfl

@[simp] theorem replay_append (exchanges more : List Exchange) (packages : Table String) :
    replay (exchanges ++ more) packages = replay more (replay exchanges packages) :=
  List.foldl_append

/-- What is registered after a request has been granted was registered by it, or before. -/
theorem find?_effect_mono {request : Request} {small large : Table String}
    (part : ∀ name directory, small.find? name = some directory →
      large.find? name = some directory) (name directory : String)
    (found : (request.effect small).find? name = some directory) :
    (request.effect large).find? name = some directory := by
  cases request with
  | addPackage other place =>
    simp only [Request.effect, Table.find?_insert] at found ⊢
    by_cases same : other = name
    · simpa [same] using found
    · simp only [same, if_false] at found ⊢
      exact part name directory found
  | clearPackage => simp [Request.effect] at found
  | _ => exact part name directory found

/-- Replayed from less, exchanges give less. -/
theorem find?_replay_mono {exchanges : List Exchange} {small large : Table String}
    (part : ∀ name directory, small.find? name = some directory →
      large.find? name = some directory) (name directory : String)
    (found : (replay exchanges small).find? name = some directory) :
    (replay exchanges large).find? name = some directory := by
  induction exchanges generalizing small large with
  | nil => exact part name directory found
  | cons x rest ih =>
    -- an exchange does the same to both, whether it succeeded or not
    have step : ∀ other place, (x.effect small).find? other = some place →
        (x.effect large).find? other = some place := by
      intro other place found
      by_cases granted : x.succeeded = true
      · simp only [effect, granted, if_true] at found ⊢
        exact find?_effect_mono part other place found
      · simp only [effect, granted, if_false, Bool.false_eq_true] at found ⊢
        exact part other place found
    exact ih step found

theorem find?_replay_of_empty {exchanges : List Exchange} {packages : Table String}
    (name directory : String) (found : (replay exchanges .empty).find? name = some directory) :
    (replay exchanges packages).find? name = some directory :=
  find?_replay_mono (fun _ _ found => by cases found) name directory found

/-- From the first time on that the registrations have been dropped, it does not matter what
there was before; and if there was nothing, it never does. -/
theorem replay_eq_of_known {exchanges : List Exchange} {packages : Table String}
    (known : packages = .empty ∨
      ∃ x ∈ exchanges, x.succeeded = true ∧ x.request = .clearPackage) :
    replay exchanges packages = replay exchanges .empty := by
  rcases known with rfl | ⟨x, mem, succeeded, clears⟩
  · rfl
  · obtain ⟨before, later, rfl⟩ := List.append_of_mem mem
    simp [effect, succeeded, clears, Request.effect]

end Exchange

/-- What a recorded backend notes of an attempt. -/
def Attempt.exchanges (a : Attempt) : List Exchange :=
  match a.failure with
  | none => [⟨a.request, none⟩]
  | some (.reported error) => [⟨a.request, some (.error error)⟩]
  | some (.raised _ payload) => [⟨a.request, some (.raised payload)⟩]
  | _ => []

/-- Attempts that did not reach the backend changed nothing, so replaying what the backend
noted is replaying the attempts. -/
theorem Attempt.replay_exchanges (made : List Attempt) (packages : Table String) :
    Exchange.replay (made.flatMap Attempt.exchanges) packages = Attempt.replay made packages := by
  induction made generalizing packages with
  | nil => rfl
  | cons a rest ih =>
    have single : Exchange.replay a.exchanges packages = a.effect packages := by
      obtain ⟨request, failure⟩ := a
      rcases failure with - | failure
      · rfl
      · cases failure <;> rfl
    rw [List.flatMap_cons, Exchange.replay_append, single, ih, Attempt.replay_cons]

namespace Backend

variable {σ : Type} [Backend σ] {table : σ → Table String}

/-- The table follows an attempt. -/
theorem Tracks.ask (tracked : Tracks table) {request : Request} {backend next : σ}
    (asked : (Backend.ask request (some backend)).2 = some next) :
    table next =
      Attempt.effect ⟨request, (Backend.ask request (some backend)).1⟩ (table backend) := by
  have follows := tracked request backend
  by_cases supported : supports backend request.operation = true
  · simp only [Backend.ask, supported, if_true] at asked ⊢
    generalize respond request backend = responded at follows asked ⊢
    obtain ⟨fault | reply, after⟩ := responded <;> obtain rfl := Option.some.inj asked <;>
      exact follows
  · simp only [Backend.ask, supported, if_false, Bool.false_eq_true] at asked ⊢
    obtain rfl := Option.some.inj asked
    rfl

/-- **The table follows the attempts.** -/
theorem Tracks.after (tracked : Tracks table) {requests : List Request} {backend next : σ}
    (reached : Backend.after requests (some backend) = some next) :
    table next = Attempt.replay (attempts requests (some backend)) (table backend) := by
  induction requests generalizing backend with
  | nil =>
    obtain rfl := Option.some.inj reached
    rfl
  | cons request rest ih =>
    obtain ⟨failure, middle, asked⟩ := ask_some request backend
    rw [after_cons, asked] at reached
    rw [attempts_cons, Attempt.replay_cons, ← tracked.ask (congrArg Prod.snd asked), asked]
    exact ih reached

/-- A record is no part of what a backend does. -/
theorem Tracks.recorded (tracked : Tracks table) :
    Tracks fun r : Recorded σ => table r.backend :=
  fun request r => tracked request r.backend

end Backend

namespace Recorded

variable {σ : Type} [Backend σ]

/-- A recorded backend notes an attempt, if it reaches it. -/
theorem exchanges_ask {request : Request} {r next : Recorded σ}
    (asked : (Backend.ask request (some r)).2 = some next) :
    next.exchanges =
      r.exchanges ++ Attempt.exchanges ⟨request, (Backend.ask request (some r)).1⟩ := by
  by_cases supported : Backend.supports r request.operation = true
  · simp only [Backend.ask, supported, if_true, Backend.respond] at asked ⊢
    generalize Backend.respond request r.backend = responded at asked ⊢
    obtain ⟨fault | reply, after⟩ := responded
    · obtain rfl := Option.some.inj asked
      cases fault <;> rfl
    · obtain rfl := Option.some.inj asked
      rfl
  · simp only [Backend.ask, supported, if_false, Bool.false_eq_true] at asked ⊢
    obtain rfl := Option.some.inj asked
    simp [Attempt.exchanges]

/-- **The record is of the attempts that reached the backend.** -/
theorem exchanges_after {requests : List Request} {r next : Recorded σ}
    (reached : Backend.after requests (some r) = some next) :
    next.exchanges =
      r.exchanges ++ (Backend.attempts requests (some r)).flatMap Attempt.exchanges := by
  induction requests generalizing r with
  | nil =>
    obtain rfl := Option.some.inj reached
    simp
  | cons request rest ih =>
    obtain ⟨failure, middle, asked⟩ := Backend.ask_some request r
    have first := exchanges_ask (congrArg Prod.snd asked)
    rw [Backend.after_cons, asked] at reached
    rw [ih reached, first, Backend.attempts_cons, asked, List.flatMap_cons, List.append_assoc]

end Recorded

/-! ### Scripted backends -/

namespace Scripted

theorem packages_perform (s : Scripted) (request : Request) :
    (s.perform request).2.packages =
      match (s.perform request).1 with
      | .ok _ => request.effect s.packages
      | .error _ => s.packages := by
  cases request with
  | readFile path => simp only [perform]; cases s.files.find? path <;> rfl
  | renameFile path target => simp only [perform]; cases s.files.find? path <;> rfl
  | removeFile path => simp only [perform]; cases s.files.find? path <;> rfl
  | readDir directory =>
    simp only [perform]
    cases entries s.files (VirtualPath.withoutTrailing directory) with
    | nil =>
      by_cases root : VirtualPath.withoutTrailing directory = "" <;> simp [root, Request.effect]
    | cons first rest => rfl
  | _ => rfl

theorem script_perform (s : Scripted) (request : Request) :
    (s.perform request).2.script = s.script := by
  cases request with
  | readFile path => simp only [perform]; cases s.files.find? path <;> rfl
  | renameFile path target => simp only [perform]; cases s.files.find? path <;> rfl
  | removeFile path => simp only [perform]; cases s.files.find? path <;> rfl
  | readDir directory =>
    simp only [perform]
    cases entries s.files (VirtualPath.withoutTrailing directory) <;> rfl
  | _ => rfl

/-- Taking a cue takes it from the script, and does nothing else. -/
theorem takeCue_eq {s next : Scripted} {operation : Operation} {cue : Cue}
    (taken : s.takeCue operation = (cue, next)) :
    next.packages = s.packages ∧ (cue = .pass ∨ cue ∈ s.script operation) ∧
      ∀ other, ∀ kept ∈ next.script other, kept ∈ s.script other := by
  rw [takeCue] at taken
  split at taken
  · obtain ⟨rfl, rfl⟩ := Prod.mk.inj taken
    exact ⟨rfl, .inl rfl, fun _ _ mem => mem⟩
  · rename_i first rest script_eq
    obtain ⟨rfl, rfl⟩ := Prod.mk.inj taken
    refine ⟨rfl, .inr (script_eq ▸ List.mem_cons_self), fun other kept mem => ?_⟩
    by_cases same : other = operation
    · simp only [same, if_true] at mem ⊢
      exact script_eq ▸ List.mem_cons_of_mem _ mem
    · simpa only [same, if_false] using mem

theorem mem_script_of_respond {s : Scripted} {request : Request} {operation : Operation}
    {cue : Cue} (mem : cue ∈ (respond request s).2.script operation) :
    cue ∈ s.script operation := by
  rw [respond] at mem
  rcases taken : s.takeCue request.operation with ⟨first, next⟩
  obtain ⟨-, -, kept⟩ := takeCue_eq taken
  rw [taken] at mem
  cases first with
  | error error => exact kept _ _ mem
  | raise payload => exact kept _ _ mem
  | value value =>
    refine kept _ _ ?_
    revert mem
    dsimp only
    cases request.readReply value <;> exact id
  | pass =>
    refine kept _ _ ?_
    rwa [← script_perform next request]

/-- A script that does not make up answers about packages changes them as requests say. -/
theorem packages_respond {s : Scripted} {request : Request}
    (earnest : (∀ packages, request.effect packages = packages) ∨
      ∀ value, .value value ∉ s.script request.operation) :
    (respond request s).2.packages =
      match (respond request s).1 with
      | .ok _ => request.effect s.packages
      | .error _ => s.packages := by
  rw [respond]
  rcases taken : s.takeCue request.operation with ⟨first, next⟩
  obtain ⟨packages_eq, origin, -⟩ := takeCue_eq taken
  cases first with
  | error error => exact packages_eq
  | raise payload => exact packages_eq
  | value value =>
    dsimp only
    have plain : request.effect s.packages = s.packages := by
      rcases earnest with plain | none
      · exact plain _
      · rcases origin with absurd | mem
        · cases absurd
        · exact absurd mem (none value)
    cases request.readReply value with
    | ok reply => exact packages_eq.trans plain.symm
    | error error => exact packages_eq
  | pass =>
    dsimp only
    rw [← packages_eq]
    exact next.packages_perform request

end Scripted

/-- A scripted backend that does what it is asked to do about packages, or refuses. A script
can also answer such a request with a value, and then nothing is done. -/
structure Earnest where
  /-- The backend. -/
  scripted : Scripted
  /-- Its script answers no request about packages with a value. -/
  earnest : ∀ value, .value value ∉ scripted.script .addPackage ∧
    .value value ∉ scripted.script .clearPackage

namespace Earnest

/-- Refuses a request or lets it pass. -/
def cueFor : Bool → Cue
  | true => .error ⟨"no space left", none⟩
  | false => .pass

/-- A backend that holds nothing, and that refuses requests to write and to register as often
as the lists say, in turn. -/
def refusing (writes registrations : List Bool) : Earnest where
  scripted := .ofFiles .empty [] fun
    | .saveFile => writes.map cueFor
    | .addPackage => registrations.map cueFor
    | _ => []
  earnest := by
    have noValue : ∀ (value : Json) (refusals : List Bool),
        .value value ∉ refusals.map cueFor := by
      intro value refusals mem
      obtain ⟨refuses, -, eq⟩ := List.mem_map.mp mem
      cases refuses <;> cases eq
    exact fun value => ⟨noValue value registrations, List.not_mem_nil⟩

instance : Backend Earnest where
  supports e operation := Backend.supports e.scripted operation
  respond request e :=
    ((Scripted.respond request e.scripted).1, ⟨(Scripted.respond request e.scripted).2,
      fun value => ⟨fun mem => (e.earnest value).1 (Scripted.mem_script_of_respond mem),
        fun mem => (e.earnest value).2 (Scripted.mem_script_of_respond mem)⟩⟩)

theorem tracks_packages : Backend.Tracks fun e : Earnest => e.scripted.packages := by
  intro request e
  refine Scripted.packages_respond ?_
  cases request with
  | addPackage name directory => exact .inr fun value => (e.earnest value).1
  | clearPackage => exact .inr fun value => (e.earnest value).2
  | _ => exact .inl fun _ => rfl

end Earnest

end CompilerGateway
