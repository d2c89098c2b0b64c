import CompilerGateway.Backend.Scripted
import CompilerGateway.Session
import CompilerGateway.Session.PackageSource

/-!
# Rehearsals

A session with scripted backends under observation. The backends are numbered in the order in
which they are brought in. After each command there is a `Report`: what it came to, and what
there was to be seen since the report before – the requests that the **newest** backend
received, whether it is attached or not, the fetches, the events, and the registrations as
they are now.

A backend is only seen while it is attached; in between it does not change, so what was seen
last still holds of it.
-/

namespace CompilerGateway

/-! ### Numbered backends -/

/-- A scripted backend with its number and a record of what it was asked. -/
structure Understudy where
  /-- The number. -/
  number : Nat
  /-- The backend with its record. -/
  recorded : Recorded Scripted

instance : Backend Understudy where
  supports u op := Backend.supports u.recorded op
  respond request u :=
    let (answer, recorded) := Backend.respond request u.recorded
    (answer, { u with recorded := recorded })

/-! ### Commands and reports -/

/-- Something that is asked for in a rehearsal. -/
inductive Command where
  /-- A step of the session. -/
  | step (step : Step Scripted)
  /-- Whether a backend is attached, and what the gateway goes by. -/
  | info
  /-- What the newest backend holds. -/
  | dump
  /-- A step that cannot be read, and is not made. -/
  | unreadable (error : DecodeError)

/-- What a command comes to. -/
inductive Shown where
  /-- The result of a step. -/
  | result (result : Result)
  /-- Whether a backend is attached, the version label and the settings. -/
  | info (isAttached : Bool) (version : String) (settings : Settings)
  /-- What the newest backend holds, if there ever was one. -/
  | dump (backend : Option Scripted)
  /-- Why the step could not be read. -/
  | unreadable (error : DecodeError)

/-- What there is to be seen after a command. -/
structure Report where
  /-- What the command came to. -/
  shown : Shown
  /-- The requests that the newest backend received. -/
  requests : List Request
  /-- The registrations. -/
  packages : Table String
  /-- What happened to fetches. -/
  fetches : List FetchEvent
  /-- The events. -/
  events : List Event

/-- A session under observation. -/
structure Rehearsal where
  /-- The session. -/
  session : Session Understudy
  /-- How many backends have been brought in. -/
  made : Nat
  /-- The newest backend as it was seen last. -/
  newest : Option (Recorded Scripted)
  /-- How many of the events have been reported. -/
  reported : Nat

namespace Rehearsal

/-- A rehearsal with a gateway that may have a backend from the beginning. -/
def opening (version : String) (settings : Settings) : Option Scripted → Rehearsal
  | none => ⟨.opening (.detached version settings), 0, none, 0⟩
  | some backend =>
    let recorded := Recorded.fresh backend
    ⟨.opening ((Gateway.detached version settings).attach ⟨1, recorded⟩), 1, some recorded, 0⟩

/-- The rehearsal after another look at the newest backend. -/
def look (r : Rehearsal) : Rehearsal :=
  match r.session.gateway.backend with
  | some u => if u.number = r.made then { r with newest := some u.recorded } else r
  | none => r

/-- What the newest backend was asked so far. -/
def exchanges (r : Rehearsal) : List Exchange :=
  match r.newest with
  | none => []
  | some recorded => recorded.exchanges

/-- Makes a step. A backend that it brings in gets the next number. -/
def perform (r : Rehearsal) (step : Step Scripted) : Result × Rehearsal :=
  let made := match step with
    | .attach _ => r.made + 1
    | _ => r.made
  let (result, session) := r.session.perform
    (step.map fun backend => ⟨made, Recorded.fresh backend⟩)
  (result, { r with session := session, made := made }.look)

/-- The requests that the newest backend received after `earlier`, all of them if it was
brought in after that. -/
def requestsSince (earlier r : Rehearsal) : List Request :=
  let known := if r.made = earlier.made then earlier.exchanges.length else 0
  (r.exchanges.drop known).map Exchange.request

/-- Does what a command asks for. -/
def follow (r : Rehearsal) : Command → Shown × Rehearsal
  | .step step =>
    let (result, next) := r.perform step
    (.result result, next)
  | .info =>
    (.info r.session.gateway.isAttached r.session.gateway.version r.session.gateway.settings, r)
  | .dump => (.dump (r.newest.map Recorded.backend), r)
  | .unreadable error => (.unreadable error, r)

/-- Does what a command asks for, and reports. -/
def obey (r : Rehearsal) (command : Command) : Report × Rehearsal :=
  let (shown, next) := r.follow command
  let gateway := next.session.gateway
  ({ shown := shown
     requests := requestsSince r next
     packages := gateway.packages
     fetches := next.session.fetches.drop r.session.fetches.length
     events := gateway.journal.drop r.reported },
    { next with reported := gateway.journal.length })

/-- Does what several commands ask for. -/
def obeyAll (r : Rehearsal) : List Command → List Report × Rehearsal
  | [] => ([], r)
  | command :: rest =>
    let (report, r) := r.obey command
    let (reports, r) := r.obeyAll rest
    (report :: reports, r)

end Rehearsal

end CompilerGateway
