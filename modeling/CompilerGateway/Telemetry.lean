import CompilerGateway.Event.Line

/-!
# Telemetry

A process has one place for somebody who receives its events, and who takes it keeps it. The
log of the gateway takes it with `Telemetry.initialise`, under the settings of that call;
`Telemetry.occupy` is somebody else taking it.

Once the log has been set up, initialising it again succeeds and does nothing, whatever the
settings are. Until then a call fails if its filter cannot be read or the place is taken, and
leaves everything as it was.

What a filter may be is not the gateway's to say. All that is used of the language of filters is
that a text is read as one or refused with a reason (`read`), so this is a parameter here;
`LogFilter.parse` is one such language.
-/

namespace CompilerGateway

/-- Who receives the events of a process, where `Filter` are the filters that can be read. -/
inductive Subscriber (Filter : Type) where
  /-- Somebody else. -/
  | foreign
  /-- The log of the gateway, taking what the filter takes, in the given format. -/
  | log (filter : Filter) (format : LogFormat)

/-- The state of a process as far as its log is concerned. -/
structure Telemetry (Filter : Type) where
  /-- Whether the log has been set up. -/
  isReady : Bool
  /-- Who receives the events, if anybody does. -/
  subscriber : Option (Subscriber Filter)
  /-- The events that the log received, oldest first, taken by the filter or not. -/
  received : List Event

/-- Why the log cannot be set up. -/
inductive TelemetryError where
  /-- The filter cannot be read, for the given reason. -/
  | filter (text reason : String)
  /-- Somebody else receives the events. -/
  | occupied

/-- The wording of the error. -/
def TelemetryError.message : TelemetryError → String
  | .filter text reason => "invalid log filter '" ++ text ++ "': " ++ reason
  | .occupied =>
    "failed to install telemetry subscriber: a global default trace dispatcher has already been set"

namespace Telemetry

variable {Filter : Type} (read : String → Except String Filter)

/-- A process whose events nobody receives. -/
def fresh : Telemetry Filter := ⟨false, none, []⟩

/-- The process after somebody else has taken the place, if it was free. -/
def occupy (t : Telemetry Filter) : Telemetry Filter :=
  match t.subscriber with
  | none => { t with subscriber := some .foreign }
  | some _ => t

/-- The process after an event. -/
def emit (t : Telemetry Filter) (event : Event) : Telemetry Filter :=
  match t.subscriber with
  | some (.log _ _) => { t with received := t.received ++ [event] }
  | _ => t

/-- Reads the filter, takes the place for the log and announces it there. Between the reading
and the taking, `meanwhile` happens. -/
def install (meanwhile : Telemetry Filter → Telemetry Filter) (settings : Settings)
    (t : Telemetry Filter) : Except TelemetryError Unit × Telemetry Filter :=
  match read settings.logFilter with
  | .error reason => (.error (.filter settings.logFilter reason), meanwhile t)
  | .ok filter =>
    let t := meanwhile t
    match t.subscriber with
    | some _ => (.error .occupied, t)
    | none =>
      (.ok (), { t with subscriber := some (.log filter settings.logFormat) }.emit
        (.telemetryStarted settings.logFormat settings.logFilter settings.root))

/-- Sets the log up, unless that has been done. What happens to the process in the course of the
call is `meanwhile`; nothing does where that is `id`. -/
def initialise (meanwhile : Telemetry Filter → Telemetry Filter) (settings : Settings)
    (t : Telemetry Filter) : Except TelemetryError Unit × Telemetry Filter :=
  if t.isReady then (.ok (), meanwhile t)
  else
    match t.install read meanwhile settings with
    | (.ok (), t) => (.ok (), { t with isReady := true })
    | (.error error, t) => (.error error, t)

/-- Makes several attempts, one after the other. -/
def initialiseAll : List Settings → Telemetry Filter →
    List (Except TelemetryError Unit) × Telemetry Filter
  | [], t => ([], t)
  | settings :: rest, t =>
    let (result, t) := t.initialise read id settings
    let (results, t) := initialiseAll rest t
    (result :: results, t)

/-- The lines that the log consists of, for events of a gateway with the given version label,
where `takes` says which events a filter takes. -/
def lines (takes : Filter → Event → Bool) (version : String) (t : Telemetry Filter) :
    List LogLine :=
  match t.subscriber with
  | some (.log filter format) => (t.received.filter (takes filter)).flatMap
      (Event.lines format version)
  | _ => []

end Telemetry

end CompilerGateway
