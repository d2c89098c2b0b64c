import CompilerGateway.Telemetry
import CompilerGateway.Telemetry.Filter

/-!
# The log is set up once

A process makes any number of attempts to set its log up, under settings of their own, and
somebody else takes the place for receiving events at any time – also while an attempt is under
way, which has read its filter by then and has not yet taken the place. What becomes of an
attempt goes by whether the log has been set up, by its own filter and by whether the place is
free when it comes to it (`CompilerGateway.Telemetry.Attempted`). All of this holds for any
language of filters.

From this it follows for every history of a process
(`CompilerGateway.Telemetry.initialised_once`): one attempt at most sets the log up. Those before
it fail, each for its own reason, and leave nothing behind; those after it succeed whatever their
settings are, and do nothing.
-/

namespace CompilerGateway

namespace Telemetry

variable {Filter : Type} (read : String → Except String Filter)

/-! ### One attempt -/

/-- **How an attempt comes out**, by the state in which it comes to take the place. -/
inductive Attempted (settings : Settings) (t : Telemetry Filter) :
    Except TelemetryError Unit × Telemetry Filter → Prop where
  /-- The log has been set up before. -/
  | again : t.isReady = true → Attempted settings t (.ok (), t)
  /-- The filter cannot be read. -/
  | unreadable {reason : String} : t.isReady = false →
    read settings.logFilter = .error reason →
    Attempted settings t (.error (.filter settings.logFilter reason), t)
  /-- Somebody receives the events. -/
  | taken {filter : Filter} {subscriber : Subscriber Filter} : t.isReady = false →
    read settings.logFilter = .ok filter → t.subscriber = some subscriber →
    Attempted settings t (.error .occupied, t)
  /-- The log is set up, and says so. -/
  | installed {filter : Filter} : t.isReady = false →
    read settings.logFilter = .ok filter → t.subscriber = none →
    Attempted settings t (.ok (), ⟨true, some (.log filter settings.logFormat), t.received ++
      [.telemetryStarted settings.logFormat settings.logFilter settings.root]⟩)

theorem attempted_initialise (settings : Settings) (t : Telemetry Filter) :
    Attempted read settings t (t.initialise read id settings) := by
  rw [initialise]
  by_cases ready : t.isReady = true
  · rw [if_pos ready]
    exact .again ready
  · rw [if_neg ready, install]
    have unready := Bool.eq_false_iff.mpr ready
    cases found : read settings.logFilter with
    | error reason => exact .unreadable unready found
    | ok filter =>
      simp only [id]
      cases place : t.subscriber with
      | some subscriber => exact .taken unready found place
      | none => exact .installed unready found place

@[simp] theorem isReady_occupy (t : Telemetry Filter) : t.occupy.isReady = t.isReady := by
  rw [occupy]
  cases t.subscriber <;> rfl

/-- **It does not matter** whether somebody else comes during an attempt or just before it. -/
theorem initialise_occupy (settings : Settings) (t : Telemetry Filter) :
    t.initialise read occupy settings = t.occupy.initialise read id settings := by
  rw [initialise, initialise, isReady_occupy]
  rfl

/-- **Once the log has been set up** an attempt succeeds, whatever its settings are. -/
theorem initialise_of_isReady {t : Telemetry Filter} (ready : t.isReady = true)
    (settings : Settings) : t.initialise read id settings = (.ok (), t) := by
  rw [initialise, if_pos ready, id]

/-! ### Histories -/

/-- **Something that happens in a process** with regard to its log. -/
inductive Turn where
  /-- An attempt to set the log up, which somebody else may interrupt to take the place. -/
  | attempt (settings : Settings) (interrupted : Bool)
  /-- Somebody else takes the place. -/
  | occupy

/-- What somebody else does in the course of an attempt. -/
def meanwhile (interrupted : Bool) : Telemetry Filter → Telemetry Filter :=
  if interrupted then occupy else id

namespace Turn

/-- Whether somebody else comes along. -/
def occupies : Turn → Bool
  | .attempt _ interrupted => interrupted
  | .occupy => true

/-- What becomes of the attempt, if it is one, and the process afterwards. -/
def step : Turn → Telemetry Filter → List (Except TelemetryError Unit) × Telemetry Filter
  | .attempt settings interrupted, t =>
    let (result, t) := t.initialise read (meanwhile interrupted) settings
    ([result], t)
  | .occupy, t => ([], t.occupy)

end Turn

/-- Lets things happen one after the other: what becomes of the attempts, and the process
afterwards. -/
def run : List Turn → Telemetry Filter → List (Except TelemetryError Unit) × Telemetry Filter
  | [], t => ([], t)
  | turn :: rest, t =>
    let (results, t) := turn.step read t
    let (others, t) := run rest t
    (results ++ others, t)

@[simp] theorem run_nil (t : Telemetry Filter) : run read [] t = ([], t) := rfl

@[simp] theorem run_cons (turn : Turn) (rest : List Turn) (t : Telemetry Filter) :
    run read (turn :: rest) t = ((turn.step read t).1 ++ (run read rest (turn.step read t).2).1,
      (run read rest (turn.step read t).2).2) := rfl

/-- An attempt goes on from the state in which it comes to take the place. -/
theorem initialise_meanwhile (interrupted : Bool) (settings : Settings) (t : Telemetry Filter) :
    t.initialise read (meanwhile interrupted) settings =
      (meanwhile interrupted t).initialise read id settings := by
  cases interrupted with
  | false => rfl
  | true => exact initialise_occupy read settings t

/-- Who has the place after somebody else has come along, or has not. -/
def occupant (subscriber : Option (Subscriber Filter)) (comes : Bool) :
    Option (Subscriber Filter) :=
  subscriber.or (if comes then some .foreign else none)

theorem occupant_occupant (subscriber : Option (Subscriber Filter)) (comes follows : Bool) :
    occupant (occupant subscriber comes) follows = occupant subscriber (comes || follows) := by
  cases subscriber <;> cases comes <;> rfl

theorem occupy_eq (t : Telemetry Filter) :
    t.occupy = ⟨t.isReady, occupant t.subscriber true, t.received⟩ := by
  obtain ⟨isReady, _ | subscriber, received⟩ := t <;> rfl

theorem meanwhile_eq (interrupted : Bool) (t : Telemetry Filter) :
    meanwhile interrupted t = ⟨t.isReady, occupant t.subscriber interrupted, t.received⟩ := by
  cases interrupted with
  | false => obtain ⟨isReady, _ | subscriber, received⟩ := t <;> rfl
  | true => exact occupy_eq t

/-- **What one thing does before the log has been set up**: it leaves the process as it was,
but for the place that somebody else may take, or it sets the log up. -/
theorem step_of_not_isReady {t : Telemetry Filter} (unready : t.isReady = false) (turn : Turn) :
    (.ok () ∉ (turn.step read t).1 ∧
      (turn.step read t).2 = ⟨false, occupant t.subscriber turn.occupies, t.received⟩) ∨
    ∃ settings filter, turn = .attempt settings false ∧ t.subscriber = none ∧
      read settings.logFilter = .ok filter ∧
      turn.step read t = ([.ok ()], ⟨true, some (.log filter settings.logFormat), t.received ++
        [.telemetryStarted settings.logFormat settings.logFilter settings.root]⟩) := by
  cases turn with
  | occupy =>
    left
    rw [Turn.step, occupy_eq, unready]
    exact ⟨List.not_mem_nil, rfl⟩
  | attempt settings interrupted =>
    rw [Turn.step, initialise_meanwhile, meanwhile_eq, unready]
    have attempted := attempted_initialise read settings
      ⟨false, occupant t.subscriber interrupted, t.received⟩
    generalize initialise read id settings _ = outcome at attempted ⊢
    cases attempted with
    | again ready => cases ready
    | unreadable => left; exact ⟨by simp, rfl⟩
    | taken => left; exact ⟨by simp, rfl⟩
    | @installed filter _ found free =>
      right
      -- nobody has come along, since the place is free
      obtain ⟨vacant, rfl⟩ : t.subscriber = none ∧ interrupted = false := by
        simpa [occupant] using free
      exact ⟨settings, filter, rfl, vacant, found, rfl⟩

/-- **Afterwards** nothing happens any more, as the place is taken. -/
theorem run_of_isReady {t : Telemetry Filter} (ready : t.isReady = true)
    (taken : t.subscriber ≠ none) (turns : List Turn) :
    (∀ result ∈ (run read turns t).1, result = .ok ()) ∧ (run read turns t).2 = t := by
  obtain ⟨isReady, _ | subscriber, received⟩ := t
  · exact absurd rfl taken
  obtain rfl : isReady = true := ready
  induction turns with
  | nil => exact ⟨by simp, rfl⟩
  | cons turn rest following =>
    let t : Telemetry Filter := ⟨true, some subscriber, received⟩
    have stays : (∀ result ∈ (turn.step read t).1, result = .ok ()) ∧
        (turn.step read t).2 = t := by
      cases turn with
      | occupy => exact ⟨by simp [Turn.step], rfl⟩
      | attempt settings interrupted =>
        rw [Turn.step, initialise_meanwhile, meanwhile_eq, initialise_of_isReady read rfl]
        exact ⟨by simp, rfl⟩
    rw [run_cons, stays.2]
    refine ⟨fun result mem => ?_, following.2⟩
    rcases List.mem_append.mp mem with mem | mem
    · exact stays.1 result mem
    · exact following.1 result mem

/-- **How far a process has come** in which the log had not been set up. -/
inductive Progress (t : Telemetry Filter) (turns : List Turn) : Prop where
  /-- All attempts have failed, and have left nothing behind. -/
  | pending : .ok () ∉ (run read turns t).1 →
    (run read turns t).2 = ⟨false, occupant t.subscriber (turns.any Turn.occupies), t.received⟩ →
    Progress t turns
  /-- One has set the log up, under its own settings, when the place was free. -/
  | ready {before after : List Turn} {settings : Settings} {filter : Filter} :
    turns = before ++ .attempt settings false :: after → .ok () ∉ (run read before t).1 →
    (run read before t).2 = ⟨false, none, t.received⟩ →
    read settings.logFilter = .ok filter → .ok () ∈ (run read turns t).1 →
    (run read turns t).2 = ⟨true, some (.log filter settings.logFormat), t.received ++
      [.telemetryStarted settings.logFormat settings.logFilter settings.root]⟩ →
    Progress t turns

/-- **Every process** has come so far or so far. -/
theorem progress {t : Telemetry Filter} (unready : t.isReady = false) (turns : List Turn) :
    Progress read t turns := by
  induction turns generalizing t with
  | nil =>
    refine .pending List.not_mem_nil ?_
    obtain ⟨isReady, subscriber, received⟩ := t
    obtain rfl : isReady = false := unready
    cases subscriber <;> rfl
  | cons turn rest following =>
    rcases step_of_not_isReady read unready turn with
      ⟨failed, left⟩ | ⟨settings, filter, rfl, free, found, stepped⟩
    · cases following (t := (turn.step read t).2) (by rw [left]) with
      | pending none_ok unchanged =>
        refine .pending (by simp [failed, none_ok]) ?_
        rw [run_cons, unchanged, left, occupant_occupant, List.any_cons]
      | @ready before after settings filter parts none_ok unchanged found some_ok final =>
        have parts : turn :: rest = (turn :: before) ++ .attempt settings false :: after := by
          rw [parts, List.cons_append]
        refine .ready parts (by simp [failed, none_ok]) ?_ found (by simp [some_ok]) ?_
        · rw [run_cons, unchanged, left]
        · rw [run_cons, final, left]
    · have parts : Turn.attempt settings false :: rest =
          [] ++ .attempt settings false :: rest := rfl
      refine .ready parts List.not_mem_nil ?_ found (by simp [stepped]) ?_
      · obtain ⟨isReady, subscriber, received⟩ := t
        rw [run_nil, show isReady = false from unready, show subscriber = none from free]
      · rw [run_cons, stepped]
        exact (run_of_isReady read rfl (Option.some_ne_none _) rest).2

variable {read}

theorem Progress.isReady_iff {t : Telemetry Filter} {turns : List Turn}
    (progress : Progress read t turns) :
    (run read turns t).2.isReady = true ↔ .ok () ∈ (run read turns t).1 := by
  cases progress with
  | pending none_ok unchanged => simp [none_ok, unchanged]
  | ready _ _ _ _ some_ok final => simp [some_ok, final]

variable (read)

/-- **What is due to an attempt** that comes to take the place before the log has been set up:
how it comes out goes by its filter and by the place, and a failure leaves nothing behind. -/
structure Due (settings : Settings) (met : Telemetry Filter)
    (outcome : Except TelemetryError Unit × Telemetry Filter) : Prop where
  /-- It fails for its own filter exactly if that cannot be read. -/
  filter : ∀ text reason, outcome.1 = .error (.filter text reason) ↔
    text = settings.logFilter ∧ read settings.logFilter = .error reason
  /-- It fails for the place exactly if the filter can be read and somebody has it. -/
  occupied : outcome.1 = .error .occupied ↔
    (∃ filter, read settings.logFilter = .ok filter) ∧ met.subscriber ≠ none
  /-- It succeeds exactly if the filter can be read and the place is free. -/
  ok : outcome.1 = .ok () ↔
    (∃ filter, read settings.logFilter = .ok filter) ∧ met.subscriber = none
  /-- Unless it succeeds, nothing changes. -/
  unchanged : outcome.1 ≠ .ok () → outcome.2 = met

theorem due_initialise {t : Telemetry Filter} (unready : t.isReady = false)
    (settings : Settings) : Due read settings t (t.initialise read id settings) := by
  have attempted := attempted_initialise read settings t
  generalize t.initialise read id settings = outcome at attempted ⊢
  cases attempted with
  | again ready => rw [unready] at ready; cases ready
  | unreadable _ found => constructor <;> simp [found, eq_comm]
  | taken _ found taken => constructor <;> simp [found, taken]
  | installed _ found free => constructor <;> simp [found, free]

/-- **The log is set up once**, whatever has happened before an attempt, and whatever filters
there are.

* If an attempt has succeeded before, this one does, and changes nothing.
* Otherwise it fails for its own filter exactly if that cannot be read, for the place exactly if
  it can be and somebody has come to it by then, and succeeds exactly in the remaining case. If it
  fails, the process is as it was, but for somebody else who has taken the place meanwhile.
* Of all attempts one at most has set the log up, and has left the one event of it
  (`CompilerGateway.Telemetry.Progress`). -/
theorem initialised_once {t : Telemetry Filter} (unready : t.isReady = false)
    (past : List Turn) (settings : Settings) (interrupted : Bool) :
    let now := (run read past t).2
    (.ok () ∈ (run read past t).1 →
      now.initialise read (meanwhile interrupted) settings = (.ok (), now)) ∧
    (.ok () ∉ (run read past t).1 →
      Due read settings (meanwhile interrupted now)
        (now.initialise read (meanwhile interrupted) settings) ∧
      meanwhile interrupted now =
        ⟨false, occupant now.subscriber interrupted, now.received⟩) ∧
    Progress read t past := by
  intro now
  have come := progress read unready past
  simp only [initialise_meanwhile, meanwhile_eq]
  refine ⟨fun some_ok => ?_, fun none_ok => ?_, come⟩
  · cases come with
    | pending none_ok => exact absurd some_ok none_ok
    | ready _ _ _ _ _ final =>
      rw [show now = _ from final, initialise_of_isReady read rfl]
      rfl
  · have unready : now.isReady = false :=
      Bool.eq_false_iff.mpr fun ready => none_ok (come.isReady_iff.mp ready)
    rw [unready]
    exact ⟨due_initialise read rfl settings, rfl⟩

/-- In a new process an attempt fails whose filter has no level that is one, a next one sets the
log up, and then the first succeeds as well. -/
theorem initialised_once_fresh :
    let read := LogFilter.parse
    let misspelt : Settings := { Settings.standard with logFilter := "moc_host=nope" }
    let past : List Turn := [.attempt misspelt false, .attempt .standard false]
    let now := (run read past fresh).2
    (fresh : Telemetry LogFilter).isReady = false ∧
    read misspelt.logFilter = .error FilterFault.level.message ∧
    Due read misspelt fresh (fresh.initialise read id misspelt) ∧
    .ok () ∈ (run read past fresh).1 ∧
    now.initialise read (meanwhile true) misspelt = (.ok (), now) := by
  intro read misspelt past now
  have unreadable : read misspelt.logFilter = .error FilterFault.level.message :=
    show LogFilter.parse "moc_host=nope" = .error FilterFault.level.message from rfl
  have readable : read Settings.standard.logFilter =
      .ok [⟨"", none, 2⟩, ⟨"moc_host", none, 3⟩] := rfl
  have some_ok : .ok () ∈ (run read past fresh).1 := by
    simp [past, Turn.step, initialise, install, meanwhile, fresh, unreadable, readable]
  exact ⟨rfl, unreadable, ((initialised_once read rfl [] misspelt false).2.1 List.not_mem_nil).1,
    some_ok, (initialised_once read rfl past misspelt true).1 some_ok⟩

end Telemetry

end CompilerGateway
