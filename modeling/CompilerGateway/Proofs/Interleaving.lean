import CompilerGateway.Proofs.ByteOrder
import CompilerGateway.Proofs.Loading

/-!
# Fetches in any order

Which fetch begins or ends when is up to the moves that a window is handed, and yet there is
little that depends on them. What has happened so far is a list of milestones, from which one
can tell which fetches have begun, which have ended and which are under way
(`CompilerGateway.Window.begun`, `CompilerGateway.Window.ended`,
`CompilerGateway.Window.underWay`).

* Whatever the moves are, at no moment are more fetches under way than there is room for, and
  they begin in the order of the names (`CompilerGateway.Window.Respects`).
* The milestones determine the window (`CompilerGateway.Window.Tallies`). As long as a request
  has not ended and none has failed, the window holds a fetch that is under way or may begin.
* If no fetch fails, the packages are the same for any moves and any room; if one does, the
  first to end with an error is the last thing that happens.

`CompilerGateway.Gateway.load_of_any_moves` says so of loads.
-/

namespace CompilerGateway

/-! ### What has happened so far -/

/-- The fetch that begins, if one does. -/
def Milestone.begun? : Milestone → Option (String × Descriptor)
  | .started name descriptor => some (name, descriptor)
  | .finished _ _ => none

/-- The fetch that ends, if one does. -/
def Milestone.ended? : Milestone → Option (String × Descriptor)
  | .started _ _ => none
  | .finished name descriptor => some (name, descriptor)

namespace Window

/-- The fetches that have begun, in this order. -/
def begun (milestones : List Milestone) : List (String × Descriptor) :=
  milestones.filterMap Milestone.begun?

/-- The fetches that have ended, in this order. -/
def ended (milestones : List Milestone) : List (String × Descriptor) :=
  milestones.filterMap Milestone.ended?

/-- The fetches that have begun and not ended. -/
def underWay (milestones : List Milestone) : List (String × Descriptor) :=
  (begun milestones).filter fun request => request ∉ ended milestones

variable {past later : List Milestone} {name : String} {descriptor : Descriptor}

@[simp] theorem begun_started :
    begun (past ++ [.started name descriptor]) = begun past ++ [(name, descriptor)] := by
  rw [begun, List.filterMap_append]
  rfl

@[simp] theorem begun_finished : begun (past ++ [.finished name descriptor]) = begun past := by
  rw [begun, List.filterMap_append]
  exact List.append_nil _

@[simp] theorem ended_started : ended (past ++ [.started name descriptor]) = ended past := by
  rw [ended, List.filterMap_append]
  exact List.append_nil _

@[simp] theorem ended_finished :
    ended (past ++ [.finished name descriptor]) = ended past ++ [(name, descriptor)] := by
  rw [ended, List.filterMap_append]
  rfl

theorem mem_ended_iff {milestones : List Milestone} :
    (name, descriptor) ∈ ended milestones ↔ .finished name descriptor ∈ milestones := by
  rw [ended, List.mem_filterMap]
  constructor
  · rintro ⟨milestone, mem, same⟩
    cases milestone with
    | started => cases same
    | finished other asked =>
      obtain ⟨rfl, rfl⟩ := Prod.mk.inj (Option.some.inj same)
      exact mem
  · exact fun mem => ⟨_, mem, rfl⟩

theorem mem_underWay_iff {milestones : List Milestone} {request : String × Descriptor} :
    request ∈ underWay milestones ↔ request ∈ begun milestones ∧ request ∉ ended milestones := by
  rw [underWay, List.mem_filter, decide_eq_true_iff]

theorem underWay_started (notEnded : (name, descriptor) ∉ ended past) :
    underWay (past ++ [.started name descriptor]) = underWay past ++ [(name, descriptor)] := by
  rw [underWay, begun_started, ended_started, List.filter_append, ← underWay]
  simp [notEnded]

theorem underWay_finished (past : List Milestone) (name : String) (descriptor : Descriptor) :
    underWay (past ++ [.finished name descriptor]) =
      (underWay past).filter fun request => request ≠ (name, descriptor) := by
  rw [underWay, underWay, begun_finished, ended_finished, List.filter_filter]
  refine List.filter_congr fun request _ => ?_
  rw [Bool.eq_iff_iff]
  simp only [Bool.and_eq_true, decide_eq_true_iff, List.mem_append, List.mem_singleton, not_or,
    ne_eq]
  exact and_comm

/-! ### Room and order -/

variable {limit : Nat} {requested : Table Descriptor}

/-- **What has happened respects the window**: how many fetches may be under way, and in which
order they begin. -/
structure Respects (limit : Nat) (requested : Table Descriptor) (milestones : List Milestone) :
    Prop where
  /-- No more are under way than there is room for. -/
  room : (underWay milestones).length ≤ limit
  /-- Fetches begin in the order of the names, each once. -/
  begun : begun milestones <+: requested.entries
  /-- Only what has begun ends. -/
  ended : ∀ request ∈ ended milestones, request ∈ Window.begun milestones
  /-- It ends once. -/
  once : (Window.ended milestones).Nodup

/-- The end of a fetch that was under way. -/
theorem Respects.finished (respects : Respects limit requested past)
    (mem : (name, descriptor) ∈ underWay past) :
    Respects limit requested (past ++ [.finished name descriptor]) := by
  obtain ⟨hasBegun, notEnded⟩ := mem_underWay_iff.mp mem
  refine ⟨?_, ?_, ?_, ?_⟩
  · rw [underWay_finished]
    exact Nat.le_trans (List.length_filter_le _ _) respects.room
  · rw [begun_finished]
    exact respects.begun
  · rw [begun_finished, ended_finished]
    intro request mem'
    rcases List.mem_append.mp mem' with mem' | mem'
    · exact respects.ended request mem'
    · rwa [List.mem_singleton.mp mem']
  · rw [ended_finished, List.nodup_append]
    refine ⟨respects.once, List.pairwise_singleton _ _, fun request mem' other single => ?_⟩
    rw [List.mem_singleton.mp single]
    rintro rfl
    exact notEnded mem'

/-! ### The window after milestones -/

/-- **The milestones determine the window** that they lead to from its opening. -/
structure Tallies (limit : Nat) (requested : Table Descriptor) (milestones : List Milestone)
    (w : Window) : Prop extends Respects limit requested milestones where
  /-- The room does not change. -/
  limit : w.room = limit
  /-- What has not begun waits. -/
  waiting : Window.begun milestones ++ w.waiting = requested.entries
  /-- What has begun and not ended is under way. -/
  running : w.running = underWay milestones

variable {fetch : String → Descriptor → Except FetchError FetchedPackage} {w next : Window}

theorem tallies_opening (room : Nat) (requested : Table Descriptor) :
    Tallies room requested [] (opening room requested) where
  room := Nat.zero_le _
  begun := List.nil_prefix
  ended _ mem := absurd mem List.not_mem_nil
  once := List.nodup_nil
  limit := rfl
  waiting := rfl
  running := rfl

namespace Tallies

theorem started (tallies : Tallies limit requested past w) {rest : List (String × Descriptor)}
    (waiting_eq : w.waiting = (name, descriptor) :: rest) (room : w.running.length < w.room) :
    Tallies limit requested (past ++ [.started name descriptor])
      { w with waiting := rest, running := w.running ++ [(name, descriptor)] } := by
  have entries_eq := tallies.waiting
  rw [waiting_eq] at entries_eq
  -- it has not begun before, hence not ended
  have fresh : (name, descriptor) ∉ Window.begun past := by
    have distinct : requested.entries.Nodup :=
      requested.sorted.imp fun less same => String.ne_of_lt less (congrArg Prod.fst same)
    rw [← entries_eq, List.nodup_append] at distinct
    exact fun mem => distinct.2.2 _ mem _ List.mem_cons_self rfl
  have notEnded : (name, descriptor) ∉ Window.ended past :=
    fun mem => fresh (tallies.ended _ mem)
  have underWay_eq := underWay_started notEnded
  refine ⟨⟨?_, ?_, ?_, ?_⟩, tallies.limit, ?_, ?_⟩
  · rw [underWay_eq, ← tallies.running, List.length_append, ← tallies.limit]
    exact room
  · rw [begun_started]
    exact ⟨rest, by rw [← entries_eq, List.append_assoc]; rfl⟩
  · rw [begun_started, ended_started]
    exact fun request mem => List.mem_append_left _ (tallies.ended request mem)
  · rw [ended_started]
    exact tallies.once
  · rw [begun_started, ← entries_eq, List.append_assoc]
    rfl
  · rw [underWay_eq, ← tallies.running]

/-- What is under way was requested, so its name tells it from all else that was. -/
theorem eq_of_mem_begun (tallies : Tallies limit requested past w)
    {request other : String × Descriptor} (mem : request ∈ Window.begun past)
    (mem' : other ∈ Window.begun past) (same : request.1 = other.1) : request = other := by
  have found := Table.mem_entries_iff.mp (tallies.begun.subset mem)
  have found' := Table.mem_entries_iff.mp (tallies.begun.subset mem')
  rw [same] at found
  exact Prod.ext same (Option.some.inj (found.symm.trans found'))

theorem finished (tallies : Tallies limit requested past w) (mem : (name, descriptor) ∈ w.running)
    (collected : Table FetchedPackage) :
    Tallies limit requested (past ++ [.finished name descriptor])
      { w with
        running := w.running.filter fun request => request.1 != name
        collected := collected } := by
  rw [tallies.running] at mem
  refine ⟨tallies.toRespects.finished mem, tallies.limit, ?_, ?_⟩
  · rw [begun_finished]
    exact tallies.waiting
  · -- the window looks for the name, the milestones for the request
    rw [tallies.running, underWay_finished]
    refine List.filter_congr fun request mem' => ?_
    have name_iff : request.1 = name ↔ request = (name, descriptor) :=
      ⟨tallies.eq_of_mem_begun (mem_underWay_iff.mp mem').1 (mem_underWay_iff.mp mem).1,
        congrArg Prod.fst⟩
    rw [Bool.eq_iff_iff, bne_iff_ne, decide_eq_true_iff]
    exact not_congr name_iff

/-- **A move that goes well keeps the tally.** -/
theorem step (tallies : Tallies limit requested past w) {move : Move} {milestone : Milestone}
    (possible : w.move? fetch move = some (milestone, .ok next)) :
    Tallies limit requested (past ++ [milestone]) next := by
  rcases move?_ok possible with ⟨name, descriptor, rest, waiting_eq, room, rfl, rfl⟩ |
    ⟨name, descriptor, package, mem, rfl, -, rfl⟩
  · exact tallies.started waiting_eq room
  · exact tallies.finished mem _

/-- **So does a window that comes to be another one.** -/
theorem reaches (tallies : Tallies limit requested [] w) (reaches : Reaches fetch w past next) :
    Tallies limit requested past next := by
  induction reaches with
  | refl => exact tallies
  | step _ possible ih => exact ih.step possible

/-- **No more than the room is taken**, by fetches under way and by such as may begin. -/
theorem length_inFlight_le (tallies : Tallies limit requested past w) :
    w.inFlight.length ≤ limit := by
  have fits : w.running.length ≤ w.room := by
    rw [tallies.running, tallies.limit]
    exact tallies.room
  rw [inFlight, List.length_append, List.length_take, ← tallies.limit]
  omega

/-- **There is something to wait for** as long as a request has not ended: a fetch has a place
in the window, and if none is under way, the next one can begin. -/
theorem exists_inFlight (tallies : Tallies limit requested past w) (room : 0 < limit)
    {request : String × Descriptor} (asked : request ∈ requested.entries)
    (pending : request ∉ Window.ended past) :
    w.inFlight ≠ [] ∧ (underWay past = [] → ∃ name descriptor after,
      w.move? fetch .start = some (.started name descriptor, .ok after)) := by
  have isOpen : 0 < w.room := tallies.limit.symm ▸ room
  cases running_eq : w.running with
  | cons first others =>
    have busy : underWay past ≠ [] := by
      rw [← tallies.running, running_eq]
      exact List.cons_ne_nil _ _
    exact ⟨by simp [inFlight, running_eq], fun idle => absurd idle busy⟩
  | nil =>
    -- the request has not begun, or it would be under way
    have idle : underWay past = [] := tallies.running.symm.trans running_eq
    have mem : request ∈ w.waiting := by
      rw [← tallies.waiting] at asked
      refine (List.mem_append.mp asked).resolve_left fun hasBegun => ?_
      exact List.not_mem_nil (idle ▸ mem_underWay_iff.mpr ⟨hasBegun, pending⟩)
    cases waiting_eq : w.waiting with
    | nil =>
      rw [waiting_eq] at mem
      cases mem
    | cons first rest =>
      refine ⟨?_, fun _ => ⟨first.1, first.2,
        { w with waiting := rest, running := w.running ++ [first] }, ?_⟩⟩
      · simp [inFlight, running_eq, waiting_eq, Nat.pos_iff_ne_zero.mp isOpen]
      · simp [move?, start?, running_eq, waiting_eq, isOpen]

end Tallies

/-! ### Every moment of a run -/

/-- Whatever has been reached has been reached by way of all that happened before. -/
theorem Reaches.exists_of_append (reached : Reaches fetch w (past ++ later) next) :
    ∃ middle, Reaches fetch w past middle := by
  generalize split : past ++ later = milestones at reached
  induction reached generalizing later with
  | refl =>
    obtain ⟨rfl, -⟩ := List.append_eq_nil_iff.mp split
    exact ⟨w, .refl⟩
  | step reached possible ih =>
    rcases List.eq_nil_or_concat later with rfl | ⟨front, last, rfl⟩
    · rw [List.append_nil] at split
      exact ⟨_, split ▸ reached.step possible⟩
    · rw [List.concat_eq_append, ← List.append_assoc] at split
      exact ih (List.append_inj' split rfl).1

/-- **What has happened at a moment of a run** either has led to a window, or is all that
happens, the last of it being an end by an error. -/
theorem Brings.moment {moves : List Move} {milestones : List Milestone} {harvest : Harvest}
    (brings : Brings fetch w moves milestones harvest) (split : milestones = past ++ later) :
    (∃ middle, Reaches fetch w past middle) ∨
      ∃ before middle name descriptor error, Reaches fetch w before middle ∧
        (name, descriptor) ∈ middle.running ∧ fetch name descriptor = .error error ∧
        past = before ++ [.finished name descriptor] ∧ later = [] := by
  cases brings with
  | complete reached _ => exact .inl (split ▸ reached).exists_of_append
  | abandoned reached _ _ => exact .inl (split ▸ reached).exists_of_append
  | failed reached fails =>
    rcases List.eq_nil_or_concat later with rfl | ⟨front, last, rfl⟩
    · rw [List.append_nil] at split
      obtain ⟨name, descriptor, mem, rfl, failed⟩ := move?_error fails
      exact .inr ⟨_, _, name, descriptor, _, reached, mem, failed, split.symm, rfl⟩
    · rw [List.concat_eq_append, ← List.append_assoc] at split
      exact .inl ((List.append_inj' split rfl).1 ▸ reached).exists_of_append

/-- What has ended on the way to a window has ended with a package. -/
theorem Reaches.isOk_of_mem_ended (reached : Reaches fetch w past next)
    (mem : (name, descriptor) ∈ ended past) : ∃ package, fetch name descriptor = .ok package := by
  induction reached with
  | refl => cases mem
  | step _ possible ih =>
    rcases move?_ok possible with ⟨_, _, _, _, _, rfl, _⟩ | ⟨_, _, package, _, rfl, fetched, _⟩
    · rw [ended_started] at mem
      exact ih mem
    · rw [ended_finished] at mem
      rcases List.mem_append.mp mem with mem | mem
      · exact ih mem
      · obtain ⟨rfl, rfl⟩ := Prod.mk.inj (List.mem_singleton.mp mem)
        exact ⟨package, fetched⟩

/-- **Every moment of a run respects the window**, and unless a fetch has failed, the window at
that moment has been reached. -/
theorem respects_run {room : Nat} {moves : List Move} {milestones : List Milestone}
    {harvest : Harvest}
    (brought : run fetch moves (opening room requested) = (milestones, harvest))
    (split : milestones = past ++ later) :
    Respects room requested past ∧
      ((∀ name descriptor, (name, descriptor) ∈ ended past →
          ∃ package, fetch name descriptor = .ok package) →
        ∃ middle, Reaches fetch (opening room requested) past middle) := by
  have brings := brings_run fetch moves (opening room requested)
  rw [brought] at brings
  -- no window is reached by the end of a fetch that fails, only the one before it
  rcases brings.moment split with ⟨middle, reached⟩ |
    ⟨before, middle, name, descriptor, error, reached, mem, fails, rfl, -⟩
  · have tallies := (tallies_opening room requested).reaches reached
    exact ⟨tallies.toRespects, fun _ => ⟨middle, reached⟩⟩
  · have tallies := (tallies_opening room requested).reaches reached
    rw [tallies.running] at mem
    refine ⟨tallies.toRespects.finished mem, fun allOk => ?_⟩
    obtain ⟨package, isOk⟩ := allOk name descriptor (mem_ended_iff.mpr (by simp))
    cases fails.symm.trans isOk

/-- **The first fetch to end with an error is the last thing that happens.** -/
theorem exists_of_failed_run {room : Nat} {moves : List Move} {milestones : List Milestone}
    {error : FetchError}
    (brought : run fetch moves (opening room requested) = (milestones, .failed error)) :
    ∃ past name descriptor, milestones = past ++ [.finished name descriptor] ∧
      (name, descriptor) ∈ underWay past ∧ fetch name descriptor = .error error ∧
      ∀ other asked, (other, asked) ∈ ended past → ∃ package, fetch other asked = .ok package := by
  have brings := brings_run fetch moves (opening room requested)
  rw [brought] at brings
  cases brings with
  | failed reached fails =>
    have tallies := (tallies_opening room requested).reaches reached
    obtain ⟨name, descriptor, mem, rfl, failed⟩ := move?_error fails
    exact ⟨_, name, descriptor, rfl, tallies.running ▸ mem, failed,
      fun other asked mem' => reached.isOk_of_mem_ended mem'⟩

end Window

/-! ### Loads -/

namespace Gateway

variable {σ : Type} [Backend σ]

/-- The packages that fetches bring, those that fail left out. -/
def fetchable (fetcher : Fetcher) (requested : Table Descriptor) : Table FetchedPackage :=
  requested.filterMap fun name descriptor => (fetcher.fetch (some name) descriptor).toOption

theorem find?_fetchable {fetcher : Fetcher} {requested : Table Descriptor} {name : String}
    {package : FetchedPackage} : (fetchable fetcher requested).find? name = some package ↔
      ∃ descriptor, requested.find? name = some descriptor ∧
        fetcher.fetch (some name) descriptor = .ok package := by
  rw [fetchable, Table.find?_filterMap, Option.bind_eq_some_iff]
  refine exists_congr fun descriptor => and_congr_right fun _ => ?_
  cases fetcher.fetch (some name) descriptor <;> simp [Except.toOption]

section Loads

variable {g : Gateway σ} {fetcher : Fetcher} {requests : List (String × Descriptor)}
  {moves : List Move} {past later : List Milestone}

theorem room_eq (s : Settings) : s.room = max 1 s.fetchConcurrency.toNat := Nat.max_comm _ _

/-- **Every moment of a load**: the window is respected, and there is something to wait for as
long as a request has not ended and none has failed. -/
theorem load_respects (named : nameFailure? (Table.ofList requests) = none)
    (split : (g.load fetcher requests moves).milestones = past ++ later) :
    Window.Respects (max 1 g.settings.fetchConcurrency.toNat) (Table.ofList requests) past ∧
      ((∀ name descriptor, (name, descriptor) ∈ Window.ended past →
          ∃ package, fetcher.fetch (some name) descriptor = .ok package) →
        ∃ w, Window.Reaches (fun name => fetcher.fetch (some name))
            (Window.opening g.settings.room (Table.ofList requests)) past w ∧
          w.running = Window.underWay past ∧
          w.inFlight.length ≤ max 1 g.settings.fetchConcurrency.toNat ∧
          ∀ request ∈ (Table.ofList requests).entries, request ∉ Window.ended past →
            w.inFlight ≠ [] ∧ (Window.underWay past = [] → ∃ name descriptor after,
              w.move? (fun name => fetcher.fetch (some name)) .start =
                some (.started name descriptor, .ok after))) := by
  rcases fetched : g.fetching fetcher requests moves with ⟨milestones, harvest⟩
  rw [milestones_load named, fetched] at split
  obtain ⟨respects, onOk⟩ := Window.respects_run fetched split
  rw [room_eq] at respects
  refine ⟨respects, fun allOk => ?_⟩
  obtain ⟨w, reached⟩ := onOk allOk
  have tallies := (Window.tallies_opening g.settings.room _).reaches reached
  refine ⟨w, reached, tallies.running, ?_,
    fun request asked pending => tallies.exists_inFlight g.settings.room_pos asked pending⟩
  rw [← room_eq]
  exact tallies.length_inFlight_le

/-- **If no fetch fails**, a load that is waited for has fetched everything. -/
theorem load_of_allOk (named : nameFailure? (Table.ofList requests) = none)
    (awaited : (g.load fetcher requests moves).result ≠ none)
    (allOk : ∀ name descriptor, (name, descriptor) ∈ (Table.ofList requests).entries →
      ∃ package, fetcher.fetch (some name) descriptor = .ok package) :
    g.fetching fetcher requests moves = ((g.load fetcher requests moves).milestones,
      .complete (fetchable fetcher (Table.ofList requests))) := by
  rcases fetched : g.fetching fetcher requests moves with ⟨milestones, harvest⟩
  cases harvest with
  | abandoned =>
    rw [load_of_abandoned named fetched] at awaited
    exact absurd rfl awaited
  | failed error =>
    obtain ⟨name, descriptor, found, fails⟩ := Window.failed_run_opening fetched
    obtain ⟨package, isOk⟩ := allOk name descriptor (Table.mem_entries_iff.mpr found)
    cases fails.symm.trans isOk
  | complete packages =>
    have packages_eq : packages = fetchable fetcher (Table.ofList requests) :=
      Table.ext_find? fun name => Option.ext fun package => by
        rw [(Window.complete_run_opening fetched).2, find?_fetchable]
    rw [load_of_complete named fetched, packages_eq]

/-- **If a fetch fails**, a load that is waited for fails with the first that does. -/
theorem load_of_exists_error (named : nameFailure? (Table.ofList requests) = none)
    (awaited : (g.load fetcher requests moves).result ≠ none) {name : String}
    {descriptor : Descriptor} {error : FetchError}
    (mem : (name, descriptor) ∈ (Table.ofList requests).entries)
    (fails : fetcher.fetch (some name) descriptor = .error error) :
    ∃ past name descriptor error,
      (g.load fetcher requests moves).milestones = past ++ [.finished name descriptor] ∧
      (name, descriptor) ∈ Window.underWay past ∧
      fetcher.fetch (some name) descriptor = .error error ∧
      (∀ other asked, (other, asked) ∈ Window.ended past →
        ∃ package, fetcher.fetch (some other) asked = .ok package) ∧
      (g.load fetcher requests moves).result = some (.error (.notFetched error)) := by
  rcases fetched : g.fetching fetcher requests moves with ⟨milestones, harvest⟩
  cases harvest with
  | abandoned =>
    rw [load_of_abandoned named fetched] at awaited
    exact absurd rfl awaited
  | complete packages =>
    obtain ⟨-, package, isOk⟩ :=
      (Window.complete_run_opening fetched).1 name descriptor (Table.mem_entries_iff.mp mem)
    cases fails.symm.trans isOk
  | failed error =>
    obtain ⟨past, name, descriptor, rfl, underWay, failed, others⟩ :=
      Window.exists_of_failed_run fetched
    rw [load_of_failed named fetched]
    exact ⟨past, name, descriptor, error, rfl, underWay, failed, others, rfl⟩

end Loads

/-- **Loads fetch alike for any moves.** Whatever begins and ends when, what is fetched are the
requests by their last descriptors, in the order of the names. At no moment are there more
fetches under way than the settings have room for, which is one at least; each begins once, and
ends once if it does; and as long as a request has not ended and none has failed there is one
with a place in the window, so that a load that is waited for comes to its end.

If no fetch fails, then what is installed does not depend on the moves, nor on the room. If one
fails, the load fails with the error of the first that does, and nothing happens to any fetch
after that. -/
theorem load_of_any_moves (g : Gateway σ) (fetcher : Fetcher)
    (requests : List (String × Descriptor)) (moves : List Move) :
    let fetch name := fetcher.fetch (some name)
    let requested := Table.ofList requests
    let packages := fetchable fetcher requested
    let limit := max 1 g.settings.fetchConcurrency.toNat
    let loading := g.load fetcher requests moves
    (∀ name descriptor, (name, descriptor) ∈ requested.entries ↔
      requests.reverse.lookup name = some descriptor) ∧
    (∀ name package, packages.find? name = some package ↔ ∃ descriptor,
      (name, descriptor) ∈ requested.entries ∧ fetch name descriptor = .ok package) ∧
    (requested.names.Pairwise fun name other => Text.bytes name < Text.bytes other) ∧
    (∀ failure, nameFailure? requested = some failure →
      loading = ⟨some (.error failure), [], g⟩) ∧
    (nameFailure? requested = none →
      (∀ past later, loading.milestones = past ++ later →
        Window.Respects limit requested past ∧
        ((∀ name descriptor, (name, descriptor) ∈ Window.ended past →
            ∃ package, fetch name descriptor = .ok package) →
          ∃ w, Window.Reaches fetch (Window.opening g.settings.room requested) past w ∧
            w.running = Window.underWay past ∧ w.inFlight.length ≤ limit ∧
            ∀ request ∈ requested.entries, request ∉ Window.ended past →
              w.inFlight ≠ [] ∧ (Window.underWay past = [] → ∃ name descriptor after,
                w.move? fetch .start = some (.started name descriptor, .ok after)))) ∧
      (loading.result = none → ∃ move milestone,
        (g.load fetcher requests (moves ++ [move])).milestones =
          loading.milestones ++ [milestone]) ∧
      (loading.result ≠ none →
        ((∀ name descriptor, (name, descriptor) ∈ requested.entries →
            ∃ package, fetch name descriptor = .ok package) →
          g.fetching fetcher requests moves = (loading.milestones, .complete packages) ∧
          loading.result =
            some ((g.logAll (loading.milestones.flatMap fetcher.events)).install packages).1) ∧
        ((∃ name descriptor error, (name, descriptor) ∈ requested.entries ∧
            fetch name descriptor = .error error) →
          ∃ past name descriptor error, loading.milestones = past ++ [.finished name descriptor] ∧
            (name, descriptor) ∈ Window.underWay past ∧ fetch name descriptor = .error error ∧
            (∀ other asked, (other, asked) ∈ Window.ended past →
              ∃ package, fetch other asked = .ok package) ∧
            loading.result = some (.error (.notFetched error))))) := by
  intro fetch requested packages limit loading
  refine ⟨fun name descriptor => ?_, fun name package => ?_, requested.pairwise_bytes,
    fun _ bad => load_of_badName bad, fun named => ⟨fun past later => load_respects named,
      fun givenUp => (load_of_givenUp givenUp).2, fun awaited => ⟨fun allOk => ?_, ?_⟩⟩⟩
  · rw [Table.mem_entries_iff, Table.find?_ofList]
  · simp only [Table.mem_entries_iff]
    exact find?_fetchable
  · have fetched := load_of_allOk named awaited allOk
    exact ⟨fetched, congrArg Loading.result (load_of_complete named fetched)⟩
  · rintro ⟨name, descriptor, error, mem, fails⟩
    exact load_of_exists_error named awaited mem fails

/-- Settings that would let none be fetched at once: one is. The second of three fetches fails,
and the third never begins. -/
theorem load_of_any_moves_one_by_one :
    let fetcher := Fetcher.quiet fun
      | .directory "core" => .error (.unsupported "core")
      | _ => .ok ⟨"any", "1", .empty⟩
    let requests := [("time", Descriptor.directory "time"), ("core", .directory "core"),
      ("base", .directory "base")]
    let moves : List Move := [.start, .start, .finish "base", .start, .finish "core", .start]
    let g : Gateway Earnest :=
      ⟨"0.14.0", { Settings.standard with fetchConcurrency := 0 }, none, .empty, []⟩
    let loading := g.load fetcher requests moves
    nameFailure? (Table.ofList requests) = none ∧ loading.result ≠ none ∧
      loading.milestones = [.started "base" (.directory "base"),
        .finished "base" (.directory "base"), .started "core" (.directory "core"),
        .finished "core" (.directory "core")] ∧
      Window.Respects 1 (Table.ofList requests) loading.milestones ∧
      loading.result = some (.error (.notFetched (.unsupported "core"))) ∧
      ∃ w, Window.Reaches (fun name => fetcher.fetch (some name))
          (Window.opening 1 (Table.ofList requests)) (loading.milestones.take 2) w ∧
        w.inFlight ≠ [] ∧ w.inFlight.length ≤ 1 := by
  intro fetcher requests moves g loading
  have named : nameFailure? (Table.ofList requests) = none := by decide +kernel
  have awaited : loading.result ≠ none := by
    rw [← Option.isSome_iff_ne_none]
    decide +kernel
  have milestones_eq : loading.milestones = [.started "base" (.directory "base"),
      .finished "base" (.directory "base"), .started "core" (.directory "core"),
      .finished "core" (.directory "core")] := by
    decide +kernel
  obtain ⟨-, -, -, -, onNamed⟩ := g.load_of_any_moves fetcher requests moves
  obtain ⟨moments, -, onAwaited⟩ := onNamed named
  have respects := (moments loading.milestones [] (List.append_nil _).symm).1
  have mem : ("core", Descriptor.directory "core") ∈ (Table.ofList requests).entries := by
    decide +kernel
  refine ⟨named, awaited, milestones_eq, respects, ?_, ?_⟩
  · obtain ⟨past, name, descriptor, error, split, -, failed, -, result_eq⟩ :=
      (onAwaited awaited).2 ⟨_, _, _, mem, rfl⟩
    have last := congrArg List.getLast? (milestones_eq.symm.trans split)
    rw [List.getLast?_concat] at last
    obtain ⟨rfl, rfl⟩ := Milestone.finished.inj (Option.some.inj last)
    obtain rfl := Except.error.inj failed
    exact result_eq
  · have ended_eq : Window.ended (loading.milestones.take 2) = [("base", .directory "base")] := by
      rw [milestones_eq]
      rfl
    obtain ⟨-, onOk⟩ := moments (loading.milestones.take 2) (loading.milestones.drop 2)
      (List.take_append_drop 2 _).symm
    rw [ended_eq] at onOk
    obtain ⟨w, reached, -, fits, waits⟩ := onOk fun name descriptor mem' => by
      obtain ⟨rfl, rfl⟩ := Prod.mk.inj (List.mem_singleton.mp mem')
      exact ⟨_, rfl⟩
    exact ⟨w, reached, (waits _ mem (by decide +kernel)).1, fits⟩

end Gateway

end CompilerGateway
