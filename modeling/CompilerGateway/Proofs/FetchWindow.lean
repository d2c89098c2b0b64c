import CompilerGateway.Package.Window

/-!
# What a window comes to

A window makes the moves that are possible at their turn. This file says what is true of it
whichever they are.

* `CompilerGateway.Window.move?_cases` – what a single move can do.
* `CompilerGateway.Window.Reaches` – a window comes to be another one by moves, none of which
  ends a fetch by an error; `CompilerGateway.Window.brings_run` says of each harvest which
  windows have been reached when it is brought in.
* `CompilerGateway.Window.Covers` – the invariant: each request waits, is under way, or has
  ended with a package that is kept under its name, and nothing else is kept.

From the invariant follows what a harvest means
(`CompilerGateway.Window.complete_run_opening`, `CompilerGateway.Window.failed_run_opening`),
and that there is one if things only go on: as long as there is none, some move is possible,
and no more than two are for each request (`CompilerGateway.Window.abandoned_run_opening`,
`CompilerGateway.Window.length_milestones_le`).
-/

namespace CompilerGateway

namespace Window

variable {fetch : String → Descriptor → Except FetchError FetchedPackage}

/-! ### Single moves -/

/-- **What a move can do**: let the first fetch that waits begin, where there is room, or end
one that is under way. -/
theorem move?_cases {w : Window} {move : Move} {milestone : Milestone}
    {result : Except FetchError Window} (possible : w.move? fetch move = some (milestone, result)) :
    (∃ name descriptor rest, w.waiting = (name, descriptor) :: rest ∧
      w.running.length < w.room ∧ milestone = .started name descriptor ∧
      result = .ok { w with waiting := rest, running := w.running ++ [(name, descriptor)] }) ∨
    (∃ name descriptor, (name, descriptor) ∈ w.running ∧ milestone = .finished name descriptor ∧
      result = (fetch name descriptor).map fun package =>
        { w with
          running := w.running.filter fun request => request.1 != name
          collected := w.collected.insert name package }) := by
  cases move with
  | start =>
    left
    rw [move?, start?] at possible
    cases waiting_eq : w.waiting with
    | nil => simp [waiting_eq] at possible
    | cons request rest =>
      obtain ⟨name, descriptor⟩ := request
      by_cases room : w.running.length < w.room
      · simp only [waiting_eq, room, if_true, Option.map_some, Option.some.injEq,
          Prod.mk.injEq] at possible
        obtain ⟨rfl, rfl⟩ := possible
        exact ⟨name, descriptor, rest, rfl, room, rfl, rfl⟩
      · simp [waiting_eq, room] at possible
  | finish name =>
    right
    rw [move?, finish?] at possible
    split at possible
    · cases possible
    · rename_i other descriptor found
      obtain rfl : other = name := by simpa using List.find?_some found
      obtain ⟨rfl, rfl⟩ := Prod.mk.inj (Option.some.inj possible)
      exact ⟨other, descriptor, List.mem_of_find?_eq_some found, rfl, rfl⟩

/-- What a move has done that goes well: a fetch that it has ended has brought a package. -/
theorem move?_ok {w next : Window} {move : Move} {milestone : Milestone}
    (possible : w.move? fetch move = some (milestone, .ok next)) :
    (∃ name descriptor rest, w.waiting = (name, descriptor) :: rest ∧
      w.running.length < w.room ∧ milestone = .started name descriptor ∧
      next = { w with waiting := rest, running := w.running ++ [(name, descriptor)] }) ∨
    (∃ name descriptor package, (name, descriptor) ∈ w.running ∧
      milestone = .finished name descriptor ∧ fetch name descriptor = .ok package ∧
      next = { w with
        running := w.running.filter fun request => request.1 != name
        collected := w.collected.insert name package }) := by
  rcases move?_cases possible with ⟨name, descriptor, rest, waiting_eq, room, milestone_eq,
    result_eq⟩ | ⟨name, descriptor, mem, milestone_eq, result_eq⟩
  · exact .inl ⟨name, descriptor, rest, waiting_eq, room, milestone_eq, Except.ok.inj result_eq⟩
  · cases fetched : fetch name descriptor with
    | error error =>
      rw [fetched] at result_eq
      cases result_eq
    | ok package =>
      rw [fetched] at result_eq
      exact .inr ⟨name, descriptor, package, mem, milestone_eq, fetched, Except.ok.inj result_eq⟩

/-- What a move has done that ends in an error: it has ended a fetch that was under way. -/
theorem move?_error {w : Window} {move : Move} {milestone : Milestone} {error : FetchError}
    (fails : w.move? fetch move = some (milestone, .error error)) :
    ∃ name descriptor, (name, descriptor) ∈ w.running ∧ milestone = .finished name descriptor ∧
      fetch name descriptor = .error error := by
  rcases move?_cases fails with ⟨_, _, _, _, _, _, result_eq⟩ |
    ⟨name, descriptor, mem, milestone_eq, result_eq⟩
  · cases result_eq
  · refine ⟨name, descriptor, mem, milestone_eq, ?_⟩
    cases fetched : fetch name descriptor with
    | ok package =>
      rw [fetched] at result_eq
      cases result_eq
    | error other =>
      rw [fetched] at result_eq
      obtain rfl := Except.error.inj result_eq
      rfl

/-- As long as a window is not done, some move is possible. -/
theorem exists_move?_of_not_isDone (fetch : String → Descriptor → Except FetchError FetchedPackage)
    {w : Window} (room : 0 < w.room) (busy : w.isDone = false) :
    ∃ move, (w.move? fetch move).isSome = true := by
  cases running_eq : w.running with
  | cons request rest =>
    refine ⟨.finish request.1, ?_⟩
    simp [move?, finish?, running_eq]
  | nil =>
    cases waiting_eq : w.waiting with
    | nil => simp [isDone, waiting_eq, running_eq] at busy
    | cons request rest =>
      refine ⟨.start, ?_⟩
      simp [move?, start?, waiting_eq, running_eq, room]

/-! ### Several moves -/

/-- **A window comes to be another one** by moves that go well, with these milestones. -/
inductive Reaches (fetch : String → Descriptor → Except FetchError FetchedPackage) (w : Window) :
    List Milestone → Window → Prop where
  /-- Nothing has happened. -/
  | refl : Reaches fetch w [] w
  /-- A move was made. -/
  | step {milestones : List Milestone} {milestone : Milestone} {middle next : Window}
    {move : Move} : Reaches fetch w milestones middle →
    middle.move? fetch move = some (milestone, .ok next) →
    Reaches fetch w (milestones ++ [milestone]) next

theorem Reaches.trans {w middle next : Window} {milestones more : List Milestone}
    (first : Reaches fetch w milestones middle) (second : Reaches fetch middle more next) :
    Reaches fetch w (milestones ++ more) next := by
  induction second with
  | refl => simpa using first
  | step _ possible ih => simpa using ih.step possible

/-- The room stays what it is. -/
theorem Reaches.room_eq {w next : Window} {milestones : List Milestone}
    (reaches : Reaches fetch w milestones next) : next.room = w.room := by
  induction reaches with
  | refl => rfl
  | step _ possible ih =>
    rcases move?_ok possible with ⟨_, _, _, _, _, _, rfl⟩ | ⟨_, _, _, _, _, _, rfl⟩
    · exact ih
    · exact ih

/-- What has become of a window when moves bring in a harvest. -/
inductive Brings (fetch : String → Descriptor → Except FetchError FetchedPackage) (w : Window)
    (moves : List Move) : List Milestone → Harvest → Prop where
  /-- All fetches have ended with packages. -/
  | complete {milestones : List Milestone} {last : Window} :
    Reaches fetch w milestones last → last.isDone = true →
    Brings fetch w moves milestones (.complete last.collected)
  /-- One has ended with an error. -/
  | failed {milestones : List Milestone} {milestone : Milestone} {last : Window} {move : Move}
    {error : FetchError} : Reaches fetch w milestones last →
    last.move? fetch move = some (milestone, .error error) →
    Brings fetch w moves (milestones ++ [milestone]) (.failed error)
  /-- There are no more moves; if there were, things would go on. -/
  | abandoned {milestones : List Milestone} {last : Window} :
    Reaches fetch w milestones last → last.isDone = false →
    (∀ more, (run fetch (moves ++ more) w).1 = milestones ++ (run fetch more last).1) →
    Brings fetch w moves milestones .abandoned

/-- **Whatever the moves are**, they bring in a harvest in one of these ways. -/
theorem brings_run (fetch : String → Descriptor → Except FetchError FetchedPackage)
    (moves : List Move) (w : Window) :
    Brings fetch w moves (run fetch moves w).1 (run fetch moves w).2 := by
  induction moves generalizing w with
  | nil =>
    rw [run]
    cases done : w.isDone with
    | true => exact .complete .refl done
    | false => exact .abandoned .refl done fun more => rfl
  | cons move rest ih =>
    rw [run]
    cases possible : w.move? fetch move with
    | none =>
      -- a move that is not possible might as well not be there
      have skipped : ∀ more, run fetch (move :: more) w = run fetch more w := by
        intro more
        rw [run, possible]
      dsimp only
      have brings := ih w
      generalize run fetch rest w = outcome at brings ⊢
      obtain ⟨milestones, harvest⟩ := outcome
      cases brings with
      | complete reaches done => exact .complete reaches done
      | failed reaches fails => exact .failed reaches fails
      | abandoned reaches busy goesOn =>
        refine .abandoned reaches busy fun more => ?_
        rw [List.cons_append, skipped]
        exact goesOn more
    | some outcome =>
      obtain ⟨milestone, error | next⟩ := outcome
      · exact .failed .refl possible
      · have first : Reaches fetch w [milestone] next := .step .refl possible
        have made : ∀ more, (run fetch (move :: more) w).1 =
            milestone :: (run fetch more next).1 := by
          intro more
          rw [run, possible]
        dsimp only
        have brings := ih next
        generalize run fetch rest next = outcome at brings ⊢
        obtain ⟨milestones, harvest⟩ := outcome
        cases brings with
        | complete reaches done => exact .complete (first.trans reaches) done
        | failed reaches fails => exact .failed (first.trans reaches) fails
        | abandoned reaches busy goesOn =>
          refine .abandoned (first.trans reaches) busy fun more => ?_
          rw [List.cons_append, made, goesOn]
          rfl

/-! ### The invariant -/

/-- **The requests and the window account for each other**, after these milestones. -/
structure Covers (fetch : String → Descriptor → Except FetchError FetchedPackage)
    (requested : Table Descriptor) (milestones : List Milestone) (w : Window) : Prop where
  /-- What waits was requested. -/
  waiting : ∀ name descriptor, (name, descriptor) ∈ w.waiting →
    requested.find? name = some descriptor
  /-- What is under way was requested. -/
  running : ∀ name descriptor, (name, descriptor) ∈ w.running →
    requested.find? name = some descriptor
  /-- What was requested waits, is under way, or has ended with the package that is kept. -/
  covered : ∀ name descriptor, requested.find? name = some descriptor →
    (name, descriptor) ∈ w.waiting ∨ (name, descriptor) ∈ w.running ∨
      .finished name descriptor ∈ milestones ∧
        ∃ package, fetch name descriptor = .ok package ∧ w.collected.find? name = some package
  /-- What is kept is the package of a request. -/
  collected : ∀ name package, w.collected.find? name = some package →
    ∃ descriptor, requested.find? name = some descriptor ∧ fetch name descriptor = .ok package
  /-- There are two milestones to each request. -/
  budget : milestones.length + 2 * w.waiting.length + w.running.length ≤ 2 * requested.size

theorem covers_opening (room : Nat) (requested : Table Descriptor) :
    Covers fetch requested [] (opening room requested) where
  waiting _ _ mem := Table.mem_entries_iff.mp mem
  running _ _ mem := absurd mem List.not_mem_nil
  covered _ _ found := .inl (Table.mem_entries_iff.mpr found)
  collected _ _ found := by cases found
  budget := by simp [opening, Table.size]

namespace Covers

variable {requested : Table Descriptor} {milestones : List Milestone} {w : Window}

theorem started (covers : Covers fetch requested milestones w) {name : String}
    {descriptor : Descriptor} {rest : List (String × Descriptor)}
    (waiting_eq : w.waiting = (name, descriptor) :: rest) :
    Covers fetch requested (milestones ++ [.started name descriptor])
      { w with waiting := rest, running := w.running ++ [(name, descriptor)] } := by
  have isRequested : requested.find? name = some descriptor :=
    covers.waiting name descriptor (by simp [waiting_eq])
  refine ⟨?_, ?_, ?_, covers.collected, ?_⟩
  · intro other asked mem
    exact covers.waiting other asked (by simp [waiting_eq, mem])
  · intro other asked mem
    rcases List.mem_append.mp mem with mem | mem
    · exact covers.running other asked mem
    · obtain ⟨rfl, rfl⟩ := Prod.mk.inj (List.mem_singleton.mp mem)
      exact isRequested
  · intro other asked found
    rcases covers.covered other asked found with mem | mem | ⟨mem, ended⟩
    · rw [waiting_eq] at mem
      rcases List.mem_cons.mp mem with same | mem
      · exact .inr (.inl (by simp [same]))
      · exact .inl mem
    · exact .inr (.inl (List.mem_append_left _ mem))
    · exact .inr (.inr ⟨List.mem_append_left _ mem, ended⟩)
  · have budget := covers.budget
    simp only [waiting_eq, List.length_cons, List.length_append, List.length_nil] at budget ⊢
    omega

theorem finished (covers : Covers fetch requested milestones w) {name : String}
    {descriptor : Descriptor} {package : FetchedPackage} (mem : (name, descriptor) ∈ w.running)
    (fetched : fetch name descriptor = .ok package) :
    Covers fetch requested (milestones ++ [.finished name descriptor])
      { w with
        running := w.running.filter fun request => request.1 != name
        collected := w.collected.insert name package } := by
  have isRequested := covers.running name descriptor mem
  refine ⟨covers.waiting, ?_, ?_, ?_, ?_⟩
  · intro other asked mem'
    exact covers.running other asked (List.mem_filter.mp mem').1
  · intro other asked found
    by_cases same : name = other
    · -- a name is requested once, so this is the fetch that has ended
      subst same
      obtain rfl : descriptor = asked := Option.some.inj (isRequested.symm.trans found)
      exact .inr (.inr ⟨by simp, package, fetched, by simp⟩)
    · rcases covers.covered other asked found with mem' | mem' | ⟨mem', held, ended, kept⟩
      · exact .inl mem'
      · exact .inr (.inl (List.mem_filter.mpr ⟨mem', by simpa using Ne.symm same⟩))
      · exact .inr (.inr ⟨List.mem_append_left _ mem', held, ended, by simpa [same] using kept⟩)
  · intro other held kept
    rw [Table.find?_insert] at kept
    by_cases same : name = other
    · subst same
      obtain rfl : package = held := by simpa using kept
      exact ⟨descriptor, isRequested, fetched⟩
    · exact covers.collected other held (by simpa [same] using kept)
  · have budget := covers.budget
    have fewer : (w.running.filter fun request => request.1 != name).length < w.running.length :=
      List.length_filter_lt_length_iff_exists.mpr ⟨_, mem, by simp⟩
    simp only [List.length_append, List.length_cons, List.length_nil] at budget ⊢
    omega

/-- **A move that goes well keeps the account.** -/
theorem step (covers : Covers fetch requested milestones w) {move : Move} {milestone : Milestone}
    {next : Window} (possible : w.move? fetch move = some (milestone, .ok next)) :
    Covers fetch requested (milestones ++ [milestone]) next := by
  rcases move?_ok possible with ⟨name, descriptor, rest, waiting_eq, -, rfl, rfl⟩ |
    ⟨name, descriptor, package, mem, rfl, fetched, rfl⟩
  · exact covers.started waiting_eq
  · exact covers.finished mem fetched

/-- **So does a window that comes to be another one.** -/
theorem reaches (covers : Covers fetch requested milestones w) {more : List Milestone}
    {next : Window} (reaches : Reaches fetch w more next) :
    Covers fetch requested (milestones ++ more) next := by
  induction reaches with
  | refl => simpa using covers
  | step _ possible ih =>
    rw [← List.append_assoc]
    exact ih.step possible

/-- A move that ends a fetch by an error leaves no more to do than there was. -/
theorem failing (covers : Covers fetch requested milestones w) {move : Move}
    {milestone : Milestone} {error : FetchError}
    (fails : w.move? fetch move = some (milestone, .error error)) :
    (∃ name descriptor, requested.find? name = some descriptor ∧
      fetch name descriptor = .error error) ∧ milestones.length < 2 * requested.size := by
  obtain ⟨name, descriptor, mem, -, failed⟩ := move?_error fails
  refine ⟨⟨name, descriptor, covers.running name descriptor mem, failed⟩, ?_⟩
  have budget := covers.budget
  have busy := List.length_pos_of_mem mem
  omega

end Covers

/-! ### What harvests mean -/

variable {room : Nat} {requested : Table Descriptor} {moves : List Move}
  {milestones : List Milestone}

/-- **A complete harvest**: each fetch has ended with a package, and these have been brought in,
and no others. -/
theorem complete_run_opening {packages : Table FetchedPackage}
    (brought : run fetch moves (opening room requested) = (milestones, .complete packages)) :
    (∀ name descriptor, requested.find? name = some descriptor →
      .finished name descriptor ∈ milestones ∧ ∃ package, fetch name descriptor = .ok package) ∧
    ∀ name package, packages.find? name = some package ↔
      ∃ descriptor, requested.find? name = some descriptor ∧
        fetch name descriptor = .ok package := by
  have brings := brings_run fetch moves (opening room requested)
  rw [brought] at brings
  cases brings with
  | @complete _ last reaches done =>
    have covers := (covers_opening room requested).reaches reaches
    -- nothing waits and nothing is under way, so only the last way to be covered is left
    simp only [isDone, Bool.and_eq_true, List.isEmpty_iff] at done
    have ended : ∀ name descriptor, requested.find? name = some descriptor →
        .finished name descriptor ∈ milestones ∧ ∃ package, fetch name descriptor = .ok package ∧
          last.collected.find? name = some package := by
      intro name descriptor found
      rcases covers.covered name descriptor found with mem | mem | ended
      · rw [done.1] at mem
        cases mem
      · rw [done.2] at mem
        cases mem
      · exact ended
    refine ⟨fun name descriptor found => ?_,
      fun name package => ⟨covers.collected name package, ?_⟩⟩
    · obtain ⟨mem, package, isOk, -⟩ := ended name descriptor found
      exact ⟨mem, package, isOk⟩
    · rintro ⟨descriptor, found, isOk⟩
      obtain ⟨-, other, isOk', kept⟩ := ended name descriptor found
      obtain rfl := Except.ok.inj (isOk.symm.trans isOk')
      exact kept

/-- **A failed harvest** has the error of a request. -/
theorem failed_run_opening {error : FetchError}
    (brought : run fetch moves (opening room requested) = (milestones, .failed error)) :
    ∃ name descriptor, requested.find? name = some descriptor ∧
      fetch name descriptor = .error error := by
  have brings := brings_run fetch moves (opening room requested)
  rw [brought] at brings
  cases brings with
  | failed reaches fails =>
    have covers := (covers_opening room requested).reaches reaches
    exact (covers.failing fails).1

/-- **As long as there is no harvest**, some move would be possible, if there is any room. -/
theorem abandoned_run_opening (isOpen : 0 < room)
    (brought : run fetch moves (opening room requested) = (milestones, .abandoned)) :
    ∃ move milestone,
      (run fetch (moves ++ [move]) (opening room requested)).1 = milestones ++ [milestone] := by
  have brings := brings_run fetch moves (opening room requested)
  rw [brought] at brings
  cases brings with
  | @abandoned _ last reaches busy goesOn =>
    have isOpen' : 0 < last.room := reaches.room_eq.symm ▸ isOpen
    obtain ⟨move, possible⟩ := exists_move?_of_not_isDone fetch isOpen' busy
    obtain ⟨⟨milestone, outcome⟩, move_eq⟩ := Option.isSome_iff_exists.mp possible
    refine ⟨move, milestone, ?_⟩
    rw [goesOn, run, move_eq]
    cases outcome <;> rfl

/-- **There are two milestones to each request**, at most. -/
theorem length_milestones_le (moves : List Move) (room : Nat) (requested : Table Descriptor) :
    (run fetch moves (opening room requested)).1.length ≤ 2 * requested.size := by
  have brings := brings_run fetch moves (opening room requested)
  generalize run fetch moves (opening room requested) = outcome at brings ⊢
  obtain ⟨milestones, harvest⟩ := outcome
  cases brings with
  | complete reaches done =>
    have budget := ((covers_opening room requested).reaches reaches).budget
    show milestones.length ≤ 2 * requested.size
    exact Nat.le_trans (Nat.le_add_right_of_le (Nat.le_add_right _ _)) budget
  | @failed before milestone last move error reaches fails =>
    have more := (((covers_opening room requested).reaches reaches).failing fails).2
    show (before ++ [milestone]).length ≤ 2 * requested.size
    rw [List.length_append]
    exact more
  | abandoned reaches busy goesOn =>
    have budget := ((covers_opening room requested).reaches reaches).budget
    show milestones.length ≤ 2 * requested.size
    exact Nat.le_trans (Nat.le_add_right_of_le (Nat.le_add_right _ _)) budget

end Window

end CompilerGateway
