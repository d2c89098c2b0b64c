import CompilerGateway.Package.Window

/-!
# Fetching in rounds

A timetable for a `Window`, for fetches whose durations are known as numbers of **rounds**.
All fetches with a place in the window stand in one queue. Whichever is first gets its turn:
on its first turn it begins, and if it takes any rounds it goes to sleep for as many; else, or
on waking, it ends and makes room for the next name at the end of the queue. A round is over
when the queue is empty; those whose time has come then queue up in the order in which they
fell asleep. The caller may give up at the end of a given round.

`Rounds.moves` is the list of moves that this comes to.
-/

namespace CompilerGateway

namespace Rounds

/-! ### Weights -/

/-- The sum of the weights of the members of a list. -/
def total {α : Type} (weight : α → Nat) : List α → Nat
  | [] => 0
  | a :: rest => weight a + total weight rest

theorem total_append {α : Type} (weight : α → Nat) (l m : List α) :
    total weight (l ++ m) = total weight l + total weight m := by
  induction l with
  | nil => simp [total]
  | cons a rest ih =>
    simp only [List.cons_append, total, ih]
    omega

theorem total_map {α β : Type} (weight : β → Nat) (f : α → β) (l : List α) :
    total weight (l.map f) = total (fun a => weight (f a)) l := by
  induction l with
  | nil => rfl
  | cons a rest ih => simp only [List.map_cons, total, ih]

/-! ### The queue -/

/-- A fetch in the queue. -/
inductive Turn where
  /-- It has not begun, and will take that many rounds. -/
  | fresh (name : String) (rounds : Nat)
  /-- It has slept long enough. -/
  | awake (name : String)

/-- A count of what a fetch in the queue may still do. -/
def Turn.weight : Turn → Nat
  | .fresh _ rounds => rounds + 3
  | .awake _ => 1

/-- The fetches that are not done. -/
structure Queue where
  /-- The number of rounds that are over. -/
  round : Nat
  /-- The fetches without a place in the window, with their durations. -/
  outside : List (String × Nat)
  /-- The queue. -/
  ready : List Turn
  /-- The fetches asleep, with the rounds that each has left. -/
  asleep : List (String × Nat)

namespace Queue

/-- A count of what may still happen: it falls with every turn and with every round. -/
def potential (q : Queue) : Nat :=
  total (fun f => f.2 + 3) q.outside + total Turn.weight q.ready
    + total (fun f => f.2 + 2) q.asleep

/-- The queue after names have been let into the window for as long as there is room. -/
def fill (room : Nat) (q : Queue) : Queue :=
  let free := room - (q.ready.length + q.asleep.length)
  { q with
    outside := q.outside.drop free
    ready := q.ready ++ (q.outside.take free).map fun f => .fresh f.1 f.2 }

/-- The queue after a round is over. -/
def wake (q : Queue) : Queue :=
  { q with
    round := q.round + 1
    ready := q.ready ++ (q.asleep.filter fun f => decide (f.2 ≤ 1)).map fun f => .awake f.1
    asleep := (q.asleep.filter fun f => decide (1 < f.2)).map fun f => (f.1, f.2 - 1) }

theorem potential_fill (room : Nat) (q : Queue) : (q.fill room).potential = q.potential := by
  have cut := List.take_append_drop (room - (q.ready.length + q.asleep.length)) q.outside
  have sums := congrArg (total fun f : String × Nat => f.2 + 3) cut
  rw [total_append] at sums
  simp only [potential, fill, total_append, total_map, Turn.weight]
  omega

theorem potential_wake_lt (q : Queue) (h : q.asleep ≠ []) : q.wake.potential < q.potential := by
  have falls : ∀ l : List (String × Nat), l ≠ [] →
      total (fun _ => 1) (l.filter fun f => decide (f.2 ≤ 1))
        + total (fun f => f.2 - 1 + 2) (l.filter fun f => decide (1 < f.2))
        < total (fun f => f.2 + 2) l := by
    intro l
    induction l with
    | nil => simp
    | cons f rest ih =>
      intro _
      by_cases hr : rest = []
      · subst hr
        by_cases due : f.2 ≤ 1
        · simp [total, due, Nat.not_lt.2 due]
        · simp [total, due, Nat.lt_of_not_le due]
          omega
      · have := ih hr
        by_cases due : f.2 ≤ 1
        · simp only [total, due, Nat.not_lt.2 due, decide_true, decide_false, List.filter_cons,
            if_true, Bool.false_eq_true, if_false] at this ⊢
          omega
        · simp only [total, due, Nat.lt_of_not_le due, decide_true, decide_false,
            List.filter_cons, if_true, Bool.false_eq_true, if_false] at this ⊢
          omega
  have := falls q.asleep h
  simp only [potential, wake, total_append, total_map, Turn.weight] at this ⊢
  omega

/-- The moves from here on. -/
def moves (room : Nat) (givenUpAfter : Option Nat) (q : Queue) : List Move :=
  match _filled : q.fill room with
  | ⟨_, outside, .fresh name 0 :: ready, asleep⟩ =>
    .start :: .finish name :: moves room givenUpAfter ⟨q.round, outside, ready, asleep⟩
  | ⟨_, outside, .fresh name (rounds + 1) :: ready, asleep⟩ =>
    .start :: moves room givenUpAfter ⟨q.round, outside, ready, asleep ++ [(name, rounds + 1)]⟩
  | ⟨_, outside, .awake name :: ready, asleep⟩ =>
    .finish name :: moves room givenUpAfter ⟨q.round, outside, ready, asleep⟩
  | ⟨_, _, [], []⟩ => []
  | ⟨_, outside, [], first :: asleep⟩ =>
    if givenUpAfter = some q.round then []
    else moves room givenUpAfter (wake ⟨q.round, outside, [], first :: asleep⟩)
  termination_by q.potential
  decreasing_by
    all_goals have same := potential_fill room q
    all_goals rw [_filled] at same
    · simp only [potential, total, Turn.weight] at same ⊢
      omega
    · simp only [potential, total, total_append, Turn.weight] at same ⊢
      omega
    · simp only [potential, total, Turn.weight] at same ⊢
      omega
    · have falls := potential_wake_lt ⟨q.round, outside, [], first :: asleep⟩ (by simp)
      simp only [potential, total] at same falls ⊢
      omega

end Queue

/-- The moves for fetches with the given durations, in the order in which they are to begin. -/
def moves (room : Nat) (durations : List (String × Nat)) (givenUpAfter : Option Nat) :
    List Move :=
  Queue.moves room givenUpAfter ⟨0, durations, [], []⟩

end Rounds

end CompilerGateway
