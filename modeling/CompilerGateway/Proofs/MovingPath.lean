import CompilerGateway.Session.Action

/-!
# A handle is the gateway with a moving path

Whatever is done with a handle can be done with its gateway. For an operation of the handle, the
gateway performs the operation of the same name on a path; only for the trees of a file there are
two operations, as there is none that takes a path: the file is read, and what was read, if
anything, is parsed (`CompilerGateway.FileAction.onGateway`).

The path is not kept anywhere: it can be told from what has been done. It is the one that the last
rename led to that succeeded, and as long as there is none, the one that the handle was made with
(`CompilerGateway.FileAction.pathAfter`). With it, a list of operations comes to the same on the
gateway as on the handle (`CompilerGateway.FileAction.performAll_file`).
-/

namespace CompilerGateway

/-! ### The operations of the gateway -/

section Gateway

variable {σ : Type} [Backend σ]

/-- Reads a file and performs an action on what was read. If it cannot be read, that is the
result, and nothing else happens. -/
def Gateway.readThen (g : Gateway σ) (path : String) (action : String → Action) :
    Except Failure Answer × Gateway σ :=
  match g.read path with
  | (.ok content, g) => (action content).perform g
  | (.error failure, g) => (.error failure, g)

/-- **What an operation of a handle stands for**, when the file has the given path. -/
def FileAction.onGateway (g : Gateway σ) (path : String) :
    FileAction → Except Failure Answer × Gateway σ
  | .path => (.ok (.text path), g)
  | .read => (Action.read path).perform g
  | .write content => (Action.write path content).perform g
  | .rename target => (Action.rename path target).perform g
  | .delete => (Action.delete path).perform g
  | .check => (Action.check path).perform g
  | .run libraries => (Action.run path libraries).perform g
  | .compile mode => (Action.compile path mode).perform g
  | .interface => (Action.interface path).perform g
  | .sourceTree => g.readThen path .sourceTree
  | .typedSourceTree => g.readThen path .typedSourceTree

end Gateway

namespace FileAction

/-! ### The path, told from the history -/

/-- Where a rename led to, if it is one that succeeded. -/
def target? : FileAction × Except Failure Answer → Option String
  | (.rename target, .ok _) => some target
  | _ => none

/-- **The path after some operations**, of which the results are known: where the last rename led
to that succeeded. -/
def pathAfter (path : String) (history : List (FileAction × Except Failure Answer)) : String :=
  (history.reverse.findSome? target?).getD path

@[simp] theorem pathAfter_nil (path : String) : pathAfter path [] = path := rfl

@[simp] theorem pathAfter_concat (path : String)
    (history : List (FileAction × Except Failure Answer))
    (last : FileAction × Except Failure Answer) :
    pathAfter path (history ++ [last]) = (target? last).getD (pathAfter path history) := by
  rw [pathAfter, List.reverse_append, List.reverse_singleton, List.singleton_append,
    List.findSome?_cons]
  cases target? last <;> rfl

section Gateway

variable {σ : Type} [Backend σ]

/-- Operations of a handle, performed on the gateway after those of `history`. -/
def performAllOn (path : String) (history : List (FileAction × Except Failure Answer)) :
    List FileAction → Gateway σ → List (FileAction × Except Failure Answer) × Gateway σ
  | [], g => (history, g)
  | action :: rest, g =>
    let (answer, g) := action.onGateway g (pathAfter path history)
    performAllOn path (history ++ [(action, answer)]) rest g

/-! ### One operation -/

theorem answering_rename (target : String) (h : FileHandle σ) :
    (rename target).perform h =
      (((rename target).onGateway h.gateway h.path).1,
        ⟨(target? (rename target, ((rename target).onGateway h.gateway h.path).1)).getD h.path,
          ((rename target).onGateway h.gateway h.path).2⟩) := by
  rw [perform, FileHandle.rename, FileHandle.use, onGateway, Action.perform]
  rcases h.gateway.rename h.path target with ⟨failure | ⟨⟩, g⟩ <;> rfl

/-- **One operation of a handle** is what it stands for, and moves the path if it is a rename that
succeeds. -/
theorem perform_eq (action : FileAction) (h : FileHandle σ) :
    action.perform h =
      ((action.onGateway h.gateway h.path).1,
        ⟨(target? (action, (action.onGateway h.gateway h.path).1)).getD h.path,
          (action.onGateway h.gateway h.path).2⟩) := by
  cases action with
  | rename target => exact answering_rename target h
  | sourceTree =>
    rw [perform, FileHandle.sourceTree, FileHandle.read, FileHandle.use, onGateway,
      Gateway.readThen]
    rcases h.gateway.read h.path with ⟨failure | content, g⟩ <;> rfl
  | typedSourceTree =>
    rw [perform, FileHandle.typedSourceTree, FileHandle.read, FileHandle.use, onGateway,
      Gateway.readThen]
    rcases h.gateway.read h.path with ⟨failure | content, g⟩ <;> rfl
  | _ => rfl

/-! ### Several operations -/

theorem performAll_cons (action : FileAction) (rest : List FileAction) (h : FileHandle σ) :
    performAll (action :: rest) h =
      (((action.perform h).1, (action.perform h).2.path) ::
        (performAll rest (action.perform h).2).1, (performAll rest (action.perform h).2).2) := rfl

theorem performAllOn_cons (path : String) (done : List (FileAction × Except Failure Answer))
    (action : FileAction) (rest : List FileAction) (g : Gateway σ) :
    performAllOn path done (action :: rest) g =
      performAllOn path
        (done ++ [(action, (action.onGateway g (pathAfter path done)).1)]) rest
        (action.onGateway g (pathAfter path done)).2 := rfl

/-- Several operations of a handle whose path is told from what has been done before. -/
theorem performAll_eq (path : String) (actions : List FileAction)
    (done : List (FileAction × Except Failure Answer)) (h : FileHandle σ)
    (follows : h.path = pathAfter path done) :
    ∃ history, (performAllOn path done actions h.gateway).1 = done ++ history ∧
      history.map Prod.fst = actions ∧
      (performAll actions h).1 = history.mapIdx (fun n step =>
        (step.2, pathAfter path (done ++ history.take (n + 1)))) ∧
      (performAll actions h).2 =
        ⟨pathAfter path (done ++ history), (performAllOn path done actions h.gateway).2⟩ := by
  induction actions generalizing done h with
  | nil =>
    exact ⟨[], by simp [performAllOn], rfl, rfl, by simp [performAll, performAllOn, ← follows]⟩
  | cons action rest ih =>
    have performed := action.perform_eq h
    rw [follows] at performed
    rcases outcome : action.onGateway h.gateway (pathAfter path done) with ⟨answer, g⟩
    rw [outcome] at performed
    -- with this operation added to what has been done, the path is again told from it
    have moved : (target? (action, answer)).getD (pathAfter path done) =
        pathAfter path (done ++ [(action, answer)]) := (pathAfter_concat path done _).symm
    rw [moved] at performed
    obtain ⟨history, history_eq, actions_eq, answers_eq, handle_eq⟩ :=
      ih (done ++ [(action, answer)]) ⟨pathAfter path (done ++ [(action, answer)]), g⟩ rfl
    rw [performAll_cons, performAllOn_cons, outcome, performed]
    dsimp only at history_eq answers_eq handle_eq ⊢
    refine ⟨(action, answer) :: history, ?_, ?_, ?_, ?_⟩
    · rw [history_eq, List.append_assoc, List.singleton_append]
    · rw [List.map_cons, actions_eq]
    · rw [answers_eq, List.mapIdx_cons]
      simp
    · rw [handle_eq, List.append_assoc, List.singleton_append]

/-- **A handle is its gateway with a moving path**, whatever the backend does. The operations come
to the results that the gateway comes to when it performs what they stand for, one after the
other, each on the path of the last rename that succeeded before it; the gateway is left the same,
with the same backend and the same log; and the path of the handle is at any time the one of the
last rename that has succeeded. -/
theorem performAll_file (g : Gateway σ) (path : String) (actions : List FileAction) :
    let handled := performAll actions (g.file path)
    let history := (performAllOn path [] actions g).1
    history.map Prod.fst = actions ∧
    handled.1 = history.mapIdx (fun n step =>
      (step.2, pathAfter path (history.take (n + 1)))) ∧
    handled.2 = ⟨pathAfter path history, (performAllOn path [] actions g).2⟩ := by
  intro handled history
  obtain ⟨new, history_eq, rest⟩ := performAll_eq path actions [] (g.file path) rfl
  obtain rfl : history = new := history_eq
  exact rest

end Gateway

end FileAction

end CompilerGateway
