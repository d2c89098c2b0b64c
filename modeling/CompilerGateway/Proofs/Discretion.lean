import CompilerGateway.Proofs.SideBySide

/-!
# Contents do not come to light

What can be seen of a session – its results, its failures with their messages, the registrations
and the log – does not depend on the contents that it was given: texts that are written or parsed,
metadata, the files of packages. Where contents have an influence at all, it is through the backend.
So two sessions that are the same but for contents, with backends that answer corresponding calls
alike, cannot be told apart (`CompilerGateway.Session.run_alike`).

There is one kind of result that has contents in it: a package that is fetched on its own is handed
over with its files (`CompilerGateway.Session.contents_handed_over`). Of such a result the name, the
version and the keys are the same, and so are all failures.
-/

namespace CompilerGateway

namespace Session

variable {σ τ : Type}

/-- A session from the beginning, whose backends are watched from when they are attached. -/
def watched [Backend σ] (version : String) (settings : Settings) (steps : List (Step σ)) :
    List Result × Session (Watched σ) :=
  (opening (Gateway.detached version settings)).run (steps.map (Step.map Watched.fresh))

/-! ### One step -/

/-- **Sessions that are alike.** -/
structure Alike (s : Session (Watched σ)) (s' : Session (Watched τ)) : Prop where
  gateway : s.gateway.Alike s'.gateway
  /-- The backends that were detached last have been asked alike, if there are any. -/
  parked : Option.Rel Watched.Alike s.parked s'.parked
  fetches_eq : s.fetches = s'.fetches

/-- What a load comes to as the result of a step. -/
def loaded (result : Option (Except Failure Unit)) : Result :=
  match result with
  | some loaded => .performed (loaded.map fun _ => .nothing)
  | none => .cancelled

theorem blank_performed_eq {fetched fetched' : Except Failure FetchedPackage}
    (blanks : fetched.map FetchedPackage.blank = fetched'.map FetchedPackage.blank) :
    (Result.performed (fetched.map .package)).blank =
      (Result.performed (fetched'.map .package)).blank := by
  have blank_eq : ∀ fetched : Except Failure FetchedPackage,
      (Result.performed (fetched.map .package)).blank =
        .performed ((fetched.map FetchedPackage.blank).map .package) := by
    rintro (failure | package) <;> rfl
  rw [blank_eq, blank_eq, blanks]

variable [Backend σ] [Backend τ]

/-- **Alike steps of alike sessions** come to the same but for the contents of packages that are
fetched, and leave the sessions alike. -/
theorem perform_inStep {s : Session (Watched σ)} {s' : Session (Watched τ)} (alike : s.Alike s')
    {step : Step σ} {step' : Step τ} (steps : step.Alike step')
    (concurs : (s.perform (step.map .fresh)).2.gateway.Concurs
      (s'.perform (step'.map .fresh)).2.gateway) :
    (s.perform (step.map .fresh)).1.blank = (s'.perform (step'.map .fresh)).1.blank ∧
      ((∀ fetcher descriptor, step ≠ .fetch fetcher descriptor) →
        (s.perform (step.map .fresh)).1 = (s'.perform (step'.map .fresh)).1) ∧
      (s.perform (step.map .fresh)).2.Alike (s'.perform (step'.map .fresh)).2 := by
  obtain ⟨g, kept, fetches⟩ := s
  obtain ⟨g', kept', fetches'⟩ := s'
  obtain ⟨gateway, parked, fetches_eq⟩ := alike
  cases steps with
  | attach backend backend' => exact ⟨rfl, fun _ => rfl, gateway.attach .nil, parked, fetches_eq⟩
  | detach =>
    have same : Result.detached g.isAttached = .detached g'.isAttached :=
      congrArg _ gateway.isAttached_eq
    exact ⟨same, fun _ => same, gateway.detach, gateway.backends, fetches_eq⟩
  | reattach =>
    cases parked with
    | none => exact ⟨rfl, fun _ => rfl, gateway, .none, fetches_eq⟩
    | some asked => exact ⟨rfl, fun _ => rfl, gateway.attach asked, .none, fetches_eq⟩
  | act actions =>
    obtain ⟨same, after⟩ := Action.perform_inStep gateway actions concurs
    have results := congrArg Result.performed same
    exact ⟨congrArg Result.blank results, fun _ => results, after, parked, fetches_eq⟩
  | file path all =>
    obtain ⟨same, after⟩ := FileAction.performAll_inStep all gateway path concurs
    have results := congrArg Result.handled same
    exact ⟨congrArg Result.blank results, fun _ => results, after, parked, fetches_eq⟩
  | @fetch fetcher fetcher' descriptor fetchers =>
    obtain ⟨blanks, after⟩ := Gateway.fetch_alike gateway fetchers descriptor
    exact ⟨blank_performed_eq blanks, fun other => absurd rfl (other fetcher descriptor), after,
      parked, congrArg (· ++ _) fetches_eq⟩
  | load requests moves fetchers =>
    obtain ⟨result, milestones, after⟩ :=
      Gateway.load_inStep gateway fetchers requests moves concurs
    have results := congrArg loaded result
    refine ⟨congrArg Result.blank results, fun _ => results, after, parked, ?_⟩
    exact congrArg₂ (· ++ ·) fetches_eq (congrArg (List.map Milestone.fetchEvent) milestones)

/-! ### Whole sessions -/

/-- **Sessions that are the same but for contents stay alike.** -/
theorem run_inStep {steps : List (Step σ)} {steps' : List (Step τ)}
    (all : List.Forall₂ Step.Alike steps steps') {s : Session (Watched σ)}
    {s' : Session (Watched τ)} (alike : s.Alike s')
    (concurs : ∀ n, (s.run ((steps.take n).map (Step.map .fresh))).2.gateway.Concurs
      (s'.run ((steps'.take n).map (Step.map .fresh))).2.gateway) :
    let done := s.run (steps.map (Step.map .fresh))
    let done' := s'.run (steps'.map (Step.map .fresh))
    done.1.map Result.blank = done'.1.map Result.blank ∧
      (∀ n : Nat, (∀ fetcher descriptor, steps[n]? ≠ some (Step.fetch fetcher descriptor)) →
        done.1[n]? = done'.1[n]?) ∧
      done.2.Alike done'.2 := by
  induction all generalizing s s' with
  | nil => exact ⟨rfl, fun _ _ => rfl, alike⟩
  | @cons step step' rest rest' first others ih =>
    obtain ⟨blank, same, after⟩ := perform_inStep alike first (concurs 1)
    obtain ⟨blanks, sames, later⟩ := ih after fun n => concurs (n + 1)
    refine ⟨congrArg₂ List.cons blank blanks, fun n other => ?_, later⟩
    cases n with
    | zero =>
      refine congrArg some (same fun fetcher descriptor eq => ?_)
      exact other fetcher descriptor (congrArg some eq)
    | succ n => exact sames n other

/-- **Contents do not come to light.** Let two sessions be the same but for contents – texts that
are written or parsed, metadata, the files of packages with the same names, versions and keys – and
let their backends answer corresponding calls by the same values and faults, as far as calls are
made. Then all results and failures are the same, but for the contents of packages that are handed
over by a fetch; and so are the registrations and the log. -/
theorem run_alike (version : String) (settings : Settings) {steps : List (Step σ)}
    {steps' : List (Step τ)} (same : List.Forall₂ Step.Alike steps steps')
    (concurs : ∀ n, (watched version settings (steps.take n)).2.gateway.Concurs
      (watched version settings (steps'.take n)).2.gateway) :
    let done := watched version settings steps
    let done' := watched version settings steps'
    (∀ n : Nat, (∀ fetcher descriptor, steps[n]? ≠ some (Step.fetch fetcher descriptor)) →
      done.1[n]? = done'.1[n]?) ∧
    done.1.map Result.blank = done'.1.map Result.blank ∧
    done.2.gateway.packages = done'.2.gateway.packages ∧
    done.2.gateway.journal = done'.2.gateway.journal := by
  intro done done'
  have opening : Alike (opening (Gateway.detached version settings : Gateway (Watched σ)))
      (opening (Gateway.detached version settings : Gateway (Watched τ))) :=
    ⟨⟨rfl, rfl, rfl, rfl, .none⟩, .none, rfl⟩
  obtain ⟨blanks, sames, alike⟩ := run_inStep same opening concurs
  exact ⟨sames, blanks, alike.gateway.packages_eq, alike.gateway.journal_eq⟩

/-- A package is fetched, a source text is to be parsed, at which the backend raises a value, and
the package is loaded, but cannot be written. With another text, and other files in the package,
the failures are the same, and so is the log. -/
theorem run_alike_other_texts :
    let fetcher := fun content : String =>
      Fetcher.quiet fun _ => .ok ⟨"core", "1", Table.ofList [("a.mo", content)]⟩
    let backend := Scripted.ofFiles .empty [] fun
      | .parseMotoko => [.raise (.str "boom")]
      | .saveFile => [.error ⟨"no space left", none⟩]
      | _ => []
    let steps := fun content : String =>
      ([.fetch (fetcher content) (.directory "core"), .attach backend, .act (.sourceTree content),
        .load (fetcher content) [("core", .directory "core")] [.start, .finish "core"]] :
        List (Step Scripted))
    let done := watched "0.14.0" .standard (steps "module A")
    let done' := watched "0.14.0" .standard (steps "module B")
    done.1.map Result.blank = done'.1.map Result.blank ∧
      done.1[2]? = some (.performed (.error (.raised .parseMotoko (.str "boom")))) ∧
      done.1[2]? = done'.1[2]? ∧
      done.1[3]? = some (.performed (.error (.reported ⟨"no space left", none⟩))) ∧
      done.1[3]? = done'.1[3]? ∧ done.2.gateway.journal = done'.2.gateway.journal := by
  intro fetcher backend steps done done'
  have fetchers : (fetcher "module A").Alike (fetcher "module B") := fun _ _ => ⟨rfl,
    congrArg Except.ok (FetchedPackage.blank_eq_blank_iff.mpr ⟨rfl, rfl, by decide +kernel⟩)⟩
  have same : List.Forall₂ Step.Alike (steps "module A") (steps "module B") :=
    .cons (.fetch _ fetchers) (.cons (.attach _ _) (.cons (.act (.sourceTree _ _))
      (.cons (.load _ _ fetchers) .nil)))
  have concurs : ∀ n, (watched "0.14.0" .standard ((steps "module A").take n)).2.gateway.Concurs
      (watched "0.14.0" .standard ((steps "module B").take n)).2.gateway := by
    intro n w w' present present'
    obtain - | - | - | - | n := n
    · cases present
    · cases present
    · obtain rfl := Option.some.inj present.symm
      obtain rfl := Option.some.inj present'.symm
      exact .of_forall₂ (.cons (fun _ => rfl) .nil) .nil
    · -- the text has been parsed
      obtain rfl := Option.some.inj present.symm
      obtain rfl := Option.some.inj present'.symm
      exact .of_forall₂ (.cons (fun _ => rfl) (.cons (fun _ => rfl) .nil))
        (.cons (fun _ => .rfl) .nil)
    · -- a file has been refused, and the registrations have been dropped
      rw [List.take_of_length_le (Nat.le_add_left 4 n)] at present present'
      obtain rfl := Option.some.inj present.symm
      obtain rfl := Option.some.inj present'.symm
      exact .of_forall₂ (.cons (fun _ => rfl) (.cons (fun _ => rfl) (.cons (fun _ => rfl)
        (.cons (fun _ => rfl) .nil)))) (.cons (fun _ => .rfl) (.cons (fun _ => .rfl)
          (.cons (fun _ => .rfl) .nil)))
  obtain ⟨results, blanks, -, journals⟩ := run_alike "0.14.0" .standard same concurs
  exact ⟨blanks, rfl, results 2 (by rintro _ _ ⟨⟩), rfl, results 3 (by rintro _ _ ⟨⟩), journals⟩

/-- The exception: a package that is fetched on its own is handed over with its contents, so that
two sessions that are the same but for these come to different results. -/
theorem contents_handed_over :
    let fetcher := fun content : String =>
      Fetcher.quiet fun _ => .ok ⟨"base", "1", Table.ofList [("a.mo", content)]⟩
    let steps := fun content : String =>
      ([.fetch (fetcher content) (.directory "base")] : List (Step Scripted))
    List.Forall₂ Step.Alike (steps "module A") (steps "module B") ∧
      (∀ n, (watched "0.14.0" .standard ((steps "module A").take n)).2.gateway.Concurs
        (watched "0.14.0" .standard ((steps "module B").take n)).2.gateway) ∧
      (watched "0.14.0" .standard (steps "module A")).1 ≠
        (watched "0.14.0" .standard (steps "module B")).1 := by
  intro fetcher steps
  refine ⟨.cons (.fetch _ fun _ _ => ⟨rfl, ?_⟩) .nil, fun n w w' present => ?_, fun same => ?_⟩
  · exact congrArg Except.ok (FetchedPackage.blank_eq_blank_iff.mpr ⟨rfl, rfl, by decide +kernel⟩)
  · obtain - | - | n := n <;> cases present
  · have answers := Result.performed.inj (List.cons.inj same).1
    have packages := Answer.package.inj (Except.ok.inj answers)
    exact absurd packages (by decide +kernel)

end Session

end CompilerGateway
