import CompilerGateway.Proofs.ForeignPackages

/-!
# Directories within directories

Containment is a preorder, and a join leads to a path within its first one. From this alone it
follows that a candidate for an entry point lies within every package that its project lies in
(`CompilerGateway.EntryPoint.isWithin_of_mem_candidates`), so that a package never hides what is in
it from a project of its own. What is hidden are the candidates that lie within more packages than
the project does, and those that remain lie within the very same ones
(`CompilerGateway.EntryPoint.not_foreign_iff_eq`).
-/

namespace CompilerGateway

open VirtualPath

namespace EntryPoint

variable {role : EntryRole} {packages : Table String} {directory path : String}
  {entries nested : List String} {candidate : Candidate}

/-- **Candidates lie within the directory**, and so within everything that it lies in. -/
theorem isWithin_of_mem_candidates (mem : candidate ∈ candidates role directory entries nested)
    {package : String} (within : isWithin directory package = true) :
    isWithin candidate.path package = true := by
  have mem' : candidate.path ∈ ofRank (candidates role directory entries nested) candidate.rank :=
    List.mem_map_of_mem (List.mem_filter.mpr ⟨mem, beq_self_eq_true candidate.rank⟩)
  rw [ofRank_candidates] at mem'
  exact isWithin_trans (isWithin_of_mem_ranked mem') within

/-- **What is not foreign lies within the same packages** as the directory, if it lies within
all that the directory does. -/
theorem not_foreign_iff_eq
    (inner : ∀ package, isWithin directory package = true → isWithin path package = true) :
    ¬ Foreign packages directory path ↔ ∀ name package, packages.find? name = some package →
      isWithin path package = isWithin directory package := by
  constructor
  · intro kept name package found
    cases within : isWithin directory package with
    | true => exact inner package within
    | false =>
      rw [Bool.eq_false_iff]
      exact fun within' => kept ⟨name, package, found, within', within⟩
  · rintro same ⟨name, package, found, inside, outside⟩
    rw [same name package found, outside] at inside
    cases inside

/-- A candidate is removed if it is foreign, and for no other reason. -/
theorem not_mem_filter_isHidden_iff
    (mem : candidate ∈ candidates role directory entries nested) :
    candidate ∉ (candidates role directory entries nested).filter
        (fun candidate => !isHidden packages directory candidate.path) ↔
      Foreign packages directory candidate.path := by
  rw [List.mem_filter, Bool.not_eq_true', ← isHidden_iff, not_and, Bool.not_eq_false]
  exact ⟨fun removed => removed mem, fun hidden _ => hidden⟩

end EntryPoint

open EntryPoint

namespace Gateway

variable {σ : Type} [Backend σ]

/-- **Hiding goes by containment**, and containment is a preorder on all texts that goes along with
joining. It does not see the slashes that a directory ends with, and on paths without a gap it says
that the parts of the directory are the first parts of the path. So every candidate lies within
each directory that its project lies in, and a candidate is removed if and only if it lies within a
registered directory that the project does not lie in: those that are left, of which the entry
point is the only best one, lie within the same registered directories as the project. -/
theorem hiding_by_containment (g : Gateway σ) (role : EntryRole) (project : String) :
    (∀ path, isWithin path path = true) ∧
    (∀ path middle directory, isWithin path middle = true → isWithin middle directory = true →
      isWithin path directory = true) ∧
    (∀ path directory n, isWithin path (directory ++ slashes n) = isWithin path directory) ∧
    (∀ directory relative, isWithin (join directory relative) directory = true) ∧
    (∀ path directory, Gapless path → Gapless directory →
      (isWithin path directory = true ↔ parts directory <+: parts path)) ∧
    let entries := Backend.entries project g.backend
    let nested := Backend.entries (join project sourceDirectory)
      (Backend.after [.readDir project] g.backend)
    let found := candidates role project entries nested
    let kept := found.filter fun candidate => !isHidden g.packages project candidate.path
    (g.entryPoint role project).1 = soleBest kept ∧
    ∀ candidate ∈ found,
      (∀ directory, isWithin project directory = true →
        isWithin candidate.path directory = true) ∧
      (candidate ∉ kept ↔ ∃ name directory, g.packages.find? name = some directory ∧
        isWithin candidate.path directory = true ∧ isWithin project directory = false) ∧
      (candidate ∈ kept ↔ ∀ name directory, g.packages.find? name = some directory →
        isWithin candidate.path directory = isWithin project directory) := by
  refine ⟨isWithin_self, fun _ _ _ => isWithin_trans, isWithin_append_slashes, isWithin_join,
    fun _ _ => isWithin_iff_parts, ?_⟩
  intro entries nested found kept
  refine ⟨g.fst_entryPoint role project, fun candidate mem => ?_⟩
  have inner : ∀ directory, isWithin project directory = true →
      isWithin candidate.path directory = true := by
    intro directory within
    exact isWithin_of_mem_candidates mem within
  have removed_iff : candidate ∉ kept ↔ Foreign g.packages project candidate.path :=
    not_mem_filter_isHidden_iff mem
  refine ⟨inner, removed_iff, ?_⟩
  rw [← not_foreign_iff_eq inner, ← removed_iff, not_not]

/-- The project lies in one package and has its source directory in another one. The main file in
the source directory is in both packages and removed; the other source file is only in the package
of the project and left. A directory whose name only begins like that of the source directory is
not within it. -/
theorem hiding_by_containment_vendored :
    let files := Table.ofList [("app/Counter.mo", "actor {}"), ("app/src/Main.mo", "actor {}")]
    let packages := Table.ofList [("outer", "app//"), ("vendored", "app/src/")]
    let g : Gateway Scripted :=
      ⟨"0.14.0", .standard, some (.ofFiles files [] fun _ => []), packages, []⟩
    let found := candidates .main "app/" (Backend.entries "app/" g.backend)
      (Backend.entries (join "app/" sourceDirectory)
        (Backend.after [.readDir "app/"] g.backend))
    let kept := found.filter fun candidate => !isHidden g.packages "app/" candidate.path
    isWithin "app/src/Main.mo" "app//" = true ∧ isWithin "app/srcx" "app/src/" = false ∧
      ⟨"app/src/Main.mo", 1⟩ ∈ found ∧ ⟨"app/src/Main.mo", 1⟩ ∉ kept ∧
      ⟨"app/Counter.mo", 2⟩ ∈ kept ∧ (g.entryPoint .main "app/").1 = some "app/Counter.mo" := by
  intro files packages g found kept
  obtain ⟨-, trans, -, below, parts_iff, result_eq, all⟩ := hiding_by_containment g .main "app/"
  have mem : ⟨"app/src/Main.mo", 1⟩ ∈ found := by decide +kernel
  have mem' : ⟨"app/Counter.mo", 2⟩ ∈ found := by decide +kernel
  refine ⟨?_, ?_, mem, ?_, ?_, ?_⟩
  · exact trans _ "app/src/" _ (below "app/src/" "Main.mo") (below "app//" "src/")
  · have gapless : Gapless "app/srcx" := .inr (by decide +kernel)
    have gapless' : Gapless "app/src/" := .inr (by decide +kernel)
    rw [Bool.eq_false_iff, ne_eq, parts_iff _ _ gapless gapless']
    decide +kernel
  · exact (all _ mem).2.1.mpr ⟨"vendored", "app/src/", by decide +kernel⟩
  · rw [(all _ mem').2.2]
    intro name directory held
    have entries_eq : g.packages.entries = [("outer", "app//"), ("vendored", "app/src/")] := by
      decide +kernel
    have mem := Table.mem_entries_iff.mpr held
    rw [entries_eq] at mem
    rcases List.mem_cons.mp mem with same | mem
    · cases same
      decide +kernel
    · cases List.mem_singleton.mp mem
      decide +kernel
  · exact result_eq.trans (by decide +kernel)

end Gateway

end CompilerGateway
