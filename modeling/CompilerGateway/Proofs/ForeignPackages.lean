import CompilerGateway.Proofs.Containment
import CompilerGateway.Proofs.EntryRanking
import CompilerGateway.Proofs.InstalledPackages

/-!
# Entry points are not those of other packages

The file that a directory is used through is none of a package that the directory itself is not
part of. The code decides this on texts; here it is said in terms of the parts of paths
(`CompilerGateway.Session.entryPoint_not_foreign`): where the paths of packages are normal, a
package is passed over if and only if its parts are the first ones of the path of a candidate and
not the first ones of the directory.

So a package whose directory only looks alike is never in the way, and within an installed package
no other installed package is.
-/

namespace CompilerGateway

open VirtualPath

namespace EntryPoint

variable {role : EntryRole} {packages : Table String} {directory path : String}
  {entries nested : List String} {rank : Nat}

/-! ### Candidates -/

/-- Candidates lie within the directory. -/
theorem isWithin_of_mem_ranked (mem : path ∈ ranked role directory entries nested rank) :
    isWithin path directory = true := by
  rcases of_mem_ranked mem with ⟨name, -, -, path_eq⟩ | ⟨-, name, -, -, path_eq⟩ |
    ⟨-, only, -, path_eq⟩
  · rw [path_eq]
    exact isWithin_join directory name
  · rw [path_eq]
    exact isWithin_trans (isWithin_join _ name) (isWithin_join directory sourceDirectory)
  · rw [path_eq]
    exact isWithin_join directory only

/-- The candidates of a normal directory are normal, if what is listed in it are names. -/
theorem normal_of_mem_ranked (normal : Normal directory)
    (plain : ∀ entry ∈ entries, '/' ∉ entry.toList)
    (mem : path ∈ ranked role directory entries nested rank) : Normal path := by
  have conventional : ∀ name ∈ names role, name ≠ "" ∧ '/' ∉ name.toList := by
    cases role <;> decide +kernel
  have source : Normal (join directory sourceDirectory) :=
    normal.join (by decide +kernel) (by decide +kernel)
  rcases of_mem_ranked mem with ⟨name, named, -, path_eq⟩ | ⟨-, name, named, -, path_eq⟩ |
    ⟨-, only, alone, path_eq⟩
  · rw [path_eq]
    exact normal.join (conventional name named).1 (conventional name named).2
  · rw [path_eq]
    exact source.join (conventional name named).1 (conventional name named).2
  · rw [path_eq]
    have mem : only ∈ sources entries := by
      rw [alone]
      exact List.mem_cons_self
    obtain ⟨listed, kept⟩ := List.mem_filter.mp mem
    have isSource := (of_decide_eq_true kept).1
    refine normal.join ?_ (plain only listed)
    rintro rfl
    exact absurd isSource (by decide +kernel)

/-- **What is not foreign, by parts**: what has its first parts in common with a package only if
the directory has. -/
theorem not_foreign_iff_parts (registered : ∀ name package, packages.find? name = some package →
      Normal package) (normal : Normal directory) (normal' : Normal path) :
    ¬ Foreign packages directory path ↔
      ∀ name package, packages.find? name = some package →
        parts package <+: parts path → parts package <+: parts directory := by
  constructor
  · intro kept name package found begins
    have whole := registered name package found
    have inside := (isWithin_iff_parts normal'.gapless whole.gapless).mpr begins
    cases within : isWithin directory package with
    | false => exact absurd ⟨name, package, found, inside, within⟩ kept
    | true => exact (isWithin_iff_parts normal.gapless whole.gapless).mp within
  · rintro all ⟨name, package, found, inside, outside⟩
    have whole := registered name package found
    have begins := all name package found
      ((isWithin_iff_parts normal'.gapless whole.gapless).mp inside)
    rw [(isWithin_iff_parts normal.gapless whole.gapless).mpr begins] at outside
    cases outside

end EntryPoint

open EntryPoint

namespace Gateway

variable {σ : Type} [Backend σ] {g : Gateway σ} {role : EntryRole} {directory path : String}

/-- A path that is found is not foreign. -/
theorem not_foreign_of_entryPoint (found : (g.entryPoint role directory).1 = some path) :
    (∃ rank, path ∈ ranked role directory (Backend.entries directory g.backend)
      (Backend.entries (join directory sourceDirectory)
        (Backend.after [.readDir directory] g.backend)) rank) ∧
      ¬ Foreign g.packages directory path := by
  have chosen := (g.fst_entryPoint role directory).symm.trans found
  obtain ⟨rank, mem⟩ := (choose_eq_iff.mp chosen).exists_mem
  obtain ⟨mem, kept⟩ := List.mem_filter.mp mem
  exact ⟨⟨rank, mem⟩, of_decide_eq_true kept⟩

/-- **Only what is foreign matters**: where no candidate is made foreign by one account and not by
another, the entry point is the same. -/
theorem entryPoint_congr (packages : Table String)
    (same : ∀ path, isWithin path directory = true →
      (Foreign g.packages directory path ↔ Foreign packages directory path)) :
    ({ g with packages := packages }.entryPoint role directory).1 =
      (g.entryPoint role directory).1 := by
  rw [fst_entryPoint, choose_eq_iff, fst_entryPoint]
  refine (choose_eq_iff.mp rfl).perm fun rank => .of_eq (List.filter_congr fun path mem => ?_)
  have foreign_iff := same path (isWithin_of_mem_ranked mem)
  simp only [foreign_iff]

/-- A package that only looks like the directory is not in the way. -/
theorem entryPoint_erase_of_beside {name package : String}
    (found : g.packages.find? name = some package) (beside : Beside directory package) :
    ({ g with packages := g.packages.erase name }.entryPoint role directory).1 =
      (g.entryPoint role directory).1 := by
  refine entryPoint_congr _ fun path within => ?_
  have outside := beside.isWithin_eq_false within
  constructor
  · rintro ⟨other, held, found', inside, apart⟩
    refine ⟨other, held, ?_, inside, apart⟩
    rw [Table.find?_erase, if_neg]
    · exact found'
    · rintro rfl
      obtain rfl := Option.some.inj (found.symm.trans found')
      rw [outside] at inside
      cases inside
  · rintro ⟨other, held, found', inside, apart⟩
    rw [Table.find?_erase] at found'
    split at found'
    · cases found'
    · exact ⟨other, held, found', inside, apart⟩

/-- **Within an installed package** no other one is in the way. -/
theorem AllInstalled.entryPoint_eq (installed : g.AllInstalled) {name package : String}
    (found : g.packages.find? name = some package) (within : isWithin directory package = true) :
    ({ g with packages := .empty }.entryPoint role directory).1 =
      (g.entryPoint role directory).1 := by
  refine entryPoint_congr _ fun path within' => ?_
  constructor
  · rintro ⟨other, held, found', inside, apart⟩
    -- the path is in both packages, so they are one
    obtain rfl := eq_of_isWithin_home (installed name package found)
      (isWithin_trans within' within) (installed other held found') inside
    obtain rfl := Option.some.inj (found.symm.trans found')
    rw [within] at apart
    cases apart
  · rintro ⟨other, held, found', -⟩
    cases found'

end Gateway

namespace Session

variable {σ : Type} [Backend σ]

/-- **Entry points are not those of other packages**, at any time of any session. Where the paths
of the packages and of the directory are normal and names are listed in the directory, a candidate
remains if and only if every package whose parts are the first ones of its path has the first parts
of the directory, too; so this holds of what is found. A package that only looks like the directory,
or like its source directory, makes no difference to what is in there. And where all packages are
installed, as they are if all registrations have come from loads, nothing that is registered makes a
difference within the directory of a package. -/
theorem entryPoint_not_foreign (version : String) (settings : Settings) (steps : List (Step σ))
    (role : EntryRole) (directory : String) :
    let g := ((opening (Gateway.detached version settings)).run steps).2.gateway
    let source := join directory sourceDirectory
    let entries := Backend.entries directory g.backend
    let nested := Backend.entries source (Backend.after [.readDir directory] g.backend)
    let result := (g.entryPoint role directory).1
    ((∀ name package, g.packages.find? name = some package → Normal package) →
      Normal directory → (∀ entry ∈ entries, '/' ∉ entry.toList) →
      (∀ path, result = some path → ∀ name package, g.packages.find? name = some package →
        parts package <+: parts path → parts package <+: parts directory) ∧
      ∀ rank, ∀ path ∈ ranked role directory entries nested rank,
        (path ∈ remaining role g.packages directory entries nested rank ↔
          ∀ name package, g.packages.find? name = some package →
            parts package <+: parts path → parts package <+: parts directory)) ∧
    (∀ name package, g.packages.find? name = some package →
      (Beside directory package →
        ({ g with packages := g.packages.erase name }.entryPoint role directory).1 = result) ∧
      (Beside source package → ∀ entry, isWithin (join source entry) package = false)) ∧
    (g.AllInstalled → ∀ name package, g.packages.find? name = some package →
      isWithin directory package = true →
      ({ g with packages := .empty }.entryPoint role directory).1 = result) ∧
    ((∀ step ∈ steps, ∀ name package, step ≠ .act (.register name package)) →
      g.AllInstalled) := by
  intro g source entries nested result
  refine ⟨fun registered normal plain => ?_, fun name package found => ⟨fun beside => ?_,
    fun beside entry => ?_⟩, fun installed name package found within => ?_, fun onlyLoads => ?_⟩
  · have remains_iff : ∀ rank, ∀ path ∈ ranked role directory entries nested rank,
        (¬ Foreign g.packages directory path ↔
          ∀ name package, g.packages.find? name = some package →
            parts package <+: parts path → parts package <+: parts directory) := by
      intro rank path mem
      exact not_foreign_iff_parts registered normal (normal_of_mem_ranked normal plain mem)
    refine ⟨fun path found => ?_, fun rank path mem => ?_⟩
    · obtain ⟨⟨rank, mem⟩, kept⟩ := Gateway.not_foreign_of_entryPoint found
      exact (remains_iff rank path mem).mp kept
    · rw [← remains_iff rank path mem, remaining, List.mem_filter, decide_eq_true_iff]
      exact ⟨And.right, fun kept => ⟨mem, kept⟩⟩
  · exact Gateway.entryPoint_erase_of_beside found beside
  · exact beside.isWithin_eq_false (isWithin_join source entry)
  · exact installed.entryPoint_eq found within
  · exact allInstalled_run (Gateway.allInstalled_of_empty rfl) onlyLoads

/-- A package is registered, in a directory whose name another one begins with; and one is
installed. The library in the first directory is not found from above, the one in the other
directory and the one in the installed package are found as if nothing was registered. -/
theorem entryPoint_not_foreign_alike :
    let files := Table.ofList [("app/src/lib.mo", "module {}"), ("app/srcx/lib.mo", "module {}")]
    let backend : Scripted := .ofFiles files [] fun _ => []
    let fetcher := Fetcher.quiet fun _ =>
      .ok ⟨"any", "1", Table.ofList [("lib.mo", "module {}")]⟩
    let opened := opening (Gateway.detached "0.14.0" .standard)
    let g := (opened.run [.attach backend, .act (.register "vendored" "app/src")]).2.gateway
    let h := (opened.run [.attach backend, .load fetcher [("base", .directory "base")]
      [.start, .finish "base"]]).2.gateway
    g.packages.find? "vendored" = some "app/src" ∧
      (g.entryPoint .library "app").1 ≠ some "app/src/lib.mo" ∧
      ({ g with packages := g.packages.erase "vendored" }.entryPoint .library "app/srcx").1 =
        (g.entryPoint .library "app/srcx").1 ∧
      h.packages.find? "base" = some ".packages/base/1" ∧
      ({ h with packages := .empty }.entryPoint .library ".packages/base/1").1 =
        (h.entryPoint .library ".packages/base/1").1 := by
  intro files backend fetcher opened g h
  have registered : g.packages.find? "vendored" = some "app/src" := by decide +kernel
  have installed : h.packages.find? "base" = some ".packages/base/1" := by decide +kernel
  obtain ⟨onNormal, -⟩ := entryPoint_not_foreign "0.14.0" .standard
    [.attach backend, .act (.register "vendored" "app/src")] .library "app"
  obtain ⟨-, alike, -⟩ := entryPoint_not_foreign "0.14.0" .standard
    [.attach backend, .act (.register "vendored" "app/src")] .library "app/srcx"
  obtain ⟨-, -, within, onLoads⟩ := entryPoint_not_foreign "0.14.0" .standard
    [.attach backend, .load fetcher [("base", .directory "base")] [.start, .finish "base"]]
    .library ".packages/base/1"
  refine ⟨registered, fun found => ?_, ?_, installed, ?_⟩
  · have normal : ∀ name package, g.packages.find? name = some package → Normal package := by
      intro name package held
      have entries_eq : g.packages.entries = [("vendored", "app/src")] := by decide +kernel
      have mem := Table.mem_entries_iff.mpr held
      rw [entries_eq] at mem
      cases List.mem_singleton.mp mem
      exact ⟨by decide +kernel, .inr (by decide +kernel)⟩
    have normal' : Normal "app" := ⟨by decide +kernel, .inr (by decide +kernel)⟩
    obtain ⟨apart, -⟩ := onNormal normal normal' (by decide +kernel)
    have begins := apart _ found "vendored" "app/src" registered (by decide +kernel)
    exact absurd begins (by decide +kernel)
  · refine (alike "vendored" "app/src" registered).1
      ⟨"app/src", "x", by simp, ?_, by simp, ?_, .inr ⟨rfl, rfl⟩⟩
    · decide +kernel
    · decide +kernel
  · exact within (onLoads (by simp)) "base" ".packages/base/1" installed (by decide +kernel)

end Session

end CompilerGateway
