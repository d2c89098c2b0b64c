import CompilerGateway.Proofs.Invocation
import CompilerGateway.Proofs.SideBySide

/-!
# Which entry point is found

Of what two listings offer, an entry point is settled rank by rank. This file says what the paths
of each rank are (`CompilerGateway.EntryPoint.ranked`), which of them are foreign to a directory
(`CompilerGateway.EntryPoint.Foreign`), and how the paths that remain settle the choice
(`CompilerGateway.EntryPoint.Settles`): the lowest rank at which some remain counts, and it has
to be the only one there.

That is what the backend is asked for and what becomes of it
(`CompilerGateway.Gateway.entryPoint_settled`): the directory is listed once, its source directory
only if it is there, and listings that differ in their order alone lead to the same entry point.
A main file without a conventional name is the only source file of its directory, library files
aside (`CompilerGateway.Gateway.mainFile_lone`).
-/

namespace CompilerGateway

namespace EntryPoint

/-! ### Ranks -/

/-- Whether an entry is a source file. -/
def IsSource (entry : String) : Prop := sourceEnding.toList <:+ entry.toList

instance (entry : String) : Decidable (IsSource entry) :=
  inferInstanceAs (Decidable (_ <:+ _))

/-- **The source files of a directory** that are not library files. -/
def sources (entries : List String) : List String :=
  entries.filter fun entry => IsSource entry ∧ entry ∉ libraryNames

/-- What is listed, if it is one alone. -/
def sole : List String → List String
  | [only] => [only]
  | _ => []

theorem eq_of_mem_sole {listed : List String} {only : String} (mem : only ∈ sole listed) :
    listed = [only] := by
  match listed with
  | [_] => rw [List.mem_singleton.mp mem]

/-- A source file is a library file or it is not. -/
theorem length_filter_isSource (entries : List String) :
    (entries.filter IsSource).length =
      (sources entries).length + (entries.filter (· ∈ libraryNames)).length := by
  have isSource : ∀ name ∈ libraryNames, IsSource name := by decide +kernel
  induction entries with
  | nil => rfl
  | cons entry rest ih =>
    rw [sources] at ih ⊢
    by_cases isLibrary : entry ∈ libraryNames
    · simp only [List.filter_cons, isSource entry isLibrary, isLibrary, ih, List.length_cons,
        not_true, and_false, decide_true, decide_false, if_true, if_false, Bool.false_eq_true]
      omega
    · by_cases source : IsSource entry
      · simp only [List.filter_cons, source, isLibrary, ih, List.length_cons, not_false_eq_true,
          and_true, decide_true, decide_false, if_true, if_false, Bool.false_eq_true]
        omega
      · simp only [List.filter_cons, source, isLibrary, ih, false_and, decide_false, if_false,
          Bool.false_eq_true]

/-- **The paths of a rank**: of the files with a conventional name in the directory, then of those
in its source directory, and then, for a main file, of the source file that is the only one. -/
def ranked (role : EntryRole) (directory : String) (entries nested : List String) :
    Nat → List String
  | 0 => (entries.filter (· ∈ names role)).map (VirtualPath.join directory)
  | 1 =>
    if sourceDirectory ∈ entries then
      (nested.filter (· ∈ names role)).map
        (VirtualPath.join (VirtualPath.join directory sourceDirectory))
    else []
  | 2 =>
    match role with
    | .main => (sole (sources entries)).map (VirtualPath.join directory)
    | .library => []
  | _ => []

/-- **Where the paths of a rank come from**: they are conventional ones of entries that are listed,
or that of the only source file. -/
theorem of_mem_ranked {role : EntryRole} {directory path : String} {entries nested : List String}
    {rank : Nat} (mem : path ∈ ranked role directory entries nested rank) :
    (∃ name ∈ names role, name ∈ entries ∧ path = VirtualPath.join directory name) ∨
    (sourceDirectory ∈ entries ∧ ∃ name ∈ names role, name ∈ nested ∧
      path = VirtualPath.join (VirtualPath.join directory sourceDirectory) name) ∨
    (role = .main ∧ ∃ only, sources entries = [only] ∧
      path = VirtualPath.join directory only) := by
  match rank, mem with
  | 0, mem =>
    obtain ⟨name, held, rfl⟩ := List.mem_map.mp mem
    obtain ⟨listed, named⟩ := List.mem_filter.mp held
    exact .inl ⟨name, of_decide_eq_true named, listed, rfl⟩
  | 1, mem =>
    rw [ranked] at mem
    split at mem
    · rename_i present
      obtain ⟨name, held, rfl⟩ := List.mem_map.mp mem
      obtain ⟨listed, named⟩ := List.mem_filter.mp held
      exact .inr (.inl ⟨present, name, of_decide_eq_true named, listed, rfl⟩)
    · cases mem
  | 2, mem =>
    cases role with
    | main =>
      obtain ⟨only, held, rfl⟩ := List.mem_map.mp mem
      exact .inr (.inr ⟨rfl, only, eq_of_mem_sole held, rfl⟩)
    | library => cases mem

/-- **A path is foreign** to a directory if it lies within a package that the directory does not
lie within. -/
def Foreign (packages : Table String) (directory path : String) : Prop :=
  ∃ name package, packages.find? name = some package ∧
    VirtualPath.isWithin path package = true ∧ VirtualPath.isWithin directory package = false

/-- What is hidden is what is foreign. -/
theorem isHidden_iff {packages : Table String} {directory path : String} :
    isHidden packages directory path = true ↔ Foreign packages directory path := by
  rw [isHidden, List.any_eq_true]
  constructor
  · rintro ⟨package, held, apart⟩
    obtain ⟨⟨name, _⟩, mem, rfl⟩ := List.mem_map.mp held
    rw [Bool.and_eq_true, Bool.not_eq_true'] at apart
    exact ⟨name, _, Table.mem_entries_iff.mp mem, apart⟩
  · rintro ⟨name, package, found, apart⟩
    refine ⟨package, List.mem_map.mpr ⟨_, Table.mem_entries_iff.mpr found, rfl⟩, ?_⟩
    rwa [Bool.and_eq_true, Bool.not_eq_true']

instance (packages : Table String) (directory path : String) :
    Decidable (Foreign packages directory path) :=
  decidable_of_iff _ isHidden_iff

/-- **The paths of a rank that remain** when the foreign ones are gone. -/
def remaining (role : EntryRole) (packages : Table String) (directory : String)
    (entries nested : List String) (rank : Nat) : List String :=
  (ranked role directory entries nested rank).filter (¬ Foreign packages directory ·)

/-! ### How ranks settle the choice -/

/-- **How the choice is settled** where these paths remain at each rank. -/
inductive Settles (remaining : Nat → List String) : Option String → Prop where
  /-- One path remains at the lowest rank that has any. -/
  | sole {rank : Nat} {path : String} : (∀ lower < rank, remaining lower = []) →
    remaining rank = [path] → Settles remaining (some path)
  /-- Several remain there. -/
  | tied {rank : Nat} : (∀ lower < rank, remaining lower = []) →
    2 ≤ (remaining rank).length → Settles remaining none
  /-- None remain at all. -/
  | missing : (∀ rank, remaining rank = []) → Settles remaining none

section Settles

variable {held others : Nat → List String} {result result' : Option String}

theorem rank_unique {rank rank' : Nat} (lowest : ∀ lower < rank, held lower = [])
    (some : held rank ≠ []) (lowest' : ∀ lower < rank', held lower = [])
    (some' : held rank' ≠ []) : rank = rank' := by
  rcases Nat.lt_trichotomy rank rank' with less | same | greater
  · exact absurd (lowest' rank less) some
  · exact same
  · exact absurd (lowest rank' greater) some'

/-- **The choice is settled in one way.** -/
theorem Settles.unique (settles : Settles held result) (settles' : Settles held result') :
    result = result' := by
  have ne_nil {rank : Nat} (several : 2 ≤ (held rank).length) : held rank ≠ [] := by
    intro nil
    rw [nil] at several
    cases several
  have ne_nil' {rank : Nat} {path : String} (one : held rank = [path]) : held rank ≠ [] := by
    rw [one]
    exact List.cons_ne_nil _ _
  cases settles with
  | sole lowest one =>
    cases settles' with
    | sole lowest' one' =>
      obtain rfl := rank_unique lowest (ne_nil' one) lowest' (ne_nil' one')
      rw [one] at one'
      exact congrArg some (List.cons.inj one').1
    | tied lowest' several =>
      obtain rfl := rank_unique lowest (ne_nil' one) lowest' (ne_nil several)
      rw [one] at several
      exact absurd several (Nat.lt_irrefl 1)
    | missing nothing => exact absurd (nothing _) (ne_nil' one)
  | tied lowest several =>
    cases settles' with
    | sole lowest' one' =>
      obtain rfl := rank_unique lowest (ne_nil several) lowest' (ne_nil' one')
      rw [one'] at several
      exact absurd several (Nat.lt_irrefl 1)
    | tied _ _ => rfl
    | missing _ => rfl
  | missing nothing =>
    cases settles' with
    | sole _ one' => exact absurd (nothing _) (ne_nil' one')
    | tied _ _ => rfl
    | missing _ => rfl

/-- What is chosen remains at some rank. -/
theorem Settles.exists_mem {path : String} (settles : Settles held (some path)) :
    ∃ rank, path ∈ held rank := by
  cases settles with
  | @sole rank _ _ one =>
    refine ⟨rank, ?_⟩
    rw [one]
    exact List.mem_cons_self

/-- The order of the paths of a rank has no influence. -/
theorem Settles.perm (settles : Settles held result)
    (perm : ∀ rank, (held rank).Perm (others rank)) : Settles others result := by
  have nil {rank : Nat} (empty : held rank = []) : others rank = [] :=
    List.nil_perm.mp (empty ▸ perm rank)
  cases settles with
  | @sole rank path lowest one =>
    exact .sole (fun lower less => nil (lowest lower less))
      (List.perm_singleton.mp (one ▸ (perm rank).symm))
  | @tied rank lowest several =>
    exact .tied (fun lower less => nil (lowest lower less)) ((perm rank).length_eq ▸ several)
  | missing nothing => exact .missing fun rank => nil (nothing rank)

end Settles

/-! ### Candidates by their ranks -/

/-- The paths of the candidates of a rank. -/
def ofRank (found : List Candidate) (rank : Nat) : List String :=
  (found.filter fun candidate => candidate.rank == rank).map Candidate.path

theorem ofRank_append (found more : List Candidate) (rank : Nat) :
    ofRank (found ++ more) rank = ofRank found rank ++ ofRank more rank := by
  rw [ofRank, List.filter_append, List.map_append]
  rfl

theorem ofRank_filter (found : List Candidate) (keeps : String → Bool) (rank : Nat) :
    ofRank (found.filter fun candidate => keeps candidate.path) rank =
      (ofRank found rank).filter keeps := by
  rw [ofRank, ofRank, List.filter_map, List.filter_filter, List.filter_filter]
  simp only [Function.comp_def, Bool.and_comm]

theorem ofRank_of_forall {found : List Candidate} {rank : Nat}
    (all : ∀ candidate ∈ found, candidate.rank = rank) (other : Nat) :
    ofRank found other = if other = rank then found.map Candidate.path else [] := by
  split
  · rename_i same
    rw [ofRank, List.filter_eq_self.mpr fun candidate mem => by simp [all candidate mem, same]]
  · rename_i different
    rw [ofRank, List.filter_eq_nil_iff.mpr, List.map_nil]
    intro candidate mem same
    rw [all candidate mem, beq_iff_eq] at same
    exact different same.symm

/-- **The only candidate of the best rank settles the choice.** -/
theorem settles_soleBest (found : List Candidate) : Settles (ofRank found) (soleBest found) := by
  rw [soleBest]
  split
  · rename_i nothing
    have empty : found = [] := List.map_eq_nil_iff.mp (List.min?_eq_none_iff.mp nothing)
    rw [empty]
    exact .missing fun rank => rfl
  · rename_i best least
    obtain ⟨mem, below⟩ := List.min?_eq_some_iff.mp least
    have lowest : ∀ lower < best, ofRank found lower = [] := by
      intro lower less
      rw [ofRank, List.filter_eq_nil_iff.mpr, List.map_nil]
      intro candidate mem same
      have bound := below candidate.rank (List.mem_map_of_mem mem)
      rw [beq_iff_eq] at same
      omega
    split
    · rename_i only one
      exact .sole lowest (by rw [ofRank, one]; rfl)
    · rename_i notOne
      refine .tied lowest ?_
      obtain ⟨candidate, mem, rank_eq⟩ := List.mem_map.mp mem
      have leads : candidate ∈ found.filter fun candidate => candidate.rank == best :=
        List.mem_filter.mpr ⟨mem, beq_iff_eq.mpr rank_eq⟩
      rw [ofRank, List.length_map]
      generalize found.filter (fun candidate => candidate.rank == best) = leaders at leads notOne
      rcases leaders with _ | ⟨only, _ | ⟨second, rest⟩⟩
      · cases leads
      · exact absurd rfl (notOne only)
      · exact Nat.le_add_left 2 _

theorem filter_isLoneSource (entries : List String) :
    entries.filter isLoneSource = sources entries := by
  rw [sources]
  refine List.filter_congr fun entry _ => ?_
  rw [isLoneSource, Bool.eq_iff_iff, decide_eq_true_eq, IsSource]
  simp only [Bool.and_eq_true, Bool.not_eq_true', List.contains_eq_mem,
    decide_eq_false_iff_not, List.isSuffixOf_iff_suffix]

theorem ofRank_named (role : EntryRole) (directory : String) (entries : List String)
    (rank other : Nat) :
    ofRank (named role directory entries rank) other = if other = rank then
      (entries.filter (· ∈ names role)).map (VirtualPath.join directory) else [] := by
  have all : ∀ candidate ∈ named role directory entries rank, candidate.rank = rank := by
    intro candidate mem
    obtain ⟨entry, -, rfl⟩ := List.mem_map.mp mem
    rfl
  rw [ofRank_of_forall all, named, List.map_map]
  simp only [List.contains_eq_mem, Function.comp_def]

theorem ofRank_lone (directory : String) (entries : List String) (other : Nat) :
    ofRank (lone directory entries) other = if other = 2 then
      (sole (sources entries)).map (VirtualPath.join directory) else [] := by
  have all : ∀ candidate ∈ lone directory entries, candidate.rank = 2 := by
    intro candidate mem
    rw [lone] at mem
    split at mem
    · rw [List.mem_singleton.mp mem]
    · cases mem
  rw [ofRank_of_forall all, lone, filter_isLoneSource]
  match sources entries with
  | [] => rfl
  | [_] => rfl
  | _ :: _ :: _ => rfl

/-- **The candidates have the paths of their ranks.** -/
theorem ofRank_candidates (role : EntryRole) (directory : String) (entries nested : List String)
    (rank : Nat) :
    ofRank (candidates role directory entries nested) rank =
      ranked role directory entries nested rank := by
  have nested_eq : ofRank (if entries.contains sourceDirectory then
      named role (VirtualPath.join directory sourceDirectory) nested 1 else []) rank =
        if rank = 1 then ranked role directory entries nested 1 else [] := by
    rw [ranked]
    by_cases present : sourceDirectory ∈ entries
    · rw [if_pos (List.contains_iff_mem.mpr present), if_pos present, ofRank_named]
    · rw [if_neg (mt List.contains_iff_mem.mp present), if_neg present, ite_self]
      rfl
  cases role with
  | main =>
    rw [candidates, ofRank_append, ofRank_append, ofRank_named, nested_eq, ofRank_lone]
    rcases rank with _ | _ | _ | rank
    · simp [ranked]
    · simp
    · simp [ranked]
    · simp [ranked]
  | library =>
    rw [candidates, List.append_nil, ofRank_append, ofRank_named, nested_eq]
    rcases rank with _ | _ | _ | rank
    · simp [ranked]
    · simp
    · simp [ranked]
    · simp [ranked]

/-- **The choice is settled by what remains.** -/
theorem choose_eq_iff {role : EntryRole} {packages : Table String} {directory : String}
    {entries nested : List String} {result : Option String} :
    choose role packages directory entries nested = result ↔
      Settles (remaining role packages directory entries nested) result := by
  have settles : Settles (remaining role packages directory entries nested)
      (choose role packages directory entries nested) := by
    have held := settles_soleBest
      ((candidates role directory entries nested).filter fun candidate =>
        !isHidden packages directory candidate.path)
    rw [choose]
    refine held.perm fun rank => .of_eq ?_
    rw [ofRank_filter _ fun path => !isHidden packages directory path, ofRank_candidates, remaining]
    refine List.filter_congr fun path _ => ?_
    rw [Bool.eq_iff_iff]
    simp [← isHidden_iff]
  constructor
  · rintro rfl
    exact settles
  · exact settles.unique

/-- One alone is the same in any order. -/
theorem sole_perm {listed others : List String} (perm : listed.Perm others) :
    sole listed = sole others := by
  match listed with
  | [] => rw [List.nil_perm.mp perm]
  | [_] => rw [List.singleton_perm.mp perm]
  | _ :: _ :: _ =>
    match others with
    | [] => cases perm.length_eq
    | [_] => cases perm.length_eq
    | _ :: _ :: _ => rfl

/-- What is listed in another order has the same paths at each rank, in another order. -/
theorem remaining_perm (role : EntryRole) (packages : Table String) (directory : String)
    {entries entries' nested nested' : List String} (perm : entries.Perm entries')
    (perm' : sourceDirectory ∈ entries → nested.Perm nested') (rank : Nat) :
    (remaining role packages directory entries nested rank).Perm
      (remaining role packages directory entries' nested' rank) := by
  refine .filter _ ?_
  match rank with
  | 0 => exact (perm.filter _).map _
  | 1 =>
    rw [ranked, ranked]
    by_cases present : sourceDirectory ∈ entries
    · rw [if_pos present, if_pos (perm.mem_iff.mp present)]
      exact ((perm' present).filter _).map _
    · rw [if_neg present, if_neg (mt perm.mem_iff.mpr present)]
  | 2 =>
    cases role with
    | main =>
      rw [ranked, ranked, sources, sources, sole_perm (perm.filter _)]
    | library => exact .refl _
  | _ + 3 => exact .refl _

end EntryPoint

/-! ### What a backend lists -/

section Listings

variable {σ : Type} [Backend σ]

namespace Backend

/-- **The entries of a directory**, or none where they cannot be listed. -/
def entries (directory : String) (backend : Option σ) : List String :=
  match reply (.readDir directory) backend with
  | .ok entries => entries
  | .error _ => []

/-- Whether there is a backend and it has the operation. -/
def offers (operation : Operation) : Option σ → Bool
  | none => false
  | some backend => supports backend operation

/-- **A request reaches a backend** that is there and has the operation. -/
theorem map_request_exchanges (request : Request) (backend : Option σ) :
    (Attempt.exchanges ⟨request, (ask request backend).1⟩).map Exchange.request =
      if offers request.operation backend then [request] else [] := by
  cases backend with
  | none => rfl
  | some backend =>
    rw [ask, offers]
    split
    · rcases respond request backend with ⟨fault | reply, next⟩
      · cases fault <;> rfl
      · rfl
    · rfl

end Backend

namespace Gateway

open EntryPoint

theorem fst_listing (g : Gateway σ) (directory : String) :
    (g.listing directory).1 = Backend.entries directory g.backend := by
  have replied := g.exchange_fst (.readDir directory)
  rw [listing, list, Backend.entries, ← replied]
  rcases g.exchange (.readDir directory) with ⟨failure | entries, h⟩ <;> rfl

/-- Requests that do nothing to the registrations leave the account as it is. -/
theorem Leads.packages_eq_self {g h : Gateway σ} {requests : List Request}
    (leads : g.Leads requests h)
    (plain : ∀ request ∈ requests, ∀ packages, request.effect packages = packages) :
    h.packages = g.packages := by
  rw [leads.packages_eq]
  refine Attempt.replay_eq_self (fun a mem packages => ?_) _
  have mem' : a.request ∈ requests := by
    rw [← Backend.map_request_attempts requests g.backend]
    exact List.mem_map_of_mem mem
  rw [Attempt.effect, plain _ mem', ite_self]

theorem packages_listing (g : Gateway σ) (directory : String) :
    (g.listing directory).2.packages = g.packages :=
  (g.leads_listing directory).packages_eq_self (by simp [Request.effect])

/-- **The entry point is chosen** from what the backend lists of the directory and then, if it is
there, of the source directory. -/
theorem fst_entryPoint (g : Gateway σ) (role : EntryRole) (directory : String) :
    (g.entryPoint role directory).1 =
      choose role g.packages directory (Backend.entries directory g.backend)
        (Backend.entries (VirtualPath.join directory sourceDirectory)
          (Backend.after [.readDir directory] g.backend)) := by
  have leads := g.leads_listing directory
  have account := g.packages_listing directory
  rw [entryPoint_eq_resolved, resolved, fst_listing, ← leads.backend_eq, ← account]
  generalize (g.listing directory).2 = h
  split
  · rw [← h.fst_listing, ← h.packages_listing (VirtualPath.join directory sourceDirectory)]
    rfl
  · rename_i absent
    simp only [chosen, choose, candidates, absent, if_false, Bool.false_eq_true]

/-- **What is asked of the backend** for an entry point: to list the directory, and then the source
directory, if it is there. -/
theorem leads_entryPoint (g : Gateway σ) (role : EntryRole) (directory : String) :
    g.Leads (.readDir directory :: if sourceDirectory ∈ Backend.entries directory g.backend then
        [.readDir (VirtualPath.join directory sourceDirectory)] else [])
      (g.entryPoint role directory).2 := by
  have first := g.leads_listing directory
  rw [entryPoint_eq_resolved, resolved, fst_listing]
  generalize (g.listing directory).2 = h at first ⊢
  by_cases present : sourceDirectory ∈ Backend.entries directory g.backend
  · rw [if_pos present, if_pos (List.contains_iff_mem.mpr present)]
    exact (first.trans (h.leads_listing _)).log rfl
  · rw [if_neg present, if_neg (mt List.contains_iff_mem.mp present)]
    exact first.log rfl

end Gateway

end Listings

/-! ### Entry points of a gateway -/

namespace Gateway

open EntryPoint

variable {σ : Type} [Backend σ]

/-- **The entry point of a directory.** It is settled by the paths that remain of what the backend
lists, where a listing that fails counts for nothing. The backend is asked to list the directory,
and to list the source directory if there is one, where these requests reach it, and for nothing
else; the account stays as it is. Another gateway with the same account to which a backend lists
the same in another order has the same entry point. -/
theorem entryPoint_settled (g : Gateway (Recorded σ)) (role : EntryRole) (directory : String) :
    let source := VirtualPath.join directory sourceDirectory
    let entries := Backend.entries directory g.backend
    let middle := Backend.after [.readDir directory] g.backend
    let nested := Backend.entries source middle
    let result := (g.entryPoint role directory).1
    let after := (g.entryPoint role directory).2
    (∀ choice, result = choice ↔
      Settles (remaining role g.packages directory entries nested) choice) ∧
    (∃ calls, after.exchanges = g.exchanges ++ calls ∧ calls.map Exchange.request =
      (if Backend.offers .readDir g.backend then [.readDir directory] else []) ++
        if sourceDirectory ∈ entries ∧ Backend.offers .readDir middle then [.readDir source]
        else []) ∧
    after.packages = g.packages ∧
    ∀ {τ : Type} [Backend τ] (g' : Gateway τ), g'.packages = g.packages →
      entries.Perm (Backend.entries directory g'.backend) →
      (sourceDirectory ∈ entries → nested.Perm
        (Backend.entries source (Backend.after [.readDir directory] g'.backend))) →
      (g'.entryPoint role directory).1 = result := by
  intro source entries middle nested result after
  have leads := g.leads_entryPoint role directory
  have result_eq : result = choose role g.packages directory entries nested :=
    g.fst_entryPoint role directory
  refine ⟨fun choice => ?_, ⟨_, leads.exchanges_eq, ?_⟩, leads.packages_eq_self ?_,
    fun g' account perm perm' => ?_⟩
  · rw [result_eq]
    exact choose_eq_iff
  · rw [Backend.attempts_cons, List.flatMap_cons, List.map_append, Backend.map_request_exchanges]
    refine congrArg₂ (· ++ ·) rfl ?_
    by_cases present : sourceDirectory ∈ entries
    · rw [if_pos present]
      simp only [Backend.attempts_cons, Backend.attempts_nil, List.flatMap_cons, List.flatMap_nil,
        List.append_nil, Backend.map_request_exchanges, present, true_and]
      rfl
    · rw [if_neg present]
      simp only [present, false_and, if_false]
      rfl
  · intro request mem packages
    rcases List.mem_cons.mp mem with rfl | mem
    · rfl
    · split at mem
      · rw [List.mem_singleton.mp mem]
        rfl
      · cases mem
  · have settles := choose_eq_iff.mp result_eq.symm
    rw [fst_entryPoint, account, choose_eq_iff]
    exact settles.perm (remaining_perm role g.packages directory perm perm')

/-- The main file in the source directory belongs to a package, so that the only source file of
the directory counts, next to a library file. A backend that lists the directory the other way
round is no different. -/
theorem entryPoint_settled_promoted :
    let files := Table.ofList [("app/Counter.mo", "actor {}"), ("app/lib.mo", "module {}"),
      ("app/src/Main.mo", "actor {}")]
    let packages := Table.ofList [("vendored", "app/src/")]
    let g : Gateway (Recorded Scripted) :=
      ⟨"0.14.0", .standard, some (.fresh (.ofFiles files [] fun _ => [])), packages, []⟩
    let turned : Gateway Scripted := ⟨"0.14.0", .standard, some (.ofFiles files [] fun
      | .readDir => [.value (.texts ["src", "lib.mo", "Counter.mo"])]
      | _ => []), packages, []⟩
    let after := (g.entryPoint .main "app").2
    (g.entryPoint .main "app").1 = some "app/Counter.mo" ∧
      after.exchanges.map Exchange.request = [.readDir "app", .readDir "app/src"] ∧
      after.packages = packages ∧ (turned.entryPoint .main "app").1 = some "app/Counter.mo" := by
  intro files packages g turned after
  obtain ⟨settled, ⟨calls, exchanges_eq, calls_eq⟩, account, others⟩ :=
    g.entryPoint_settled .main "app"
  have result_eq : (g.entryPoint .main "app").1 = some "app/Counter.mo" := by
    refine (settled _).mpr (@Settles.sole _ 2 "app/Counter.mo" ?_ ?_)
    · decide +kernel
    · decide +kernel
  refine ⟨result_eq, ?_, account, (others turned rfl ?_ ?_).trans result_eq⟩
  · rw [exchanges_eq, List.map_append, calls_eq]
    decide +kernel
  · decide +kernel
  · intro _
    decide +kernel

/-- **A main file without a conventional name** is the only source file of the directory, library
files aside. So there are as many source files as library files, and one more; and there is one
alone just if no library file is listed. -/
theorem mainFile_lone {g : Gateway σ} {directory path : String}
    (found : (g.mainFile directory).1 = some path)
    (unconventional : ∀ name ∈ mainNames, path ≠ VirtualPath.join directory name ∧
      path ≠ VirtualPath.join (VirtualPath.join directory sourceDirectory) name) :
    let entries := Backend.entries directory g.backend
    ∃ only, path = VirtualPath.join directory only ∧ sources entries = [only] ∧
      (entries.filter IsSource).length = 1 + (entries.filter (· ∈ libraryNames)).length ∧
      (entries.filter IsSource = [only] ↔ ∀ name ∈ libraryNames, name ∉ entries) := by
  intro entries
  have chosen := (g.fst_entryPoint .main directory).symm.trans found
  obtain ⟨rank, mem⟩ := (choose_eq_iff.mp chosen).exists_mem
  rcases of_mem_ranked (List.mem_filter.mp mem).1 with
    ⟨name, named, -, path_eq⟩ | ⟨-, name, named, -, path_eq⟩ | ⟨-, only, alone, path_eq⟩
  · exact absurd path_eq (unconventional name named).1
  · exact absurd path_eq (unconventional name named).2
  have count := length_filter_isSource entries
  rw [alone, List.length_singleton] at count
  refine ⟨only, path_eq, alone, count, fun single name isLibrary listed => ?_, fun absent => ?_⟩
  · rw [single, List.length_singleton] at count
    have mem : name ∈ entries.filter (· ∈ libraryNames) :=
      List.mem_filter.mpr ⟨listed, decide_eq_true isLibrary⟩
    have some := List.length_pos_of_mem mem
    omega
  · rw [← alone, sources]
    refine List.filter_congr fun entry mem => decide_eq_decide.mpr ?_
    exact ⟨fun isSource => ⟨isSource, fun isLibrary => absent entry isLibrary mem⟩, And.left⟩

/-- There is a source file with a library file next to it. -/
theorem mainFile_lone_beside :
    let files := Table.ofList [("app/Counter.mo", "actor {}"), ("app/Lib.mo", "module {}")]
    let g : Gateway Scripted :=
      ⟨"0.14.0", .standard, some (.ofFiles files [] fun _ => []), .empty, []⟩
    let entries := Backend.entries "app" g.backend
    (g.mainFile "app").1 = some "app/Counter.mo" ∧ sources entries = ["Counter.mo"] ∧
      (entries.filter IsSource).length = 2 := by
  intro files g entries
  have found : (g.mainFile "app").1 = some "app/Counter.mo" := by decide +kernel
  obtain ⟨only, path_eq, alone, count, -⟩ := mainFile_lone found (by decide +kernel)
  have only_eq : sources entries = ["Counter.mo"] := by decide +kernel
  refine ⟨found, only_eq, count.trans ?_⟩
  decide +kernel

/-- **A library file next to the main file** does not count, so that it need not be the only source
file of its directory. -/
theorem mainFile_not_only_source :
    let files := Table.ofList [("app/Counter.mo", "actor {}"), ("app/lib.mo", "module {}")]
    let g : Gateway Scripted :=
      ⟨"0.14.0", .standard, some (.ofFiles files [] fun _ => []), .empty, []⟩
    ¬ ∀ path, (g.mainFile "app").1 = some path →
      (∀ name ∈ mainNames, path ≠ VirtualPath.join "app" name ∧
        path ≠ VirtualPath.join (VirtualPath.join "app" sourceDirectory) name) →
      ∃ only, (Backend.entries "app" g.backend).filter IsSource = [only] ∧
        only ∉ libraryNames := by
  intro files g single
  have found : (g.mainFile "app").1 = some "app/Counter.mo" := by decide +kernel
  obtain ⟨only, alone, -⟩ := single _ found (by decide +kernel)
  have both : (Backend.entries "app" g.backend).filter IsSource = ["Counter.mo", "lib.mo"] := by
    decide +kernel
  cases both.symm.trans alone

end Gateway

end CompilerGateway
