import CompilerGateway.Proofs.Containment
import CompilerGateway.Proofs.EntryRanking

/-!
# Slashes at the end of a directory

A directory may be written with any number of slashes at its end. They are taken off in three
places on the way to an entry point, and each time on another side: where a candidate is put
below the directory, where the source directory is, and where it is asked whether the directory
lies within a package – there only the package loses its slashes. It comes to the same
nevertheless (`CompilerGateway.EntryPoint.choose_congr`), as no package but the root ends with a
slash once it has lost them, and everything lies within the root.

What is listed is up to the backend. `CompilerGateway.Backend.Overlooks` says that it lists the
same with slashes and without them, now and later: it may change with every listing, so long as
states that are alike stay alike. Then an entry point is found with slashes if and only if it is
found without them, and it is the same one (`CompilerGateway.Gateway.entryPoint_slashes`).
-/

namespace CompilerGateway

/-! ### Directories that differ in slashes -/

namespace VirtualPath

variable {path path' : String}

theorem join_congr (same : withoutTrailing path = withoutTrailing path') (relative : String) :
    join path relative = join path' relative := by
  rw [join, join, same]

/-- Whether a path lies within a directory does not depend on the slashes that it ends with. -/
theorem isWithin_congr (same : withoutTrailing path = withoutTrailing path')
    (directory : String) : isWithin path directory = isWithin path' directory := by
  by_cases root : withoutTrailing directory = ""
  · rw [isWithin_of_root root, isWithin_of_root root]
  · rw [← isWithin_withoutTrailing root, same, isWithin_withoutTrailing root]

end VirtualPath

/-! ### The choice -/

namespace EntryPoint

open VirtualPath

variable {directory directory' : String}

theorem isHidden_congr (same : withoutTrailing directory = withoutTrailing directory')
    (packages : Table String) :
    isHidden packages directory = isHidden packages directory' := by
  funext path
  simp only [isHidden, isWithin_congr same]

theorem candidates_congr (same : withoutTrailing directory = withoutTrailing directory')
    (role : EntryRole) (entries nested : List String) :
    candidates role directory entries nested = candidates role directory' entries nested := by
  simp only [candidates, named, lone, join_congr same]

/-- **The choice does not depend on the slashes** at the end of the directory. -/
theorem choose_congr (same : withoutTrailing directory = withoutTrailing directory')
    (role : EntryRole) (packages : Table String) (entries nested : List String) :
    choose role packages directory entries nested =
      choose role packages directory' entries nested := by
  rw [choose, choose, candidates_congr same, isHidden_congr same]

end EntryPoint

/-! ### Backends that overlook slashes -/

namespace Backend

open VirtualPath

variable {σ : Type} [Backend σ] {like : σ → σ → Prop} {directory directory' : String}

/-- **A backend overlooks slashes** at the end of a directory: in states that are alike it lists
the same entries of directories that differ in such slashes alone, or fails for both, and its
states are alike afterwards. -/
structure Overlooks (like : σ → σ → Prop) : Prop where
  /-- Directories can be listed in both states or in neither. -/
  supports_eq {backend backend' : σ} : like backend backend' →
    supports backend .readDir = supports backend' .readDir
  /-- The same is listed. -/
  listed_eq {backend backend' : σ} {directory directory' : String} : like backend backend' →
    withoutTrailing directory = withoutTrailing directory' →
    (respond (.readDir directory) backend).1.toOption =
      (respond (.readDir directory') backend').1.toOption
  /-- Nothing that is listed later gives the slashes away. -/
  next {backend backend' : σ} {directory directory' : String} : like backend backend' →
    withoutTrailing directory = withoutTrailing directory' →
    like (respond (.readDir directory) backend).2 (respond (.readDir directory') backend').2

variable {backend backend' : Option σ}

/-- The entries of a directory are those that are answered. -/
theorem entries_some (directory : String) (backend : σ) :
    entries directory (some backend) =
      if supports backend .readDir then
        (respond (.readDir directory) backend).1.toOption.getD []
      else [] := by
  rw [entries, reply, Request.operation]
  by_cases supported : supports backend .readDir = true
  · simp only [supported, if_true]
    rcases respond (.readDir directory) backend with ⟨fault | listed, next⟩ <;> rfl
  · simp only [supported, if_false, Bool.false_eq_true]

/-- The state after a directory was listed. -/
theorem after_readDir_some (directory : String) (backend : σ) :
    after [.readDir directory] (some backend) =
      some (if supports backend .readDir then (respond (.readDir directory) backend).2
        else backend) := by
  rw [after_cons, after_nil, ask, Request.operation]
  by_cases supported : supports backend .readDir = true
  · simp only [supported, if_true]
    rcases respond (.readDir directory) backend with ⟨fault | listed, next⟩ <;> rfl
  · simp only [supported, if_false, Bool.false_eq_true]

theorem Overlooks.entries_eq (overlooks : Overlooks like)
    (alike : Option.Rel like backend backend')
    (same : withoutTrailing directory = withoutTrailing directory') :
    entries directory backend = entries directory' backend' := by
  cases alike with
  | none => rfl
  | some alike =>
    rw [entries_some, entries_some, overlooks.supports_eq alike, overlooks.listed_eq alike same]

theorem Overlooks.after_readDir (overlooks : Overlooks like)
    (alike : Option.Rel like backend backend')
    (same : withoutTrailing directory = withoutTrailing directory') :
    Option.Rel like (after [.readDir directory] backend)
      (after [.readDir directory'] backend') := by
  cases alike with
  | none => exact .none
  | some alike =>
    rw [after_readDir_some, after_readDir_some, overlooks.supports_eq alike]
    split
    · exact .some (overlooks.next alike same)
    · exact .some alike

end Backend

namespace Scripted

open VirtualPath

/-- What a scripted backend answers is the same but for the wording of an error. -/
theorem respond_readDir_congr {directory directory' : String}
    (same : withoutTrailing directory = withoutTrailing directory') (s : Scripted) :
    (respond (.readDir directory) s).1.toOption = (respond (.readDir directory') s).1.toOption ∧
      (respond (.readDir directory) s).2 = (respond (.readDir directory') s).2 := by
  rw [respond, respond]
  simp only [Request.operation]
  rcases s.takeCue .readDir with ⟨cue, next⟩
  cases cue with
  | error error => exact ⟨rfl, rfl⟩
  | raise payload => exact ⟨rfl, rfl⟩
  | value value =>
    simp only [Request.readReply]
    cases Decoder.list Decoder.text value <;> exact ⟨rfl, rfl⟩
  | pass =>
    simp only [perform, same]
    cases entries next.files (withoutTrailing directory') with
    | nil =>
      by_cases root : withoutTrailing directory' = ""
      · simp only [root, if_true, and_self]
      · simp only [root, if_false, and_true]
        rfl
    | cons first rest => exact ⟨rfl, rfl⟩

/-- **Scripted backends overlook slashes**, whatever their scripts are. -/
theorem overlooks : Backend.Overlooks (Eq : Scripted → Scripted → Prop) where
  supports_eq same := by rw [same]
  listed_eq := by
    rintro s _ _ _ rfl same
    exact (respond_readDir_congr same s).1
  next := by
    rintro s _ _ _ rfl same
    exact (respond_readDir_congr same s).2

end Scripted

/-! ### Entry points -/

namespace Gateway

open VirtualPath

variable {σ : Type} [Backend σ]

/-- **Two spellings of a directory** that differ in slashes at their ends have the same entry
point, and leave the backend alike. -/
theorem entryPoint_congr_slashes {like : σ → σ → Prop} (overlooks : Backend.Overlooks like)
    {g g' : Gateway σ} (alike : Option.Rel like g.backend g'.backend)
    (account : g.packages = g'.packages) (role : EntryRole) {directory directory' : String}
    (same : withoutTrailing directory = withoutTrailing directory') :
    (g.entryPoint role directory).1 = (g'.entryPoint role directory').1 := by
  have first := overlooks.entries_eq alike same
  have second := overlooks.entries_eq (overlooks.after_readDir alike same)
    (congrArg withoutTrailing (join_congr same EntryPoint.sourceDirectory))
  rw [fst_entryPoint, fst_entryPoint, first, second, account, EntryPoint.choose_congr same]

/-- **Slashes at the end of a directory do not matter.** If a backend overlooks them, a main file
is found in a directory if and only if it is found in the directory with slashes added, be it the
root or any other, and it is the same one; and so is a library file. -/
theorem entryPoint_slashes {like : σ → σ → Prop} (overlooks : Backend.Overlooks like)
    (g : Gateway σ) (alike : ∀ backend, g.backend = some backend → like backend backend)
    (directory : String) (n : Nat) :
    (g.mainFile (directory ++ slashes n)).1 = (g.mainFile directory).1 ∧
      (g.libraryFile (directory ++ slashes n)).1 = (g.libraryFile directory).1 := by
  have itself : Option.Rel like g.backend g.backend := by
    cases present : g.backend with
    | none => exact .none
    | some backend => exact .some (alike backend present)
  have same := withoutTrailing_append_slashes directory n
  exact ⟨entryPoint_congr_slashes overlooks itself rfl .main same,
    entryPoint_congr_slashes overlooks itself rfl .library same⟩

/-- The project lies in one package and has its source directory in another one, and both are
registered with slashes of their own. With two slashes at its end, its main file is the one that it
has without. The library in the root is found with a slash, too. -/
theorem entryPoint_slashes_packaged :
    let files := Table.ofList [("app/Counter.mo", "actor {}"), ("app/src/Main.mo", "actor {}"),
      ("Lib.mo", "module {}")]
    let packages := Table.ofList [("outer", "app//"), ("vendored", "app/src/")]
    let backend : Scripted := .ofFiles files [] fun _ => []
    let scripted : Scripted := .ofFiles files [] fun
      | .readDir => [.value (.texts ["src", "Counter.mo"])]
      | _ => []
    let g : Gateway Scripted := ⟨"0.14.0", .standard, some scripted, packages, []⟩
    let h : Gateway Scripted := ⟨"0.14.0", .standard, some backend, packages, []⟩
    Backend.Overlooks (Eq : Scripted → Scripted → Prop) ∧
      (g.mainFile ("app" ++ slashes 2)).1 = some "app/Counter.mo" ∧
      (h.libraryFile ("" ++ slashes 1)).1 = some "Lib.mo" := by
  intro files packages backend scripted g h
  obtain ⟨main, -⟩ := entryPoint_slashes Scripted.overlooks g (fun _ _ => rfl) "app" 2
  obtain ⟨-, library⟩ := entryPoint_slashes Scripted.overlooks h (fun _ _ => rfl) "" 1
  exact ⟨Scripted.overlooks, main.trans (by decide +kernel), library.trans (by decide +kernel)⟩

end Gateway

end CompilerGateway
