import CompilerGateway.Backend.Scripted
import CompilerGateway.Proofs.Attempts

/-!
# Backends with a table of files

A backend keeps files, and a gateway knows of them only what it is answered. That the files of
a backend form a map is `CompilerGateway.Backend.Stores`: a granted request does to them what it
says (`CompilerGateway.Request.filed`).

After several requests that were granted, of which none moves or removes a file, a path that was
written holds what was written there last, and any other path what it held before
(`CompilerGateway.Backend.Stores.find?_after`). A load makes no other requests.

Scripted backends have such files where the script does not make up answers; one that goes
without a script is `CompilerGateway.Unscripted`.
-/

namespace CompilerGateway

/-! ### What requests do to files -/

/-- The files after the request has been granted. -/
def Request.filed : Request → Table String → Table String
  | .saveFile path content, files => files.insert path content
  | .renameFile path target, files =>
    match files.find? path with
    | some content => (files.erase path).insert target content
    | none => files
  | .removeFile path, files => files.erase path
  | _, files => files

/-- **A view of the files** that a backend has: a granted request does to them what it says. -/
def Backend.Stores {σ : Type} [Backend σ] (files : σ → Table String) : Prop :=
  ∀ request backend reply next, Backend.respond request backend = (.ok reply, next) →
    files next = request.filed (files backend)

/-- What a request writes, and where. -/
def Request.written : Request → List (String × String)
  | .saveFile path content => [(path, content)]
  | _ => []

/-- Whether the request leaves all files that there are in their places. -/
def Request.keepsFiles : Request → Bool
  | .renameFile _ _ => false
  | .removeFile _ => false
  | _ => true

theorem Request.filed_of_keepsFiles {request : Request} (keeps : request.keepsFiles = true)
    (files : Table String) :
    request.filed files = request.written.foldl (fun files p => files.insert p.1 p.2) files := by
  cases request with
  | renameFile path target => cases keeps
  | removeFile path => cases keeps
  | _ => rfl

namespace Backend

variable {σ : Type} [Backend σ] {files : σ → Table String}

theorem Stores.ask (stored : Stores files) {request : Request} {backend next : σ}
    (asked : Backend.ask request (some backend) = (none, some next)) :
    files next = request.filed (files backend) := by
  rw [Backend.ask] at asked
  split at asked
  · rcases responded : respond request backend with ⟨fault | reply, after⟩
    · rw [responded] at asked
      cases asked
    · rw [responded] at asked
      obtain rfl := Option.some.inj (Prod.mk.inj asked).2
      exact stored request backend reply after responded
  · cases asked

/-- **The files after granted requests** that leave all files in their places: what they held,
and what was written, one after the other. -/
theorem Stores.after (stored : Stores files) {requests : List Request} {backend next : σ}
    (granted : Granted requests (some backend))
    (keep : ∀ request ∈ requests, request.keepsFiles = true)
    (reached : Backend.after requests (some backend) = some next) :
    files next = (requests.flatMap Request.written).foldl (fun files p => files.insert p.1 p.2)
      (files backend) := by
  induction requests generalizing backend with
  | nil =>
    obtain rfl := Option.some.inj reached
    rfl
  | cons request rest ih =>
    obtain ⟨failure, middle, asked⟩ := ask_some request backend
    obtain ⟨first, others⟩ := granted_cons.mp granted
    rw [asked] at first others
    obtain rfl : failure = none := first
    rw [after_cons, asked] at reached
    rw [List.flatMap_cons, List.foldl_append,
      ← Request.filed_of_keepsFiles (keep request List.mem_cons_self), ← stored.ask asked]
    exact ih others (fun other mem => keep other (List.mem_cons_of_mem _ mem)) reached

/-- **A path holds what was written there last**, or what it held before. -/
theorem Stores.find?_after (stored : Stores files) {requests : List Request} {backend next : σ}
    (granted : Granted requests (some backend))
    (keep : ∀ request ∈ requests, request.keepsFiles = true)
    (reached : Backend.after requests (some backend) = some next) (path : String) :
    (files next).find? path =
      ((requests.flatMap Request.written).reverse.lookup path).or ((files backend).find? path) := by
  rw [stored.after granted keep reached, Table.find?_foldl_insert]

/-- A record is no part of what a backend does. -/
theorem Stores.recorded (stored : Stores files) : Stores fun r : Recorded σ => files r.backend := by
  intro request r reply next responded
  rcases answered : respond request r.backend with ⟨answer, after⟩
  have responded' : (answer, (⟨after, r.exchanges ++ [⟨request, Recorded.faultOf answer⟩]⟩ :
      Recorded σ)) = (.ok reply, next) := by
    rw [← responded]
    simp only [Backend.respond, answered]
  obtain ⟨rfl, rfl⟩ := Prod.mk.inj responded'
  exact stored request r.backend reply after answered

end Backend

/-! ### Backends without a script -/

/-- A backend in memory that answers everything from what it holds. -/
structure Unscripted where
  /-- What it holds. -/
  held : Scripted

namespace Unscripted

/-- A backend that holds the given files. -/
def ofFiles (files : Table String) : Unscripted := ⟨.ofFiles files [] fun _ => []⟩

instance : Backend Unscripted where
  supports u op := !u.held.unsupported.contains op
  respond request u := ((u.held.perform request).1, ⟨(u.held.perform request).2⟩)

theorem stores_files : Backend.Stores fun u : Unscripted => u.held.files := by
  intro request u reply next responded
  obtain ⟨answer_eq, rfl⟩ := Prod.mk.inj responded
  dsimp only
  cases request with
  | readFile path => simp only [Scripted.perform]; cases u.held.files.find? path <;> rfl
  | renameFile path target =>
    simp only [Scripted.perform, Request.filed]
    cases u.held.files.find? path <;> rfl
  | removeFile path =>
    simp only [Scripted.perform] at answer_eq ⊢
    cases found : u.held.files.find? path with
    | none =>
      rw [found] at answer_eq
      cases answer_eq
    | some content => rfl
  | readDir directory =>
    simp only [Scripted.perform]
    cases Scripted.entries u.held.files (VirtualPath.withoutTrailing directory) <;> rfl
  | _ => rfl

end Unscripted

end CompilerGateway
