import CompilerGateway.Proofs.ListingOrder
import CompilerGateway.Proofs.LocalPackages
import CompilerGateway.Proofs.WellFormedBytes

/-!
# Where bytes become texts

A gateway is given bytes in two places: when a file is to be written, and when a package is read
from a directory. Behind both there are texts only, so either refuses what is not well-formed
(`CompilerGateway.Utf8.WellFormed`), and both draw the same line
(`CompilerGateway.Gateway.text_boundary`).

Nothing is changed on the way: a text that is handed on has the very bytes in UTF-8. So what was
written, or was brought in with a package, is read again as those bytes, given that the backend
keeps its files as a map does (`CompilerGateway.Backend.HoldsFiles`). And as a package holds texts,
no installation fails because one of its files is none.
-/

namespace CompilerGateway

/-! ### Well-formed contents -/

/-- **A content is a text** if and only if it is well-formed. -/
theorem Utf8.wellFormed_content_iff {content : ByteArray} :
    WellFormed content.data.toList ↔ ∃ text : String, text.toUTF8 = content := by
  rw [wellFormed_iff]
  refine exists_congr fun text => ?_
  rw [Text.bytes, Array.toList_inj, ByteArray.ext_iff]

theorem Utf8.not_wellFormed_content_iff {content : ByteArray} :
    ¬ WellFormed content.data.toList ↔ String.fromUTF8? content = none := by
  rw [wellFormed_content_iff, ← Option.not_isSome_iff_eq_none, Option.isSome_iff_exists]
  simp only [fromUTF8?_eq_some_iff]

/-! ### Backends that keep files -/

/-- **A backend that keeps files as a map does**: it accepts what is written, and reads out what it
holds. -/
structure Backend.HoldsFiles {σ : Type} [Backend σ] (files : σ → Table String) : Prop where
  /-- What is granted is done. -/
  stores : Stores files
  /-- It has the same operations all the time. -/
  steady : ∀ (request : Request) (backend : σ),
    supports (respond request backend).2 = supports backend
  /-- Everything may be written. -/
  saves : ∀ (path text : String) (backend : σ), (respond (.saveFile path text) backend).1 = .ok ()
  /-- What is held can be read. -/
  reads : ∀ (path text : String) (backend : σ), (files backend).find? path = some text →
    (respond (.readFile path) backend).1 = .ok text

namespace Backend

variable {σ : Type} [Backend σ] {files : σ → Table String}

theorem HoldsFiles.recorded (holds : HoldsFiles files) :
    HoldsFiles fun r : Recorded σ => files r.backend where
  stores := holds.stores.recorded
  steady request r := holds.steady request r.backend
  saves path text r := holds.saves path text r.backend
  reads path text r := holds.reads path text r.backend

theorem HoldsFiles.supports_after (holds : HoldsFiles files) {requests : List Request}
    {backend next : σ} (reached : after requests (some backend) = some next) :
    supports next = supports backend := by
  induction requests generalizing backend with
  | nil =>
    obtain rfl := Option.some.inj reached
    rfl
  | cons request rest ih =>
    have same := holds.steady request backend
    rw [after_cons, ask] at reached
    split at reached
    · rcases responded : respond request backend with ⟨fault | reply, middle⟩ <;>
        rw [responded] at reached same <;>
        exact (ih reached).trans same
    · exact ih reached

theorem HoldsFiles.granted_save (holds : HoldsFiles files) {backend : σ} (path text : String)
    (supported : supports backend .saveFile = true) :
    Granted [.saveFile path text] (some backend) := by
  have saved := holds.saves path text backend
  refine granted_cons.mpr ⟨?_, granted_nil _⟩
  simp only [ask, Request.operation, supported, if_true]
  rcases responded : respond (.saveFile path text) backend with ⟨answered, next⟩
  rw [responded] at saved
  obtain rfl : answered = .ok () := saved
  rfl

end Backend

theorem Unscripted.holdsFiles : Backend.HoldsFiles fun u : Unscripted => u.held.files where
  stores := stores_files
  steady request u := by
    have same : (u.held.perform request).2.unsupported = u.held.unsupported := by
      cases request <;> simp only [Scripted.perform] <;> split <;> rfl
    funext op
    simp only [Backend.supports, Backend.respond, same]
  saves path text u := rfl
  reads path text u held := by
    simp only [Backend.respond, Scripted.perform, held]

/-! ### Files that are written -/

namespace Gateway

section Write

variable {σ : Type} [Backend σ]

/-- **What is held can be read** through a gateway. -/
theorem read_of_held {g : Gateway σ} {current : σ} {files : σ → Table String} {path text : String}
    (holds : Backend.HoldsFiles files) (present : g.backend = some current)
    (readable : Backend.supports current .readFile = true)
    (held : (files current).find? path = some text) : (g.read path).1 = .ok text := by
  rw [read, exchange_fst, present, Backend.reply]
  exact (if_pos readable).trans (by rw [holds.reads path text current held])

/-- **What is no text** is not written. -/
theorem write_of_notText (g : Gateway σ) (path : String) {content : ByteArray}
    (notText : ¬ Utf8.WellFormed content.data.toList) :
    g.write path content = (.error (.notText path), g) := by
  rw [write, Utf8.not_wellFormed_content_iff.mp notText]

/-- **A text is handed to the backend.** -/
theorem exchanges_write {g : Gateway (Recorded σ)} {current : Recorded σ} {text : String}
    {content : ByteArray} (present : g.backend = some current)
    (supported : Backend.supports current.backend .saveFile = true) (path : String)
    (isText : text.toUTF8 = content) :
    ∃ fault, (g.write path content).2.exchanges =
      g.exchanges ++ [⟨.saveFile path text, fault⟩] := by
  have supported : Backend.supports current .saveFile = true := supported
  rw [(leads_write (fromUTF8?_eq_some_iff.mpr isText)).exchanges_eq, present]
  simp only [Backend.attempts_cons, Backend.attempts_nil, List.flatMap_cons, List.flatMap_nil,
    List.append_nil, Backend.ask, Request.operation, supported, if_true]
  rcases Backend.respond (.saveFile path text) current with ⟨(error | payload) | reply, next⟩ <;>
    exact ⟨_, rfl⟩

/-- **What was written is read again**, byte by byte. -/
theorem read_write {g : Gateway σ} {current : σ} {files : σ → Table String} {path text : String}
    {content : ByteArray} (holds : Backend.HoldsFiles files) (present : g.backend = some current)
    (supported : Backend.supports current .saveFile = true)
    (readable : Backend.supports current .readFile = true) (isText : text.toUTF8 = content) :
    (g.write path content).1 = .ok () ∧ ((g.write path content).2.read path).1 = .ok text := by
  have found := fromUTF8?_eq_some_iff.mpr isText
  have leads : g.Leads [.saveFile path text] (g.write path content).2 := leads_write found
  have backend_eq := leads.backend_eq
  rw [present] at backend_eq
  obtain ⟨next, reached⟩ := Backend.exists_after_some [.saveFile path text] current
  have granted := holds.granted_save path text supported
  constructor
  · have failure_eq : failure? (g.write path content).1 = _ := failure?_write found
    rw [present, (Backend.granted_cons.mp granted).1] at failure_eq
    cases written : (g.write path content).1 with
    | error failure => rw [written] at failure_eq; cases failure_eq
    | ok => rfl
  · refine read_of_held holds (backend_eq.trans reached) ?_ ?_
    · rw [holds.supports_after reached, readable]
    · rw [holds.stores.find?_after granted (by simp [Request.keepsFiles]) reached]
      simp [Request.written]

end Write

end Gateway

/-! ### Files of a directory -/

section Directories

variable {fs : FileSystem} {extensions : List String} {path : String}
  {entries : List (String × Tree)}

/-- **A file that is collected** is taken as the text that it is, or is the error. -/
theorem Tree.collect_file {name : String} (wanted : isWanted extensions name = true)
    (short : path.utf8ByteSize ≤ longestPath) (root : String) (found : Table String)
    (content : ByteArray) :
    (∀ text, text.toUTF8 = content →
      collect extensions root path name found (.file content) =
        .ok (found.insert (relativeKey root path) text)) ∧
    (¬ Utf8.WellFormed content.data.toList →
      collect extensions root path name found (.file content) = .error (.encoding path)) := by
  rw [collect, wanted, if_neg (by decide), if_neg (Nat.not_lt.mpr short)]
  constructor
  · intro text isText
    rw [fromUTF8?_eq_some_iff.mpr isText]
  · intro notText
    rw [Utf8.not_wellFormed_content_iff.mp notText]

/-- **A package is made of texts**: where everything can be opened, just if all source files that
the walk comes by are well-formed, and it holds their bytes. Otherwise one that is not is the
error. -/
theorem FileSystem.fetch_texts (listed : fs.Listed)
    (found : fs.resolve path = .ok (.directory entries))
    (readable : Tree.Readable extensions path entries) :
    ((∃ package, fs.fetch extensions (.directory path) = .ok package) ↔
      ∀ names content, Tree.ComesBy (Tree.IsSource extensions content) entries names →
        Utf8.WellFormed content.data.toList) ∧
    (∀ error, fs.fetch extensions (.directory path) = .error error →
      ∃ names content, Tree.ComesBy (Tree.IsSource extensions content) entries names ∧
        ¬ Utf8.WellFormed content.data.toList ∧ error = .encoding (Tree.pathTo path names)) ∧
    ∀ package, fs.fetch extensions (.directory path) = .ok package →
      ∀ names content, Tree.ComesBy (Tree.IsSource extensions content) entries names →
        ∃ text, package.files.find? ("/".intercalate names) = some text ∧
          text.toUTF8 = content := by
  refine ⟨?_, fun error failed => ?_, fun package made names content comesBy => ?_⟩
  · simp only [fetch, exists_package listed found readable, Tree.takes_iff_comesBy,
      fromUTF8?_eq_some_iff, Utf8.wellFormed_content_iff]
  · obtain ⟨names, content, takes, notText, error_eq⟩ := exists_encoding found readable failed
    exact ⟨names, content, Tree.takes_iff_comesBy.mp takes,
      Utf8.not_wellFormed_content_iff.mpr notText, error_eq⟩
  · have takes := (takesAt_iff_comesBy found).mpr comesBy
    obtain ⟨text, isText, held⟩ := takes.exists_text listed made
    exact ⟨text, held, fromUTF8?_eq_some_iff.mp isText⟩

end Directories

/-! ### Files that are installed -/

variable {σ : Type} [Backend σ]

/-- **No request fails** because something is no text. -/
theorem Backend.ask_ne_notText {request : Request} {backend : Option σ} {path : String} :
    (ask request backend).1 ≠ some (.notText path) := by
  intro refused
  cases backend with
  | none => cases refused
  | some backend =>
    rw [ask] at refused
    split at refused
    · generalize respond request backend = responded at refused
      obtain ⟨(error | payload) | reply, next⟩ := responded <;> cases refused
    · cases refused

namespace Gateway

/-- **Nor does a load.** -/
theorem load_ne_notText (g : Gateway σ) (fetcher : Fetcher) (requests : List (String × Descriptor))
    (moves : List Move) (path : String) :
    (g.load fetcher requests moves).result ≠ some (.error (.notText path)) := by
  have course := g.course_load fetcher requests moves
  generalize g.load fetcher requests moves = loading at course ⊢
  intro failed
  cases course with
  | badName bad =>
    cases failed
    obtain ⟨_, _, same, -⟩ := nameFailure?_eq_some_iff.mp bad
    cases same
  | abandoned => cases failed
  | notFetched => cases failed
  | badContent _ _ unfit =>
    cases failed
    obtain ⟨_, _, _, same, -⟩ := contentFailure?_eq_some_iff.mp unfit
    cases same
  | installing _ _ _ breaksOff =>
    obtain ⟨x, failure_eq⟩ := breaksOff _ (Option.some.inj failed)
    exact Backend.ask_ne_notText (failure_eq ▸ x.fails)

/-- **What was installed is read again**, byte by byte. -/
theorem read_installed {g : Gateway (Recorded σ)} {current : Recorded σ} {files : σ → Table String}
    (holds : Backend.HoldsFiles files) (present : g.backend = some current)
    (readable : Backend.supports current.backend .readFile = true) {fs : FileSystem}
    {extensions : List String} {requests : List (String × Descriptor)} {moves : List Move}
    (listed : fs.Listed)
    (ok : (g.load (.ofFileSystem extensions fs) requests moves).result = some (.ok ()))
    {name : String} {path : HostPath} {names : List String} {content : ByteArray}
    (asked : requests.reverse.lookup name = some (.directory path))
    (takes : fs.TakesAt extensions path names content) :
    ∃ text, text.toUTF8 = content ∧
      ((g.load (.ofFileSystem extensions fs) requests moves).gateway.read (VirtualPath.below
        g.settings.root (name ++ "/local/" ++ "/".intercalate names))).1 = .ok text := by
  obtain ⟨text, isText, -, delivered⟩ := load_local_delivers listed ok asked takes
  obtain ⟨next, reached, held⟩ := delivered current present
  obtain ⟨_, -, -, -, leads⟩ := exists_delivered_of_ok ok
  have backend_eq := leads.backend_eq
  rw [reached, present] at backend_eq
  have same := holds.recorded.supports_after backend_eq.symm
  exact ⟨text, isText, read_of_held holds.recorded reached (by rw [same]; exact readable)
    (held files holds.stores)⟩

/-- **Bytes and texts.** Bytes that are written reach a backend that can save files if and only if
they are well-formed; what it is then handed is the text that has these bytes, and if it keeps files
as a map does, it is read again. Bytes that are not well-formed, because something is wrong at a
place up to which they are, make a failure, and nothing happens.

Files of directories are treated alike: each is collected as the text that has its bytes, or is the
error. A package can be made of a directory in which everything can be opened if and only if all its
source files are well-formed.

No load fails because something is no text. If one from directories goes through, the bytes of
each source file are read at the place where it has been installed. -/
theorem text_boundary (g : Gateway (Recorded σ)) {current : Recorded σ}
    (present : g.backend = some current)
    (supported : Backend.supports current.backend .saveFile = true) :
    (∀ path content,
      (Utf8.WellFormed content.data.toList ↔
        ∃ x, (g.write path content).2.exchanges = g.exchanges ++ [x]) ∧
      (Utf8.WellFormed content.data.toList → ∃ text : String, text.toUTF8 = content ∧
        (∃ fault, (g.write path content).2.exchanges =
          g.exchanges ++ [⟨.saveFile path text, fault⟩]) ∧
        ∀ files : σ → Table String, Backend.HoldsFiles files →
          Backend.supports current.backend .readFile = true →
          (g.write path content).1 = .ok () ∧ ((g.write path content).2.read path).1 = .ok text) ∧
      (¬ Utf8.WellFormed content.data.toList →
        g.write path content = (.error (.notText path), g)) ∧
      (¬ Utf8.WellFormed content.data.toList ↔ ∃ before lead after,
        content.data.toList = before ++ lead :: after ∧ Utf8.WellFormed before ∧
          Utf8.Malformed lead after)) ∧
    (∀ (extensions : List String) (root path name : String) (found : Table String)
      (content : ByteArray), Tree.isWanted extensions name = true →
      path.utf8ByteSize ≤ Tree.longestPath →
      (Utf8.WellFormed content.data.toList → ∃ text : String, text.toUTF8 = content ∧
        Tree.collect extensions root path name found (.file content) =
          .ok (found.insert (Tree.relativeKey root path) text)) ∧
      (¬ Utf8.WellFormed content.data.toList →
        Tree.collect extensions root path name found (.file content) =
          .error (.encoding path))) ∧
    (∀ (fs : FileSystem) (extensions : List String) (path : String)
      (entries : List (String × Tree)),
      fs.Listed → fs.resolve path = .ok (.directory entries) →
      Tree.Readable extensions path entries →
      ((∃ package, fs.fetch extensions (.directory path) = .ok package) ↔
        ∀ names content, Tree.ComesBy (Tree.IsSource extensions content) entries names →
          Utf8.WellFormed content.data.toList) ∧
      (∀ error, fs.fetch extensions (.directory path) = .error error →
        ∃ names content, Tree.ComesBy (Tree.IsSource extensions content) entries names ∧
          ¬ Utf8.WellFormed content.data.toList ∧ error = .encoding (Tree.pathTo path names)) ∧
      ∀ package, fs.fetch extensions (.directory path) = .ok package →
        ∀ names content, Tree.ComesBy (Tree.IsSource extensions content) entries names →
          ∃ text, package.files.find? ("/".intercalate names) = some text ∧
            text.toUTF8 = content) ∧
    (∀ fetcher requests moves path,
      (g.load fetcher requests moves).result ≠ some (.error (.notText path))) ∧
    ∀ (files : σ → Table String) (fs : FileSystem) (extensions : List String)
      (requests : List (String × Descriptor)) (moves : List Move),
      Backend.HoldsFiles files → Backend.supports current.backend .readFile = true →
      fs.Listed → (g.load (.ofFileSystem extensions fs) requests moves).result = some (.ok ()) →
      ∀ name path entries names content,
        requests.reverse.lookup name = some (.directory path) →
        fs.resolve path = .ok (.directory entries) →
        Tree.ComesBy (Tree.IsSource extensions content) entries names →
        ∃ text, text.toUTF8 = content ∧
          ((g.load (.ofFileSystem extensions fs) requests moves).gateway.read (VirtualPath.below
            g.settings.root (name ++ "/local/" ++ "/".intercalate names))).1 = .ok text := by
  refine ⟨fun path content => ?_, fun extensions root path name found content wanted short => ?_,
    fun fs extensions path entries listed found readable =>
      FileSystem.fetch_texts listed found readable,
    g.load_ne_notText, fun files fs extensions requests moves holds readable listed ok name path
      entries names content asked found comesBy => read_installed holds present readable listed ok
        asked ((FileSystem.takesAt_iff_comesBy found).mpr comesBy)⟩
  · refine ⟨⟨fun wellFormed => ?_, fun ⟨x, reaches⟩ => ?_⟩, fun wellFormed => ?_,
      g.write_of_notText path, Utf8.not_wellFormed_iff⟩
    · obtain ⟨text, isText⟩ := Utf8.wellFormed_content_iff.mp wellFormed
      obtain ⟨fault, reaches⟩ := exchanges_write present supported path isText
      exact ⟨_, reaches⟩
    · by_contra notText
      rw [g.write_of_notText path notText] at reaches
      simp at reaches
    · obtain ⟨text, isText⟩ := Utf8.wellFormed_content_iff.mp wellFormed
      exact ⟨text, isText, exchanges_write present supported path isText,
        fun files holds readable =>
          read_write holds.recorded present supported readable isText⟩
  · obtain ⟨taken, refused⟩ := Tree.collect_file wanted short root found content
    refine ⟨fun wellFormed => ?_, refused⟩
    obtain ⟨text, isText⟩ := Utf8.wellFormed_content_iff.mp wellFormed
    exact ⟨text, isText, taken text isText⟩

/-- Half a pair of surrogates is not written, a letter that has two bytes is, and is read again. So
is the file of a package that is loaded from a directory, to which the path leads from the root. -/
theorem text_boundary_letter :
    let letter : ByteArray := ⟨#[0xC3, 0xA9]⟩
    let half : ByteArray := ⟨#[0xED, 0xA0, 0x80]⟩
    let fs : FileSystem :=
      ⟨[("home", .directory []), ("srv", .directory [("E.mo", .file "module E".toUTF8)])], ["home"]⟩
    let g : Gateway (Recorded Unscripted) :=
      ⟨"0.14.0", .standard, some (.fresh (.ofFiles .empty)), .empty, []⟩
    let loading := g.load (.ofFileSystem Tree.sourceExtensions fs) [("e", .directory "/srv")]
      [.start, .finish "e"]
    g.backend = some (.fresh (.ofFiles .empty)) ∧
      Backend.supports (Unscripted.ofFiles .empty) .saveFile = true ∧
      g.write "E.mo" half = (.error (.notText "E.mo"), g) ∧
      (∃ text : String, text.toUTF8 = letter ∧ (g.write "E.mo" letter).1 = .ok () ∧
        ((g.write "E.mo" letter).2.read "E.mo").1 = .ok text) ∧
      fs.Listed ∧ loading.result = some (.ok ()) ∧
      ∃ text : String, text.toUTF8 = "module E".toUTF8 ∧
        (loading.gateway.read ".packages/e/local/E.mo").1 = .ok text := by
  intro letter half fs g loading
  have notText : ¬ Utf8.WellFormed half.data.toList :=
    Utf8.not_wellFormed_iff.mpr ⟨[], 0xED, [0xA0, 0x80], rfl, .nil,
      .surrogate (List.append_nil [0xA0, 0x80]).symm rfl
        (by decide +kernel) (by decide +kernel) (by decide +kernel)⟩
  have isText : Utf8.WellFormed letter.data.toList :=
    .cons (Utf8.isSequence_one_iff.mpr (by decide)) .nil
  have srv : Tree.Listed (.directory [("E.mo", .file "module E".toUTF8)]) :=
    .cons (by decide +kernel) (by decide +kernel) (.file _) .nil
  have listed : fs.Listed :=
    .cons (by decide +kernel) (by decide +kernel) .nil <|
    .cons (by decide +kernel) (by decide +kernel) srv .nil
  have resolved : fs.resolve "/srv" = .ok (.directory [("E.mo", .file "module E".toUTF8)]) := by
    have parts_eq : Text.pieces '/' "/srv" = ["", "srv"] := by decide +kernel
    have rooted : Tree.isRooted "/srv" = true := by decide +kernel
    rw [FileSystem.resolve_text (by decide +kernel) (by decide +kernel) (by decide +kernel)]
    simp [FileSystem.locateParts, parts_eq, rooted, fs, Tree.follow, Table.findEntry,
      Tree.longestName]
    rfl
  let package : FetchedPackage := ⟨"srv", "local", Table.ofList [("E.mo", "module E")]⟩
  have made : fs.package Tree.sourceExtensions "/srv" = .ok package := by
    have gathered : Tree.collectEntries Tree.sourceExtensions "/srv" "/srv" .empty
        [("E.mo", .file "module E".toUTF8)] = .ok package.files := rfl
    exact FileSystem.package_eq_ok_iff.mpr ⟨_, _, _, rfl, resolved, gathered, rfl⟩
  have ok : loading.result = some (.ok ()) := by
    have placed (events : List Event) : ((⟨"0.14.0", .standard, some (.fresh (.ofFiles .empty)),
        .empty, events⟩ : Gateway (Recorded Unscripted)).install
          (Table.ofList [("e", ⟨"srv", "local", Table.ofList [("E.mo", "module E")]⟩)])).1 =
        .ok () := rfl
    show (g.load _ _ _).result = _
    rw [load_of_complete rfl (g.fetching_single made)]
    exact congrArg some (placed _)
  have comesBy : Tree.ComesBy (Tree.IsSource Tree.sourceExtensions "module E".toUTF8)
      [("E.mo", .file "module E".toUTF8)] ["E.mo"] := by
    have asked : "E.mo" = "E" ++ "." ++ "mo" := by decide +kernel
    exact .here List.mem_cons_self (by decide +kernel)
      ⟨rfl, "E", "mo", List.mem_cons_self, asked, by simp⟩
  obtain ⟨written, -, -, -, installed⟩ := g.text_boundary rfl rfl
  obtain ⟨-, -, refused, -⟩ := written "E.mo" half
  obtain ⟨text, isLetter, -, again⟩ := (written "E.mo" letter).2.1 isText
  obtain ⟨text', isSource, read⟩ := installed _ fs Tree.sourceExtensions _ _
    Unscripted.holdsFiles rfl listed ok "e" "/srv" _ _ _ rfl resolved comesBy
  have target_eq : VirtualPath.below g.settings.root
      ("e" ++ "/local/" ++ "/".intercalate ["E.mo"]) = ".packages/e/local/E.mo" := by
    decide +kernel
  exact ⟨rfl, rfl, refused notText, ⟨text, isLetter, again _ Unscripted.holdsFiles rfl⟩, listed, ok,
    text', isSource, target_eq ▸ read⟩

end Gateway

end CompilerGateway
