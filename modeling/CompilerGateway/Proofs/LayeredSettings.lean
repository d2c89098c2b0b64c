import CompilerGateway.Proofs.CommandLines
import CompilerGateway.Proofs.LocalFiles
import CompilerGateway.Proofs.WireForm
import CompilerGateway.Settings.Layers

/-!
# Settings, field by field

Every layer sets some of the four settings (`CompilerGateway.Settings.Sets`) and perhaps other names
besides. Laying it over the layers below replaces just what it sets
(`CompilerGateway.Settings.Amounts.overlay`), so of several layers the highest one that sets a field
gives it, whatever the others say about the other fields, and the default is left where none does
(`CompilerGateway.Settings.ofLayers_of_sets`). What is declared as defaults is what holds by
default (`CompilerGateway.Settings.amounts_defaults`).

Of the loader that settings are loaded with only so much is used: that flags are read however they
are spelt, and that the defaults, the settings file, the environment and the command line are laid
over one another in that order (`CompilerGateway.Loader.Lawful`). With any such loader, settings are
loaded field by field (`CompilerGateway.Settings.load_layered`).

One such loader is `CompilerGateway.Loader.plain`. The one that runs is like it but for one command
line, which does nothing but set all settings to what holds by default, and counts as one without
flags (`CompilerGateway.Loader.load_standard_eq`).
-/

namespace CompilerGateway

namespace Settings

/-! ### What a layer sets -/

/-- **What is set** of the settings. -/
structure Choice where
  logFilter : Option String
  logFormat : Option LogFormat
  packageRoot : Option String
  fetchConcurrency : Option UInt64

namespace Choice

/-- Nothing is set. -/
def none : Choice := ⟨.none, .none, .none, .none⟩

/-- The settings with what is set in place of what there was. -/
def on (choice : Choice) (below : Settings) : Settings where
  logFilter := choice.logFilter.getD below.logFilter
  logFormat := choice.logFormat.getD below.logFormat
  packageRoot := choice.packageRoot.getD below.packageRoot
  fetchConcurrency := choice.fetchConcurrency.getD below.fetchConcurrency

end Choice

/-- **A layer sets** the settings so and no others. It may have any other names. -/
structure Sets (layer : Table Json) (choice : Choice) : Prop where
  logFilter : layer.find? "log_filter" = choice.logFilter.map .str
  logFormat : layer.find? "log_format" = choice.logFormat.map LogFormat.encode
  packageRoot : layer.find? "package_root" = choice.packageRoot.map .str
  fetchConcurrency :
    layer.find? "fetch_concurrency" = choice.fetchConcurrency.map fun n => .ofNat n.toNat

/-- The names of the settings. -/
def fieldNames : List String := ["log_filter", "log_format", "package_root", "fetch_concurrency"]

/-- Other names do not count. -/
theorem Sets.congr {layer other : Table Json} {choice : Choice} (sets : Sets layer choice)
    (same : ∀ name ∈ fieldNames, other.find? name = layer.find? name) : Sets other choice where
  logFilter := (same _ (by simp [fieldNames])).trans sets.logFilter
  logFormat := (same _ (by simp [fieldNames])).trans sets.logFormat
  packageRoot := (same _ (by simp [fieldNames])).trans sets.packageRoot
  fetchConcurrency := (same _ (by simp [fieldNames])).trans sets.fetchConcurrency

/-! ### Layers over one another -/

/-- **What is on top** of all layers amounts to the given settings. -/
def Amounts (top : Table Json) (settings : Settings) : Prop :=
  Sets top ⟨some settings.logFilter, some settings.logFormat, some settings.packageRoot,
    some settings.fetchConcurrency⟩

/-- **What is declared as defaults** is what holds by default. -/
theorem amounts_defaults : Amounts declaration.defaults standard :=
  ⟨rfl, rfl, rfl, rfl⟩

theorem overlayField?_map {α : Type} (write : α → Json)
    (plain : ∀ value lower, Json.overlay lower (write value) = write value) (lower : α)
    (upper : Option α) :
    Json.overlayField? (some (write lower)) (upper.map write) =
      some (write (upper.getD lower)) := by
  cases upper with
  | none => rfl
  | some value => exact congrArg some (plain value (write lower))

/-- **A layer that is laid over others** replaces just what it sets. -/
theorem Amounts.overlay {top layer : Table Json} {settings : Settings} {choice : Choice}
    (amounts : Amounts top settings) (sets : Sets layer choice) :
    Amounts (Json.overlayTable top layer) (choice.on settings) where
  logFilter := by
    rw [Json.find?_overlayTable, amounts.logFilter, sets.logFilter]
    exact overlayField?_map .str (fun _ _ => by simp [Json.overlay]) _ _
  logFormat := by
    rw [Json.find?_overlayTable, amounts.logFormat, sets.logFormat]
    exact overlayField?_map LogFormat.encode
      (fun _ _ => by simp [Json.overlay, LogFormat.encode]) _ _
  packageRoot := by
    rw [Json.find?_overlayTable, amounts.packageRoot, sets.packageRoot]
    exact overlayField?_map .str (fun _ _ => by simp [Json.overlay]) _ _
  fetchConcurrency := by
    rw [Json.find?_overlayTable, amounts.fetchConcurrency, sets.fetchConcurrency]
    exact overlayField?_map (fun n : UInt64 => .ofNat n.toNat)
      (fun _ _ => by simp [Json.overlay, Json.ofNat]) _ _

open RecordDecoder in
theorem Amounts.decode {top : Table Json} {settings : Settings} (amounts : Amounts top settings) :
    decode (.ofTable top) = .ok settings :=
  Finds.decode (((((Finds.pure Settings.mk).and
    (.required amounts.logFilter (Decoder.text_str settings.logFilter))).and
    (.required amounts.logFormat settings.logFormat.decode_encode)).and
    (.required amounts.packageRoot (Decoder.text_str settings.packageRoot))).and
    (.required amounts.fetchConcurrency (Decoder.size_ofNat settings.fetchConcurrency)))

/-- What is set, one over the other, the last one on top. -/
def ofChoices (choices : List Choice) : Settings :=
  choices.foldl (fun below choice => choice.on below) standard

/-- **Layers one over the other**, each with what it sets. -/
theorem ofLayers_of_sets {layers : List (Table Json)} {choices : List Choice}
    (sets : List.Forall₂ Sets layers choices) :
    declaration.ofLayers layers = .ok (ofChoices choices) := by
  have amounts : ∀ (top : Table Json) (below : Settings), Amounts top below →
      Amounts (layers.foldl Json.overlayTable top)
        (choices.foldl (fun below choice => choice.on below) below) := by
    induction sets with
    | nil => exact fun _ _ amounts => amounts
    | cons first _ ih => exact fun top below amounts => ih _ _ (amounts.overlay first)
  exact (amounts _ _ amounts_defaults).decode

/-- **The highest layer that sets a field gives it**, whatever any layer says about the others; what
no layer sets is as by default. The highest layer comes first. -/
structure Resolves (choices : List Choice) (settings : Settings) : Prop where
  logFilter : settings.logFilter = (choices.findSome? Choice.logFilter).getD standard.logFilter
  logFormat : settings.logFormat = (choices.findSome? Choice.logFormat).getD standard.logFormat
  packageRoot :
    settings.packageRoot = (choices.findSome? Choice.packageRoot).getD standard.packageRoot
  fetchConcurrency : settings.fetchConcurrency =
    (choices.findSome? Choice.fetchConcurrency).getD standard.fetchConcurrency

/-- A field of the settings that several layers are laid over. -/
theorem foldl_on {α : Type} {field : Settings → α} {chosen : Choice → Option α}
    (on : ∀ (choice : Choice) below, field (choice.on below) = (chosen choice).getD (field below))
    (choices : List Choice) (below : Settings) :
    field (choices.foldl (fun below choice => choice.on below) below) =
      (choices.reverse.findSome? chosen).getD (field below) := by
  induction choices generalizing below with
  | nil => rfl
  | cons first rest ih =>
    rw [List.foldl_cons, ih, on, List.reverse_cons, List.findSome?_append]
    cases rest.reverse.findSome? chosen <;> cases here : chosen first <;> simp [here]

theorem resolves_ofChoices (choices : List Choice) :
    Resolves choices.reverse (ofChoices choices) where
  logFilter := foldl_on (fun _ _ => rfl) choices standard
  logFormat := foldl_on (fun _ _ => rfl) choices standard
  packageRoot := foldl_on (fun _ _ => rfl) choices standard
  fetchConcurrency := foldl_on (fun _ _ => rfl) choices standard

theorem resolves_none {choices : List Choice} {settings : Settings} :
    Resolves (.none :: choices) settings ↔ Resolves choices settings :=
  ⟨fun ⟨filter, format, root, concurrency⟩ => ⟨filter, format, root, concurrency⟩,
    fun ⟨filter, format, root, concurrency⟩ => ⟨filter, format, root, concurrency⟩⟩

/-- Where nothing is set, everything is as by default. -/
theorem Resolves.eq_standard {choices : List Choice} {settings : Settings}
    (resolves : Resolves choices settings) (unset : ∀ choice ∈ choices, choice = .none) :
    settings = standard := by
  induction choices with
  | nil =>
    obtain ⟨filter, format, root, concurrency⟩ := resolves
    cases settings
    exact (Settings.mk.injEq ..).mpr ⟨filter, format, root, concurrency⟩
  | cons first rest ih =>
    obtain ⟨rfl, unsetRest⟩ := List.forall_mem_cons.mp unset
    exact ih (resolves_none.mp resolves) unsetRest

end Settings

/-! ### The command line as a layer -/

namespace CommandLine

open Settings (Choice Sets)

/-- What the flags set. -/
def choice (line : CommandLine) : Choice :=
  ⟨line.logFilter, line.logFormat, line.packageRoot, line.fetchConcurrency⟩

theorem sets_settings (line : CommandLine) : Sets line.settings line.choice := by
  obtain ⟨filter, format, root, concurrency, path⟩ := line
  constructor <;>
    rw [settings, Table.find?_ofList] <;>
    cases filter <;> cases format <;> cases root <;> cases concurrency <;> rfl

end CommandLine

/-! ### Loaders -/

/-- **What is known of a loader.** -/
structure Loader.Lawful {Files Fault : Type} (loader : Loader Files Fault) : Prop where
  /-- Flags are read however they are spelt, in any order, if each takes its value and none is
  repeated. -/
  reads {flags : List (Flag × String)} {arguments : List String} : Spells flags arguments →
    (flags.map Prod.fst).Nodup → (∀ flag ∈ flags, flag.1.Takes flag.2) →
    loader.flags arguments = .ok (.ofFlags flags)
  /-- The file, the environment and the flags are laid over the defaults, in that order, and
  settings are read off what is then on top. -/
  overlays {declaration : Settings.Declaration} {arguments : List String}
    {environment : List (String × String)} {files : Files} {line : CommandLine}
    {file : Table Json} {settings : Settings} : loader.flags arguments = .ok line →
    loader.file declaration.mark line.configPath environment files = .ok file →
    declaration.ofLayers [file, loader.environment declaration.mark environment, line.settings] =
      .ok settings →
    loader.load declaration arguments environment files = .ok settings

namespace Loader

/-- The loader that lays over the rest whatever flags set. -/
def plain : Loader FileSystem (List LoadError) := ofLayer CommandLine.settings

theorem lawful_plain : plain.Lawful where
  reads spells once takes := by
    simp only [plain, ofLayer, CommandLine.parse?_of_spells spells once takes]
  overlays {declaration arguments environment fs line file settings} said found made := by
    simp only [plain, ofLayer] at said found made ⊢
    cases parsed : CommandLine.parse? arguments with
    | none =>
      rw [parsed] at said
      cases said
    | some line' =>
      rw [parsed] at said
      obtain rfl := Except.ok.inj said
      split at found
      · rename_i file' here
        obtain rfl := Except.ok.inj found
        simp only [here, made]
        rfl
      · cases found

/-- **The loader that runs** is like the plain one but for one command line. -/
theorem load_standard_eq {declaration : Settings.Declaration} {arguments : List String}
    {environment : List (String × String)} {fs : FileSystem}
    (other : CommandLine.parse? arguments ≠ some (.ofSettings .standard)) :
    standard.load declaration arguments environment fs =
      plain.load declaration arguments environment fs := by
  simp only [standard, plain, ofLayer]
  cases parsed : CommandLine.parse? arguments with
  | none => rfl
  | some line =>
    have different : line ≠ .ofSettings .standard := fun same => other (same ▸ parsed)
    simp only [CommandLine.layer, if_neg different]

end Loader

/-! ### Files that set texts -/

namespace Toml

/-- The texts that entries stand for, if they all stand for texts. -/
def texts? : Entries → Option (List (String × String))
  | [] => some []
  | (name, .value (.str text)) :: rest => (texts? rest).map fun texts => (name, text) :: texts
  | _ => none

theorem settleEntries_of_texts? {entries : Entries} {texts : List (String × String)}
    (found : texts? entries = some texts) :
    settleEntries entries = texts.map fun item => (item.1, .str item.2) := by
  fun_induction texts? entries generalizing texts with
  | case1 =>
    cases found
    rfl
  | case2 name text rest ih =>
    obtain ⟨others, foundRest, rfl⟩ := Option.map_eq_some_iff.mp found
    rw [settleEntries, ih foundRest]
    rfl
  | case3 => cases found

end Toml

/-- **A file that sets texts**, which both editions of the notation have to find in it. -/
theorem ConfigFile.read_of_texts {text : String} (texts : List (String × String))
    (found : ∀ edition ∈ [Toml.Edition.relaxed, .strict],
      ((Toml.prepare? text).bind fun characters =>
        Toml.statements? edition (characters.length + 1) [] [] characters).bind Toml.texts? =
          some texts)
    (dated : Toml.keepsDates (.obj (texts.map fun item => (item.1, .str item.2))) = true) :
    ConfigFile.read text = .ok (.ofList (texts.map fun item => (item.1, .str item.2))) := by
  have readable : ∀ edition ∈ [Toml.Edition.relaxed, .strict], Toml.read? edition text =
      some (.ofList (texts.map fun item => (item.1, .str item.2))) := by
    intro edition known
    obtain ⟨entries, stated, found⟩ := Option.bind_eq_some_iff.mp (found edition known)
    obtain ⟨characters, prepared, stated⟩ := Option.bind_eq_some_iff.mp stated
    rw [Toml.read?, prepared]
    simp [stated, Toml.settleEntries_of_texts? found, dated]
  rw [read, readable .relaxed (by simp), readable .strict (by simp)]

/-- **A file that extends no other one** sets what it says. -/
theorem ConfigFile.load_of_read {fs : FileSystem} {path directory name : String} {held node : Tree}
    {file : Located} {settings : Table Json}
    (split : Tree.splitName? path = some (directory, name))
    (entered : fs.resolve directory = .ok held) (looked : held.lookWithin name = .ok node)
    (located : locate? fs path = some file) (native : isForeign file.name = false)
    (readable : read file.text = .ok settings) (alone : settings.find? baseKey = none) :
    load fs path = .ok (some settings) := by
  rw [load, split]
  simp only [entered, looked, chain, located, native, readable, base, alone]
  rfl

namespace Settings

/-! ### Loading -/

section Loading

variable {Files Fault : Type} {loader : Loader Files Fault} {arguments : List String}
  {environment : List (String × String)} {files : Files}

/-- The settings that are loaded, by what the layers set. -/
theorem load_of_sets {line : CommandLine} {file : Table Json} {fromFile fromEnvironment : Choice}
    (lawful : loader.Lawful) (said : loader.flags arguments = .ok line)
    (found : loader.file declaration.mark line.configPath environment files = .ok file)
    (inFile : Sets file fromFile)
    (inEnvironment : Sets (loader.environment declaration.mark environment) fromEnvironment) :
    load loader arguments environment files =
      .ok (ofChoices [fromFile, fromEnvironment, line.choice]) :=
  lawful.overlays said found
    (ofLayers_of_sets (.cons inFile (.cons inEnvironment (.cons line.sets_settings .nil))))

/-- **Settings are loaded field by field.** Let flags be spelled on the command line, none of them
twice, and let the settings file, the environment and the flags set some of the settings each. Then
loading succeeds, and the highest layer that sets a field gives it: the flags are above the
environment, which is above the file. Where nothing is set, everything is as by default. Neither the
order of the flags nor their spelling matters, nor do other names in the file. -/
theorem load_layered {flags : List (Flag × String)} {file : Table Json}
    {fromFile fromEnvironment : Choice} (lawful : loader.Lawful) (spells : Spells flags arguments)
    (once : (flags.map Prod.fst).Nodup) (takes : ∀ flag ∈ flags, flag.1.Takes flag.2)
    (found : loader.file declaration.mark (flags.lookup .configPath) environment files = .ok file)
    (inFile : Sets file fromFile)
    (inEnvironment : Sets (loader.environment declaration.mark environment) fromEnvironment) :
    ∃ settings, load loader arguments environment files = .ok settings ∧
      Resolves [(CommandLine.ofFlags flags).choice, fromEnvironment, fromFile] settings ∧
      ((CommandLine.ofFlags flags).choice = .none → fromEnvironment = .none → fromFile = .none →
        settings = standard) ∧
      (∀ others arguments', others.Perm flags → Spells others arguments' →
        load loader arguments' environment files = .ok settings) ∧
      (∀ files' file',
        loader.file declaration.mark (flags.lookup .configPath) environment files' = .ok file' →
        (∀ name ∈ fieldNames, file'.find? name = file.find? name) →
        load loader arguments environment files' = .ok settings) ∧
      settings.root.toList.getLast? ≠ some '/' ∧ 1 ≤ settings.room := by
  have said := lawful.reads spells once takes
  have resolves :=
    resolves_ofChoices [fromFile, fromEnvironment, (CommandLine.ofFlags flags).choice]
  refine ⟨_, load_of_sets lawful said found inFile inEnvironment, resolves,
    fun noFlag noVariable noEntry => ?_, fun others arguments' perm spells' => ?_,
    fun files' file' found' same =>
      load_of_sets lawful said found' (inFile.congr same) inEnvironment,
    VirtualPath.getLast?_withoutTrailing _, room_pos _⟩
  · exact resolves.eq_standard (by simp [noFlag, noVariable, noEntry])
  · have once' : (others.map Prod.fst).Nodup := (perm.map Prod.fst).nodup_iff.mpr once
    have said' := lawful.reads spells' once' fun flag mem => takes flag (perm.mem_iff.mp mem)
    rw [CommandLine.ofFlags_perm perm once'] at said'
    exact load_of_sets lawful said' found inFile inEnvironment

end Loading

/-- A file with a filter and a root, which the command line names, a filter from the environment and
a number from a flag. -/
theorem load_layered_three_places :
    let file := Table.ofList [("log_filter", .str "info"), ("package_root", .str "lib/")]
    let flags := [(Flag.fetchConcurrency, "0"), (.configPath, "/etc/moc.toml")]
    let environment := [("MOC_LOG_FILTER", "x")]
    let fs : FileSystem :=
      ⟨[("etc", .directory
          [("moc.toml", .file "log_filter=\"info\"\npackage_root=\"lib/\"\n".toUTF8)]),
        ("home", .directory [])], ["home"]⟩
    Loader.plain.Lawful ∧ Spells flags ["-f0", "--config-path", "/etc/moc.toml"] ∧
      (flags.map Prod.fst).Nodup ∧ (∀ flag ∈ flags, flag.1.Takes flag.2) ∧
      Loader.plain.file declaration.mark (flags.lookup .configPath) environment fs = .ok file ∧
      Sets file ⟨some "info", none, some "lib/", none⟩ ∧
      Sets (Loader.plain.environment declaration.mark environment) ⟨some "x", none, none, none⟩ ∧
      load .plain ["-f0", "--config-path", "/etc/moc.toml"] environment fs =
        .ok ⟨"x", .json, "lib/", 0⟩ := by
  intro file flags environment fs
  have number : Spelling .fetchConcurrency "0" ["-f" ++ "0"] :=
    .attached 'f' rfl (by decide +kernel) (by decide +kernel)
  have path : Spelling .configPath "/etc/moc.toml" ["--config-path", "/etc/moc.toml"] :=
    .long (by decide +kernel)
  have spells : Spells flags ["-f0", "--config-path", "/etc/moc.toml"] :=
    .cons number (.cons path .nil)
  have once : (flags.map Prod.fst).Nodup := by decide
  have takes : ∀ flag ∈ flags, flag.1.Takes flag.2 :=
    List.forall_mem_cons.mpr ⟨⟨0, by decide +kernel⟩,
      List.forall_mem_singleton.mpr (show "/etc/moc.toml" ≠ "" by decide +kernel)⟩
  have read : ConfigFile.read "log_filter=\"info\"\npackage_root=\"lib/\"\n" = .ok file :=
    ConfigFile.read_of_texts [("log_filter", "info"), ("package_root", "lib/")]
      (by decide +kernel) (by decide +kernel)
  let text := "log_filter=\"info\"\npackage_root=\"lib/\"\n"
  have rooted : Tree.isRooted "/etc" = true ∧ Tree.isRooted "/etc/moc.toml" = true := by
    decide +kernel
  have entered : fs.resolve "/etc" = .ok (.directory [("moc.toml", .file text.toUTF8)]) := by
    have parts_eq : Text.pieces '/' "/etc" = ["", "etc"] := by decide +kernel
    rw [FileSystem.resolve_text (by decide +kernel) (by decide +kernel) (by decide +kernel)]
    simp [FileSystem.locateParts, parts_eq, rooted, fs, Tree.follow, Table.findEntry,
      Tree.longestName]
    rfl
  have looked : Tree.lookWithin (.directory [("moc.toml", .file text.toUTF8)]) "moc.toml" =
      .ok (.file text.toUTF8) := by
    rw [Tree.lookWithin, if_neg (by decide +kernel)]
    simp [Tree.follow, Table.findEntry, Tree.longestName]
    rfl
  have located : ConfigFile.locate? fs "/etc/moc.toml" = some ⟨["etc"], "moc.toml", text⟩ := by
    have parts_eq : Text.pieces '/' "/etc/moc.toml" = ["", "etc", "moc.toml"] := by decide +kernel
    have place_eq : fs.locate "/etc/moc.toml" =
        .ok ⟨["moc.toml", "etc"], .file text.toUTF8⟩ := by
      simp [FileSystem.locate, HostPath.hasNul, FileSystem.locateParts, parts_eq, rooted, fs,
        Tree.follow, Table.findEntry, Tree.longestName]
      rfl
    simp only [ConfigFile.locate?, place_eq, fromUTF8?_toUTF8, Option.map_some]
  have loaded : ConfigFile.load fs "/etc/moc.toml" = .ok (some file) :=
    ConfigFile.load_of_read (by decide +kernel) entered looked located (by decide +kernel) read rfl
  have found : Loader.plain.file declaration.mark (flags.lookup .configPath) environment fs =
      .ok file := by
    have named : flags.lookup .configPath = some "/etc/moc.toml" := rfl
    simp only [named, Loader.plain, Loader.ofLayer, ConfigFile.layer, loaded]
  have inFile : Sets file ⟨some "info", none, some "lib/", none⟩ := ⟨rfl, rfl, rfl, rfl⟩
  have inEnvironment : Sets (Loader.plain.environment declaration.mark environment)
      ⟨some "x", none, none, none⟩ := ⟨rfl, rfl, rfl, rfl⟩
  obtain ⟨settings, load_eq, resolves, -⟩ :=
    load_layered Loader.lawful_plain spells once takes found inFile inEnvironment
  have settings_eq : settings = ⟨"x", .json, "lib/", 0⟩ := by
    cases settings
    exact (Settings.mk.injEq ..).mpr
      ⟨resolves.logFilter, resolves.logFormat, resolves.packageRoot, resolves.fetchConcurrency⟩
  exact ⟨Loader.lawful_plain, spells, once, takes, found, inFile, inEnvironment,
    settings_eq ▸ load_eq⟩

end Settings

end CompilerGateway
