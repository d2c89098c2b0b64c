import CompilerGateway.Settings.ConfigFile
import CompilerGateway.Settings.Environment
import CompilerGateway.Settings.Loader

/-!
# A loader of layers

Settings come from four places: what holds by default, a settings file, the environment and
the command line. The places are **layers**, each a table of the settings that it sets. A
later layer overrides an earlier one setting by setting, and only what is then on top has to
be of the right type; names that are no settings are ignored.

The settings file is the first one that can be read of those that may be meant: the one that
the command line names, the one that the environment names, and those of the standard places.
The one that the command line names has to be readable. The others need not even be there; what
is there without being a settings file is at fault, but that only counts if none of them can be
read. A file that the environment names just as the command line does is only one file.

Nothing that is wrong keeps the rest from being looked at: `Loader.ofLayer` reports everything
that is wrong with the command line, the file and what the layers amount to. `Loader.standard`
is the one that runs.
-/

namespace CompilerGateway

/-! ### Settings files -/

namespace ConfigFile

/-- The variable that may name a settings file. -/
def pathVariable (mark : String) : String := mark ++ "_CONFIG_PATH"

/-- Where settings files are looked for, within the home directory. -/
def standardPlaces (mark : String) : List String :=
  let name := Text.lowerAscii mark
  [".config/" ++ name ++ "/config.toml", ".config/." ++ name ++ ".toml", "." ++ name ++ ".toml"]

/-- The settings files that are used if they are there, besides the one that is required. -/
def optionalFiles (mark : String) (environment : List (String × String))
    (required : Option String) : List String :=
  let named := (environment.lookup (pathVariable mark)).filter fun path =>
    path != "" && required != some path
  named.toList ++ standardPlaces mark

/-- What the first readable file of several sets, or what is wrong with those that are there if
none can be read. -/
def firstReadable (fs : FileSystem) : List String → Except (List FileFault) (Table Json)
  | [] => .error []
  | path :: rest =>
    match load fs path with
    | .ok (some settings) => .ok settings
    | .ok none => firstReadable fs rest
    | .error fault =>
      match firstReadable fs rest with
      | .ok settings => .ok settings
      | .error faults => .error (fault :: faults)

/-- What the settings file sets, with everything that is wrong. -/
def layer (fs : FileSystem) (required : Option String) (optional : List String) :
    Table Json × List FileFault :=
  let found (faults : List FileFault) : Table Json × List FileFault :=
    match firstReadable fs optional with
    | .ok settings => (settings, faults)
    | .error more => (.empty, faults ++ more)
  match required with
  | none => found []
  | some path =>
    match load fs path with
    | .ok (some settings) => (settings, [])
    | .ok none => found [.unreadable]
    | .error fault => found [fault]

end ConfigFile

/-! ### Command lines -/

namespace CommandLine

/-- The command line that sets all settings as given. -/
def ofSettings (s : Settings) : CommandLine :=
  ⟨some s.logFilter, some s.logFormat, some s.packageRoot, some s.fetchConcurrency, none⟩

/-- What a command line sets on top of the other places. One that does nothing but set all
settings to what holds by default is taken for one without flags, so it overrides nothing. -/
def layer (line : CommandLine) : Table Json :=
  if line = ofSettings .standard then .empty else line.settings

end CommandLine

/-! ### Loading -/

/-- What can be wrong with settings. -/
inductive LoadError where
  /-- The command line cannot be read. -/
  | arguments
  /-- A settings file gives no settings. -/
  | file (fault : FileFault)
  /-- The layers do not make settings. -/
  | layers (error : DecodeError)

/-- The result of loading, with what is wrong besides the layers. -/
def LoadError.conclude (errors : List LoadError) :
    Except DecodeError Settings → Except (List LoadError) Settings
  | .ok settings => if errors.isEmpty then .ok settings else .error errors
  | .error error => .error (errors ++ [.layers error])

namespace Loader

/-- The loader of layers, given what command lines set on top of the other places. -/
def ofLayer (layer : CommandLine → Table Json) : Loader FileSystem (List LoadError) where
  flags arguments :=
    match CommandLine.parse? arguments with
    | some line => .ok line
    | none => .error [.arguments]
  file mark required environment fs :=
    match ConfigFile.layer fs required (ConfigFile.optionalFiles mark environment required) with
    | (settings, []) => .ok settings
    | (_, faults) => .error (faults.map .file)
  environment := Environment.settings
  load declaration arguments environment fs :=
    let (line, misread) : CommandLine × List LoadError :=
      match CommandLine.parse? arguments with
      | some line => (line, [])
      | none => (.empty, [.arguments])
    let (file, faults) := ConfigFile.layer fs line.configPath
      (ConfigFile.optionalFiles declaration.mark environment line.configPath)
    LoadError.conclude (misread ++ faults.map .file) (declaration.ofLayers
      [file, Environment.settings declaration.mark environment, layer line])

/-- The loader that runs. -/
def standard : Loader FileSystem (List LoadError) := ofLayer CommandLine.layer

end Loader

end CompilerGateway
