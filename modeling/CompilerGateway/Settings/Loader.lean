import CompilerGateway.Json.Overlay
import CompilerGateway.Settings.Flags

/-!
# Loading settings

What can be set is only declared here: a default for each setting, the mark that the names of
variables start with, the flags (`CompilerGateway.Flag`), and how settings are read off what has
been found (`Settings.declaration`). Everything else is up to a `Loader`: how command lines,
variables and files are read, where a file is looked for, and how what they say is put together.

The defaults are declared for a loader apart from the settings that hold without one
(`Settings.standard`).
-/

namespace CompilerGateway

namespace Settings

/-- What is declared to a loader. -/
structure Declaration where
  /-- What the names of the variables start with. -/
  mark : String
  /-- What holds by default. -/
  defaults : Table Json
  /-- How settings are read off what has been found. -/
  decode : Decoder Settings

/-- The settings that layers amount to on top of the defaults, each laid over those before it. -/
def Declaration.ofLayers (declaration : Declaration) (layers : List (Table Json)) :
    Except DecodeError Settings :=
  declaration.decode (.ofTable (layers.foldl Json.overlayTable declaration.defaults))

/-- What is declared of the settings. -/
def declaration : Declaration where
  mark := "MOC"
  defaults := Table.ofList
    [("log_filter", .str standardFilter), ("log_format", standardFormat.encode),
      ("package_root", .str standardRoot), ("fetch_concurrency", .ofNat standardConcurrency.toNat)]
  decode := decode

end Settings

/-- What loads settings, with files of some kind and faults of some kind. -/
structure Loader (Files Fault : Type) where
  /-- What a command line says. -/
  flags : List String → Except Fault CommandLine
  /-- What the settings file sets, for a mark, the path that the command line names, if it names
  one, and the variables. -/
  file : String → Option String → List (String × String) → Files → Except Fault (Table Json)
  /-- What the variables set whose names start with a mark. -/
  environment : String → List (String × String) → Table Json
  /-- What a command line, variables and files together come to. -/
  load : Settings.Declaration → List String → List (String × String) → Files →
    Except Fault Settings

/-- Loads the settings, or says what is wrong. -/
def Settings.load {Files Fault : Type} (loader : Loader Files Fault) (arguments : List String)
    (environment : List (String × String)) (files : Files) : Except Fault Settings :=
  loader.load declaration arguments environment files

end CompilerGateway
