import CompilerGateway.Package.Naming
import CompilerGateway.Package.Descriptor

/-!
# Fetched packages

What a fetch comes to: a package with all its files in memory, or the reason why there is
none. A package that was fetched need not be one that may be installed –
`FetchedPackage.fault?` looks for a version or a key that would lead out of the package's own
directory.
-/

namespace CompilerGateway

/-! ### Packages -/

/-- A package held in memory. -/
structure FetchedPackage where
  /-- The name that the package gives itself. -/
  name : String
  /-- Its version. -/
  version : String
  /-- The contents of its files by their keys. -/
  files : Table String
  deriving DecidableEq

namespace FetchedPackage

/-- Reads a package. -/
def decode : Decoder FetchedPackage :=
  ((((RecordDecoder.pure FetchedPackage.mk).and (.required "name" .text)).and
    (.required "version" .text)).and
    (.required "files" (.table .text))).decode "FetchedPackage"

/-- Writes a package. -/
def encode (package : FetchedPackage) : Json :=
  .obj [("files", .ofTable (package.files.map .str)), ("name", .str package.name),
    ("version", .str package.version)]

end FetchedPackage

/-- Why a fetched package may not be installed. -/
inductive ContentFault where
  | badVersion (version : String) (fault : NameFault)
  | badKey (key : String) (fault : KeyFault)
  deriving DecidableEq

namespace ContentFault

/-- The part of the package that is objected to. -/
def field : ContentFault → String
  | .badVersion _ _ => "version"
  | .badKey _ _ => "file"

/-- The text that is objected to. -/
def value : ContentFault → String
  | .badVersion version _ => version
  | .badKey key _ => key

/-- The objection. -/
def reason : ContentFault → String
  | .badVersion _ fault => fault.message
  | .badKey _ fault => fault.message

end ContentFault

/-- What is wrong with a package, if anything is: its version before its files, and of the
files the one with the least key. -/
def FetchedPackage.fault? (package : FetchedPackage) : Option ContentFault :=
  match nameFault? package.version with
  | some fault => some (.badVersion package.version fault)
  | none => package.files.names.findSome? fun key => (keyFault? key).map (.badKey key)

/-! ### Failures -/

/-- Why a package could not be fetched. -/
inductive FetchError where
  /-- The source did not answer. -/
  | unreachable (source message : String)
  /-- The repository does not have the version. -/
  | versionNotFound (repository version : String)
  /-- What arrived is not what was expected. -/
  | integrity (package expected actual : String)
  /-- The fetcher does not know this kind of source. -/
  | unsupported (descriptor : String)
  /-- A file is not text. -/
  | encoding (path : HostPath)
  /-- A file or directory could not be read. -/
  | io (path : HostPath) (cause : String)
  deriving DecidableEq

namespace FetchError

/-- The wording of the failure. -/
def message : FetchError → String
  | .unreachable source message => "package source '" ++ source ++ "' is unreachable: " ++ message
  | .versionNotFound repository version =>
    "version '" ++ version ++ "' of '" ++ repository ++ "' was not found"
  | .integrity package expected actual =>
    "integrity check failed for '" ++ package ++ "': expected " ++ expected ++ ", got " ++ actual
  | .unsupported descriptor => "cannot fetch '" ++ descriptor ++ "' with this fetcher"
  | .encoding path => "package file '" ++ path.display ++ "' is not valid UTF-8"
  | .io path cause =>
    "failed to read package content at '" ++ path.display ++ "': " ++ cause

/-- The failure underneath, where there is one. -/
def cause? : FetchError → Option String
  | .io _ cause => some cause
  | _ => none

end FetchError

end CompilerGateway
