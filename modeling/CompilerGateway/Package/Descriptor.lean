import CompilerGateway.HostPath
import CompilerGateway.Text.Segments
import CompilerGateway.Wire.Decoding

/-!
# Package descriptors

Where a package comes from: a directory, or a version of a repository, of which only a
subdirectory may be wanted.

`Descriptor.ofText` reads the text form. The last `@` that has text on both sides separates a
repository from its version; a text without such an `@` is a directory. `Descriptor.render`
writes the text form, which for a repository with a subdirectory, or for a directory whose path
is no text, reads back as something else: `Descriptor.render_ofText` is the direction that holds
of every text.

`Descriptor.encode` writes a descriptor as a JSON value. JSON knows texts only, so there is none
for a directory whose path is no text.
-/

namespace CompilerGateway

/-- The source of a package. -/
inductive Descriptor where
  /-- A directory of the local file system. -/
  | directory (path : HostPath)
  /-- A version of a repository, or a directory within it. -/
  | repository (repository version : String) (directory : Option String)
  deriving DecidableEq

namespace Descriptor

/-! ### Text -/

/-- Reads the text form. -/
def ofText (text : String) : Descriptor :=
  match Text.splitAtLast '@' text.toList with
  | none => .directory text
  | some (before, after) =>
    if before = [] ∨ after = [] then .directory text
    else .repository (String.ofList before) (String.ofList after) none

/-- The text form. -/
def render : Descriptor → String
  | .directory path => path.display
  | .repository name version none => name ++ "@" ++ version
  | .repository name version (some within) => name ++ "@" ++ version ++ ":" ++ within

/-- The form of a directory: an object with its path. -/
def directoryForm : Decoder Descriptor :=
  ((RecordDecoder.pure fun path : String => Descriptor.directory path).and
    (.required "path" .text)).decodeObject "PackageDescriptor"

/-- The form of a repository: an object with the repository, the version and perhaps a
subdirectory. -/
def repositoryForm : Decoder Descriptor :=
  ((((RecordDecoder.pure Descriptor.repository).and (.required "repository" .text)).and
    (.required "version" .text)).and
    (.defaulted "directory" none (.nullable .text))).decodeObject "PackageDescriptor"

/-- Reads a descriptor; what has a path is a directory. -/
def decode : Decoder Descriptor :=
  Decoder.firstOf "PackageDescriptor" [directoryForm, repositoryForm]

/-- Why a descriptor cannot be written. -/
def notText : String := "path contains invalid UTF-8 characters"

/-- Writes a descriptor, or says why it cannot be written. -/
def encode : Descriptor → Except String Json
  | .directory (.text path) => .ok (.obj [("path", .str path)])
  | .directory (.bytes _ _) => .error notText
  | .repository name version within =>
    .ok (.obj ((within.toList.map fun d => ("directory", .str d))
      ++ [("repository", .str name), ("version", .str version)]))

end Descriptor

end CompilerGateway
