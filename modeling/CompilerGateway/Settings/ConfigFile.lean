import CompilerGateway.FileSystem
import CompilerGateway.Json.Overlay
import CompilerGateway.Text.Lowercase
import CompilerGateway.Toml.Document

/-!
# Settings files

A settings file is a TOML document. It is read twice: first by the later edition of the
notation, which says whether it is a document at all, and then by the first edition, which
gives its content. A document that only the later edition knows is at fault in a way of its
own, and sets nothing.

A file is looked for in its directory: a path that names no file is at fault, but that there is
no such directory, or nothing of the name in it, only means that there are no settings
(`ConfigFile.load`). The name may be a link, but not one that leads out of the directory.

A file may **extend** another one: its key `extends` names a file, whose settings hold where
the first one has none of its own. The path is seen from the directory that the first file is
really in, whatever links lead to it, and may go anywhere. Every file extends at most one, so a
chain that is longer than there are files goes round in a circle.
-/

namespace CompilerGateway

/-- Why a settings file gives no settings. -/
inductive FileFault where
  /-- It cannot be read, it is no document, or what it extends is no file name. -/
  | unreadable
  /-- It is a document of the later edition only. -/
  | notStrict
  /-- It extends itself, if only by way of other files. -/
  | circular
  deriving DecidableEq

namespace ConfigFile

/-! ### One file -/

/-- What the text of a file sets. -/
def read (text : String) : Except FileFault (Table Json) :=
  match Toml.read? .relaxed text, Toml.read? .strict text with
  | none, _ => .error .unreadable
  | some _, none => .error .notStrict
  | some _, some settings => .ok settings

/-- The extensions of notations that are not read. -/
def foreignExtensions : List String := ["json", "json5", "yaml", "yml"]

/-- Whether a file of this name is taken to be of a foreign notation. -/
def isForeign (name : String) : Bool :=
  match Tree.extension? name with
  | none => false
  | some extension => foreignExtensions.contains (Text.lowerAscii extension)

/-- The key that names the file that is extended. -/
def baseKey : String := "extends"

/-- The path of the file that is extended, if any is, and if it is named properly. -/
def base (settings : Table Json) : Except FileFault (Option String) :=
  match settings.find? baseKey with
  | none => .ok none
  | some (.str "") => .error .unreadable
  | some (.str path) => .ok (some path)
  | some _ => .error .unreadable

/-- A path as it is seen from the directory that some names lead to from the root, the last one
first. -/
def seenFrom (directory : List String) (path : String) : String :=
  if Tree.isRooted path then path else "/" ++ "/".intercalate (directory.reverse ++ [path])

/-! ### Chains of files -/

/-- A settings file: the directory that it is in, by the names that lead there from the root, the
last one first, its name and its text. -/
structure Located where
  directory : List String
  name : String
  text : String

/-- The file that a path leads to. -/
def locate? (fs : FileSystem) (path : String) : Option Located :=
  match fs.locate path with
  | .ok ⟨name :: directory, .file content⟩ =>
    (String.fromUTF8? content).map fun text => ⟨directory, name, text⟩
  | _ => none

/-- What the file of a path sets, with what it extends below it, in a chain of at most
`length` files. -/
def chain (fs : FileSystem) : Nat → String → Except FileFault (Table Json)
  | 0, _ => .error .circular
  | length + 1, path =>
    match locate? fs path with
    | none => .error .unreadable
    | some file =>
      if isForeign file.name then .error .unreadable
      else
        match read file.text with
        | .error fault => .error fault
        | .ok settings =>
          match base settings with
          | .error fault => .error fault
          | .ok none => .ok settings
          | .ok (some lower) =>
            (chain fs length (seenFrom file.directory lower)).map fun lower =>
              Json.overlayTable lower settings

/-- What the file of a path sets, if there is one. -/
def load (fs : FileSystem) (path : String) : Except FileFault (Option (Table Json)) :=
  match Tree.splitName? path with
  | none => .error .unreadable
  | some (directory, name) =>
    match fs.resolve directory with
    | .error .notFound => .ok none
    | .error _ => .error .unreadable
    | .ok held =>
      match held.lookWithin name with
      | .error .notFound => .ok none
      | .error _ => .error .unreadable
      | .ok _ => (chain fs (Tree.fileCountOfAll fs.top + 1) path).map some

end ConfigFile

end CompilerGateway
