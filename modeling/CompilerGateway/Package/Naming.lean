import CompilerGateway.Text.Blank
import CompilerGateway.Text.Segments

/-!
# Names that may become paths

A package is installed below `root/name/version`, and its files at keys below that. The name,
the version and every key come from outside, so each is checked before anything is written.

* `nameFault?` – a name or a version has to be a single part of a path that leads downwards.
* `keyFault?` – a key has to be a relative path whose every part leads downwards.

`NameFault.message` and `KeyFault.message` word the objections.
-/

namespace CompilerGateway

/-! ### Names and versions -/

/-- Why a text cannot name a directory. -/
inductive NameFault where
  /-- It is empty, or made of blanks. -/
  | empty
  /-- It holds a slash or a backslash. -/
  | separator
  /-- It is `.` or `..`. -/
  | relative
  deriving DecidableEq

/-- The wording of the objection. -/
def NameFault.message : NameFault → String
  | .empty => "must not be empty"
  | .separator => "must not contain path separators"
  | .relative => "must not be a relative directory"

/-- What is wrong with a name or a version, if anything is. -/
def nameFault? (name : String) : Option NameFault :=
  if Text.allBlank name then some .empty
  else if '/' ∈ name.toList ∨ '\\' ∈ name.toList then some .separator
  else if name = "." ∨ name = ".." then some .relative
  else none

/-! ### Keys of files -/

/-- Why a text cannot be the path of a file within a package. -/
inductive KeyFault where
  /-- It starts with a slash. -/
  | absolute
  /-- It holds a backslash. -/
  | backslash
  /-- One of its parts is empty, `.` or `..`. -/
  | part
  deriving DecidableEq

/-- The wording of the objection. -/
def KeyFault.message : KeyFault → String
  | .absolute => "must be relative"
  | .backslash => "must use `/` separators"
  | .part => "must not contain empty, `.`, or `..` segments"

/-- Whether a part of a path leads nowhere or upwards. -/
def isIdlePart (part : String) : Bool := part == "" || part == "." || part == ".."

/-- What is wrong with the key of a file, if anything is. -/
def keyFault? (key : String) : Option KeyFault :=
  if key.toList.head? = some '/' then some .absolute
  else if '\\' ∈ key.toList then some .backslash
  else if (Text.pieces '/' key).any isIdlePart then some .part
  else none

end CompilerGateway
