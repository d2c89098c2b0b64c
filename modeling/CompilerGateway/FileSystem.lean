import CompilerGateway.HostPath
import CompilerGateway.Tree

/-!
# File systems

A file system is the tree below its root, seen from a working directory. A path that starts with a
slash is followed from the root on, every other one from the working directory on
(`FileSystem.locate`). Either may lead anywhere: up to the root by `..`, and wherever a link points
to.

The names in a tree are texts. So a path that is none leads nowhere
(`FileSystem.faultOf` says how far it leads, and what is wrong there).
-/

namespace CompilerGateway

/-- A file system, seen from a working directory. -/
structure FileSystem where
  /-- The entries of the root. -/
  top : List (String × Tree)
  /-- The names of the directories that lead from the root to the working directory. -/
  working : List String

namespace HostPath

/-- How many bytes the path has. -/
def size : HostPath → Nat
  | .text path => path.utf8ByteSize
  | .bytes raw _ => raw.length

/-- Whether one of the bytes is zero, which none may be. -/
def hasNul : HostPath → Bool
  | .text path => Tree.hasNul path
  | .bytes raw _ => raw.contains 0

end HostPath

namespace FileSystem

/-- The file system of which the working directory holds what is listed by path. It is the only
directory that the root has, and it is hidden there. -/
def ofListing (listing : List (String × Tree)) : FileSystem :=
  let entries :=
    listing.foldl (fun entries item => Tree.graft item.2 (Tree.namedParts item.1) entries) []
  ⟨[(".working", .directory entries)], [".working"]⟩

/-! ### Following paths -/

/-- Where the parts of a path lead, which starts at the root or not. -/
def locateParts (fs : FileSystem) (rooted : Bool) (parts : List String) :
    Except LookupFault Tree.Place :=
  Tree.follow false Tree.mostLinks [] fs.top [] ((if rooted then [] else fs.working) ++ parts)

/-- What is wrong with a path that is no text, at the first part of it that is none. No directory
has an entry of that name. -/
def faultOf (fs : FileSystem) (raw : List UInt8) : LookupFault :=
  let parts := Text.segments 47 raw
  let name? := fun part : List UInt8 => String.fromUTF8? part.toByteArray
  let known := parts.takeWhile fun part => (name? part).isSome
  match fs.locateParts (raw.head? == some 47) (known.filterMap name?) with
  | .error fault => fault
  | .ok ⟨_, .directory _⟩ =>
    if Tree.longestName < ((parts.drop known.length).headD []).length then .nameTooLong
    else .notFound
  | .ok _ => .notDirectory

/-- Where a path leads, part by part. -/
def locate (fs : FileSystem) (path : HostPath) : Except LookupFault Tree.Place :=
  if path.hasNul then .error .embeddedNul
  else
    match path with
    | .text path =>
      if path = "" then .error .notFound
      else fs.locateParts (Tree.isRooted path) (Text.pieces '/' path)
    | .bytes raw _ => .error (fs.faultOf raw)

/-- What a path leads to that is handed over whole, and so must not be too long. -/
def resolve (fs : FileSystem) (path : HostPath) : Except LookupFault Tree :=
  if path.hasNul then .error .embeddedNul
  else if Tree.longestPath < path.size then .error .nameTooLong
  else (fs.locate path).map Tree.Place.node

end FileSystem

end CompilerGateway
