import CompilerGateway.Table
import CompilerGateway.Text.Segments

/-!
# Trees of files

Directories, regular files and symbolic links, and what a path leads to among them.

* `Tree.follow` follows the parts of a path: `.` and empty parts stay where they are, `..` goes to
  the directory that holds the present one, or stays in the topmost one, and a link is replaced by
  its target wherever it is met. What is found has a `Place`, the names without links that lead to
  it from the topmost directory.
* `Tree.lookWithin` looks for a name in a directory that no link may lead out of, not even for
  a moment.
* `Tree.splitName?` takes a path apart into the directory and the name in it, and
  `Tree.components` into all its components.
-/

namespace CompilerGateway

/-- What a path may lead to. -/
inductive Tree where
  /-- A regular file with its bytes. -/
  | file (content : ByteArray)
  /-- A symbolic link with the path that it stands for. -/
  | link (target : String)
  /-- A directory with its entries, in the order in which it lists them. -/
  | directory (entries : List (String × Tree))

/-- Why a path leads nowhere. -/
inductive LookupFault where
  | notFound
  | notDirectory
  | tooManyLinks
  | nameTooLong
  | embeddedNul
  /-- It leads out of the directory that it was to stay in. -/
  | outside
  deriving DecidableEq

/-- The wording of the fault. -/
def LookupFault.message : LookupFault → String
  | .notFound => "No such file or directory (os error 2)"
  | .notDirectory => "Not a directory (os error 20)"
  | .tooManyLinks => "Too many levels of symbolic links (os error 40)"
  | .nameTooLong => "File name too long (os error 36)"
  | .embeddedNul => "file name contained an unexpected NUL byte"
  | .outside => "a path led outside of the filesystem"

namespace Tree

/-! ### Building -/

/-- The entries after `node` has been put at a path below them; directories on the way are
made where they are missing, and a directory that is there already keeps its entries. -/
def graft (node : Tree) : List String → List (String × Tree) → List (String × Tree)
  | [], entries => entries
  | [name], entries =>
    match node, Table.findEntry name entries with
    | .directory [], some (.directory _) => entries
    | node, _ => Table.insertEntry name node entries
  | name :: rest, entries =>
    let below := match Table.findEntry name entries with
      | some (.directory held) => held
      | _ => []
    Table.insertEntry name (.directory (graft node rest below)) entries

/-- Whether a part of a path is more than a way to stay in the same directory. -/
def isNamed (part : String) : Bool := part != "" && part != "."

/-- The parts of a path that lead on. -/
def namedParts (path : String) : List String := (Text.pieces '/' path).filter isNamed

/-! ### Following paths -/

/-- How many bytes a name may have. -/
def longestName : Nat := 255

/-- How many bytes a path may have. -/
def longestPath : Nat := 4095

/-- Whether a path starts at the root of the file system. -/
def isRooted (path : String) : Bool := path.toList.head? == some '/'

/-- How many links a path may lead through. -/
def mostLinks : Nat := 40

/-- What a path leads to, with the names that lead there from the topmost directory, the last
one first. -/
structure Place where
  names : List String
  node : Tree

/-- The topmost of the directories `present :: above`. -/
def topmost (present : List (String × Tree)) (above : List (List (String × Tree))) :
    List (String × Tree) :=
  above.getLast?.getD present

/-- Follows the parts of a path. The directories from the present one up to the topmost one are
`present :: above`, with the given names below that one. No part leads out of the topmost
directory: it is either an error to try, where the path is `confined`, or the root of the file
system, which is where an absolute link starts and above which there is only itself. At most
`hops` more links are followed. -/
def follow (confined : Bool) (hops : Nat) (names : List String)
    (present : List (String × Tree)) (above : List (List (String × Tree))) :
    List String → Except LookupFault Place
  | [] => .ok ⟨names, .directory present⟩
  | part :: rest =>
    if part = "" ∨ part = "." then follow confined hops names present above rest
    else if part = ".." then
      match above with
      | [] => if confined then .error .outside else follow confined hops names present [] rest
      | holder :: higher => follow confined hops (names.drop 1) holder higher rest
    else if longestName < part.utf8ByteSize then .error .nameTooLong
    else
      match Table.findEntry part present with
      | none => .error .notFound
      | some (.directory entries) =>
        follow confined hops (part :: names) entries (present :: above) rest
      | some (.file content) =>
        if rest = [] then .ok ⟨part :: names, .file content⟩ else .error .notDirectory
      | some (.link target) =>
        match hops with
        | 0 => .error .tooManyLinks
        | hops + 1 =>
          if target = "" then .error .notFound
          else if isRooted target then
            if confined then .error .outside
            else follow confined hops [] (topmost present above) []
              (Text.pieces '/' target ++ rest)
          else follow confined hops names present above (Text.pieces '/' target ++ rest)
  termination_by parts => (hops, parts.length)

/-- Whether a path has a character of number zero, which no path may have. -/
def hasNul (path : String) : Bool := path.toList.any fun c => c.toNat == 0

/-- What a name in a directory leads to, if the way stays in the directory. -/
def lookWithin (directory : Tree) (name : String) : Except LookupFault Tree :=
  if hasNul name then .error .embeddedNul
  else
    match directory with
    | .directory entries => (follow true mostLinks [] entries [] [name]).map Place.node
    | _ => .error .notDirectory

mutual

/-- How many regular files there are. -/
def fileCount : Tree → Nat
  | .file _ => 1
  | .link _ => 0
  | .directory entries => fileCountOfAll entries

/-- How many regular files there are in several entries. -/
def fileCountOfAll : List (String × Tree) → Nat
  | [] => 0
  | (_, entry) :: rest => fileCount entry + fileCountOfAll rest

end

/-! ### Names -/

/-- The directory and the name that a path consists of, unless it ends by going upwards. What
stands for the same directory at the end of either part does not count. -/
def splitName? (path : String) : Option (String × String) :=
  match (Text.pieces '/' path).reverse.dropWhile fun part => !isNamed part with
  | [] => none
  | ".." :: _ => none
  | name :: above =>
    match (above.dropWhile fun part => !isNamed part).reverse with
    | [] => some (if isRooted path then "/" else ".", name)
    | parts => some ("/".intercalate parts, name)

/-- The components of a path: the root if it starts there, the present directory if it is said to
start there, and after that all parts that lead on. -/
def components (path : String) : List String :=
  let start :=
    if isRooted path then ["/"]
    else if (Text.pieces '/' path).head? = some "." then ["."]
    else []
  start ++ namedParts path

/-- The name that a path ends with, if it has one. -/
def lastName (path : String) : String :=
  match splitName? path with
  | none => ""
  | some (_, name) => name

/-- The text after the last dot of a file's name, unless the dot is the first character. -/
def extension? (name : String) : Option String :=
  match Text.splitAtLast '.' name.toList with
  | none => none
  | some ([], _) => none
  | some (_, extension) => some (String.ofList extension)

end Tree

end CompilerGateway
