import CompilerGateway.FileSystem
import CompilerGateway.Package.Fetched

/-!
# Local directories as packages

The packages that the directories of a file system make.

`FileSystem.package` makes a package of the directory that a path leads to. It takes the regular
files of the directory and of all directories below it, leaving out what has a name that starts
with a dot, what has an extension that was not asked for, and links, which are never followed
below the root. Each directory and each file is opened by its path, which is how a directory can
be too far down to be read. In the package a file has as its key what is left of its path without
the path of the directory (`Tree.relativeKey`).

The order in which a directory lists its entries has no influence on a package that can be
made; of several entries that cannot be read it decides which one is reported.
-/

namespace CompilerGateway

namespace Tree

/-! ### Packages -/

/-- Whether a package takes a regular file of this name. -/
def isWanted (extensions : List String) (name : String) : Bool :=
  match extension? name with
  | none => false
  | some extension => extensions.contains extension

/-- Whether a name starts with a dot. -/
def isHidden (name : String) : Bool := name.toList.head? == some '.'

/-- The path of an entry of a directory. -/
def entryPath (directory name : String) : String :=
  match directory.toList.getLast? with
  | none | some '/' => directory ++ name
  | some _ => directory ++ "/" ++ name

/-- The path of a file as it is seen from the directory at `root`: its components after those of
the directory, or all of them if it is somewhere else. -/
def relativeKey (root path : String) : String :=
  "/".intercalate (((components root).isPrefixOf? (components path)).getD (components path))

mutual

/-- Adds the wanted files of what `path` leads to, for a package of the directory at `root`. -/
def collect (extensions : List String) (root path name : String) (found : Table String) :
    Tree → Except FetchError (Table String)
  | .link _ => .ok found
  | .directory entries =>
    if longestPath < path.utf8ByteSize then .error (.io path LookupFault.nameTooLong.message)
    else collectEntries extensions root path found entries
  | .file content =>
    if !isWanted extensions name then .ok found
    else if longestPath < path.utf8ByteSize then
      .error (.io path LookupFault.nameTooLong.message)
    else
      match String.fromUTF8? content with
      | some text => .ok (found.insert (relativeKey root path) text)
      | none => .error (.encoding path)

/-- Adds the wanted files of the entries of a directory at `path`. -/
def collectEntries (extensions : List String) (root path : String) (found : Table String) :
    List (String × Tree) → Except FetchError (Table String)
  | [] => .ok found
  | (name, entry) :: rest =>
    if isHidden name then collectEntries extensions root path found rest
    else
      match collect extensions root (entryPath path name) name found entry with
      | .error error => .error error
      | .ok found => collectEntries extensions root path found rest

end

/-- The extensions of source files. -/
def sourceExtensions : List String := ["mo"]

end Tree

namespace FileSystem

/-- The version of every package that is read from a local directory. -/
def localVersion : String := "local"

/-- The package in the directory that a path leads to. -/
def package (extensions : List String) (fs : FileSystem) (path : HostPath) :
    Except FetchError FetchedPackage :=
  match path, fs.resolve path with
  | path, .error fault => .error (.io path fault.message)
  | .text root, .ok (.directory entries) =>
    (Tree.collectEntries extensions root root .empty entries).map fun files =>
      ⟨Tree.lastName root, localVersion, files⟩
  | path, .ok _ => .error (.io path LookupFault.notDirectory.message)

/-- Fetches from directories, and from nothing else. -/
def fetch (extensions : List String) (fs : FileSystem) :
    Descriptor → Except FetchError FetchedPackage
  | .directory path => fs.package extensions path
  | descriptor => .error (.unsupported descriptor.render)

end FileSystem

end CompilerGateway
