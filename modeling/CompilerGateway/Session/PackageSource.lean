import CompilerGateway.Gateway.Packages
import CompilerGateway.Package.FetchTable
import CompilerGateway.Package.Rounds

/-!
# Sources of packages

The two kinds of sources that packages are fetched from without a network: the directories of
a local file system, and a table that lays down what every fetch comes to. Reading a directory
takes no rounds.
-/

namespace CompilerGateway

/-- Where packages are fetched from. -/
inductive PackageSource where
  /-- Directories of a file system, taking the files with the given extensions. -/
  | directories (extensions : List String) (fs : FileSystem)
  /-- A table of fetches. -/
  | planned (table : FetchTable)

namespace PackageSource

/-- Fetches from the source. -/
def fetcher : PackageSource → Fetcher
  | .directories extensions fs => .ofFileSystem extensions fs
  | .planned table => .quiet table.fetch

/-- How many rounds a fetch takes. -/
def rounds : PackageSource → Descriptor → Nat
  | .directories _ _, _ => 0
  | .planned table, descriptor => table.rounds descriptor

/-- The order in which things happen when packages are loaded with room for so many fetches
at once, unless the caller gives up after a round. -/
def moves (source : PackageSource) (room : Nat) (requests : List (String × Descriptor))
    (givenUpAfter : Option Nat) : List Move :=
  Rounds.moves room
    ((Table.ofList requests).entries.map fun request => (request.1, source.rounds request.2))
    givenUpAfter

/-- What the source itself records of fetches. Directories record nothing. -/
def notes : PackageSource → List FetchEvent → List FetchTable.Note
  | .directories _ _, _ => []
  | .planned table, events => events.filterMap table.note?

end PackageSource

end CompilerGateway
