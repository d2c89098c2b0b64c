import CompilerGateway.Package.Window

/-!
# Fetching from a table

A source of packages that is known in advance: a table that gives, for the text form of a
descriptor, what a fetch comes to and how many rounds it takes. A descriptor that is not in
the table is not supported, which takes no time to find out.
-/

namespace CompilerGateway

/-- A fetch whose course is known in advance. -/
structure PlannedFetch where
  /-- How many rounds it takes. -/
  rounds : Nat
  /-- What it comes to. -/
  result : Except FetchError FetchedPackage

/-- Fetches by the text forms of their descriptors. -/
abbrev FetchTable := Table PlannedFetch

namespace FetchTable

/-- What a fetch comes to. -/
def fetch (table : FetchTable) (descriptor : Descriptor) : Except FetchError FetchedPackage :=
  match table.find? descriptor.render with
  | some planned => planned.result
  | none => .error (.unsupported descriptor.render)

/-- How many rounds a fetch takes. -/
def rounds (table : FetchTable) (descriptor : Descriptor) : Nat :=
  match table.find? descriptor.render with
  | some planned => planned.rounds
  | none => 0

/-- An entry of the table's own record of the fetches that it was asked for. -/
inductive Note where
  | start (key : String)
  | done (key : String)
  deriving DecidableEq

/-- What the table records of a fetch. Of a descriptor that it does not have, only the
beginning is recorded. -/
def note? (table : FetchTable) : FetchEvent → Option Note
  | .began descriptor => some (.start descriptor.render)
  | .ended descriptor =>
    if table.contains descriptor.render then some (.done descriptor.render) else none

end FetchTable

end CompilerGateway
