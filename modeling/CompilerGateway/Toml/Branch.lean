import CompilerGateway.Json

/-!
# The tables of a TOML document under construction

A document builds its tables piece by piece: a key with points makes tables on its way, a
heading opens one, and a doubled heading adds one to a series. What may still be added to a
table depends on how it came to be, so a table remembers its `Origin`.

* A table that a heading opened is not opened again, nor reached into by a key with points.
* A table that a key with points made is only added to by such keys, though tables may be
  opened below it.
* A table that a heading merely passed through may still be opened, once.
* Values stand as they are; an inline table and a list between brackets are values.
* Of a series it is always the last table that is meant.

`Branch.settle` gives the value that came of it all.
-/

namespace CompilerGateway

namespace Toml

/-- How a table came to be. -/
inductive Origin where
  /-- A heading passed through it. -/
  | passed
  /-- A key with points made it. -/
  | dotted
  /-- A heading opened it. -/
  | opened
  deriving DecidableEq

/-- What a name of a table under construction stands for. -/
inductive Branch where
  /-- A value that is complete. -/
  | value (value : Json)
  /-- A table. -/
  | table (origin : Origin) (entries : List (String × Branch))
  /-- A series of tables: those before the last one, newest first, and the last one. -/
  | series (earlier : List Json) (entries : List (String × Branch))

/-- The entries of a table under construction, in ascending order of their names. -/
abbrev Entries := List (String × Branch)

/-! ### What came of it -/

mutual

/-- The value of a branch. -/
def Branch.settle : Branch → Json
  | .value value => value
  | .table _ entries => .obj (settleEntries entries)
  | .series earlier entries => .arr (earlier.reverse ++ [.obj (settleEntries entries)])

/-- The values of entries by their names. -/
def settleEntries : List (String × Branch) → List (String × Json)
  | [] => []
  | (name, branch) :: rest => (name, branch.settle) :: settleEntries rest

end

/-! ### Building -/

/-- Changes the table at the end of a path, which `change` may refuse. Tables that are missing
on the way are made; the way does not lead through values, and a key with points does not lead
through a table that a heading opened. -/
def reach? (dotted : Bool) (change : Origin → Entries → Option Entries) :
    List String → Origin → Entries → Option Entries
  | [], origin, entries => change origin entries
  | name :: path, _, entries =>
    let changed? : Option Branch := match Table.findEntry name entries with
      | none =>
        let origin : Origin := if dotted then .dotted else .passed
        (reach? dotted change path origin []).map (.table origin)
      | some (.value _) => none
      | some (.table origin held) =>
        if dotted && origin == .opened then none
        else (reach? dotted change path origin held).map (.table origin)
      | some (.series earlier held) =>
        (reach? dotted change path .opened held).map (.series earlier)
    changed?.map fun branch => Table.insertEntry name branch entries

/-- Sets the last name of a key to a value. Below the table that the key starts from, only
tables that keys with points made are added to. -/
def assign? (key : List String) (value : Json) (entries : Entries) : Option Entries :=
  match key.getLast? with
  | none => none
  | some name =>
    reach? true (fun origin held =>
      if (1 < key.length ∧ origin ≠ .dotted) ∨ (Table.findEntry name held).isSome then none
      else some (Table.insertEntry name (.value value) held)) key.dropLast .opened entries

/-- A name by itself is set where it does not stand for anything yet. -/
theorem assign?_singleton (name : String) (value : Json) (entries : Entries) :
    assign? [name] value entries
      = if (Table.findEntry name entries).isSome then none
        else some (Table.insertEntry name (.value value) entries) := by
  simp [assign?, reach?]

/-- A name that has been set by itself stands for its value. -/
theorem findEntry_of_assign? {name : String} {value : Json} {entries changed : Entries}
    (h : assign? [name] value entries = some changed) :
    Table.findEntry name changed = some (.value value) := by
  rw [assign?_singleton] at h
  split at h
  · cases h
  · injection h with h
    subst h
    rw [Table.findEntry_insertEntry, if_pos rfl]

/-- Sets a key in the table that the latest heading named. -/
def assignBelow? (heading key : List String) (value : Json) (root : Entries) : Option Entries :=
  reach? false (fun _ held => assign? key value held) heading .opened root

/-- Opens the table of a heading. -/
def open? (heading : List String) (root : Entries) : Option Entries :=
  match heading.getLast? with
  | none => none
  | some name =>
    reach? false (fun _ held =>
      match Table.findEntry name held with
      | none => some (Table.insertEntry name (.table .opened []) held)
      | some (.table .passed below) =>
        some (Table.insertEntry name (.table .opened below) held)
      | some _ => none) heading.dropLast .opened root

/-- Adds a table to the series of a doubled heading. -/
def extend? (heading : List String) (root : Entries) : Option Entries :=
  match heading.getLast? with
  | none => none
  | some name =>
    reach? false (fun _ held =>
      match Table.findEntry name held with
      | none => some (Table.insertEntry name (.series [] []) held)
      | some (.series earlier last) =>
        some (Table.insertEntry name (.series (.obj (settleEntries last) :: earlier) []) held)
      | some _ => none) heading.dropLast .opened root

end Toml

end CompilerGateway
