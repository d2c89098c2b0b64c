/-!
# Tables of actor aliases

Names with the aliases that they stand for, in the order in which the names were first
inserted. Inserting a name that is there already replaces its alias and leaves it in its
place, so no name occurs twice.
-/

namespace CompilerGateway

/-! ### Lists of aliases -/

/-- Give a name an alias, at its place or at the end. -/
def insertAlias (name value : String) : List (String × String) → List (String × String)
  | [] => [(name, value)]
  | (other, held) :: rest =>
    if other = name then (other, value) :: rest else (other, held) :: insertAlias name value rest

theorem map_fst_insertAlias (name value : String) (pairs : List (String × String)) :
    (insertAlias name value pairs).map Prod.fst
      = if name ∈ pairs.map Prod.fst then pairs.map Prod.fst
        else pairs.map Prod.fst ++ [name] := by
  induction pairs with
  | nil => simp [insertAlias]
  | cons head rest ih =>
    obtain ⟨other, held⟩ := head
    by_cases same : other = name
    · simp [insertAlias, same]
    · by_cases later : name ∈ rest.map Prod.fst
      · simp only [insertAlias, same, if_false, List.map_cons, ih, later, if_true]
        rw [if_pos (List.mem_cons_of_mem _ later)]
      · have absent : name ∉ other :: rest.map Prod.fst := by
          simp only [List.mem_cons, not_or]
          exact ⟨Ne.symm same, later⟩
        simp only [insertAlias, same, if_false, List.map_cons, ih, later, absent]
        rfl

/-! ### Tables -/

/-- Names with their aliases, each name once. -/
structure AliasTable where
  /-- The names and aliases, the name inserted first in front. -/
  pairs : List (String × String)
  /-- No name occurs twice. -/
  distinct : (pairs.map Prod.fst).Nodup
  deriving DecidableEq

namespace AliasTable

/-- The table without names. -/
def empty : AliasTable := ⟨[], .nil⟩

/-- Give a name an alias. -/
def insert (t : AliasTable) (name value : String) : AliasTable :=
  ⟨insertAlias name value t.pairs, by
    rw [map_fst_insertAlias]
    split
    · exact t.distinct
    · rename_i absent
      rw [List.nodup_append]
      refine ⟨t.distinct, by simp, ?_⟩
      intro a ha b hb same
      rw [List.mem_singleton] at hb
      exact absent (hb ▸ same ▸ ha)⟩

/-- The alias of a name. -/
def get? (t : AliasTable) (name : String) : Option String := t.pairs.lookup name

/-- The number of names. -/
def size (t : AliasTable) : Nat := t.pairs.length

/-- Whether there are no names. -/
def isEmpty (t : AliasTable) : Bool := t.pairs.isEmpty

/-- Insert pairs in their order. -/
def insertAll (t : AliasTable) (pairs : List (String × String)) : AliasTable :=
  pairs.foldl (fun t p => t.insert p.1 p.2) t

/-- The table that pairs make. -/
def ofList (pairs : List (String × String)) : AliasTable := empty.insertAll pairs

end AliasTable

end CompilerGateway
