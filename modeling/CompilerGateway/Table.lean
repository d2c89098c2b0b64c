/-!
# Tables ordered by name

A **table** assigns a value to finitely many names. Its entries are kept in strictly
ascending order of the name – by code point, which for text in UTF-8 is the order of the
bytes – so two tables with the same entries are the same table, and walking a table visits
the names in the order in which everything that depends on it reports them: registered
packages, requested packages, the files of a package, the files of an in-memory backend.

* `Table.insert` – set one name, replacing what it had; `Table.find?_insert` says what that
  does to every look-up.
* `Table.erase` – forget one name; `Table.find?_erase`.
* `Table.ofList` – insert the pairs of a list in order, so the last pair of a name wins.

The look-ups determine the table: `Table.ext_find?`.
-/

namespace CompilerGateway

/-- Entries in strictly ascending order of their names, at most one for each name. -/
structure Table (α : Type) where
  /-- The entries, least name first. -/
  entries : List (String × α)
  /-- The names ascend strictly, so none occurs twice. -/
  sorted : entries.Pairwise (fun a b => a.1 < b.1)
  deriving DecidableEq

namespace Table

variable {α : Type}

/-! ### Entry lists -/

/-- Set a name in an ascending list of entries. -/
def insertEntry (name : String) (value : α) : List (String × α) → List (String × α)
  | [] => [(name, value)]
  | (other, held) :: rest =>
    if name < other then (name, value) :: (other, held) :: rest
    else if name = other then (name, value) :: rest
    else (other, held) :: insertEntry name value rest

/-- Forget a name in a list of entries. -/
def eraseEntry (name : String) (entries : List (String × α)) : List (String × α) :=
  entries.filter (fun entry => decide (entry.1 ≠ name))

/-- The value of the first entry with the name. -/
def findEntry (name : String) : List (String × α) → Option α
  | [] => none
  | (other, held) :: rest => if other = name then some held else findEntry name rest

theorem mem_insertEntry {name : String} {value : α} {entries : List (String × α)}
    {e : String × α} (h : e ∈ insertEntry name value entries) :
    e = (name, value) ∨ e ∈ entries := by
  induction entries with
  | nil => simpa [insertEntry] using h
  | cons head rest ih =>
    obtain ⟨other, held⟩ := head
    simp only [insertEntry] at h
    split at h
    · simpa using h
    · split at h
      · rcases List.mem_cons.1 h with h | h
        · exact .inl h
        · exact .inr (List.mem_cons_of_mem _ h)
      · rcases List.mem_cons.1 h with h | h
        · exact .inr (h ▸ List.mem_cons_self)
        · rcases ih h with h | h
          · exact .inl h
          · exact .inr (List.mem_cons_of_mem _ h)

theorem pairwise_insertEntry {name : String} {value : α} {entries : List (String × α)}
    (sorted : entries.Pairwise (fun a b => a.1 < b.1)) :
    (insertEntry name value entries).Pairwise (fun a b => a.1 < b.1) := by
  induction entries with
  | nil => simp [insertEntry]
  | cons head rest ih =>
    obtain ⟨other, held⟩ := head
    rw [List.pairwise_cons] at sorted
    simp only [insertEntry]
    split
    · rename_i below
      refine List.pairwise_cons.2 ⟨fun e he => ?_, List.pairwise_cons.2 sorted⟩
      rcases List.mem_cons.1 he with rfl | he
      · exact below
      · exact String.lt_trans below (sorted.1 e he)
    · split
      · rename_i same
        subst same
        exact List.pairwise_cons.2 ⟨sorted.1, sorted.2⟩
      · rename_i notBelow different
        have above : other < name := by
          rcases String.le_total name other with h | h
          · rcases Decidable.em (other < name) with h' | h'
            · exact h'
            · exact absurd (String.le_antisymm h (String.not_lt.1 notBelow)) different
          · rcases Decidable.em (other < name) with h' | h'
            · exact h'
            · exact absurd (String.le_antisymm (String.not_lt.1 h') h) different
        refine List.pairwise_cons.2 ⟨fun e he => ?_, ih sorted.2⟩
        rcases mem_insertEntry he with rfl | he
        · exact above
        · exact sorted.1 e he

theorem findEntry_insertEntry (name asked : String) (value : α) (entries : List (String × α)) :
    findEntry asked (insertEntry name value entries)
      = if name = asked then some value else findEntry asked entries := by
  induction entries with
  | nil => simp [insertEntry, findEntry]
  | cons head rest ih =>
    obtain ⟨other, held⟩ := head
    simp only [insertEntry]
    split
    · simp [findEntry]
    · split
      · rename_i same
        subst same
        by_cases h : name = asked <;> simp [findEntry, h]
      · rename_i different
        by_cases h : name = asked
        · subst h
          simp [findEntry, ih, Ne.symm different]
        · simp [findEntry, ih, h]

theorem findEntry_eraseEntry (name asked : String) (entries : List (String × α)) :
    findEntry asked (eraseEntry name entries)
      = if name = asked then none else findEntry asked entries := by
  induction entries with
  | nil => simp [eraseEntry, findEntry]
  | cons head rest ih =>
    obtain ⟨other, held⟩ := head
    by_cases gone : other = name
    · subst gone
      have : eraseEntry other ((other, held) :: rest) = eraseEntry other rest := by
        simp [eraseEntry]
      rw [this, ih]
      by_cases h : other = asked <;> simp [findEntry, h]
    · have : eraseEntry name ((other, held) :: rest) = (other, held) :: eraseEntry name rest := by
        simp [eraseEntry, gone]
      rw [this, findEntry, ih, findEntry]
      by_cases h : name = asked
      · subst h
        simp [gone]
      · simp [h]

theorem findEntry_eq_some_of_mem {entries : List (String × α)}
    (sorted : entries.Pairwise (fun a b => a.1 < b.1)) {e : String × α} (h : e ∈ entries) :
    findEntry e.1 entries = some e.2 := by
  induction entries with
  | nil => cases h
  | cons head rest ih =>
    obtain ⟨other, held⟩ := head
    rw [List.pairwise_cons] at sorted
    rcases List.mem_cons.1 h with rfl | h
    · simp [findEntry]
    · have : other ≠ e.1 := String.ne_of_lt (sorted.1 e h)
      simp [findEntry, this, ih sorted.2 h]

theorem mem_of_findEntry {entries : List (String × α)} {name : String} {value : α}
    (h : findEntry name entries = some value) : (name, value) ∈ entries := by
  induction entries with
  | nil => simp [findEntry] at h
  | cons head rest ih =>
    obtain ⟨other, held⟩ := head
    by_cases same : other = name
    · subst same
      simp only [findEntry, if_true, Option.some.injEq] at h
      simp [h]
    · simp only [findEntry, same, if_false] at h
      exact List.mem_cons_of_mem _ (ih h)

theorem exists_findEntry_of_mem {entries : List (String × α)} {name : String} {value : α}
    (h : (name, value) ∈ entries) : ∃ held, findEntry name entries = some held := by
  induction entries with
  | nil => cases h
  | cons head rest ih =>
    obtain ⟨other, held⟩ := head
    by_cases same : other = name
    · exact ⟨held, by simp [findEntry, same]⟩
    · obtain ⟨rfl, -⟩ | mem := by simpa using h
      · exact absurd rfl same
      · obtain ⟨held, found⟩ := ih mem
        exact ⟨held, by simp [findEntry, same, found]⟩

theorem findEntry_eq_none_of_lt {entries : List (String × α)} {name : String}
    (above : ∀ e ∈ entries, name < e.1) : findEntry name entries = none := by
  induction entries with
  | nil => rfl
  | cons head rest ih =>
    obtain ⟨other, held⟩ := head
    have : other ≠ name := (String.ne_of_lt (above _ List.mem_cons_self)).symm
    simp only [findEntry, this, if_false]
    exact ih fun e he => above e (List.mem_cons_of_mem _ he)

theorem eq_of_findEntry_eq {s t : List (String × α)}
    (hs : s.Pairwise (fun a b => a.1 < b.1)) (ht : t.Pairwise (fun a b => a.1 < b.1))
    (same : ∀ name, findEntry name s = findEntry name t) : s = t := by
  induction s generalizing t with
  | nil =>
    cases t with
    | nil => rfl
    | cons head rest => simpa [findEntry] using same head.1
  | cons a s ih =>
    cases t with
    | nil => simpa [findEntry] using same a.1
    | cons b t =>
      obtain ⟨aName, aValue⟩ := a
      obtain ⟨bName, bValue⟩ := b
      rw [List.pairwise_cons] at hs ht
      by_cases below : aName < bName
      · have absent : findEntry aName ((bName, bValue) :: t) = none :=
          findEntry_eq_none_of_lt fun e he => by
            rcases List.mem_cons.1 he with rfl | he
            · exact below
            · exact String.lt_trans below (ht.1 e he)
        have := same aName
        rw [absent] at this
        simp [findEntry] at this
      by_cases above : bName < aName
      · have absent : findEntry bName ((aName, aValue) :: s) = none :=
          findEntry_eq_none_of_lt fun e he => by
            rcases List.mem_cons.1 he with rfl | he
            · exact above
            · exact String.lt_trans above (hs.1 e he)
        have := same bName
        rw [absent] at this
        simp [findEntry] at this
      obtain rfl : aName = bName :=
        String.le_antisymm (String.not_lt.1 above) (String.not_lt.1 below)
      obtain rfl : aValue = bValue := by simpa [findEntry] using same aName
      refine congrArg _ (ih hs.2 ht.2 fun name => ?_)
      by_cases h : aName = name
      · subst h
        rw [findEntry_eq_none_of_lt fun e he => hs.1 e he,
          findEntry_eq_none_of_lt fun e he => ht.1 e he]
      · simpa [findEntry, h] using same name

/-! ### Tables -/

/-- The table without entries. -/
def empty : Table α := ⟨[], .nil⟩

instance : Inhabited (Table α) := ⟨empty⟩

/-- The value held for a name. -/
def find? (t : Table α) (name : String) : Option α := findEntry name t.entries

/-- Whether the name has an entry. -/
def contains (t : Table α) (name : String) : Bool := (t.find? name).isSome

/-- Set a name, replacing what it had. -/
def insert (t : Table α) (name : String) (value : α) : Table α :=
  ⟨insertEntry name value t.entries, pairwise_insertEntry t.sorted⟩

/-- Forget a name. -/
def erase (t : Table α) (name : String) : Table α :=
  ⟨eraseEntry name t.entries, t.sorted.filter _⟩

/-- Insert the pairs of a list in order: of several pairs with one name the last stays. -/
def ofList (pairs : List (String × α)) : Table α :=
  pairs.foldl (fun t p => t.insert p.1 p.2) empty

/-- The names, ascending. -/
def names (t : Table α) : List String := t.entries.map Prod.fst

/-- The values, in the order of their names. -/
def values (t : Table α) : List α := t.entries.map Prod.snd

/-- The number of names. -/
def size (t : Table α) : Nat := t.entries.length

/-- The same names with every value replaced. -/
def map {β : Type} (f : α → β) (t : Table α) : Table β :=
  ⟨t.entries.map (fun e => (e.1, f e.2)), by
    rw [List.pairwise_map]
    exact t.sorted⟩

/-- The names for which something is made of the value, with that. -/
def filterMap {β : Type} (f : String → α → Option β) (t : Table α) : Table β :=
  ⟨t.entries.filterMap (fun e => (f e.1 e.2).map fun made => (e.1, made)), by
    refine List.pairwise_filterMap.mpr (t.sorted.imp fun less made eq made' eq' => ?_)
    obtain ⟨_, -, rfl⟩ := Option.map_eq_some_iff.mp eq
    obtain ⟨_, -, rfl⟩ := Option.map_eq_some_iff.mp eq'
    exact less⟩

/-! ### What the operations do to look-ups -/

@[simp] theorem find?_empty (name : String) : (empty : Table α).find? name = none := rfl

@[simp] theorem find?_insert (t : Table α) (name asked : String) (value : α) :
    (t.insert name value).find? asked = if name = asked then some value else t.find? asked :=
  findEntry_insertEntry name asked value t.entries

@[simp] theorem find?_erase (t : Table α) (name asked : String) :
    (t.erase name).find? asked = if name = asked then none else t.find? asked :=
  findEntry_eraseEntry name asked t.entries

theorem mem_entries_iff {t : Table α} {name : String} {value : α} :
    (name, value) ∈ t.entries ↔ t.find? name = some value :=
  ⟨fun h => findEntry_eq_some_of_mem t.sorted h, mem_of_findEntry⟩

@[simp] theorem find?_map {β : Type} (f : α → β) (t : Table α) (name : String) :
    (t.map f).find? name = (t.find? name).map f := by
  refine Option.ext fun value => ?_
  rw [← mem_entries_iff, map, List.mem_map, Option.map_eq_some_iff]
  constructor
  · rintro ⟨⟨other, held⟩, mem, same⟩
    obtain ⟨rfl, rfl⟩ := Prod.mk.inj same
    exact ⟨held, mem_entries_iff.mp mem, rfl⟩
  · rintro ⟨held, found, rfl⟩
    exact ⟨(name, held), mem_entries_iff.mpr found, rfl⟩

@[simp] theorem find?_filterMap {β : Type} (f : String → α → Option β) (t : Table α)
    (name : String) : (t.filterMap f).find? name = (t.find? name).bind (f name) := by
  refine Option.ext fun made => ?_
  rw [← mem_entries_iff, filterMap, List.mem_filterMap, Option.bind_eq_some_iff]
  constructor
  · rintro ⟨⟨other, held⟩, mem, eq⟩
    obtain ⟨_, made_eq, same⟩ := Option.map_eq_some_iff.mp eq
    obtain ⟨rfl, rfl⟩ := Prod.mk.inj same
    exact ⟨held, mem_entries_iff.mp mem, made_eq⟩
  · rintro ⟨held, found, eq⟩
    exact ⟨(name, held), mem_entries_iff.mpr found, Option.map_eq_some_iff.mpr ⟨made, eq, rfl⟩⟩

@[ext] theorem ext {s t : Table α} (h : s.entries = t.entries) : s = t := by
  cases s
  cases t
  congr

/-- The look-ups determine the table. -/
theorem ext_find? {s t : Table α} (h : ∀ name, s.find? name = t.find? name) : s = t :=
  ext (eq_of_findEntry_eq s.sorted t.sorted h)

/-! ### Names -/

theorem mem_names_iff {t : Table α} {name : String} :
    name ∈ t.names ↔ ∃ value, t.find? name = some value := by
  constructor
  · intro mem
    obtain ⟨⟨other, value⟩, mem', rfl⟩ := List.mem_map.mp mem
    exact ⟨value, mem_entries_iff.mp mem'⟩
  · rintro ⟨value, found⟩
    exact List.mem_map_of_mem (mem_entries_iff.mpr found)

theorem mem_names_insert {t : Table α} {name other : String} {value : α} :
    other ∈ (t.insert name value).names ↔ other = name ∨ other ∈ t.names := by
  simp only [mem_names_iff, find?_insert]
  by_cases same : name = other
  · simp [same]
  · simp [same, eq_comm]

theorem mem_names_ofList {pairs : List (String × α)} {name : String} :
    name ∈ (ofList pairs).names ↔ name ∈ pairs.map Prod.fst := by
  have general : ∀ t : Table α, name ∈ (pairs.foldl (fun t p => t.insert p.1 p.2) t).names ↔
      name ∈ t.names ∨ name ∈ pairs.map Prod.fst := by
    induction pairs with
    | nil => simp
    | cons pair rest ih =>
      intro t
      rw [List.foldl_cons, ih, mem_names_insert, List.map_cons, List.mem_cons]
      grind
  simpa [ofList, empty, names] using general empty

/-! ### Inserting several pairs -/

/-- Of several pairs with one name the last counts. -/
theorem find?_foldl_insert (pairs : List (String × α)) (t : Table α) (name : String) :
    (pairs.foldl (fun t p => t.insert p.1 p.2) t).find? name =
      (pairs.reverse.lookup name).or (t.find? name) := by
  induction pairs generalizing t with
  | nil => rfl
  | cons pair rest ih =>
    rw [List.foldl_cons, ih, find?_insert, List.reverse_cons, List.lookup_append, Option.or_assoc]
    congr 1
    obtain ⟨other, value⟩ := pair
    by_cases same : other = name
    · simp [same]
    · have different : (name == other) = false := beq_eq_false_iff_ne.mpr (Ne.symm same)
      simp [List.lookup_cons, same, different]

/-- **What a table has that is made of pairs**: the last of each name. -/
theorem find?_ofList (pairs : List (String × α)) (name : String) :
    (ofList pairs).find? name = pairs.reverse.lookup name := by
  rw [ofList, find?_foldl_insert, find?_empty, Option.or_none]

theorem lookup_eq_some_iff {κ : Type} [BEq κ] [LawfulBEq κ] {pairs : List (κ × α)}
    (distinct : (pairs.map Prod.fst).Nodup) {name : κ} {value : α} :
    pairs.lookup name = some value ↔ (name, value) ∈ pairs := by
  rw [List.lookup_eq_some_iff]
  constructor
  · rintro ⟨before, after, rfl, -⟩
    exact List.mem_append_right _ List.mem_cons_self
  · intro mem
    obtain ⟨before, after, rfl⟩ := List.append_of_mem mem
    refine ⟨before, after, rfl, fun other mem' => bne_iff_ne.mpr fun same => ?_⟩
    rw [List.map_append, List.map_cons, List.nodup_append] at distinct
    exact distinct.2.2 other.1 (List.mem_map_of_mem mem') name List.mem_cons_self same.symm

theorem lookup_eq_none_iff {κ : Type} [BEq κ] [LawfulBEq κ] {pairs : List (κ × α)} {name : κ} :
    pairs.lookup name = none ↔ name ∉ pairs.map Prod.fst := by
  rw [List.lookup_eq_none_iff, List.mem_map, not_exists]
  simp only [bne_iff_ne, not_and]
  exact forall_congr' fun pair => imp_congr_right fun _ => ⟨fun h => Ne.symm h, fun h => Ne.symm h⟩

/-- Where no name comes twice, the order of the pairs does not matter. -/
theorem lookup_reverse_perm {pairs others : List (String × α)} (perm : others.Perm pairs)
    (distinct : (pairs.map Prod.fst).Nodup) (name : String) :
    others.reverse.lookup name = pairs.reverse.lookup name := by
  have distinct' : (pairs.reverse.map Prod.fst).Nodup :=
    ((List.reverse_perm pairs).map Prod.fst).nodup_iff.mpr distinct
  have distinct'' : (others.reverse.map Prod.fst).Nodup :=
    (((List.reverse_perm others).trans perm).map Prod.fst).nodup_iff.mpr distinct
  refine Option.ext fun value => ?_
  rw [lookup_eq_some_iff distinct', lookup_eq_some_iff distinct'', List.mem_reverse,
    List.mem_reverse, perm.mem_iff]

/-- A pair whose name comes again later does not matter. -/
theorem lookup_reverse_append {earlier pairs : List (String × α)}
    (again : ∀ name ∈ earlier.map Prod.fst, name ∈ pairs.map Prod.fst) (name : String) :
    (earlier ++ pairs).reverse.lookup name = pairs.reverse.lookup name := by
  rw [List.reverse_append, List.lookup_append]
  cases found : pairs.reverse.lookup name with
  | some value => rfl
  | none =>
    rw [lookup_eq_none_iff, List.map_reverse, List.mem_reverse] at found
    rw [Option.none_or, lookup_eq_none_iff, List.map_reverse, List.mem_reverse]
    exact fun mem => found (again name mem)

theorem nodup_names (t : Table α) : t.names.Nodup := by
  rw [names, List.Nodup, List.pairwise_map]
  exact t.sorted.imp String.ne_of_lt

/-- The entries of a table, with other values, as pairs to look up in. -/
theorem lookup_reverse_map_entries {β : Type} (t : Table α) (f : String × α → β) (name : String) :
    (t.entries.map fun e => (e.1, f e)).reverse.lookup name =
      (t.find? name).map fun value => f (name, value) := by
  have distinct : ((t.entries.map fun e => (e.1, f e)).reverse.map Prod.fst).Nodup := by
    refine ((List.reverse_perm _).map Prod.fst).nodup_iff.mpr ?_
    rw [List.map_map]
    exact t.nodup_names
  refine Option.ext fun value => ?_
  rw [lookup_eq_some_iff distinct, List.mem_reverse, List.mem_map, Option.map_eq_some_iff]
  constructor
  · rintro ⟨⟨other, held⟩, mem, same⟩
    obtain ⟨rfl, rfl⟩ := Prod.mk.inj same
    exact ⟨held, mem_entries_iff.mp mem, rfl⟩
  · rintro ⟨held, found, rfl⟩
    exact ⟨(name, held), mem_entries_iff.mpr found, rfl⟩

/-! ### The first entry with a property -/

/-- **What is found first** on the way through a table: of all that could be found, it stands
under the least name. -/
theorem findSome?_entries_eq_some_iff {β : Type} {t : Table α} {f : String × α → Option β}
    {found : β} :
    t.entries.findSome? f = some found ↔ ∃ name value, t.find? name = some value ∧
      f (name, value) = some found ∧
      ∀ other held, other < name → t.find? other = some held → f (other, held) = none := by
  have sorted := t.sorted
  rw [List.findSome?_eq_some_iff]
  constructor
  · rintro ⟨before, ⟨name, value⟩, after, entries_eq, holds, none⟩
    refine ⟨name, value, mem_entries_iff.mp (by simp [entries_eq]), holds, ?_⟩
    intro other held less found
    have mem := mem_entries_iff.mpr found
    rw [entries_eq] at mem sorted
    rcases List.mem_append.mp mem with mem | mem
    · exact none _ mem
    · have above := (List.pairwise_cons.mp (List.pairwise_append.mp sorted).2.1).1
      rcases List.mem_cons.mp mem with same | mem
      · obtain ⟨rfl, rfl⟩ := Prod.mk.inj same
        exact absurd less (String.lt_irrefl _)
      · exact absurd (String.lt_trans less (above _ mem)) (String.lt_irrefl _)
  · rintro ⟨name, value, found', holds, none⟩
    obtain ⟨before, after, entries_eq⟩ := List.append_of_mem (mem_entries_iff.mpr found')
    refine ⟨before, (name, value), after, entries_eq, holds, fun e mem => ?_⟩
    have less : e.1 < name := by
      rw [entries_eq] at sorted
      exact (List.pairwise_append.mp sorted).2.2 e mem _ List.mem_cons_self
    exact none e.1 e.2 less (mem_entries_iff.mp (by simp [entries_eq, mem]))

theorem findSome?_names_eq_some_iff {β : Type} {t : Table α} {f : String → Option β} {found : β} :
    t.names.findSome? f = some found ↔ ∃ name ∈ t.names, f name = some found ∧
      ∀ other ∈ t.names, other < name → f other = none := by
  rw [names, List.findSome?_map, findSome?_entries_eq_some_iff, ← names]
  simp only [mem_names_iff, Function.comp]
  constructor
  · rintro ⟨name, value, found, holds, none⟩
    exact ⟨name, ⟨value, found⟩, holds, fun other ⟨held, found⟩ less =>
      none other held less found⟩
  · rintro ⟨name, ⟨value, found⟩, holds, none⟩
    exact ⟨name, value, found, holds, fun other held less found => none other ⟨held, found⟩ less⟩

end Table

end CompilerGateway
