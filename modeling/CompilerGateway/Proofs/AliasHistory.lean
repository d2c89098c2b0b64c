import Mathlib.Data.Finset.Card
import CompilerGateway.Proofs.EntryRanking

/-!
# What a table of aliases remembers

A table of aliases is made by insertions, one after the other. What it is afterwards can be said
without it: a name has the alias that it was given last (`CompilerGateway.AliasTable.LastGiven`),
and the names stand in the order in which they were first inserted
(`CompilerGateway.AliasTable.pairwise_names_ofList`).

Two facts carry all of this. `CompilerGateway.AliasTable.names_insert` says what an insertion does
to the names, `CompilerGateway.AliasTable.get?_insert` what it does to the aliases; and a table is
known by the two together (`CompilerGateway.AliasTable.ext_get?`). So equal tables are shown to be
equal by looking at them, without going through their pairs.

A backend gets the pairs as they are. No name occurs twice, so to a backend that lets earlier
pairs win (`CompilerGateway.AliasTable.EarlierWins`) a name means what the table has for it.
-/

namespace CompilerGateway

/-! ### Pairs of names and aliases -/

theorem lookup_cons_pair (name value asked : String) (rest : List (String × String)) :
    ((name, value) :: rest).lookup asked =
      if asked = name then some value else rest.lookup asked := by
  by_cases same : asked = name
  · simp [same]
  · have different : (asked == name) = false := beq_eq_false_iff_ne.mpr same
    simp [List.lookup_cons, same, different]

theorem lookup_insertAlias (name value asked : String) (pairs : List (String × String)) :
    (insertAlias name value pairs).lookup asked =
      if asked = name then some value else pairs.lookup asked := by
  induction pairs with
  | nil => exact lookup_cons_pair name value asked []
  | cons pair rest ih =>
    obtain ⟨other, held⟩ := pair
    rw [insertAlias]
    split
    · rename_i here
      subst here
      rw [lookup_cons_pair, lookup_cons_pair]
      split <;> rfl
    · rename_i elsewhere
      rw [lookup_cons_pair, lookup_cons_pair, ih]
      split
      · rename_i same
        rw [if_neg fun same' => elsewhere (same.symm.trans same')]
      · rfl

/-- A name that is not there yet is put at the end. -/
theorem insertAlias_of_not_mem {name value : String} {pairs : List (String × String)}
    (absent : name ∉ pairs.map Prod.fst) :
    insertAlias name value pairs = pairs ++ [(name, value)] := by
  induction pairs with
  | nil => rfl
  | cons pair rest ih =>
    obtain ⟨other, held⟩ := pair
    rw [List.map_cons, List.mem_cons, not_or] at absent
    rw [insertAlias, if_neg (Ne.symm absent.1), ih absent.2, List.cons_append]

namespace AliasTable

/-! ### Names and aliases of a table -/

/-- The names of a table in their order. -/
def names (t : AliasTable) : List String := t.pairs.map Prod.fst

variable {t s : AliasTable} {name other value value' : String}

theorem mem_pairs_iff : (name, value) ∈ t.pairs ↔ t.get? name = some value :=
  (Table.lookup_eq_some_iff t.distinct).symm

theorem get?_eq_none_iff : t.get? name = none ↔ name ∉ t.names :=
  Table.lookup_eq_none_iff

theorem get?_insert (t : AliasTable) (name value asked : String) :
    (t.insert name value).get? asked = if asked = name then some value else t.get? asked :=
  lookup_insertAlias name value asked t.pairs

theorem names_insert (t : AliasTable) (name value : String) :
    (t.insert name value).names = if name ∈ t.names then t.names else t.names ++ [name] :=
  map_fst_insertAlias name value t.pairs

theorem names_insert_of_mem (present : name ∈ t.names) :
    (t.insert name value).names = t.names := by
  rw [names_insert, if_pos present]

theorem mem_names_insert_iff :
    other ∈ (t.insert name value).names ↔ other = name ∨ other ∈ t.names := by
  rw [names_insert]
  split
  · rename_i present
    exact ⟨.inr, fun mem => mem.elim (fun same => same ▸ present) id⟩
  · rw [List.mem_append, List.mem_singleton, or_comm]

theorem ext_pairs (same : t.pairs = s.pairs) : t = s := by
  cases t
  cases s
  cases same
  rfl

/-- **A table is known** by its names in their order and by the alias of each. -/
theorem ext_get? (names : t.names = s.names) (aliases : ∀ name, t.get? name = s.get? name) :
    t = s := by
  have length_eq : t.pairs.length = s.pairs.length := by
    simpa [AliasTable.names] using congrArg List.length names
  refine ext_pairs (List.ext_getElem length_eq fun i inLeft inRight => ?_)
  have name_eq : (t.pairs[i]).1 = (s.pairs[i]).1 := by
    have := congrArg (fun l => l[i]?) names
    simpa [AliasTable.names, inLeft, inRight] using this
  have left : t.get? (t.pairs[i]).1 = some (t.pairs[i]).2 :=
    mem_pairs_iff.mp (List.getElem_mem inLeft)
  have right : s.get? (s.pairs[i]).1 = some (s.pairs[i]).2 :=
    mem_pairs_iff.mp (List.getElem_mem inRight)
  have alias_eq : some (t.pairs[i]).2 = some (s.pairs[i]).2 := by
    rw [← left, ← right, name_eq, aliases]
  exact Prod.ext name_eq (Option.some.inj alias_eq)

/-! ### Insertions that change nothing, and the order of two -/

/-- **To insert a pair that is there** changes nothing. -/
theorem insert_of_mem (present : (name, value) ∈ t.pairs) : t.insert name value = t := by
  refine ext_get? (names_insert_of_mem ?_) fun asked => ?_
  · exact List.mem_map.mpr ⟨(name, value), present, rfl⟩
  · rw [get?_insert]
    split
    · rename_i same
      rw [same, mem_pairs_iff.mp present]
    · rfl

/-- A name that has its place does not take part in the order. -/
theorem names_insert_comm (present : name ∈ t.names) :
    ((t.insert name value).insert other value').names =
      ((t.insert other value').insert name value).names := by
  have kept : name ∈ (t.insert other value').names := mem_names_insert_iff.mpr (.inr present)
  rw [names_insert_of_mem kept, names_insert, names_insert_of_mem present, names_insert]

/-- **Two insertions commute** just if one of the names has its place already. -/
theorem insert_comm_iff (apart : name ≠ other) :
    (t.insert name value).insert other value' = (t.insert other value').insert name value ↔
      name ∈ t.names ∨ other ∈ t.names := by
  constructor
  · intro same
    by_contra neither
    rw [not_or] at neither
    obtain ⟨absent, absent'⟩ := neither
    -- each of the names would come before the other
    have names := congrArg AliasTable.names same
    rw [names_insert, names_insert, names_insert, names_insert, if_neg absent, if_neg absent',
      if_neg, if_neg, List.append_assoc, List.append_assoc, List.append_cancel_left_eq] at names
    · exact apart (List.cons.inj names).1
    · simp [absent, apart]
    · simp [absent', apart.symm]
  · intro present
    refine ext_get? ?_ fun asked => ?_
    · rcases present with present | present
      · exact names_insert_comm present
      · exact (names_insert_comm present).symm
    · rw [get?_insert, get?_insert, get?_insert, get?_insert]
      split
      · rename_i same
        rw [if_neg fun same' => apart (same'.symm.trans same)]
      · rfl

/-! ### Whole histories -/

variable {inserts : List (String × String)}

theorem ofList_concat (inserts : List (String × String)) (name value : String) :
    ofList (inserts ++ [(name, value)]) = (ofList inserts).insert name value := by
  rw [ofList, insertAll, List.foldl_append]
  rfl

/-- **The alias that a name was given last.** -/
def LastGiven (inserts : List (String × String)) (name value : String) : Prop :=
  ∃ before after, inserts = before ++ (name, value) :: after ∧ name ∉ after.map Prod.fst

theorem get?_ofList (inserts : List (String × String)) (name : String) :
    (ofList inserts).get? name = inserts.reverse.lookup name := by
  induction inserts using List.reverseRecOn with
  | nil => rfl
  | append_singleton inserts last ih =>
    obtain ⟨other, value⟩ := last
    rw [ofList_concat, get?_insert, ih, List.reverse_append, List.reverse_singleton,
      List.singleton_append, lookup_cons_pair]

theorem get?_ofList_eq_some_iff :
    (ofList inserts).get? name = some value ↔ LastGiven inserts name value := by
  rw [get?_ofList, List.lookup_eq_some_iff]
  constructor
  · rintro ⟨after, before, reversed, later⟩
    refine ⟨before.reverse, after.reverse, ?_, ?_⟩
    · simpa using congrArg List.reverse reversed
    · rw [List.map_reverse, List.mem_reverse, List.mem_map]
      rintro ⟨pair, mem, same⟩
      simpa [same] using later pair mem
  · rintro ⟨before, after, rfl, later⟩
    refine ⟨after.reverse, before.reverse, by simp, fun pair mem => bne_iff_ne.mpr fun same => ?_⟩
    exact later (List.mem_map.mpr ⟨pair, List.mem_reverse.mp mem, same.symm⟩)

theorem mem_names_ofList_iff : name ∈ (ofList inserts).names ↔ name ∈ inserts.map Prod.fst := by
  rw [← not_iff_not, ← get?_eq_none_iff, get?_ofList, Table.lookup_eq_none_iff, List.map_reverse,
    List.mem_reverse]

/-- **Names stand in the order of their first insertion.** -/
theorem pairwise_names_ofList (inserts : List (String × String)) :
    (ofList inserts).names.Pairwise fun earlier later =>
      (inserts.map Prod.fst).idxOf earlier < (inserts.map Prod.fst).idxOf later := by
  induction inserts using List.reverseRecOn with
  | nil => exact .nil
  | append_singleton inserts last ih =>
    obtain ⟨name, value⟩ := last
    -- what was inserted before was first inserted where it was
    have kept : ∀ earlier ∈ (ofList inserts).names,
        ((inserts ++ [(name, value)]).map Prod.fst).idxOf earlier =
          (inserts.map Prod.fst).idxOf earlier := by
      intro earlier mem
      rw [List.map_append, List.idxOf_append_of_mem (mem_names_ofList_iff.mp mem)]
    have before : (ofList inserts).names.Pairwise fun earlier later =>
        ((inserts ++ [(name, value)]).map Prod.fst).idxOf earlier <
          ((inserts ++ [(name, value)]).map Prod.fst).idxOf later := by
      refine ih.imp_of_mem fun {earlier later} mem mem' lt => ?_
      rwa [kept earlier mem, kept later mem']
    rw [ofList_concat, names_insert]
    split
    · exact before
    · rename_i absent
      refine List.pairwise_append.mpr ⟨before, List.pairwise_singleton _ _, ?_⟩
      intro earlier mem later mem'
      rw [List.mem_singleton.mp mem', kept earlier mem, List.map_append,
        List.idxOf_append_of_notMem (mt mem_names_ofList_iff.mpr absent)]
      exact Nat.lt_add_right _ (List.idxOf_lt_length_of_mem (mem_names_ofList_iff.mp mem))

/-- **There are as many names as were inserted**, each counted once. -/
theorem size_ofList (inserts : List (String × String)) :
    (ofList inserts).size = (inserts.map Prod.fst).toFinset.card := by
  have members : (inserts.map Prod.fst).toFinset = (ofList inserts).names.toFinset := by
    ext name
    rw [List.mem_toFinset, List.mem_toFinset, mem_names_ofList_iff]
  have distinct : (ofList inserts).names.Nodup := (ofList inserts).distinct
  rw [members, List.toFinset_card_of_nodup distinct, names, List.length_map, size]

/-- Pairs with other names than there are follow those that are there. -/
theorem pairs_insertAll {pairs : List (String × String)} (distinct : (pairs.map Prod.fst).Nodup)
    (apart : ∀ name ∈ pairs.map Prod.fst, name ∉ t.names) :
    (t.insertAll pairs).pairs = t.pairs ++ pairs := by
  induction pairs generalizing t with
  | nil => simp [insertAll]
  | cons pair rest ih =>
    obtain ⟨name, value⟩ := pair
    rw [List.map_cons] at distinct apart
    obtain ⟨absent, distinct⟩ := List.nodup_cons.mp distinct
    obtain ⟨apart, others⟩ := List.forall_mem_cons.mp apart
    have first : (t.insert name value).pairs = t.pairs ++ [(name, value)] :=
      insertAlias_of_not_mem apart
    have rest_eq : ((t.insert name value).insertAll rest).pairs =
        (t.insert name value).pairs ++ rest := by
      refine ih distinct fun other mem mem' => ?_
      rcases mem_names_insert_iff.mp mem' with rfl | mem'
      · exact absent mem
      · exact others other mem mem'
    calc (t.insertAll ((name, value) :: rest)).pairs
        = ((t.insert name value).insertAll rest).pairs := rfl
      _ = t.pairs ++ [(name, value)] ++ rest := by rw [rest_eq, first]
      _ = t.pairs ++ (name, value) :: rest := by simp

/-- **A table is made again** of its pairs. -/
theorem ofList_pairs (t : AliasTable) : ofList t.pairs = t :=
  ext_pairs (pairs_insertAll t.distinct (by simp [names, empty]))

/-! ### What a backend makes of the pairs -/

/-- **Earlier pairs win**: a name means what the first pair with it says. -/
structure EarlierWins (meaning : List (String × String) → String → Option String) : Prop where
  /-- What the first pair of a name says is what it means. -/
  first (before after : List (String × String)) (name value : String) :
    name ∉ before.map Prod.fst → meaning (before ++ (name, value) :: after) name = some value
  /-- A name without a pair means nothing. -/
  absent (pairs : List (String × String)) (name : String) :
    name ∉ pairs.map Prod.fst → meaning pairs name = none

theorem EarlierWins.meaning_pairs {meaning : List (String × String) → String → Option String}
    (earlier : EarlierWins meaning) (t : AliasTable) (name : String) :
    meaning t.pairs name = t.get? name := by
  cases found : t.get? name with
  | none => exact earlier.absent _ _ (get?_eq_none_iff.mp found)
  | some value =>
    rw [get?, List.lookup_eq_some_iff] at found
    obtain ⟨before, after, split, earlierNames⟩ := found
    rw [split]
    refine earlier.first before after name value fun mem => ?_
    obtain ⟨pair, mem, same⟩ := List.mem_map.mp mem
    simpa [same] using earlierNames pair mem

/-- **A backend is handed the pairs** as they are. -/
theorem exchanges_setAliases {σ : Type} [Backend σ] (g : Gateway (Recorded σ)) (t : AliasTable) :
    ∃ calls, (g.setAliases t).2.exchanges = g.exchanges ++ calls ∧
      calls.map Exchange.request =
        if Backend.offers .setActorAliases g.backend then [.setActorAliases t.pairs] else [] := by
  refine ⟨_, (g.leads_setAliases t).exchanges_eq, ?_⟩
  rw [Backend.attempts_cons, Backend.attempts_nil, List.flatMap_singleton,
    Backend.map_request_exchanges]
  rfl

/-! ### The law -/

/-- **What a table of aliases is after any insertions.** It is what inserting one pair after the
other comes to. No name occurs twice in it, the names stand in the order in which they were first
inserted, and each has the alias that it was given last; other names have none. It is made again
of its pairs, and stays as it is when one of them is inserted again; two insertions of different
names commute just if one of the names is there already. A backend that can be reached is handed
the pairs as they are, and nothing else, so that a name means to it what the table has for it, if
earlier pairs win. -/
theorem ofList_history (inserts : List (String × String)) :
    (ofList [] = empty ∧
      ∀ name value, ofList (inserts ++ [(name, value)]) = (ofList inserts).insert name value) ∧
    let t := ofList inserts
    let inserted := inserts.map Prod.fst
    t.names.Nodup ∧
    (t.names.Pairwise fun earlier later => inserted.idxOf earlier < inserted.idxOf later) ∧
    (∀ name value, (name, value) ∈ t.pairs ↔ LastGiven inserts name value) ∧
    (∀ name value, t.get? name = some value ↔ LastGiven inserts name value) ∧
    (∀ name, t.get? name = none ↔ name ∉ inserted) ∧
    t.size = inserted.toFinset.card ∧
    ofList t.pairs = t ∧
    (∀ name value, (name, value) ∈ t.pairs → t.insert name value = t) ∧
    (∀ name other value value', name ≠ other →
      ((t.insert name value).insert other value' = (t.insert other value').insert name value ↔
        name ∈ t.names ∨ other ∈ t.names)) ∧
    (∀ {σ : Type} [Backend σ] (g : Gateway (Recorded σ)), ∃ calls,
      (g.setAliases t).2.exchanges = g.exchanges ++ calls ∧
      calls.map Exchange.request =
        if Backend.offers .setActorAliases g.backend then [.setActorAliases t.pairs] else []) ∧
    ∀ meaning, EarlierWins meaning → ∀ name, meaning t.pairs name = t.get? name := by
  refine ⟨⟨rfl, ofList_concat inserts⟩, ?_⟩
  intro t inserted
  refine ⟨t.distinct, pairwise_names_ofList inserts,
    fun name value => mem_pairs_iff.trans get?_ofList_eq_some_iff,
    fun name value => get?_ofList_eq_some_iff, fun name => ?_, size_ofList inserts,
    ofList_pairs t, fun name value => insert_of_mem,
    fun name other value value' => insert_comm_iff, fun g => exchanges_setAliases g t,
    fun meaning earlier => earlier.meaning_pairs t⟩
  rw [get?_eq_none_iff, mem_names_ofList_iff]

/-- A name is given an alias twice, with another name in between. The first name keeps its place,
and a backend that takes the first pair with a name finds the second alias. -/
theorem ofList_history_twice :
    let inserts := [("ledger", "aaaaa-aa"), ("cmc", "rkp4c-7iaaa"), ("ledger", "bkyz2-fmaaa")]
    let t := ofList inserts
    let meaning := fun (pairs : List (String × String)) (name : String) =>
      (pairs.find? fun pair => pair.1 == name).map Prod.snd
    t.pairs = [("ledger", "bkyz2-fmaaa"), ("cmc", "rkp4c-7iaaa")] ∧
      LastGiven inserts "ledger" "bkyz2-fmaaa" ∧ t.get? "ledger" = some "bkyz2-fmaaa" ∧
      t.insert "ledger" "bkyz2-fmaaa" = t ∧
      (t.insert "cmc" "x").insert "icp" "y" = (t.insert "icp" "y").insert "cmc" "x" ∧
      EarlierWins meaning ∧ meaning t.pairs "ledger" = some "bkyz2-fmaaa" := by
  intro inserts t meaning
  obtain ⟨-, -, -, -, given, -, -, -, again, commute, -, means⟩ := ofList_history inserts
  have last : LastGiven inserts "ledger" "bkyz2-fmaaa" :=
    ⟨[("ledger", "aaaaa-aa"), ("cmc", "rkp4c-7iaaa")], [], rfl, by simp⟩
  have found : t.get? "ledger" = some "bkyz2-fmaaa" := (given _ _).mpr last
  have passed (pairs : List (String × String)) (name : String)
      (apart : name ∉ pairs.map Prod.fst) : pairs.find? (fun pair => pair.1 == name) = none := by
    refine List.find?_eq_none.mpr fun pair mem same => apart ?_
    exact List.mem_map.mpr ⟨pair, mem, beq_iff_eq.mp same⟩
  have earlier : EarlierWins meaning := by
    constructor
    · intro before after name value apart
      simp [meaning, List.find?_append, passed before name apart]
    · intro pairs name apart
      simp [meaning, passed pairs name apart]
  exact ⟨by decide +kernel, last, found, again _ _ (by decide +kernel),
    (commute "cmc" "icp" "x" "y" (by decide)).mpr (.inl (by decide +kernel)), earlier,
    (means meaning earlier "ledger").trans found⟩

end AliasTable

end CompilerGateway
