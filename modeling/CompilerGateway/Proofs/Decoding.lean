import CompilerGateway.Wire.Decoding

/-!
# What decoders read, and what of it was written

A type survives the wire if each of its values is read back from what it is written as
(`CompilerGateway.Decoder.Restores`). This file has what is needed to show that of a type by way
of its parts, in the shape in which its decoder is put together.

* **Records** are read field by field. `CompilerGateway.RecordDecoder.Finds` says that the fields
  of an object make a value; it is built up with the same `pure` and `and` as the record is, so a
  proof about a record has its shape.
* **Forms without a tag** are told apart by their order (`CompilerGateway.Decoder.firstOf_of_ok`,
  `CompilerGateway.Decoder.firstOf_of_error`).
* **What can be read at all** goes through a record in the same way as what was written
  (`CompilerGateway.RecordDecoder.Ensures`), from an object and from an array alike.
-/

namespace CompilerGateway

/-! ### Fields of objects -/

namespace Table

variable {α : Type}

@[simp] theorem findEntry_nil (name : String) : findEntry name ([] : List (String × α)) = none :=
  rfl

@[simp] theorem findEntry_cons (name other : String) (value : α) (rest : List (String × α)) :
    findEntry name ((other, value) :: rest) =
      if other = name then some value else findEntry name rest := rfl

@[simp] theorem findEntry_append (name : String) (entries more : List (String × α)) :
    findEntry name (entries ++ more) = (findEntry name entries).or (findEntry name more) := by
  induction entries with
  | nil => rfl
  | cons entry rest ih =>
    obtain ⟨other, value⟩ := entry
    rw [List.cons_append, findEntry_cons, findEntry_cons, ih]
    by_cases same : other = name <;> simp [same]

@[simp] theorem findEntry_ite (name : String) (c : Prop) [Decidable c]
    (entries more : List (String × α)) :
    findEntry name (if c then entries else more) =
      if c then findEntry name entries else findEntry name more :=
  apply_ite (findEntry name) c entries more

/-- A field that is only there if there is something to write. -/
@[simp] theorem findEntry_map_toList {β : Type} (name other : String) (encode : β → α)
    (value : Option β) :
    findEntry name (value.toList.map fun b => (other, encode b)) =
      if other = name then value.map encode else none := by
  cases value <;> simp

/-- A table is made of its entries. -/
theorem ofList_entries (t : Table α) : ofList t.entries = t := by
  refine ext_find? fun name => ?_
  have pairs := t.lookup_reverse_map_entries Prod.snd name
  rw [List.map_id''] at pairs
  · rw [find?_ofList, pairs]
    simp
  · exact fun e => rfl

end Table

/-! ### Surviving the wire -/

namespace Decoder

variable {α : Type}

theorem integer_of_mem {kind : IntKind} {n : Int} (least : kind.least ≤ n)
    (below : n < kind.beyond) : integer kind (.int n) = .ok n := by
  rw [integer, if_pos ⟨least, below⟩]

theorem byte_ofNat (n : UInt8) : byte (.ofNat n.toNat) = .ok n := by
  rw [byte, Json.ofNat, integer_of_mem]
  · simp [Except.map]
  · exact Int.natCast_nonneg _
  · exact Int.ofNat_lt.mpr n.toNat_lt

theorem word_ofNat (n : UInt32) : word (.ofNat n.toNat) = .ok n := by
  rw [word, Json.ofNat, integer_of_mem]
  · simp [Except.map]
  · exact Int.natCast_nonneg _
  · exact Int.ofNat_lt.mpr n.toNat_lt

theorem size_ofNat (n : UInt64) : size (.ofNat n.toNat) = .ok n := by
  rw [size, Json.ofNat, integer_of_mem]
  · simp [Except.map]
  · exact Int.natCast_nonneg _
  · exact Int.ofNat_lt.mpr n.toNat_lt

theorem signed_int (n : Int64) : signed (.int n.toInt) = .ok n := by
  rw [signed, integer_of_mem n.le_toInt n.toInt_lt]
  simp [Except.map]

theorem list_map {item : Decoder α} {encode : α → Json} (back : ∀ a, item (encode a) = .ok a)
    (values : List α) : list item (.arr (values.map encode)) = .ok values := by
  rw [list]
  induction values with
  | nil => rfl
  | cons a rest ih =>
    rw [List.map_cons, List.mapM_cons, back, ih]
    rfl

theorem any_eq (value : Json) : any value = .ok value := rfl

theorem text_str (value : String) : text (.str value) = .ok value := rfl

theorem list_texts (values : List String) : list text (.texts values) = .ok values :=
  list_map text_str values

theorem table_map {item : Decoder α} {encode : α → Json} (back : ∀ a, item (encode a) = .ok a)
    (t : Table α) : table item (.ofTable (t.map encode)) = .ok t := by
  have entries : ∀ values : List (String × α),
      (values.map fun e => (e.1, encode e.2)).mapM
        (fun field => (item field.2).map fun value => (field.1, value)) = .ok values := by
    intro values
    induction values with
    | nil => rfl
    | cons e rest ih =>
      rw [List.map_cons, List.mapM_cons, back, ih]
      rfl
  rw [Json.ofTable, table, Table.map, entries, Except.map, Table.ofList_entries]

/-! ### Forms without a tag -/

variable {type : String} {form : Decoder α} {forms : List (Decoder α)} {found : Json}

/-- The first form that fits counts. -/
theorem firstOf_of_ok {a : α} (fits : form found = .ok a) :
    firstOf type (form :: forms) found = .ok a := by
  simp [firstOf, fits, Except.toOption]

/-- A form that does not fit is passed over. -/
theorem firstOf_of_error {error : DecodeError} (misfits : form found = .error error) :
    firstOf type (form :: forms) found = firstOf type forms found := by
  simp [firstOf, misfits, Except.toOption]

end Decoder

/-! ### Records -/

/-- Two readings together are a value only if both of them are. -/
theorem Reading.apply_eq_value_iff {α β : Type} {front : Reading (α → β)} {back : Reading α}
    {b : β} :
    front.apply back = .value b ↔ ∃ f a, front = .value f ∧ back = .value a ∧ f a = b := by
  cases front <;> cases back <;> simp [apply]
  split <;> simp

namespace RecordDecoder

variable {α β : Type}

theorem fromFields_and (first : RecordDecoder (α → β)) (second : RecordDecoder α)
    (lookup : String → Option Json) :
    (first.and second).fromFields lookup =
      (first.fromFields lookup).apply (second.fromFields lookup) := rfl

/-- Items that are read for two records in turn are read for each. -/
theorem exists_of_fromItems_and {first : RecordDecoder (α → β)} {second : RecordDecoder α}
    {short : Nat → DecodeError} {position : Nat} {items rest : List Json} {b : β}
    (read : (first.and second).fromItems short position items = .ok (b, rest)) :
    ∃ f left a, first.fromItems short position items = .ok (f, left) ∧
      second.fromItems short (position + first.size) left = .ok (a, rest) ∧ f a = b := by
  simp only [RecordDecoder.and] at read
  split at read
  · cases read
  · rename_i f left read₁
    cases read₂ : second.fromItems short (position + first.size) left with
    | error error =>
      rw [read₂] at read
      cases read
    | ok found =>
      obtain ⟨a, last⟩ := found
      rw [read₂] at read
      cases read
      exact ⟨f, left, a, read₁, read₂, rfl⟩

/-- **The fields of an object make a value.** -/
def Finds (record : RecordDecoder α) (fields : List (String × Json)) (a : α) : Prop :=
  (record.fromFields fun name => Table.findEntry name fields) = .value a

namespace Finds

variable {fields : List (String × Json)} {name : String}

theorem pure (a : α) : (RecordDecoder.pure a).Finds fields a := rfl

theorem and {first : RecordDecoder (α → β)} {second : RecordDecoder α} {f : α → β} {a : α}
    (front : first.Finds fields f) (back : second.Finds fields a) :
    (first.and second).Finds fields (f a) := by
  rw [Finds] at front back ⊢
  rw [fromFields_and, front, back]
  rfl

theorem required {decode : Decoder α} {found : Json} {a : α}
    (present : Table.findEntry name fields = some found) (decoded : decode found = .ok a) :
    (RecordDecoder.required name decode).Finds fields a := by
  simp only [Finds, RecordDecoder.required, present, decoded]

theorem defaulted {decode : Decoder α} {default : α} {found : Json} {a : α}
    (present : Table.findEntry name fields = some found) (decoded : decode found = .ok a) :
    (RecordDecoder.defaulted name default decode).Finds fields a := by
  simp only [Finds, RecordDecoder.defaulted, present, decoded]

theorem default {decode : Decoder α} (default : α)
    (absent : Table.findEntry name fields = none) :
    (RecordDecoder.defaulted name default decode).Finds fields default := by
  simp only [Finds, RecordDecoder.defaulted, absent]

/-- A field that is left out where there is nothing to write. What is written must not be taken
for nothing. -/
theorem nullable {decode : Decoder α} {encode : α → Json} {value : Option α}
    (present : Table.findEntry name fields = value.map encode)
    (back : ∀ a, decode (encode a) = .ok a) (something : ∀ a, encode a ≠ .null) :
    (RecordDecoder.defaulted name none (.nullable decode)).Finds fields value := by
  cases value with
  | none => exact default none present
  | some a =>
    refine defaulted present ?_
    rw [Decoder.nullable, back]
    · rfl
    · exact something a

theorem decodeObject {record : RecordDecoder α} {a : α} (finds : record.Finds fields a) :
    record.decodeObject name (.obj fields) = .ok a := by
  rw [Finds] at finds
  rw [RecordDecoder.decodeObject, finds]
  rfl

theorem decode {record : RecordDecoder α} {a : α} (finds : record.Finds fields a) :
    record.decode name (.obj fields) = .ok a := by
  change record.decodeObject name (.obj fields) = .ok a
  exact finds.decodeObject

end Finds

/-- **What is read from an object** is read from its fields. -/
theorem exists_of_decodeObject (record : RecordDecoder α) {name : String} {found : Json} {a : α}
    (decoded : record.decodeObject name found = .ok a) :
    ∃ fields, found = .obj fields ∧
      (record.fromFields fun field => Table.findEntry field fields) = .value a := by
  rw [RecordDecoder.decodeObject.eq_def] at decoded
  split at decoded
  · rename_i fields
    refine ⟨fields, rfl, ?_⟩
    cases read : record.fromFields fun field => Table.findEntry field fields with
    | value b =>
      rw [read] at decoded
      cases decoded
      rfl
    | fault name error =>
      rw [read] at decoded
      cases decoded
    | absent name =>
      rw [read] at decoded
      cases decoded
  · cases decoded

/-- **What is read** is read from the fields of an object, or from all items of an array. -/
theorem exists_of_decode (record : RecordDecoder α) {name : String} {found : Json} {a : α}
    (decoded : record.decode name found = .ok a) :
    (∃ fields, found = .obj fields ∧
      (record.fromFields fun field => Table.findEntry field fields) = .value a) ∨
    ∃ items, found = .arr items ∧
      record.fromItems (fun position => .tooShort position name record.size) 0 items =
        .ok (a, []) := by
  rw [RecordDecoder.decode.eq_def] at decoded
  split at decoded
  · rename_i items
    split at decoded
    · rename_i read
      cases decoded
      exact .inr ⟨items, rfl, read⟩
    · cases decoded
    · cases decoded
  · exact .inl (record.exists_of_decodeObject decoded)

/-- **Whatever a record is read as has a property**, be it read from an object or an array. -/
structure Ensures (record : RecordDecoder α) (P : α → Prop) : Prop where
  fromFields : ∀ lookup a, record.fromFields lookup = .value a → P a
  fromItems : ∀ short position items a rest,
    record.fromItems short position items = .ok (a, rest) → P a

namespace Ensures

theorem pure {P : α → Prop} {a : α} (holds : P a) : (RecordDecoder.pure a).Ensures P where
  fromFields lookup b read := by
    cases read
    exact holds
  fromItems short position items b rest read := by
    cases read
    exact holds

/-- The property of a record comes from properties of its parts. -/
theorem and {first : RecordDecoder (α → β)} {second : RecordDecoder α} {P : β → Prop}
    {Q : (α → β) → Prop} {R : α → Prop} (front : first.Ensures Q) (back : second.Ensures R)
    (together : ∀ f a, Q f → R a → P (f a)) : (first.and second).Ensures P where
  fromFields lookup b read := by
    rw [fromFields_and] at read
    obtain ⟨f, a, read₁, read₂, rfl⟩ := Reading.apply_eq_value_iff.mp read
    exact together f a (front.fromFields _ _ read₁) (back.fromFields _ _ read₂)
  fromItems short position items b rest read := by
    obtain ⟨f, left, a, read₁, read₂, rfl⟩ := exists_of_fromItems_and read
    exact together f a (front.fromItems _ _ _ _ _ read₁) (back.fromItems _ _ _ _ _ read₂)

theorem required {name : String} {decode : Decoder α} {P : α → Prop}
    (ensures : ∀ found a, decode found = .ok a → P a) :
    (RecordDecoder.required name decode).Ensures P where
  fromFields lookup a read := by
    simp only [RecordDecoder.required] at read
    split at read
    · cases read
    · split at read
      · rename_i decoded
        cases read
        exact ensures _ _ decoded
      · cases read
  fromItems short position items a rest read := by
    cases items with
    | nil => cases read
    | cons found left =>
      simp only [RecordDecoder.required] at read
      cases decoded : decode found with
      | error error =>
        rw [decoded] at read
        cases read
      | ok b =>
        rw [decoded] at read
        cases read
        exact ensures _ _ decoded

/-- A property that a field has no part in. -/
theorem free {first : RecordDecoder (α → β)} {second : RecordDecoder α} {P : β → Prop}
    (front : first.Ensures fun f => ∀ a, P (f a)) : (first.and second).Ensures P :=
  front.and ⟨fun _ _ _ => trivial, fun _ _ _ _ _ _ => trivial⟩ (R := fun _ => True)
    fun _ a holds _ => holds a

theorem decodeObject {record : RecordDecoder α} {P : α → Prop} (ensures : record.Ensures P)
    {name : String} {found : Json} {a : α} (decoded : record.decodeObject name found = .ok a) :
    P a := by
  obtain ⟨fields, -, read⟩ := record.exists_of_decodeObject decoded
  exact ensures.fromFields _ _ read

theorem decode {record : RecordDecoder α} {P : α → Prop} (ensures : record.Ensures P)
    {name : String} {found : Json} {a : α} (decoded : record.decode name found = .ok a) : P a := by
  rcases record.exists_of_decode decoded with ⟨fields, -, read⟩ | ⟨items, -, read⟩
  · exact ensures.fromFields _ _ read
  · exact ensures.fromItems _ _ _ _ _ read

end Ensures

end RecordDecoder

end CompilerGateway
