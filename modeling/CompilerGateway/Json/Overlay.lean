import CompilerGateway.Json

/-!
# JSON values laid over one another

Where an object is laid over an object, the fields of both remain, and a field that both have
is laid over in turn. Everything else replaces what it is laid over. `Json.overlayTable` is the
same for tables, and `Json.find?_overlayTable` says what it comes to for each name.
-/

namespace CompilerGateway

namespace Json

mutual

/-- A value laid over `lower`. -/
def overlay (lower : Json) : Json → Json
  | .obj fields =>
    match lower with
    | .obj held => .obj (overlayFields held fields)
    | _ => .obj fields
  | upper => upper

/-- Fields laid over those that are held. -/
def overlayFields (held : List (String × Json)) : List (String × Json) → List (String × Json)
  | [] => held
  | (name, value) :: rest =>
    let merged := match Table.findEntry name held with
      | none => value
      | some lower => overlay lower value
    overlayFields (Table.insertEntry name merged held) rest

end

/-- What a field amounts to that the lower and the upper object may have. -/
def overlayField? : Option Json → Option Json → Option Json
  | lower, none => lower
  | none, some value => some value
  | some lower, some value => some (overlay lower value)

/-- Each field of the upper fields is laid over the one of the same name. -/
theorem findEntry_overlayFields (name : String) :
    ∀ (held fields : List (String × Json)), fields.Pairwise (fun a b => a.1 < b.1) →
      Table.findEntry name (overlayFields held fields)
        = overlayField? (Table.findEntry name held) (Table.findEntry name fields)
  | held, [], _ => by simp [overlayFields, Table.findEntry, overlayField?]
  | held, (other, value) :: rest, sorted => by
    rw [List.pairwise_cons] at sorted
    rw [overlayFields, findEntry_overlayFields name _ rest sorted.2, Table.findEntry_insertEntry]
    by_cases same : other = name
    · subst same
      rw [Table.findEntry_eq_none_of_lt sorted.1]
      cases Table.findEntry other held <;> simp [Table.findEntry, overlayField?]
    · simp [Table.findEntry, same]

/-- Fields laid over ascending fields ascend. -/
theorem pairwise_overlayFields :
    ∀ (held fields : List (String × Json)), held.Pairwise (fun a b => a.1 < b.1) →
      (overlayFields held fields).Pairwise (fun a b => a.1 < b.1)
  | _, [], sorted => by simpa [overlayFields] using sorted
  | _, (_, _) :: rest, sorted => by
    rw [overlayFields]
    exact pairwise_overlayFields _ rest (Table.pairwise_insertEntry sorted)

/-- A table laid over a table. -/
def overlayTable (lower upper : Table Json) : Table Json :=
  ⟨overlayFields lower.entries upper.entries, pairwise_overlayFields _ _ lower.sorted⟩

/-- A table without entries changes nothing. -/
@[simp] theorem overlayTable_empty (lower : Table Json) : overlayTable lower .empty = lower :=
  Table.ext rfl

/-- What the entries of a table laid over a table are. -/
theorem find?_overlayTable (lower upper : Table Json) (name : String) :
    (overlayTable lower upper).find? name = overlayField? (lower.find? name) (upper.find? name) :=
  findEntry_overlayFields name _ _ upper.sorted

/-- Laying tables over one another is laying the objects that list them over one another. -/
theorem overlay_ofTable (lower upper : Table Json) :
    overlay (.ofTable lower) (.ofTable upper) = .ofTable (overlayTable lower upper) := by
  simp [ofTable, overlay, overlayTable]

end Json

end CompilerGateway
