import CompilerGateway.Binary64
import CompilerGateway.Table

/-!
# JSON values

The data that passes between the gateway and a compiler backend without being looked into,
and the form in which the typed data of both is written down.

Integers and floating-point numbers are **told apart**: a number written with a point or an
exponent is a `Json.float` whatever its value, and no decoder accepts it for an integer.

An object is the list of its fields. Objects that this library builds or reads have their
fields in ascending order of the name, each name once: `Json.object` puts any list of fields
into that form, the last of several fields with one name winning.
-/

namespace CompilerGateway

/-- A JSON value. -/
inductive Json where
  | null
  | bool (value : Bool)
  | int (value : Int)
  | float (value : Binary64)
  | str (value : String)
  | arr (items : List Json)
  | obj (fields : List (String × Json))

namespace Json

instance : Inhabited Json := ⟨.null⟩

/-- The object with the given fields, put into ascending order. -/
def object (fields : List (String × Json)) : Json := .obj (Table.ofList fields).entries

/-- The object that lists a table. -/
def ofTable (t : Table Json) : Json := .obj t.entries

/-- An array of texts. -/
def texts (items : List String) : Json := .arr (items.map .str)

/-- An array of pairs of texts. -/
def textPairs (items : List (String × String)) : Json :=
  .arr (items.map fun p => .arr [.str p.1, .str p.2])

/-- A value, or `null` where there is none. -/
def optional {α : Type} (encode : α → Json) : Option α → Json
  | none => .null
  | some a => encode a

/-- The value of an object's field; what is no object has none. -/
def field? (name : String) : Json → Option Json
  | .obj fields => Table.findEntry name fields
  | _ => none

@[simp] theorem field?_obj (name : String) (fields : List (String × Json)) :
    field? name (.obj fields) = Table.findEntry name fields := rfl

/-- Whether the value counts as present where a compiler reports "no code": everything
except `null`, `false`, the zeros and the empty text. -/
def isPresent : Json → Bool
  | .null => false
  | .bool value => value
  | .int value => value != 0
  | .float value => !value.isZero
  | .str value => value != ""
  | .arr _ => true
  | .obj _ => true

end Json

end CompilerGateway
