import CompilerGateway.Json.Printer
import CompilerGateway.Text.Quoted

/-!
# Decoding JSON values into typed data

A decoder takes a JSON value and gives the typed value it stands for or the reason why it
stands for none. `DecodeError` lists the reasons, `DecodeError.message` words them.

A record may be written as an object or as an array.

* In an **object** the fields are looked at in ascending order of their names, and the first
  value that does not fit is the error; only when all values fit, the first declared field
  without a value is reported as missing. Fields that the record does not have are ignored.
* In an **array** the items are the fields in the order of declaration. The first field
  without an item ends the decoding unless it has a default, and an item too many is an error
  after all fields have been read.

`RecordDecoder` describes a record once for both forms: it is built from
`RecordDecoder.required` and `RecordDecoder.defaulted` fields with `RecordDecoder.and`.
-/

namespace CompilerGateway

/-! ### Errors -/

/-- The integer types of the wire format. -/
inductive IntKind where
  | byte
  | word
  | signed
  | size
  deriving DecidableEq

namespace IntKind

/-- The least number of the type. -/
def least : IntKind → Int
  | .signed => -0x8000000000000000
  | _ => 0

/-- The first number above those of the type. -/
def beyond : IntKind → Int
  | .byte => 0x100
  | .word => 0x100000000
  | .signed => 0x8000000000000000
  | .size => 0x10000000000000000

/-- The name of the type in messages. -/
def label : IntKind → String
  | .byte => "u8"
  | .word => "u32"
  | .signed => "i64"
  | .size => "usize"

end IntKind

/-- What a decoder would have accepted. -/
inductive Expected where
  | text
  | sequence
  | map
  | integer (kind : IntKind)
  | record (name : String)
  | variant
  | nothing
  deriving DecidableEq

/-- How messages call what was expected. -/
def Expected.describe : Expected → String
  | .text => "a string"
  | .sequence => "a sequence"
  | .map => "a map"
  | .integer kind => kind.label
  | .record name => "struct " ++ name
  | .variant => "string or map"
  | .nothing => "unit"

/-- Why a JSON value does not stand for a value of the type asked for. -/
inductive DecodeError where
  /-- A value of another kind. -/
  | wrongKind (found : Json) (expected : Expected)
  /-- An integer that the type does not hold. -/
  | outOfRange (found : Int) (kind : IntKind)
  /-- An object without a field that has no default. -/
  | missingField (name : String)
  /-- An array that ends before the field at `position`. -/
  | tooShort (position : Nat) (record : String) (fields : Nat)
  /-- An array of `length` items, more than the record has fields. -/
  | tooLong (length : Nat)
  /-- A name that none of the variants has. -/
  | unknownVariant (found : String) (known : List String)
  /-- An object with other than one field where a variant was expected. -/
  | notSingleField
  /-- A value that none of several forms fits. -/
  | noForm (type : String)

namespace DecodeError

/-- How messages call a value that was found. -/
def describe : Json → String
  | .null => "null"
  | .bool value => "boolean `" ++ (if value then "true" else "false") ++ "`"
  | .int value => "integer `" ++ toString value ++ "`"
  | .float value => "floating point `" ++ Json.renderFloat value ++ "`"
  | .str value => "string " ++ Text.quote value
  | .arr _ => "sequence"
  | .obj _ => "map"

/-- The names that would have been accepted, as a phrase. -/
def alternatives : List String → String
  | [] => "there are no variants"
  | [only] => "expected `" ++ only ++ "`"
  | [one, other] => "expected `" ++ one ++ "` or `" ++ other ++ "`"
  | names => "expected one of " ++ ", ".intercalate (names.map fun n => "`" ++ n ++ "`")

/-- The wording of the error. -/
def message : DecodeError → String
  | .wrongKind found expected =>
    "invalid type: " ++ describe found ++ ", expected " ++ expected.describe
  | .outOfRange found kind =>
    "invalid value: integer `" ++ toString found ++ "`, expected " ++ kind.label
  | .missingField name => "missing field `" ++ name ++ "`"
  | .tooShort position record fields =>
    "invalid length " ++ toString position ++ ", expected struct " ++ record ++ " with "
      ++ toString fields ++ (if fields = 1 then " element" else " elements")
  | .tooLong length =>
    "invalid length " ++ toString length ++ ", expected fewer elements in array"
  | .unknownVariant found known =>
    "unknown variant `" ++ found ++ "`, " ++ alternatives known
  | .notSingleField => "invalid value: map, expected map with a single key"
  | .noForm type => "data did not match any variant of untagged enum " ++ type

end DecodeError

/-! ### Decoders of simple values -/

/-- A decoder for values of type `α`. -/
abbrev Decoder (α : Type) := Json → Except DecodeError α

namespace Decoder

variable {α : Type}

/-- Any value, as it is. -/
def any : Decoder Json := .ok

/-- A text. -/
def text : Decoder String
  | .str value => .ok value
  | found => .error (.wrongKind found .text)

/-- An integer of one of the types, as a mathematical integer. -/
def integer (kind : IntKind) : Decoder Int
  | .int value =>
    if kind.least ≤ value ∧ value < kind.beyond then .ok value else .error (.outOfRange value kind)
  | found => .error (.wrongKind found (.integer kind))

/-- An array of values that all fit `item`; the first that does not is the error. -/
def list (item : Decoder α) : Decoder (List α)
  | .arr items => items.mapM item
  | found => .error (.wrongKind found .sequence)

/-- `null`, or a value that fits `item`. -/
def nullable (item : Decoder α) : Decoder (Option α)
  | .null => .ok none
  | found => (item found).map some

/-- An object whose values all fit `item`. -/
def table (item : Decoder α) : Decoder (Table α)
  | .obj fields =>
    (fields.mapM fun field => (item field.2).map fun value => (field.1, value)).map Table.ofList
  | found => .error (.wrongKind found .map)

/-- One of several named values: its name as a text, or an object whose only field has the
name and the value `null`. -/
def variant (known : List (String × α)) : Decoder α
  | .str name =>
    match known.lookup name with
    | some value => .ok value
    | none => .error (.unknownVariant name (known.map Prod.fst))
  | .obj [(name, content)] =>
    match known.lookup name, content with
    | some value, .null => .ok value
    | some _, found => .error (.wrongKind found .nothing)
    | none, _ => .error (.unknownVariant name (known.map Prod.fst))
  | .obj _ => .error .notSingleField
  | found => .error (.wrongKind found .variant)

/-- The first of several forms that fits. -/
def firstOf (type : String) (forms : List (Decoder α)) : Decoder α := fun found =>
  match forms.findSome? (fun form => (form found).toOption) with
  | some value => .ok value
  | none => .error (.noForm type)

end Decoder

/-! ### Decoders of records -/

/-- What the values of some fields of an object came to: the value they make, the least-named
field whose value does not fit, or the first declared field that is missing. -/
inductive Reading (α : Type) where
  | value (value : α)
  | fault (name : String) (error : DecodeError)
  | absent (name : String)

namespace Reading

variable {α β : Type}

/-- Two readings together. A value that does not fit outweighs a missing field; of two such
values the lesser-named counts, of two missing fields the first. -/
def apply : Reading (α → β) → Reading α → Reading β
  | .value f, .value a => .value (f a)
  | .fault name error, .fault other later =>
    if other < name then .fault other later else .fault name error
  | .fault name error, _ => .fault name error
  | _, .fault name error => .fault name error
  | .absent name, _ => .absent name
  | .value _, .absent name => .absent name

/-- The result of reading all fields. -/
def result : Reading α → Except DecodeError α
  | .value a => .ok a
  | .fault _ error => .error error
  | .absent name => .error (.missingField name)

end Reading

/-- How the fields of a record are read, from an object and from an array. -/
structure RecordDecoder (α : Type) where
  /-- The number of fields. -/
  size : Nat
  /-- Reads the fields, given a look-up of names. -/
  fromFields : (String → Option Json) → Reading α
  /-- Reads the fields off the front of a list of items. The field at `position` is the next
  one; `short` words the error of there being no item for a field. -/
  fromItems : (short : Nat → DecodeError) → (position : Nat) → List Json →
    Except DecodeError (α × List Json)

namespace RecordDecoder

variable {α β : Type}

/-- The record without fields. -/
def pure (a : α) : RecordDecoder α where
  size := 0
  fromFields _ := .value a
  fromItems _ _ items := .ok (a, items)

/-- One field that has to be there. -/
def required (name : String) (decode : Decoder α) : RecordDecoder α where
  size := 1
  fromFields lookup :=
    match lookup name with
    | none => .absent name
    | some found =>
      match decode found with
      | .ok a => .value a
      | .error error => .fault name error
  fromItems short position
    | [] => .error (short position)
    | found :: rest => (decode found).map fun a => (a, rest)

/-- One field that may be left out. -/
def defaulted (name : String) (default : α) (decode : Decoder α) : RecordDecoder α where
  size := 1
  fromFields lookup :=
    match lookup name with
    | none => .value default
    | some found =>
      match decode found with
      | .ok a => .value a
      | .error error => .fault name error
  fromItems _ _
    | [] => .ok (default, [])
    | found :: rest => (decode found).map fun a => (a, rest)

/-- The fields of one record followed by those of another. -/
def and (first : RecordDecoder (α → β)) (second : RecordDecoder α) : RecordDecoder β where
  size := first.size + second.size
  fromFields lookup := (first.fromFields lookup).apply (second.fromFields lookup)
  fromItems short position items :=
    match first.fromItems short position items with
    | .error error => .error error
    | .ok (f, rest) =>
      (second.fromItems short (position + first.size) rest).map fun (a, rest) => (f a, rest)

/-- The record in an object; anything else is not a form of it. -/
def decodeObject (name : String) (record : RecordDecoder α) : Decoder α
  | .obj fields => (record.fromFields fun field => Table.findEntry field fields).result
  | found => .error (.wrongKind found (.record name))

/-- The record in an object or in an array. -/
def decode (name : String) (record : RecordDecoder α) : Decoder α
  | .arr items =>
    match record.fromItems (fun position => .tooShort position name record.size) 0 items with
    | .ok (a, []) => .ok a
    | .ok (_, _ :: _) => .error (.tooLong items.length)
    | .error error => .error error
  | found => record.decodeObject name found

end RecordDecoder

/-! ### Integers of fixed width -/

namespace Decoder

/-- An unsigned integer of eight bits. -/
def byte : Decoder UInt8 := fun found =>
  (integer .byte found).map fun n => UInt8.ofNat n.toNat

/-- An unsigned integer of thirty-two bits. -/
def word : Decoder UInt32 := fun found =>
  (integer .word found).map fun n => UInt32.ofNat n.toNat

/-- A signed integer of sixty-four bits. -/
def signed : Decoder Int64 := fun found => (integer .signed found).map Int64.ofInt

/-- A size: an unsigned integer of sixty-four bits. -/
def size : Decoder UInt64 := fun found =>
  (integer .size found).map fun n => UInt64.ofNat n.toNat

end Decoder

namespace Json

/-- A natural number as a value. -/
def ofNat (n : Nat) : Json := .int n

end Json

end CompilerGateway
