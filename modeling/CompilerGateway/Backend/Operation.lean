/-!
# Operations of a compiler backend

The sixteen things that a backend can be asked for, in a fixed order, with the names under
which backends export them and the kinds of arguments that they take. A name determines its
operation (`Operation.ofName?_name`, `Operation.eq_of_ofName?`).
-/

namespace CompilerGateway

/-! ### Kinds of arguments -/

/-- The kind of a positional argument. -/
inductive ArgumentKind where
  | text
  | list
  | object
  deriving DecidableEq

namespace ArgumentKind

/-- The name of the kind. -/
def name : ArgumentKind → String
  | .text => "string"
  | .list => "array"
  | .object => "object"

/-- The three kinds. -/
def all : List ArgumentKind := [.text, .list, .object]

end ArgumentKind

/-! ### Operations -/

/-- Something that a backend can be asked for. -/
inductive Operation where
  | readFile
  | saveFile
  | renameFile
  | removeFile
  | readDir
  | addPackage
  | clearPackage
  | setActorAliases
  | setPublicMetadata
  | check
  | run
  | compileWasm
  | candid
  | parseMotoko
  | parseMotokoTypes
  | parseCandid
  deriving DecidableEq

namespace Operation

/-- All operations in their order. -/
def all : List Operation :=
  [.readFile, .saveFile, .renameFile, .removeFile, .readDir, .addPackage, .clearPackage,
    .setActorAliases, .setPublicMetadata, .check, .run, .compileWasm, .candid, .parseMotoko,
    .parseMotokoTypes, .parseCandid]

/-- The name under which backends export the operation. -/
def name : Operation → String
  | .readFile => "readFile"
  | .saveFile => "saveFile"
  | .renameFile => "renameFile"
  | .removeFile => "removeFile"
  | .readDir => "readDir"
  | .addPackage => "addPackage"
  | .clearPackage => "clearPackage"
  | .setActorAliases => "setActorAliases"
  | .setPublicMetadata => "setPublicMetadata"
  | .check => "check"
  | .run => "run"
  | .compileWasm => "compileWasm"
  | .candid => "candid"
  | .parseMotoko => "parseMotoko"
  | .parseMotokoTypes => "parseMotokoTypes"
  | .parseCandid => "parseCandid"

/-- The operation of the given name, in exactly this spelling. -/
def ofName? (name : String) : Option Operation := all.find? (fun op => op.name == name)

/-- The place of the operation in the order. -/
def index (op : Operation) : Nat := all.idxOf op

/-- Operations in their order. -/
def compare (a b : Operation) : Ordering := Ord.compare a.index b.index

instance : Ord Operation := ⟨compare⟩

/-- The kinds of the positional arguments. -/
def argumentKinds : Operation → List ArgumentKind
  | .clearPackage => []
  | .saveFile | .renameFile | .addPackage | .compileWasm => [.text, .text]
  | .run => [.list, .text]
  | .setActorAliases => [.list]
  | _ => [.text]

theorem mem_all (op : Operation) : op ∈ all := by
  cases op <;> decide

theorem ofName?_name (op : Operation) : ofName? op.name = some op := by
  cases op <;> decide +kernel

theorem eq_of_ofName? {text : String} {op : Operation} (h : ofName? text = some op) :
    op.name = text := by
  simpa using List.find?_some h

end Operation

end CompilerGateway
