import CompilerGateway.Json

/-!
# What a compiler produces

The target that a module is compiled for, the module itself, a syntax tree with its type, and
what came of running a program. Syntax trees and types are JSON values that nothing here
looks into.
-/

namespace CompilerGateway

/-- The system interface that a WebAssembly module is compiled against. -/
inductive WasmMode where
  | ic
  | wasi
  deriving DecidableEq

namespace WasmMode

/-- The interface that a compilation uses when none is asked for. -/
def standard : WasmMode := .ic

/-- The name of the interface. -/
def name : WasmMode → String
  | .ic => "ic"
  | .wasi => "wasi"

/-- Both interfaces. -/
def all : List WasmMode := [.ic, .wasi]

/-- The interface of the given name, in exactly this spelling. -/
def ofName? (name : String) : Option WasmMode := all.find? (fun mode => mode.name == name)

theorem ofName?_name (mode : WasmMode) : ofName? mode.name = some mode := by
  cases mode <;> decide

end WasmMode

/-- A compiled module. -/
structure WasmArtifact where
  /-- The bytes of the module. -/
  wasm : List UInt8
  /-- The description of its interface. -/
  candid : String
  deriving DecidableEq

/-- A syntax tree together with the type that checking gave it. -/
structure TypedAst where
  /-- The tree. -/
  ast : Json
  /-- The type. -/
  outputType : Json

/-- How the run of a program ended. -/
inductive RunResult where
  /-- It ended by itself. -/
  | exitCode (code : Int64)
  /-- It was stopped. -/
  | trap (description : String)
  deriving DecidableEq

/-- What a run of a program left behind. -/
structure RunOutput where
  /-- What it wrote as its output. -/
  stdout : String
  /-- What it wrote as its errors. -/
  stderr : String
  /-- How it ended. -/
  result : RunResult
  deriving DecidableEq

end CompilerGateway
