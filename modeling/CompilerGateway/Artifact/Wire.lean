import CompilerGateway.Artifact
import CompilerGateway.Wire.Decoding

/-!
# Compiler products on the wire

How modules, typed syntax trees and runs are written as JSON values and read back.
-/

namespace CompilerGateway

namespace WasmMode

/-- Reads the name of an interface. -/
def decode : Decoder WasmMode := Decoder.variant (all.map fun mode => (mode.name, mode))

/-- Writes the name of the interface. -/
def encode (mode : WasmMode) : Json := .str mode.name

end WasmMode

namespace WasmArtifact

/-- Reads a module, its bytes being an array of integers. -/
def decode : Decoder WasmArtifact :=
  (((RecordDecoder.pure WasmArtifact.mk).and (.required "wasm" (.list .byte))).and
    (.required "candid" .text)).decode "WasmArtifact"

/-- Writes a module. -/
def encode (artifact : WasmArtifact) : Json :=
  .obj [("candid", .str artifact.candid),
    ("wasm", .arr (artifact.wasm.map fun byte => .ofNat byte.toNat))]

end WasmArtifact

namespace TypedAst

/-- Reads a tree with its type. Either may be `null`, but both have to be there. -/
def decode : Decoder TypedAst :=
  (((RecordDecoder.pure TypedAst.mk).and (.required "ast" .any)).and
    (.required "outputType" .any)).decode "TypedAst"

/-- Writes a tree with its type. -/
def encode (typed : TypedAst) : Json := .obj [("ast", typed.ast), ("outputType", typed.outputType)]

end TypedAst

namespace RunResult

/-- Reads an integer as an exit code and a text as the description of a trap. -/
def decode : Decoder RunResult := Decoder.firstOf "RunResult"
  [fun found => (Decoder.signed found).map .exitCode,
   fun found => (Decoder.text found).map .trap]

/-- Writes the exit code or the description. -/
def encode : RunResult → Json
  | .exitCode code => .int code.toInt
  | .trap description => .str description

end RunResult

namespace RunOutput

/-- Reads what a run left behind. -/
def decode : Decoder RunOutput :=
  ((((RecordDecoder.pure RunOutput.mk).and (.required "stdout" .text)).and
    (.required "stderr" .text)).and
    (.required "result" RunResult.decode)).decode "RunOutput"

/-- Writes what a run left behind. -/
def encode (output : RunOutput) : Json :=
  .obj [("result", output.result.encode), ("stderr", .str output.stderr),
    ("stdout", .str output.stdout)]

end RunOutput

end CompilerGateway
