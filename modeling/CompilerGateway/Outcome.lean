import CompilerGateway.Diagnostic
import CompilerGateway.Wire.Decoding
import CompilerGateway.Diagnostic.Wire

/-!
# Outcomes of compilations

A compiler that is asked for code answers with code or without, and either way with
diagnostics. `Outcome` tells the two apart; where code is missing, the compiler may also have
left out the list of diagnostics, and the outcome remembers that.

On the wire there is no tag. A `RawOutcome` has a code field whose *value* decides: a value
that does not count as present (`Json.isPresent`) stands for no code, whatever type was asked
for, and any other value has to decode as that type. `RawOutcome.resolve` draws that line.
-/

namespace CompilerGateway

/-- The answer to a request for code. -/
inductive Outcome (α : Type) where
  /-- The code, and what the compiler had to say about it. -/
  | produced (code : α) (diagnostics : List Diagnostic)
  /-- No code; the diagnostics say why, where there are any. -/
  | refused (diagnostics : Option (List Diagnostic))

namespace Outcome

variable {α : Type}

/-- The outcome with the code, where there is any, and the diagnostics. -/
def ofParts : Option α → Option (List Diagnostic) → Outcome α
  | some code, diagnostics => .produced code (diagnostics.getD [])
  | none, diagnostics => .refused diagnostics

/-- Code about which there is nothing to say. -/
def success (code : α) : Outcome α := .produced code []

/-- No code, for the given reasons. -/
def failure (diagnostics : List Diagnostic) : Outcome α := .refused (some diagnostics)

/-- Whether there is code. -/
def isProduced : Outcome α → Bool
  | .produced _ _ => true
  | .refused _ => false

/-- The diagnostics; a list that was left out counts as empty. -/
def diagnostics : Outcome α → List Diagnostic
  | .produced _ diagnostics => diagnostics
  | .refused diagnostics => diagnostics.getD []

/-- The code, or the reasons why there is none. -/
def code : Outcome α → Except (List Diagnostic) α
  | .produced code _ => .ok code
  | .refused diagnostics => .error (diagnostics.getD [])

end Outcome

/-- An outcome as it comes from a compiler. -/
structure RawOutcome where
  /-- The code, or a value that stands for its absence. -/
  code : Json
  /-- The diagnostics, where the compiler sent a list. -/
  diagnostics : Option (List Diagnostic)

namespace RawOutcome

/-- Both fields may be left out; no code then, and no list. -/
def record : RecordDecoder RawOutcome :=
  ((RecordDecoder.pure RawOutcome.mk).and (.defaulted "code" .null .any)).and
    (.defaulted "diagnostics" none (.nullable (.list Diagnostic.decode)))

/-- Reads an outcome. -/
def decode : Decoder RawOutcome := record.decode "RawWrapped"

/-- The outcome with the code read as a value of the type asked for. -/
def resolve {α : Type} (raw : RawOutcome) (decode : Decoder α) :
    Except DecodeError (Outcome α) :=
  if raw.code.isPresent then
    (decode raw.code).map fun code => .produced code (raw.diagnostics.getD [])
  else .ok (.refused raw.diagnostics)

end RawOutcome

/-- An outcome read from the wire, with its code. -/
def Decoder.outcome {α : Type} (decode : Decoder α) : Decoder (Outcome α) := fun found =>
  (RawOutcome.decode found).bind fun raw => raw.resolve decode

end CompilerGateway
