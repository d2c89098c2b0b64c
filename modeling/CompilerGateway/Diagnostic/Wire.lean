import CompilerGateway.Diagnostic
import CompilerGateway.Wire.Decoding

/-!
# Diagnostics on the wire

How diagnostics and their parts are written as JSON values and read back. A code, a source
and tags that are not there are left out when written.
-/

namespace CompilerGateway

namespace Position

/-- Reads a position. -/
def decode : Decoder Position :=
  (((RecordDecoder.pure Position.mk).and (.required "line" .word)).and
    (.required "character" .word)).decode "Position"

/-- Writes a position. -/
def encode (p : Position) : Json :=
  .obj [("character", .ofNat p.character.toNat), ("line", .ofNat p.line.toNat)]

end Position

namespace Range

/-- Reads a range. -/
def decode : Decoder Range :=
  (((RecordDecoder.pure Range.mk).and (.required "start" Position.decode)).and
    (.required "end" Position.decode)).decode "Range"

/-- Writes a range. -/
def encode (r : Range) : Json :=
  .obj [("end", r.stop.encode), ("start", r.start.encode)]

end Range

namespace Severity

/-- Reads a severity, which may be any text. -/
def decode : Decoder Severity := fun found => (Decoder.text found).map ofLabel

/-- Writes a severity. -/
def encode (s : Severity) : Json := .str s.label

end Severity

namespace TargetedValue

/-- Reads a text or an integer. -/
def decode : Decoder TargetedValue := Decoder.firstOf "TargetedValue"
  [fun found => (Decoder.text found).map .text,
   fun found => (Decoder.signed found).map .number]

/-- Writes the text or the integer. -/
def encode : TargetedValue → Json
  | .text value => .str value
  | .number value => .int value.toInt

end TargetedValue

namespace DiagnosticCode

/-- The form of a code with a target, which only an object has. -/
def targetedForm : Decoder DiagnosticCode :=
  (((RecordDecoder.pure DiagnosticCode.targeted).and (.required "target" .any)).and
    (.required "value" TargetedValue.decode)).decodeObject "DiagnosticCode"

/-- Reads a text, an integer or a value with a target. -/
def decode : Decoder DiagnosticCode := Decoder.firstOf "DiagnosticCode"
  [fun found => (Decoder.text found).map .text,
   fun found => (Decoder.signed found).map .number,
   targetedForm]

/-- Writes the code. -/
def encode : DiagnosticCode → Json
  | .text value => .str value
  | .number value => .int value.toInt
  | .targeted target value => .obj [("target", target), ("value", value.encode)]

end DiagnosticCode

namespace Diagnostic

/-- The fields of a diagnostic in the order of declaration. -/
def record : RecordDecoder Diagnostic :=
  ((((((RecordDecoder.pure Diagnostic.mk).and
    (.defaulted "code" none (.nullable DiagnosticCode.decode))).and
    (.required "message" .text)).and
    (.required "range" Range.decode)).and
    (.required "severity" Severity.decode)).and
    (.defaulted "source" none (.nullable .text))).and
    (.defaulted "tags" [] (.list .text))

/-- Reads a diagnostic. -/
def decode : Decoder Diagnostic := record.decode "Diagnostic"

/-- Writes a diagnostic. -/
def encode (d : Diagnostic) : Json :=
  .obj ((d.code.toList.map fun code => ("code", code.encode))
    ++ [("message", .str d.message), ("range", d.range.encode), ("severity", d.severity.encode)]
    ++ (d.source.toList.map fun source => ("source", .str source))
    ++ (if d.tags.isEmpty then [] else [("tags", .texts d.tags)]))

/-- Writes several diagnostics. -/
def encodeList (diagnostics : List Diagnostic) : Json := .arr (diagnostics.map encode)

end Diagnostic

end CompilerGateway
