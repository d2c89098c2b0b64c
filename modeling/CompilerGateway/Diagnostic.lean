import CompilerGateway.Json

/-!
# Diagnostics

What a compiler says about a range of a source text. A severity that is none of the four
known ones keeps its label: `Severity.ofLabel` and `Severity.label` lose nothing
(`Severity.label_ofLabel`).
-/

namespace CompilerGateway

/-! ### Positions -/

/-- A place in a text, both coordinates counted from zero. -/
structure Position where
  /-- The line. -/
  line : UInt32
  /-- The character within the line. -/
  character : UInt32
  deriving DecidableEq

namespace Position

/-- Positions are ordered by line, and within a line by character. -/
def compare (a b : Position) : Ordering :=
  (Ord.compare a.line b.line).then (Ord.compare a.character b.character)

instance : Ord Position := ⟨compare⟩

end Position

/-- The text between two positions. -/
structure Range where
  /-- Where the range starts. -/
  start : Position
  /-- Where the range ends. -/
  stop : Position
  deriving DecidableEq

/-! ### Severities -/

/-- How serious a diagnostic is. -/
inductive Severity where
  | error
  | warning
  | information
  | hint
  /-- A severity of another label. -/
  | other (label : String)
  deriving DecidableEq

namespace Severity

/-- The severity with the label. -/
def ofLabel (label : String) : Severity :=
  if label = "error" then .error
  else if label = "warning" then .warning
  else if label = "information" then .information
  else if label = "hint" then .hint
  else .other label

/-- The label of the severity. -/
def label : Severity → String
  | .error => "error"
  | .warning => "warning"
  | .information => "information"
  | .hint => "hint"
  | .other label => label

/-- Whether the severity is what its label is read as: no `other` with a known label. -/
def Canonical (severity : Severity) : Prop := ofLabel severity.label = severity

theorem label_ofLabel (text : String) : (ofLabel text).label = text := by
  unfold ofLabel
  split
  · simp_all [label]
  split
  · simp_all [label]
  split
  · simp_all [label]
  split
  · simp_all [label]
  · rfl

theorem canonical_ofLabel (text : String) : (ofLabel text).Canonical := by
  rw [Canonical, label_ofLabel]

end Severity

/-! ### Diagnostics -/

/-- What a code with a target says about it. -/
inductive TargetedValue where
  | text (value : String)
  | number (value : Int64)
  deriving DecidableEq

/-- The code of a diagnostic. -/
inductive DiagnosticCode where
  | text (value : String)
  | number (value : Int64)
  /-- A value together with a target that only the compiler understands. -/
  | targeted (target : Json) (value : TargetedValue)

/-- One diagnostic. -/
structure Diagnostic where
  /-- The code, where the compiler gives one. -/
  code : Option DiagnosticCode
  /-- The message. -/
  message : String
  /-- The text that the diagnostic is about. -/
  range : Range
  /-- How serious it is. -/
  severity : Severity
  /-- The part of the compiler that it comes from, where that is known. -/
  source : Option String
  /-- Further labels. -/
  tags : List String

namespace Diagnostic

/-- A diagnostic without code, source and tags. -/
def plain (severity : Severity) (message : String) (range : Range) : Diagnostic :=
  ⟨none, message, range, severity, none, []⟩

/-- The diagnostic with another code. -/
def withCode (d : Diagnostic) (code : DiagnosticCode) : Diagnostic := { d with code := some code }

/-- The diagnostic with another source. -/
def withSource (d : Diagnostic) (source : String) : Diagnostic := { d with source := some source }

/-- The diagnostic with other tags, which replace all it had. -/
def withTags (d : Diagnostic) (tags : List String) : Diagnostic := { d with tags := tags }

/-- Whether the severity is `Severity.error`. -/
def isError (d : Diagnostic) : Bool := d.severity == .error

/-- Whether the severity is what its label is read as. -/
def Canonical (d : Diagnostic) : Prop := d.severity.Canonical

/-- The messages of several diagnostics in one line, or a remark that there are none. -/
def summary : List Diagnostic → String
  | [] => "(no diagnostics)"
  | diagnostics => "; ".intercalate (diagnostics.map message)

end Diagnostic

end CompilerGateway
