import CompilerGateway.Decimal.Natural
import CompilerGateway.Event
import CompilerGateway.Text.Alphanumeric
import CompilerGateway.Text.Blank
import CompilerGateway.Text.Bytes
import CompilerGateway.Text.Lowercase

/-!
# Log filters

A filter says which events a log takes, by their targets, levels and fields. It is written as
directives with commas between them, each of which is

* a level, `warn`, for all targets,
* a target, `moc_host`, all of whose events are taken, or
* both, `moc_host=info`,

with what brackets in front of the equals sign may add: the name of a span, and in braces the
name of a field, `moc_host[{path}]=debug`. A directive with a field speaks of the events
that can have such a field. One that names a span, or the value of a field, restricts what is
within spans; no event here is, so it speaks of none. Such a value may be a pattern, which is not
looked at.

Otherwise a directive speaks of the events whose target starts with its own. Of those that
speak of an event the one with the longest target decides, and of several with one target one
that asks for a field (`LogFilter.depthFor`); where there is none, nothing is taken. A filter
without directives takes errors.

Blanks around a directive are passed over where its parts are **looked for**, but the parts are
cut out of the text with its blanks, at as many bytes from the start. So only a directive
without blanks around it means what it seems to mean: with one blank in front of
`moc_host=info` the level is `=info`, which is none, and `info` with a blank on either side is
a target.
-/

namespace CompilerGateway

/-! ### Levels in filters -/

/-- The names of levels in filters, each in the place of its depth. -/
def depthNames : List String := ["off", "error", "warn", "info", "debug", "trace"]

/-- How deep a filter goes that takes everything. -/
def fullDepth : Nat := Level.trace.depth

/-- The depth of the given name, ASCII letters counting in either case, or of the given
number. -/
def readDepth? (text : String) : Option Nat :=
  match Decimal.readNatural? text with
  | some n => if n ≤ fullDepth then some n else none
  | none => depthNames.idxOf? (Text.lowerAscii text)

/-! ### Directives -/

/-- A part of a filter: how deep it goes for the events whose targets start with `target`, and
which can have the field that it asks for, if it does. -/
structure Directive where
  target : String
  field : Option String
  depth : Nat
  deriving DecidableEq

/-- What is wrong with a filter. -/
inductive FilterFault where
  /-- After an equals sign there is no level. -/
  | level
  /-- A directive does not start as one, or its brackets are not as they should be. -/
  | malformed
  deriving DecidableEq

/-- The wording of the fault. -/
def FilterFault.message : FilterFault → String
  | .level =>
    "error parsing level filter: expected one of \"off\", \"error\", \"warn\", \"info\", "
      ++ "\"debug\", \"trace\", or a number 0-5"
  | .malformed => "invalid filter directive"

namespace Directive

/-- Whether a directive may start with a character: letters, digits and three marks. -/
def mayStart (c : Char) : Bool :=
  Text.isAlphanumeric c || c == '-' || c == ':' || c == '_'

/-- A directive without marks: a level, or else a target. -/
def ofWord (word : String) : Directive :=
  match readDepth? word with
  | some depth => ⟨"", none, depth⟩
  | none => ⟨word, none, fullDepth⟩

/-- The characters of the given bytes, which have to begin and end where characters do. -/
def cut (start size : Nat) (text : String) : Except FilterFault (List Char) :=
  match Text.splitAtByte? start text.toList with
  | none => .error .malformed
  | some (_, rest) =>
    match Text.splitAtByte? size rest with
    | none => .error .malformed
    | some (found, _) => .ok found

/-- The depth that the text from a byte on asks for; nothing asks for everything. -/
def depthFrom (start : Nat) (text : String) : Except FilterFault Nat :=
  match cut start (text.utf8ByteSize - start) text with
  | .error fault => .error fault
  | .ok [] => .ok fullDepth
  | .ok found =>
    match readDepth? (String.ofList found) with
    | some depth => .ok depth
    | none => .error .level

/-- The depth at the end of a directive, of which `rest` is left from the given byte on: what
comes after an equals sign, or everything. -/
def depthAt (start : Nat) (text : String) : List Char → Except FilterFault Nat
  | [] => .ok fullDepth
  | '=' :: _ => depthFrom (start + 1) text
  | _ => .error .malformed

/-- Whether a target goes on with a character. -/
def isOfTarget (c : Char) : Bool := c != '=' && c != '['

/-- Whether the name of a span goes on with a character. -/
def isOfSpan (c : Char) : Bool := c != ']' && c != '\x7b'

/-- Reads what brackets hold and what follows them, of which `rest` is left from the given byte
on, for a directive with a target. -/
def readBrackets (target : String) (start : Nat) (text : String) (rest : List Char) :
    Except FilterFault (Option Directive) :=
  let span := rest.takeWhile isOfSpan
  let start := start + Text.byteCount span + 1
  match rest.dropWhile isOfSpan with
  | ']' :: rest => (depthAt start text rest).map fun _ => none
  | _ :: rest =>
    let field := rest.takeWhile fun c => c != '\x7d'
    match field, rest.dropWhile fun c => c != '\x7d' with
    | _ :: _, _ :: ']' :: rest => do
      let depth ← depthAt (start + Text.byteCount field + 2) text rest
      let field ← cut start (Text.byteCount field) text
      return if span.isEmpty && !field.contains '=' then
        some ⟨target, some (String.ofList field), depth⟩ else none
    | _, _ => .error .malformed
  | [] => .error .malformed

/-- Reads a directive, which is none if it speaks of no event. -/
def read (text : String) : Except FilterFault (Option Directive) :=
  let trimmed := (Text.trimBlank text).toList
  let size := Text.byteCount (trimmed.takeWhile isOfTarget)
  match trimmed.head?.map (fun first => first == '[' || mayStart first),
    trimmed.dropWhile isOfTarget with
  | some true, [] => .ok (some (ofWord text))
  | some true, '[' :: rest => do
    readBrackets (String.ofList (← cut 0 size text)) (size + 1) text rest
  | some true, rest => do
    let target ← cut 0 size text
    return some ⟨String.ofList target, none, ← depthAt size text rest⟩
  | _, _ => .error .malformed

/-- Whether the directive speaks of an event. -/
def covers (d : Directive) (event : Event) : Bool :=
  d.target.toList.isPrefixOf event.target.toList
    && (match d.field with
      | none => true
      | some field => event.fieldNames.contains field)

/-- Whether the directive is less particular than another one that speaks of the same event. -/
def isBroader (d other : Directive) : Bool :=
  d.target.length < other.target.length
    || d.target.length == other.target.length
      && (match d.field, other.field with
        | none, some _ => true
        | some field, some wanted => field < wanted
        | _, none => false)

end Directive

/-! ### Filters -/

/-- A filter: its directives in the order in which they are written. -/
abbrev LogFilter := List Directive

namespace LogFilter

/-- Reads a filter; the first directive that cannot be read is the fault. -/
def read (text : String) : Except FilterFault LogFilter :=
  match (Text.pieces ',' text).filter fun piece => piece != "" with
  | [] => .ok [⟨"", none, Level.error.depth⟩]
  | pieces => (pieces.mapM Directive.read).map fun found => found.filterMap id

/-- Reads a filter, or says why it is none. -/
def parse (text : String) : Except String LogFilter := (read text).mapError FilterFault.message

/-- The later of two directives, unless it is the broader one. -/
def prefer (chosen : Option Directive) (d : Directive) : Option Directive :=
  match chosen with
  | none => some d
  | some earlier => if d.isBroader earlier then some earlier else some d

/-- How deep the filter goes for an event. -/
def depthFor (filter : LogFilter) (event : Event) : Nat :=
  match (filter.filter fun d => d.covers event).foldl prefer none with
  | none => 0
  | some d => d.depth

/-- Whether the filter takes an event. -/
def takes (filter : LogFilter) (event : Event) : Bool :=
  decide (event.level.depth ≤ filter.depthFor event)

end LogFilter

end CompilerGateway
