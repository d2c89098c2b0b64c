import CompilerGateway.Event
import CompilerGateway.Json.Parser
import CompilerGateway.Text.Blank
import CompilerGateway.Text.Segments

/-!
# Lines of a log

An event as it reads in a log, in either format. With `LogFormat.json` it is an object on a
line of its own. With `LogFormat.compact` it is a text in which the fields follow the message in
their order, those that are texts of their own in quotation marks; the others stand for
themselves, and where there is a line end in one of them, the event takes **several lines**.

A log puts the time of day in front of every event, and whoever reads it line by line takes the
time off every line (`LogLine.ofUntimed`): an object loses its time, and any other line its first
word. The lines after the first one of an event have no time in front, and so lose a word that
they need.
-/

namespace CompilerGateway

namespace FieldValue

/-- The value in an object. -/
def encode : FieldValue → Json
  | .bare text => .str text
  | .quoted text => .str text
  | .count n => .ofNat n

/-- The value in a line of text. -/
def render : FieldValue → String
  | .bare text => text
  | .quoted text => Text.quote text
  | .count n => toString n

end FieldValue

/-! ### Lines -/

/-- A line of a log, without the time of day. -/
inductive LogLine where
  | json (object : Json)
  | compact (text : String)

namespace LogLine

/-- The field of an object that holds the time of day. -/
def timeField : String := "timestamp"

/-- What is left of a line that has no time in front when the time is taken off: an object
without the field for it, or what comes after the first word and the spaces that follow it. -/
def ofUntimed (line : List Char) : LogLine :=
  match Json.parse? (String.ofList line) with
  | some (.obj fields) => .json (.obj (Table.eraseEntry timeField fields))
  | _ =>
    .compact (String.ofList (((line.dropWhile fun c => c != ' ').drop 1).dropWhile Text.isBlank))

/-- A line without the carriage return that may come before its end. -/
def withoutReturn (line : List Char) : List Char :=
  match line.getLast? with
  | some '\r' => line.dropLast
  | _ => line

/-- The lines of a text with the time of day in front, which is not part of the text given. -/
def ofTimed (text : String) : List LogLine :=
  match (Text.segments '\n' text.toList).map withoutReturn with
  | [] => []
  | first :: rest => .compact (String.ofList first) :: rest.map ofUntimed

/-- A text that is all on one line is that line. -/
theorem ofTimed_eq_singleton {text : String} (oneLine : '\n' ∉ text.toList) :
    ofTimed text = [.compact (String.ofList (withoutReturn text.toList))] := by
  simp [ofTimed, Text.segments_eq_singleton oneLine]

end LogLine

/-! ### Events -/

namespace Event

/-- The message and the fields as an object. -/
def record (version : String) (event : Event) : Json :=
  .object (("message", .str event.message)
    :: (event.fields version).map fun field => (field.1, field.2.encode))

/-- The event as a text. -/
def text (version : String) (event : Event) : String :=
  " ".intercalate ((event.level.name ++ " " ++ event.target ++ ": " ++ event.message)
    :: (event.fields version).map fun field => field.1 ++ "=" ++ field.2.render)

/-- The event as an object. -/
def object (version : String) (event : Event) : Json :=
  .object ([("level", .str event.level.name), ("target", .str event.target),
      ("message", .str event.message)]
    ++ (event.fields version).map fun field => (field.1, field.2.encode))

/-- The lines of the event in a log. -/
def lines (format : LogFormat) (version : String) (event : Event) : List LogLine :=
  match format with
  | .json => [.json (event.object version)]
  | .compact => LogLine.ofTimed (event.text version)

end Event

end CompilerGateway
