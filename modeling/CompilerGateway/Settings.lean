import CompilerGateway.Text.Lowercase
import CompilerGateway.VirtualPath
import CompilerGateway.Wire.Decoding

/-!
# Settings

What can be configured: which events are logged and how, the directory that packages are
installed below, and how many packages are fetched at once.

Two of the settings are not used as they are written. The directory counts without the
slashes it ends with (`Settings.root`), and there is always room for one fetch
(`Settings.room`).
-/

namespace CompilerGateway

/-! ### Log formats -/

/-- How events are written to the log. -/
inductive LogFormat where
  /-- One JSON object a line. -/
  | json
  /-- One line of text. -/
  | compact
  deriving DecidableEq

namespace LogFormat

/-- The name of the format. -/
def name : LogFormat → String
  | .json => "json"
  | .compact => "compact"

/-- Both formats. -/
def all : List LogFormat := [.json, .compact]

/-- The format of the given name, ASCII letters counting in either case. -/
def ofText? (text : String) : Option LogFormat :=
  all.find? (fun format => format.name == Text.lowerAscii text)

/-- Reads the name of a format, in lower case. -/
def decode : Decoder LogFormat := Decoder.variant (all.map fun format => (format.name, format))

/-- Writes the name of the format. -/
def encode (format : LogFormat) : Json := .str format.name

theorem ofText?_name (format : LogFormat) : ofText? format.name = some format := by
  cases format <;> decide +kernel

end LogFormat

/-! ### Settings -/

/-- Settings as they are written. -/
structure Settings where
  /-- Which events are logged. -/
  logFilter : String
  /-- How they are written. -/
  logFormat : LogFormat
  /-- The virtual directory below which packages are installed. -/
  packageRoot : String
  /-- How many packages are fetched at once. -/
  fetchConcurrency : UInt64
  deriving DecidableEq

namespace Settings

/-! What holds unless something else is asked for. -/

/-- The events that are logged. -/
def standardFilter : String := "warn,moc_host=info"

/-- How they are written. -/
def standardFormat : LogFormat := .json

/-- The directory below which packages are installed. -/
def standardRoot : String := ".packages"

/-- How many packages are fetched at once. -/
def standardConcurrency : UInt64 := 8

/-- The settings that hold where nothing is set. -/
def standard : Settings :=
  ⟨standardFilter, standardFormat, standardRoot, standardConcurrency⟩

/-- The directory that packages are installed below, without slashes at its end. -/
def root (s : Settings) : String := VirtualPath.withoutTrailing s.packageRoot

/-- How many fetches may be under way at once, which is never none. -/
def room (s : Settings) : Nat := max s.fetchConcurrency.toNat 1

/-- The fields of the settings in the order of declaration; all of them are required. -/
def record : RecordDecoder Settings :=
  ((((RecordDecoder.pure Settings.mk).and (.required "log_filter" .text)).and
    (.required "log_format" LogFormat.decode)).and
    (.required "package_root" .text)).and
    (.required "fetch_concurrency" .size)

/-- Reads settings. -/
def decode : Decoder Settings := record.decode "Config"

/-- The settings by their names. -/
def fields (s : Settings) : Table Json := Table.ofList
  [("log_filter", .str s.logFilter), ("log_format", s.logFormat.encode),
    ("package_root", .str s.packageRoot), ("fetch_concurrency", .ofNat s.fetchConcurrency.toNat)]

/-- Writes settings. -/
def encode (s : Settings) : Json := .ofTable s.fields

theorem room_pos (s : Settings) : 0 < s.room := by
  unfold room
  omega

end Settings

end CompilerGateway
