import CompilerGateway.Decimal.Natural
import CompilerGateway.Settings

/-!
# Settings on the command line

Each setting has a long flag and a short one, and `--config-path` names a settings file. A
value follows its flag as the next argument, or is attached to it: after an equals sign, or,
for a short flag, without one. An argument that starts with a hyphen is no value of the flag
before it unless it is a lone hyphen.

`Flags.read` takes the arguments apart; `CommandLine.parse?` also checks the values and that no
flag is repeated. Whatever does not fit – an unknown flag, a value that is missing or bad, an
argument that belongs to no flag – makes the whole command line unreadable.
-/

namespace CompilerGateway

/-- What a flag sets. -/
inductive Flag where
  | logFilter
  | logFormat
  | packageRoot
  | fetchConcurrency
  | configPath
  deriving DecidableEq

namespace Flag

/-- The flags, in the order in which they are declared. -/
def all : List Flag := [.logFilter, .logFormat, .packageRoot, .fetchConcurrency, .configPath]

/-- The name after two hyphens. -/
def long : Flag → String
  | .logFilter => "log-filter"
  | .logFormat => "log-format"
  | .packageRoot => "package-root"
  | .fetchConcurrency => "fetch-concurrency"
  | .configPath => "config-path"

/-- The letter after one hyphen, where there is one. -/
def short? : Flag → Option Char
  | .logFilter => some 'l'
  | .logFormat => some 'L'
  | .packageRoot => some 'p'
  | .fetchConcurrency => some 'f'
  | .configPath => none

end Flag

/-! ### Arguments -/

/-- What one argument is by itself. -/
inductive Argument where
  /-- A flag with its value. -/
  | attached (flag : Flag) (value : String)
  /-- A flag whose value is the next argument. -/
  | awaiting (flag : Flag)
  /-- The mark after which no flags follow. -/
  | stop
  /-- Nothing that is known. -/
  | unknown

namespace Argument

/-- The text before the first equals sign, and the text after it if there is one. -/
def splitAtEquals (text : List Char) : List Char × Option (List Char) :=
  match text.dropWhile (fun c => decide (c ≠ '=')) with
  | [] => (text, none)
  | _ :: value => (text.takeWhile (fun c => decide (c ≠ '=')), some value)

/-- An argument that starts with two hyphens, without them. -/
def ofLong (text : List Char) : Argument :=
  let (name, value) := splitAtEquals text
  match Flag.all.find? (fun flag => flag.long == String.ofList name), value with
  | none, _ => .unknown
  | some flag, none => .awaiting flag
  | some flag, some value => .attached flag (String.ofList value)

/-- An argument that starts with one hyphen and a letter. -/
def ofShort (letter : Char) (rest : List Char) : Argument :=
  match Flag.all.find? (fun flag => flag.short? == some letter), rest with
  | none, _ => .unknown
  | some flag, [] => .awaiting flag
  | some flag, '=' :: value => .attached flag (String.ofList value)
  | some flag, value => .attached flag (String.ofList value)

/-- What an argument is. -/
def ofText (text : String) : Argument :=
  match text.toList with
  | ['-', '-'] => .stop
  | '-' :: '-' :: rest => ofLong rest
  | '-' :: letter :: rest => ofShort letter rest
  | _ => .unknown

/-- Whether an argument cannot be the value of the flag before it. -/
def looksLikeFlag (text : String) : Bool :=
  match text.toList with
  | '-' :: _ :: _ => true
  | _ => false

end Argument

/-! ### Command lines -/

namespace Flags

/-- The flags of a command line with their values, in order, if the command line has nothing
else in it. -/
def read : List String → Option (List (Flag × String))
  | [] => some []
  | argument :: rest =>
    match Argument.ofText argument with
    | .attached flag value => (read rest).map fun flags => (flag, value) :: flags
    | .awaiting flag =>
      match rest with
      | [] => none
      | value :: rest =>
        if Argument.looksLikeFlag value then none
        else (read rest).map fun flags => (flag, value) :: flags
    | .stop => if rest = [] then some [] else none
    | .unknown => none

end Flags

/-- What a command line says: the settings that its flags set, and the settings file that it
names. -/
structure CommandLine where
  logFilter : Option String
  logFormat : Option LogFormat
  packageRoot : Option String
  fetchConcurrency : Option UInt64
  configPath : Option String
  deriving DecidableEq

namespace CommandLine

/-- The command line without flags. -/
def empty : CommandLine := ⟨none, none, none, none, none⟩

/-- Adds a flag to what a command line says, if the value is one that the flag takes. -/
def add? (line : CommandLine) : Flag × String → Option CommandLine
  | (.logFilter, filter) => some { line with logFilter := some filter }
  | (.logFormat, name) => (LogFormat.ofText? name).map fun format =>
    { line with logFormat := some format }
  | (.packageRoot, root) => some { line with packageRoot := some root }
  | (.fetchConcurrency, number) => (Decimal.readBelow? UInt64.size number).map fun n =>
    { line with fetchConcurrency := some (UInt64.ofNat n) }
  | (.configPath, path) => if path = "" then none else some { line with configPath := some path }

/-- What the arguments say, if they can be read. -/
def parse? (arguments : List String) : Option CommandLine :=
  match Flags.read arguments with
  | none => none
  | some flags =>
    if (flags.map Prod.fst).Nodup then flags.foldlM add? empty else none

/-- The settings that the flags set, by their names. -/
def settings (line : CommandLine) : Table Json :=
  .ofList ([line.logFilter.map fun filter => ("log_filter", .str filter),
    line.logFormat.map fun format => ("log_format", format.encode),
    line.packageRoot.map fun root => ("package_root", .str root),
    line.fetchConcurrency.map fun n => ("fetch_concurrency", .ofNat n.toNat)].filterMap id)

end CommandLine

end CompilerGateway
