import CompilerGateway.Artifact.Wire
import CompilerGateway.Backend.Operation
import CompilerGateway.Outcome

/-!
# Requests to a compiler backend

A request is an operation together with its arguments. Its **reply** has a type of its own,
`Request.Reply`: requests for code are answered by an `Outcome`, the others by the value
itself or by nothing at all.

`Request.arguments` lists the positional arguments, of which there are as many as the
operation says and of the kinds that it says (`Request.kind_arguments`).
-/

namespace CompilerGateway

/-! ### Arguments -/

/-- A positional argument. -/
inductive Positional where
  | text (value : String)
  | texts (values : List String)
  | pairs (values : List (String × String))
  deriving DecidableEq

namespace Positional

/-- The kind of the argument. -/
def kind : Positional → ArgumentKind
  | .text _ => .text
  | .texts _ => .list
  | .pairs _ => .list

/-- Writes the argument. -/
def encode : Positional → Json
  | .text value => .str value
  | .texts values => .texts values
  | .pairs values => .textPairs values

end Positional

/-! ### Requests -/

/-- An operation with its arguments. -/
inductive Request where
  /-- The content of a file. -/
  | readFile (path : String)
  /-- Give a file a content, making it if need be. -/
  | saveFile (path content : String)
  /-- Move a file. -/
  | renameFile (path target : String)
  /-- Remove a file. -/
  | removeFile (path : String)
  /-- The names of the entries of a directory. -/
  | readDir (directory : String)
  /-- Look for the modules of a package in a directory. -/
  | addPackage (name directory : String)
  /-- Forget all packages. -/
  | clearPackage
  /-- Let names stand for actors. -/
  | setActorAliases (aliases : List (String × String))
  /-- Mark parts of the metadata of modules as public. -/
  | setPublicMetadata (values : String)
  /-- The diagnostics of a file. -/
  | check (path : String)
  /-- Run a file, with directories in which to look for libraries. -/
  | run (libraries : List String) (path : String)
  /-- A file as a module. -/
  | compileWasm (mode : WasmMode) (path : String)
  /-- The interface of a file. -/
  | candid (path : String)
  /-- A source text as a tree. -/
  | parseMotoko (content : String)
  /-- A source text as a tree with its type. -/
  | parseMotokoTypes (content : String)
  /-- The text of an interface as a tree. -/
  | parseCandid (content : String)
  deriving DecidableEq

namespace Request

/-- The operation that is asked for. -/
def operation : Request → Operation
  | .readFile _ => .readFile
  | .saveFile _ _ => .saveFile
  | .renameFile _ _ => .renameFile
  | .removeFile _ => .removeFile
  | .readDir _ => .readDir
  | .addPackage _ _ => .addPackage
  | .clearPackage => .clearPackage
  | .setActorAliases _ => .setActorAliases
  | .setPublicMetadata _ => .setPublicMetadata
  | .check _ => .check
  | .run _ _ => .run
  | .compileWasm _ _ => .compileWasm
  | .candid _ => .candid
  | .parseMotoko _ => .parseMotoko
  | .parseMotokoTypes _ => .parseMotokoTypes
  | .parseCandid _ => .parseCandid

/-- What an answered request comes to. -/
@[reducible]
def Reply : Request → Type
  | .readFile _ => String
  | .saveFile _ _ => Unit
  | .renameFile _ _ => Unit
  | .removeFile _ => Unit
  | .readDir _ => List String
  | .addPackage _ _ => Unit
  | .clearPackage => Unit
  | .setActorAliases _ => Unit
  | .setPublicMetadata _ => Unit
  | .check _ => List Diagnostic
  | .run _ _ => RunOutput
  | .compileWasm _ _ => Outcome WasmArtifact
  | .candid _ => Outcome String
  | .parseMotoko _ => Outcome Json
  | .parseMotokoTypes _ => Outcome TypedAst
  | .parseCandid _ => Outcome Json

/-- The positional arguments. -/
def arguments : Request → List Positional
  | .readFile path => [.text path]
  | .saveFile path content => [.text path, .text content]
  | .renameFile path target => [.text path, .text target]
  | .removeFile path => [.text path]
  | .readDir directory => [.text directory]
  | .addPackage name directory => [.text name, .text directory]
  | .clearPackage => []
  | .setActorAliases aliases => [.pairs aliases]
  | .setPublicMetadata values => [.text values]
  | .check path => [.text path]
  | .run libraries path => [.texts libraries, .text path]
  | .compileWasm mode path => [.text mode.name, .text path]
  | .candid path => [.text path]
  | .parseMotoko content => [.text content]
  | .parseMotokoTypes content => [.text content]
  | .parseCandid content => [.text content]

theorem kind_arguments (r : Request) :
    r.arguments.map Positional.kind = r.operation.argumentKinds := by
  cases r <;> rfl

/-- Reads a reply from the wire. Where nothing is replied, anything will do. -/
def readReply : (r : Request) → Decoder r.Reply
  | .readFile _ => Decoder.text
  | .saveFile _ _ => fun _ => .ok ()
  | .renameFile _ _ => fun _ => .ok ()
  | .removeFile _ => fun _ => .ok ()
  | .readDir _ => Decoder.list Decoder.text
  | .addPackage _ _ => fun _ => .ok ()
  | .clearPackage => fun _ => .ok ()
  | .setActorAliases _ => fun _ => .ok ()
  | .setPublicMetadata _ => fun _ => .ok ()
  | .check _ => Decoder.list Diagnostic.decode
  | .run _ _ => RunOutput.decode
  | .compileWasm _ _ => Decoder.outcome WasmArtifact.decode
  | .candid _ => Decoder.outcome Decoder.text
  | .parseMotoko _ => Decoder.outcome Decoder.any
  | .parseMotokoTypes _ => Decoder.outcome TypedAst.decode
  | .parseCandid _ => Decoder.outcome Decoder.any

end Request

end CompilerGateway
