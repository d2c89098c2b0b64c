import CompilerGateway.Backend
import CompilerGateway.VirtualPath

/-!
# Scripted backends

A backend that holds its files, its packages and its settings in memory, and whose answers
can be prescribed. Every operation has a list of **cues**, one of which is used up by each
request for it: report an error, raise a value, answer with a value from the wire, or pass.
With a pass, or without cues left, the request is answered from what the backend holds.

It compiles nothing: its modules and trees just name what they were made from.
-/

namespace CompilerGateway

/-! ### Cues -/

/-- What to do with a request. -/
inductive Cue where
  /-- Report an error. -/
  | error (error : BackendError)
  /-- Raise a value. -/
  | raise (payload : Json)
  /-- Answer with a value, if it can be read as a reply. -/
  | value (value : Json)
  /-- Answer from what the backend holds. -/
  | pass

/-- A backend in memory. -/
structure Scripted where
  /-- The contents of the files by their paths. -/
  files : Table String
  /-- The directories of the packages by their names. -/
  packages : Table String
  /-- The aliases that were set last. -/
  aliases : List (String × String)
  /-- The metadata that was set last. -/
  metadata : Option String
  /-- The operations that the backend does not have. -/
  unsupported : List Operation
  /-- The cues of each operation, next one first. -/
  script : Operation → List Cue

namespace Scripted

/-- A backend that holds files and nothing else. -/
def ofFiles (files : Table String) (unsupported : List Operation)
    (script : Operation → List Cue) : Scripted :=
  ⟨files, .empty, [], none, unsupported, script⟩

/-! ### Answers from what is held -/

/-- The path below a directory, for a path that lies in it. A directory of slashes alone
holds everything. -/
def below? (directory path : String) : Option String :=
  if directory = "" then some path
  else
    let front := directory.toList ++ ['/']
    if front.isPrefixOf path.toList then some (String.ofList (path.toList.drop front.length))
    else none

/-- The text before the first slash. -/
def firstPart (path : String) : String :=
  String.ofList (path.toList.takeWhile (fun c => decide (c ≠ '/')))

/-- The names of the entries of a directory, ascending and each once. -/
def entries (files : Table String) (directory : String) : List String :=
  (Table.ofList ((files.names.filterMap (below? directory)).map fun path =>
    (firstPart path, ()))).names

/-- The error for a file that is not there. -/
def missingFile (path : String) : Fault := .error ⟨"file not found: " ++ path, none⟩

/-- The error for a directory without entries. -/
def missingDirectory (directory : String) : Fault :=
  .error ⟨"directory not found: " ++ directory, none⟩

/-- The first bytes of every module. -/
def moduleBytes : List UInt8 := [0, 97, 115, 109]

/-- The answer from what the backend holds. -/
def perform (s : Scripted) : (request : Request) → Except Fault request.Reply × Scripted
  | .readFile path =>
    match s.files.find? path with
    | some content => (.ok content, s)
    | none => (.error (missingFile path), s)
  | .saveFile path content => (.ok (), { s with files := s.files.insert path content })
  | .renameFile path target =>
    match s.files.find? path with
    | some content => (.ok (), { s with files := (s.files.erase path).insert target content })
    | none => (.error (missingFile path), s)
  | .removeFile path =>
    match s.files.find? path with
    | some _ => (.ok (), { s with files := s.files.erase path })
    | none => (.error (missingFile path), s)
  | .readDir directory =>
    let base := VirtualPath.withoutTrailing directory
    match entries s.files base with
    | [] => (if base = "" then .ok [] else .error (missingDirectory directory), s)
    | found => (.ok found, s)
  | .addPackage name directory =>
    (.ok (), { s with packages := s.packages.insert name directory })
  | .clearPackage => (.ok (), { s with packages := .empty })
  | .setActorAliases aliases => (.ok (), { s with aliases := aliases })
  | .setPublicMetadata values => (.ok (), { s with metadata := some values })
  | .check _ => (.ok [], s)
  | .run libraries path => (.ok ⟨"ran " ++ path, ":".intercalate libraries, .exitCode 0⟩, s)
  | .compileWasm mode path => (.ok (.success ⟨moduleBytes, mode.name ++ " " ++ path⟩), s)
  | .candid path => (.ok (.success ("candid " ++ path)), s)
  | .parseMotoko content => (.ok (.success (.obj [("prog", .str content)])), s)
  | .parseMotokoTypes content =>
    (.ok (.success ⟨.obj [("prog", .str content)], .str "()"⟩), s)
  | .parseCandid content => (.ok (.success (.obj [("service", .str content)])), s)

/-! ### Answers by the script -/

/-- The next cue of an operation, and the backend without it. -/
def takeCue (s : Scripted) (op : Operation) : Cue × Scripted :=
  match s.script op with
  | [] => (.pass, s)
  | cue :: rest =>
    (cue, { s with script := fun other => if other = op then rest else s.script other })

/-- The answer to a request. -/
def respond (request : Request) (s : Scripted) : Except Fault request.Reply × Scripted :=
  match s.takeCue request.operation with
  | (.error error, s) => (.error (.error error), s)
  | (.raise payload, s) => (.error (.raised payload), s)
  | (.value value, s) =>
    match request.readReply value with
    | .ok reply => (.ok reply, s)
    | .error error => (.error (.error ⟨"undecodable response", some error.message⟩), s)
  | (.pass, s) => s.perform request

instance : Backend Scripted where
  supports s op := !s.unsupported.contains op
  respond := respond

end Scripted

end CompilerGateway
