import CompilerGateway.Gateway.EntryPoint
import CompilerGateway.Gateway.FileHandle
import CompilerGateway.Gateway.Packages

/-!
# Actions

The operations of a gateway and of a file handle as data, so that sequences of them can be
spoken of. `Action.perform` and `FileAction.perform` carry them out; their results are of one
type, `Answer`.
-/

namespace CompilerGateway

/-! ### Answers -/

/-- The result of an operation. -/
inductive Answer where
  | nothing
  | text (value : String)
  | texts (values : List String)
  | diagnostics (values : List Diagnostic)
  | output (value : RunOutput)
  | artifact (value : WasmArtifact)
  | tree (value : Json)
  | typedTree (value : TypedAst)
  | package (value : FetchedPackage)
  | operation (value : Operation)
  | entry (path : Option String)

/-- A result together with a state, as an answer together with the state. -/
def answering {α β : Type} (form : α → Answer) (performed : Except Failure α × β) :
    Except Failure Answer × β :=
  (performed.1.map form, performed.2)

/-! ### Actions on a gateway -/

/-- An operation of a gateway with its arguments. -/
inductive Action where
  | read (path : String)
  | write (path : String) (content : ByteArray)
  | rename (path target : String)
  | delete (path : String)
  | list (directory : String)
  | check (path : String)
  | run (path : String) (libraries : Option (List String))
  | compile (path : String) (mode : Option String)
  | interface (path : String)
  | sourceTree (content : String)
  | typedSourceTree (content : String)
  | interfaceTree (content : String)
  | setAliases (aliases : AliasTable)
  | setMetadata (values : String)
  | register (name directory : String)
  | unregisterAll
  | entryPoint (role : EntryRole) (directory : String)
  | operation (name : String)

/-- Carries the action out. -/
def Action.perform {σ : Type} [Backend σ] (g : Gateway σ) :
    Action → Except Failure Answer × Gateway σ
  | .read path => answering .text (g.read path)
  | .write path content => answering (fun _ => .nothing) (g.write path content)
  | .rename path target => answering (fun _ => .nothing) (g.rename path target)
  | .delete path => answering (fun _ => .nothing) (g.delete path)
  | .list directory => answering .texts (g.list directory)
  | .check path => answering .diagnostics (g.check path)
  | .run path libraries => answering .output (g.run path libraries)
  | .compile path mode => answering .artifact (g.compile path mode)
  | .interface path => answering .text (g.interface path)
  | .sourceTree content => answering .tree (g.sourceTree content)
  | .typedSourceTree content => answering .typedTree (g.typedSourceTree content)
  | .interfaceTree content => answering .tree (g.interfaceTree content)
  | .setAliases aliases => answering (fun _ => .nothing) (g.setAliases aliases)
  | .setMetadata values => answering (fun _ => .nothing) (g.setMetadata values)
  | .register name directory => answering (fun _ => .nothing) (g.register name directory)
  | .unregisterAll => answering (fun _ => .nothing) g.unregisterAll
  | .entryPoint role directory =>
    let (resolved, g) := g.entryPoint role directory
    (.ok (.entry resolved), g)
  | .operation name => ((g.operation name).map .operation, g)

/-! ### Actions on a file handle -/

/-- An operation of a file handle with its arguments. -/
inductive FileAction where
  | path
  | read
  | write (content : ByteArray)
  | rename (target : String)
  | delete
  | check
  | run (libraries : Option (List String))
  | compile (mode : Option String)
  | interface
  | sourceTree
  | typedSourceTree

namespace FileAction

variable {σ : Type} [Backend σ]

/-- Carries the action out. -/
def perform (h : FileHandle σ) : FileAction → Except Failure Answer × FileHandle σ
  | .path => (.ok (.text h.path), h)
  | .read => answering .text h.read
  | .write content => answering (fun _ => .nothing) (h.write content)
  | .rename target => answering (fun _ => .nothing) (h.rename target)
  | .delete => answering (fun _ => .nothing) h.delete
  | .check => answering .diagnostics h.check
  | .run libraries => answering .output (h.run libraries)
  | .compile mode => answering .artifact (h.compile mode)
  | .interface => answering .text h.interface
  | .sourceTree => answering .tree h.sourceTree
  | .typedSourceTree => answering .typedTree h.typedSourceTree

/-- Carries actions out one after the other. Each answer comes with the path that the handle
has then. -/
def performAll : List FileAction → FileHandle σ →
    List (Except Failure Answer × String) × FileHandle σ
  | [], h => ([], h)
  | action :: rest, h =>
    let (answer, h) := action.perform h
    let path := h.path
    let (answers, h) := performAll rest h
    ((answer, path) :: answers, h)

end FileAction

end CompilerGateway
