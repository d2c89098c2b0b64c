import CompilerGateway.Failure
import CompilerGateway.Settings

/-!
# Events

What the gateway lets a log know of its work. An event has a **level**, the **target** that it
belongs to, a message and fields with values; `Event.level`, `Event.target`, `Event.message`
and `Event.fields` give them. Events that belong to a gateway carry its version label.

The contents of files, of source texts and of metadata are in no event.
-/

namespace CompilerGateway

/-! ### Levels -/

/-- How much an event matters. -/
inductive Level where
  | error
  | warn
  | info
  | debug
  | trace
  deriving DecidableEq

namespace Level

/-- The name of the level in a log. -/
def name : Level → String
  | .error => "ERROR"
  | .warn => "WARN"
  | .info => "INFO"
  | .debug => "DEBUG"
  | .trace => "TRACE"

/-- How far down a log has to go to show the level. -/
def depth : Level → Nat
  | .error => 1
  | .warn => 2
  | .info => 3
  | .debug => 4
  | .trace => 5

end Level

/-! ### Fields -/

/-- The value of a field. -/
inductive FieldValue where
  /-- A text that stands for itself. -/
  | bare (text : String)
  /-- A text that is quoted where other things surround it. -/
  | quoted (text : String)
  /-- A number of things. -/
  | count (n : Nat)
  deriving DecidableEq

/-! ### Entry points -/

/-- What is looked for in a directory. -/
inductive EntryRole where
  /-- The file that a program starts with. -/
  | main
  /-- The file that a library is used through. -/
  | library
  deriving DecidableEq

/-- How a log calls the role. -/
def EntryRole.label : EntryRole → String
  | .main => "Main"
  | .library => "Library"

/-! ### Events -/

/-- Something that happened. -/
inductive Event where
  /-- A backend was attached. -/
  | attached
  /-- A request is about to be made. -/
  | invoking (operation : Operation)
  /-- The backend answered with an error. -/
  | backendFailed (operation : Operation) (error : BackendError)
  /-- The backend answered by raising a value. -/
  | backendRaised (operation : Operation)
  /-- The backend answered without code. -/
  | noCode (operation : Operation)
  /-- A file is about to be written. -/
  | writing (path : String)
  /-- A file is about to be deleted. -/
  | deleting (path : String)
  /-- Aliases are about to be set. -/
  | aliasing (aliases : List (String × String))
  /-- A package is about to be registered. -/
  | registering (name directory : String)
  /-- All registrations are about to be dropped. -/
  | clearing
  /-- A single fetch begins. -/
  | fetching (descriptor : Descriptor)
  /-- One of several fetches begins. -/
  | fetchingNamed (name : String) (descriptor : Descriptor)
  /-- A package was read from a local directory. -/
  | packageRead (path : HostPath) (files : Nat)
  /-- An installation failed. -/
  | installFailed (name : String) (failure : Failure)
  /-- After a failed installation, the registrations could not be dropped. -/
  | clearFailed (failure : Failure)
  /-- After a failed installation, a package could not be registered again. -/
  | restoreFailed (name : String) (failure : Failure)
  /-- A directory in which an entry point is looked for could not be listed. -/
  | directoryUnavailable (directory : String) (failure : Failure)
  /-- The search for an entry point is over. -/
  | entryResolved (directory : String) (role : EntryRole) (resolved : Option String)
  /-- The log was set up. -/
  | telemetryStarted (format : LogFormat) (filter root : String)

namespace Event

/-- How much the event matters. -/
def level : Event → Level
  | .backendFailed _ _ | .backendRaised _ | .installFailed _ _ | .clearFailed _
  | .restoreFailed _ _ => .warn
  | .telemetryStarted _ _ _ => .info
  | _ => .debug

/-- Whether the event is about a request to a backend: that one is about to be attempted, that
it is made, or that it was answered by a fault. -/
def isOfRequest : Event → Bool
  | .invoking _ | .backendFailed _ _ | .backendRaised _ | .writing _ | .deleting _ | .aliasing _
  | .registering _ _ | .clearing => true
  | _ => false

/-- The part of the program that the event belongs to. -/
def target : Event → String
  | .attached => "moc_host::host"
  | .invoking _ | .backendFailed _ _ | .backendRaised _ | .noCode _ => "moc_host::invoke"
  | .writing _ | .deleting _ => "moc_host::vfs"
  | .aliasing _ => "moc_host::aliases"
  | .registering _ _ | .clearing | .fetching _ | .fetchingNamed _ _ | .installFailed _ _
  | .clearFailed _ | .restoreFailed _ _ => "moc_host::package::manager"
  | .packageRead _ _ => "moc_host::package::directory"
  | .directoryUnavailable _ _ | .entryResolved _ _ _ => "moc_host::entry"
  | .telemetryStarted _ _ _ => "moc_host::telemetry"

/-- What the event says. -/
def message : Event → String
  | .attached => "attached compiler backend"
  | .invoking _ => "invoking compiler backend"
  | .backendFailed _ _ => "compiler backend failed"
  | .backendRaised _ => "compiler backend raised a non-error value"
  | .noCode _ => "compiler backend returned no code"
  | .writing _ => "+file"
  | .deleting _ => "-file"
  | .aliasing _ => "aliases"
  | .registering _ _ => "+package"
  | .clearing => "-packages"
  | .fetching _ | .fetchingNamed _ _ => "fetching package"
  | .packageRead _ _ => "read local package"
  | .installFailed _ _ => "package installation failed; restoring registrations"
  | .clearFailed _ => "failed to clear packages during restore"
  | .restoreFailed _ _ => "failed to re-register package during restore"
  | .directoryUnavailable _ _ => "directory unavailable for entry point resolution"
  | .entryResolved _ _ _ => "resolved entry point"
  | .telemetryStarted _ _ _ => "facade telemetry initialised"

/-- The version label of the gateway as the event carries it, if it does. -/
def versionField (version : String) : Event → List (String × FieldValue)
  | .packageRead _ _ | .telemetryStarted _ _ _ => []
  | .fetchingNamed _ _ => [("version", .quoted version)]
  | _ => [("version", .bare version)]

/-- The fields that are the event's own. -/
def ownFields : Event → List (String × FieldValue)
  | .attached | .clearing => []
  | .invoking operation =>
    [("operation", .bare operation.name), ("arguments", .count operation.argumentKinds.length)]
  | .backendFailed operation error =>
    [("operation", .bare operation.name), ("error", .bare error.message)]
  | .backendRaised operation | .noCode operation => [("operation", .bare operation.name)]
  | .writing path | .deleting path => [("path", .quoted path)]
  | .aliasing aliases => [("aliases", .bare (Text.quotePairs aliases))]
  | .registering name directory => [("package", .quoted name), ("directory", .quoted directory)]
  | .fetching descriptor => [("descriptor", .bare descriptor.render)]
  | .fetchingNamed name descriptor =>
    [("package", .quoted name), ("descriptor", .bare descriptor.render)]
  | .packageRead path files => [("path", .bare path.display), ("files", .count files)]
  | .installFailed name failure | .restoreFailed name failure =>
    [("package", .quoted name), ("error", .bare failure.message)]
  | .clearFailed failure => [("error", .bare failure.message)]
  | .directoryUnavailable directory failure =>
    [("directory", .quoted directory), ("error", .bare failure.message)]
  | .entryResolved directory role resolved =>
    [("directory", .quoted directory), ("kind", .bare role.label)]
      ++ resolved.toList.map fun path => ("resolved", .quoted path)
  | .telemetryStarted format filter root =>
    [("format", .bare format.name), ("filter", .quoted filter), ("package_root", .quoted root)]

/-- All fields, for an event of a gateway with the given version label. -/
def fields (version : String) (event : Event) : List (String × FieldValue) :=
  event.versionField version ++ event.ownFields

/-- The names of the fields that an event can have, whether or not this one does, the message
being one of them. -/
def fieldNames (event : Event) : List String :=
  let unresolved := match event with
    | .entryResolved _ _ none => ["resolved"]
    | _ => []
  "message" :: (event.fields "").map Prod.fst ++ unresolved

end Event

end CompilerGateway
