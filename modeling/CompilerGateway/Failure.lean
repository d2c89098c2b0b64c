import CompilerGateway.Backend
import CompilerGateway.Package.Fetched

/-!
# Failures

Why an operation of the gateway has no result. `Failure.message` is what a reader is told,
`Failure.cause?` what the error underneath says, where there is one. Errors of the backend and
of fetches are passed on in their own words.

A value that the backend raised is shown as it is; of the arguments of the request only the
kinds are shown, never the values.
-/

namespace CompilerGateway

/-- Why an operation has no result. -/
inductive Failure where
  /-- There is no backend. -/
  | noBackend
  /-- There is no such operation, or the backend does not have it. -/
  | noSuchOperation (name : String)
  /-- The backend reported an error. -/
  | reported (error : BackendError)
  /-- The backend raised a value that is no error. -/
  | raised (operation : Operation) (payload : Json)
  /-- The backend produced no code. -/
  | notCompiled (operation : Operation) (diagnostics : List Diagnostic)
  /-- The content for a file is not text. -/
  | notText (path : String)
  /-- There is no such compilation target. -/
  | noSuchMode (mode : String)
  /-- A requested name cannot name a package. -/
  | badName (name : String) (fault : NameFault)
  /-- A fetched package cannot be installed. -/
  | badContent (name : String) (fault : ContentFault)
  /-- A package could not be fetched. -/
  | notFetched (error : FetchError)

namespace Failure

/-- The kinds of the arguments of an operation, as they are shown. -/
def kindsText (operation : Operation) : String :=
  ", ".intercalate (operation.argumentKinds.map ArgumentKind.name)

/-- What a reader is told. -/
def message : Failure → String
  | .noBackend => "load a compiler backend before running this operation"
  | .noSuchOperation name => "unknown compiler operation '" ++ name ++ "'"
  | .reported error => error.message
  | .raised operation payload =>
    "unable to execute " ++ operation.name ++ "(" ++ kindsText operation ++ "):\n"
      ++ payload.render
  | .notCompiled _ diagnostics => Diagnostic.summary diagnostics
  | .notText path => "non-text content for file '" ++ path ++ "'"
  | .noSuchMode mode => "invalid WASM format: " ++ mode
  | .badName name fault =>
    "invalid package name '" ++ name ++ "': " ++ fault.message
  | .badContent name fault =>
    "package '" ++ name ++ "' cannot be installed: " ++ fault.field ++ " '" ++ fault.value
      ++ "' " ++ fault.reason
  | .notFetched error => error.message

/-- What the error underneath says, where there is one. -/
def cause? : Failure → Option String
  | .reported error => error.cause
  | .notFetched error => error.cause?
  | _ => none

/-- The failure that a fault of the backend becomes. -/
def ofFault (operation : Operation) : Fault → Failure
  | .error error => .reported error
  | .raised payload => .raised operation payload

end Failure

end CompilerGateway
