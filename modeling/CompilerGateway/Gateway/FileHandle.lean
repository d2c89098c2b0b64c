import CompilerGateway.Gateway.Operations

/-!
# File handles

A handle is a gateway together with the path of one file. Each of its operations is the
operation of the gateway on that path, and none of them changes the path except
`FileHandle.rename`, which does so where the backend moved the file: the handle follows the
file.
-/

namespace CompilerGateway

/-- A file of a gateway, by the path that it has now. -/
structure FileHandle (σ : Type) where
  /-- The path. -/
  path : String
  /-- The gateway. -/
  gateway : Gateway σ

/-- A handle on the file of the given path, which need not be there. -/
def Gateway.file {σ : Type} (g : Gateway σ) (path : String) : FileHandle σ := ⟨path, g⟩

namespace FileHandle

variable {σ : Type}

/-- Uses the gateway on the path. -/
def use {α : Type} (operate : Gateway σ → String → α × Gateway σ) (h : FileHandle σ) :
    α × FileHandle σ :=
  let (result, gateway) := operate h.gateway h.path
  (result, { h with gateway := gateway })

variable [Backend σ]

/-! ### The file -/

/-- The content. -/
def read (h : FileHandle σ) : Except Failure String × FileHandle σ := h.use Gateway.read

/-- Gives the file a content. -/
def write (content : ByteArray) (h : FileHandle σ) : Except Failure Unit × FileHandle σ :=
  h.use fun g path => g.write path content

/-- Moves the file. The handle follows if the file has moved. -/
def rename (target : String) (h : FileHandle σ) : Except Failure Unit × FileHandle σ :=
  match h.use fun g path => g.rename path target with
  | (.ok (), h) => (.ok (), { h with path := target })
  | (.error failure, h) => (.error failure, h)

/-- Deletes the file. The handle keeps its path. -/
def delete (h : FileHandle σ) : Except Failure Unit × FileHandle σ := h.use Gateway.delete

/-! ### The compiler -/

/-- The diagnostics. -/
def check (h : FileHandle σ) : Except Failure (List Diagnostic) × FileHandle σ :=
  h.use Gateway.check

/-- Runs the file. -/
def run (libraries : Option (List String)) (h : FileHandle σ) :
    Except Failure RunOutput × FileHandle σ :=
  h.use fun g path => g.run path libraries

/-- Compiles the file to a module. -/
def compile (mode : Option String) (h : FileHandle σ) :
    Except Failure WasmArtifact × FileHandle σ :=
  h.use fun g path => g.compile path mode

/-- The interface. -/
def interface (h : FileHandle σ) : Except Failure String × FileHandle σ := h.use Gateway.interface

/-- The content as a tree. -/
def sourceTree (h : FileHandle σ) : Except Failure Json × FileHandle σ :=
  match h.read with
  | (.ok content, h) => h.use fun g _ => g.sourceTree content
  | (.error failure, h) => (.error failure, h)

/-- The content as a tree with its type. -/
def typedSourceTree (h : FileHandle σ) : Except Failure TypedAst × FileHandle σ :=
  match h.read with
  | (.ok content, h) => h.use fun g _ => g.typedSourceTree content
  | (.error failure, h) => (.error failure, h)

end FileHandle

end CompilerGateway
