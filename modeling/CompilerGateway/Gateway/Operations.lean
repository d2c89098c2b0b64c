import CompilerGateway.AliasTable
import CompilerGateway.Gateway

/-!
# Single requests through the gateway

The operations of the gateway that come to at most one request: the files of the virtual file
system, the compiler proper, aliases and metadata. Each passes its arguments on as they are.

Two of them look at an argument first, before it is known whether there is a backend: content
that is written has to be text, and a compilation target has to be one that exists.
-/

namespace CompilerGateway

namespace Gateway

variable {σ : Type} [Backend σ]

/-! ### Files -/

/-- The content of a file. -/
def read (g : Gateway σ) (path : String) : Except Failure String × Gateway σ :=
  g.exchange (.readFile path)

/-- Writes bytes to a file, if they are text in UTF-8. -/
def write (g : Gateway σ) (path : String) (content : ByteArray) :
    Except Failure Unit × Gateway σ :=
  match String.fromUTF8? content with
  | none => (.error (.notText path), g)
  | some text => (g.log (.writing path)).exchange (.saveFile path text)

/-- Moves a file. -/
def rename (g : Gateway σ) (path target : String) : Except Failure Unit × Gateway σ :=
  g.exchange (.renameFile path target)

/-- Deletes a file. -/
def delete (g : Gateway σ) (path : String) : Except Failure Unit × Gateway σ :=
  (g.log (.deleting path)).exchange (.removeFile path)

/-- The names of the entries of a directory. -/
def list (g : Gateway σ) (directory : String) : Except Failure (List String) × Gateway σ :=
  g.exchange (.readDir directory)

/-! ### The compiler -/

/-- The diagnostics of a file; they are the result, whatever they say. -/
def check (g : Gateway σ) (path : String) : Except Failure (List Diagnostic) × Gateway σ :=
  g.exchange (.check path)

/-- Runs a file. No directories for libraries are the same as none of them. -/
def run (g : Gateway σ) (path : String) (libraries : Option (List String)) :
    Except Failure RunOutput × Gateway σ :=
  g.exchange (.run (libraries.getD []) path)

/-- The compilation target that a text asks for; nothing and the empty text ask for the
standard one. -/
def modeOf : Option String → Except Failure WasmMode
  | none => .ok .standard
  | some name =>
    if name = "" then .ok .standard
    else
      match WasmMode.ofName? name with
      | some mode => .ok mode
      | none => .error (.noSuchMode name)

/-- Compiles a file to a module. -/
def compile (g : Gateway σ) (path : String) (mode : Option String) :
    Except Failure WasmArtifact × Gateway σ :=
  match modeOf mode with
  | .error failure => (.error failure, g)
  | .ok mode => codeOf .compileWasm (g.exchange (.compileWasm mode path))

/-- The interface of a file. -/
def interface (g : Gateway σ) (path : String) : Except Failure String × Gateway σ :=
  codeOf .candid (g.exchange (.candid path))

/-- A source text as a tree. -/
def sourceTree (g : Gateway σ) (content : String) : Except Failure Json × Gateway σ :=
  codeOf .parseMotoko (g.exchange (.parseMotoko content))

/-- A source text as a tree with its type. -/
def typedSourceTree (g : Gateway σ) (content : String) : Except Failure TypedAst × Gateway σ :=
  codeOf .parseMotokoTypes (g.exchange (.parseMotokoTypes content))

/-- The text of an interface as a tree. -/
def interfaceTree (g : Gateway σ) (content : String) : Except Failure Json × Gateway σ :=
  codeOf .parseCandid (g.exchange (.parseCandid content))

/-! ### Aliases and metadata -/

/-- Lets names stand for actors. -/
def setAliases (g : Gateway σ) (aliases : AliasTable) : Except Failure Unit × Gateway σ :=
  (g.log (.aliasing aliases.pairs)).exchange (.setActorAliases aliases.pairs)

/-- Marks parts of the metadata of modules as public. -/
def setMetadata (g : Gateway σ) (values : String) : Except Failure Unit × Gateway σ :=
  g.exchange (.setPublicMetadata values)

end Gateway

end CompilerGateway
