import CompilerGateway.Package.Fetched

/-!
# Fetching through a window

Several packages are fetched at once, but no more than a **window** has room for. Fetches
begin in the order of the package names; they end in any order.

The order in which things happen is not the window's: it is handed a list of `Move`s – begin
the next fetch, end the one for a name – and makes those that are possible at their turn.
`Window.run` says what the moves amount to:

* `Harvest.complete` – every fetch has ended with a package;
* `Harvest.failed` – a fetch has ended without one; nothing after it is looked at;
* `Harvest.abandoned` – the moves ran out before that, as when the caller stops waiting.

A statement about every list of moves is therefore a statement about every way in which
fetches can be interleaved and about every moment at which they can be given up. What a fetch
comes to is looked up by its name and descriptor, and no name is fetched twice; so a statement
about every such look-up is one about sources that answer differently each time, too.
-/

namespace CompilerGateway

/-- Something that happens to a fetch. -/
inductive Move where
  /-- The next fetch begins. -/
  | start
  /-- The fetch for the name ends. -/
  | finish (name : String)
  deriving DecidableEq

/-- A move that was possible, with the package it was about. -/
inductive Milestone where
  | started (name : String) (descriptor : Descriptor)
  | finished (name : String) (descriptor : Descriptor)
  deriving DecidableEq

/-- The beginning or the end of a fetch. -/
inductive FetchEvent where
  | began (descriptor : Descriptor)
  | ended (descriptor : Descriptor)
  deriving DecidableEq

/-- The milestone without the name that the package was requested under. -/
def Milestone.fetchEvent : Milestone → FetchEvent
  | .started _ descriptor => .began descriptor
  | .finished _ descriptor => .ended descriptor

/-- What fetching has come to. -/
inductive Harvest where
  | complete (packages : Table FetchedPackage)
  | failed (error : FetchError)
  | abandoned

/-- Fetches that wait, that are under way and that are done. -/
structure Window where
  /-- How many fetches may be under way at once. If there is no room, none ever begins. -/
  room : Nat
  /-- The fetches that have not begun, in the order in which they will. -/
  waiting : List (String × Descriptor)
  /-- The fetches under way, in the order in which they began. -/
  running : List (String × Descriptor)
  /-- The packages of the fetches that have ended. -/
  collected : Table FetchedPackage

namespace Window

/-- The window before any fetch has begun. -/
def opening (room : Nat) (requested : Table Descriptor) : Window :=
  ⟨room, requested.entries, [], .empty⟩

/-- The fetches that have a place in the window: those under way, and those that may begin
before one of them ends. -/
def inFlight (w : Window) : List (String × Descriptor) :=
  w.running ++ w.waiting.take (w.room - w.running.length)

/-- Whether no fetch waits and none is under way. -/
def isDone (w : Window) : Bool := w.waiting.isEmpty && w.running.isEmpty

/-- The window after the next fetch has begun, if one waits and there is room for it. -/
def start? (w : Window) : Option (Milestone × Window) :=
  match w.waiting with
  | [] => none
  | (name, descriptor) :: rest =>
    if w.running.length < w.room then
      some (.started name descriptor,
        { w with waiting := rest, running := w.running ++ [(name, descriptor)] })
    else none

/-- The window after the fetch for a name has ended, if it is under way; or the error with
which it ended. -/
def finish? (fetch : String → Descriptor → Except FetchError FetchedPackage) (w : Window)
    (name : String) : Option (Milestone × Except FetchError Window) :=
  match w.running.find? (fun request => request.1 == name) with
  | none => none
  | some (_, descriptor) =>
    let remaining := w.running.filter (fun request => request.1 != name)
    some (.finished name descriptor, (fetch name descriptor).map fun package =>
      { w with running := remaining, collected := w.collected.insert name package })

/-- The move, if it is possible. -/
def move? (fetch : String → Descriptor → Except FetchError FetchedPackage) (w : Window) :
    Move → Option (Milestone × Except FetchError Window)
  | .start => w.start?.map fun (milestone, next) => (milestone, .ok next)
  | .finish name => w.finish? fetch name

/-- The moves that were possible, in order, and what they came to. -/
def run (fetch : String → Descriptor → Except FetchError FetchedPackage) :
    List Move → Window → List Milestone × Harvest
  | [], w => ([], if w.isDone then .complete w.collected else .abandoned)
  | move :: rest, w =>
    match w.move? fetch move with
    | none => run fetch rest w
    | some (milestone, .error error) => ([milestone], .failed error)
    | some (milestone, .ok next) =>
      let (milestones, harvest) := run fetch rest next
      (milestone :: milestones, harvest)

end Window

end CompilerGateway
