import CompilerGateway.Text.Segments

/-!
# Paths of the virtual file system

A path is a text with slashes between its parts. Nothing is resolved: `.` and `..` are names
like any other, and it is for the backend to say what a path leads to.

* `VirtualPath.join` – one path below another, with exactly one slash where they meet. A base
  that consists of slashes alone is the root, and joining onto it leaves no slash in front.
* `VirtualPath.isWithin` – whether a path is a directory or lies below it. The comparison
  goes by whole parts: `app/srcx` is not within `app/src`.
* `VirtualPath.parts` – the non-empty texts between the slashes, against which the two are
  measured.
-/

namespace CompilerGateway

namespace VirtualPath

/-! ### Parts -/

/-- The non-empty texts between the slashes. -/
def parts (path : String) : List String :=
  (Text.pieces '/' path).filter (fun part => part != "")

/-- The path without the slashes it ends with. -/
def withoutTrailing (path : String) : String :=
  String.ofList (Text.trimEnd '/' path.toList)

/-- The path without the slashes it starts with. -/
def withoutLeading (path : String) : String :=
  String.ofList (Text.trimStart '/' path.toList)

/-- The paths without a slash in front and without an empty part, slashes at the end aside. -/
def Normal (path : String) : Prop :=
  path.toList.head? ≠ some '/' ∧
    (withoutTrailing path = "" ∨ "" ∉ Text.pieces '/' (withoutTrailing path))

/-! ### Joining -/

/-- The path `relative` below `base`. -/
def join (base relative : String) : String :=
  let base := withoutTrailing base
  if base = "" then withoutLeading relative else base ++ "/" ++ withoutLeading relative

theorem join_of_root {base relative : String} (h : withoutTrailing base = "") :
    join base relative = withoutLeading relative := by
  simp [join, h]

theorem join_of_ne_root {base relative : String} (h : withoutTrailing base ≠ "") :
    join base relative = withoutTrailing base ++ "/" ++ withoutLeading relative := by
  simp [join, h]

/-! ### Containment -/

/-- Whether `path` is the directory or lies below it. Slashes at the end of the directory
count for nothing, and everything lies within the root. -/
def isWithin (path directory : String) : Bool :=
  let base := withoutTrailing directory
  base == "" || path == base || (base.toList ++ ['/']).isPrefixOf path.toList

end VirtualPath

end CompilerGateway
