import CompilerGateway.Text.Utf8

/-!
# Paths of the host

A path of the file system of the host, outside of the gateway. It is any sequence of bytes, and
most often a text (`HostPath.ofBytes`).

A path is shown as the text that its bytes are read as (`HostPath.display`, which
`HostPath.display_eq` gives in terms of the bytes). So a path that is a text is shown as that
text, and two paths that are none may be shown alike.
-/

namespace CompilerGateway

/-- A path of the file system of the host. -/
inductive HostPath where
  /-- A path that is a text. -/
  | text (path : String)
  /-- A path whose bytes are no text. -/
  | bytes (raw : List UInt8) (stray : String.fromUTF8? raw.toByteArray = none)
  deriving DecidableEq

namespace HostPath

instance : Coe String HostPath := ⟨text⟩

/-- The path as it is shown. -/
def display : HostPath → String
  | .text path => path
  | .bytes raw _ => String.ofList (Text.lossy raw)

/-! ### Bytes -/

/-- The bytes of the path. -/
def raw : HostPath → List UInt8
  | .text path => Text.bytes path
  | .bytes raw _ => raw

/-- The path with the given bytes. -/
def ofBytes (raw : List UInt8) : HostPath :=
  match found : String.fromUTF8? raw.toByteArray with
  | some path => .text path
  | none => .bytes raw found

theorem raw_ofBytes (raw : List UInt8) : (ofBytes raw).raw = raw := by
  unfold ofBytes
  split
  · rename_i path found
    rw [HostPath.raw, Text.bytes, fromUTF8?_eq_some_iff.mp found, List.data_toByteArray]
  · rfl

theorem ofBytes_raw (path : HostPath) : ofBytes path.raw = path := by
  cases path with
  | text path =>
    have isText : String.fromUTF8? (Text.bytes path).toByteArray = some path := by
      rw [Text.toByteArray_bytes, fromUTF8?_toUTF8]
    rw [raw, ofBytes]
    split
    · rename_i found
      exact congrArg text (Option.some.inj (found.symm.trans isText))
    · rename_i found
      cases found.symm.trans isText
  | bytes raw stray =>
    rw [HostPath.raw, ofBytes]
    split
    · rename_i found
      cases found.symm.trans stray
    · rfl

/-- A path is shown as what its bytes are read as. -/
theorem display_eq (path : HostPath) : path.display = String.ofList (Text.lossy path.raw) := by
  cases path with
  | text path => rw [display, raw, Text.lossy_bytes, String.ofList_toList]
  | bytes raw stray => rfl

end HostPath

end CompilerGateway
