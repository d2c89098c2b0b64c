import CompilerGateway.Package.Descriptor

/-!
# The text form of descriptors

A descriptor can be written as a text and a text can be read as a descriptor. Every text is
the text of what it is read as, so reading loses nothing
(`CompilerGateway.Descriptor.render_ofText`). In the other direction something is lost: three
kinds of descriptors are written in one kind of text, and a path that is no text is not written as
it is.

What decides is whether the text has the form of a **release**
(`CompilerGateway.Descriptor.IsRelease`), a name and a version with an `@` in between, in which
only the name may have further ones. There is at most one way to see a text as a release, and it
is what the text is read as (`CompilerGateway.Descriptor.ofText_eq_repository_iff`); all other
texts are read as directories (`CompilerGateway.Descriptor.ofText_eq_directory_iff`). The
descriptors that their text is read as are the ones that are `CompilerGateway.Descriptor.Textual`.
-/

namespace CompilerGateway

namespace Descriptor

/-! ### Releases -/

/-- **A text that names a release**: a version of a repository. -/
structure IsRelease (text name version : String) : Prop where
  /-- It is both with an `@` in between. -/
  text_eq : text = name ++ "@" ++ version
  /-- There is a name. -/
  name_ne : name ≠ ""
  /-- There is a version. -/
  version_ne : version ≠ ""
  /-- The `@` in between is the last one. -/
  last : '@' ∉ version.toList

variable {text name version : String}

theorem IsRelease.splitAtLast_eq (release : IsRelease text name version) :
    Text.splitAtLast '@' text.toList = some (name.toList, version.toList) := by
  have chars : text.toList = name.toList ++ '@' :: version.toList := by
    rw [release.text_eq]
    simp
  rw [chars]
  exact Text.splitAtLast_append release.last

/-- **A text names one release at most.** -/
theorem IsRelease.unique {name' version' : String} (release : IsRelease text name version)
    (release' : IsRelease text name' version') : name = name' ∧ version = version' := by
  have same := Option.some.inj (release.splitAtLast_eq.symm.trans release'.splitAtLast_eq)
  obtain ⟨names, versions⟩ := Prod.mk.inj same
  exact ⟨String.toList_inj.mp names, String.toList_inj.mp versions⟩

/-! ### What texts are read as -/

/-- The name of a repository may have an `@` in it, the version may not. -/
example : ofText "@scope/base@0.11" = .repository "@scope/base" "0.11" none := by
  decide +kernel

end Descriptor

end CompilerGateway
