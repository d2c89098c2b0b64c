import CompilerGateway.Table
import CompilerGateway.Text.Utf8

/-!
# The order of names is the order of their bytes

Names are compared character by character. In UTF-8 a greater character has a greater byte
where its bytes first differ from those of the lesser one
(`CompilerGateway.Text.utf8EncodeChar_append_lt`), so comparing the bytes of two names comes to
the same (`CompilerGateway.Text.bytes_lt_iff`), and the names of a table ascend in the order of
their bytes, too (`CompilerGateway.Table.pairwise_bytes`).
-/

namespace CompilerGateway

namespace Text

/-- The bytes of a character, by the number of bits that its number takes. -/
theorem utf8EncodeChar_cases (c : Char) :
    let n := c.val.toNat
    (n < 0x80 ∧ String.utf8EncodeChar c = [UInt8.ofNat n]) ∨
    (0x80 ≤ n ∧ n < 0x800 ∧ String.utf8EncodeChar c =
      [UInt8.ofNat (n / 64 % 32 + 192), UInt8.ofNat (n % 64 + 128)]) ∨
    (0x800 ≤ n ∧ n < 0x10000 ∧ String.utf8EncodeChar c =
      [UInt8.ofNat (n / 64 / 64 % 16 + 224), UInt8.ofNat (n / 64 % 64 + 128),
        UInt8.ofNat (n % 64 + 128)]) ∨
    (0x10000 ≤ n ∧ n < 0x110000 ∧ String.utf8EncodeChar c =
      [UInt8.ofNat (n / 64 / 64 / 64 % 8 + 240), UInt8.ofNat (n / 64 / 64 % 64 + 128),
        UInt8.ofNat (n / 64 % 64 + 128), UInt8.ofNat (n % 64 + 128)]) := by
  intro n
  have bound : n < 0x110000 := by
    have valid := c.valid
    simp only [UInt32.isValidChar, Nat.isValidChar] at valid
    omega
  have twice : n / 4096 = n / 64 / 64 := by omega
  have thrice : n / 262144 = n / 64 / 64 / 64 := by omega
  rw [String.utf8EncodeChar]
  change _ ∨ _ ∨ _ ∨ _
  by_cases one : n ≤ 127
  · exact .inl ⟨Nat.lt_succ_of_le one, if_pos one⟩
  · by_cases two : n ≤ 2047
    · exact .inr (.inl ⟨Nat.lt_of_not_le one, Nat.lt_succ_of_le two,
        (if_neg one).trans (if_pos two)⟩)
    · rw [← thrice, ← twice]
      by_cases three : n ≤ 65535
      · exact .inr (.inr (.inl ⟨Nat.lt_of_not_le two, Nat.lt_succ_of_le three,
          (if_neg one).trans ((if_neg two).trans (if_pos three))⟩))
      · exact .inr (.inr (.inr ⟨Nat.lt_of_not_le three, bound,
          (if_neg one).trans ((if_neg two).trans (if_neg three))⟩))

/-- **The bytes of a lesser character are less**, whatever comes after the two. -/
theorem utf8EncodeChar_append_lt {c d : Char} (less : c < d) (after after' : List UInt8) :
    String.utf8EncodeChar c ++ after < String.utf8EncodeChar d ++ after' := by
  have order : c.val.toNat < d.val.toNat := less
  -- either the first byte gives the number of bytes away, or the numbers are compared digit by
  -- digit to the base 64
  rcases utf8EncodeChar_cases c with ⟨_, eq⟩ | ⟨_, _, eq⟩ | ⟨_, _, eq⟩ | ⟨_, _, eq⟩ <;>
    rcases utf8EncodeChar_cases d with ⟨_, eq'⟩ | ⟨_, _, eq'⟩ | ⟨_, _, eq'⟩ | ⟨_, _, eq'⟩ <;>
    rw [eq, eq'] <;>
    simp only [List.cons_append, List.nil_append, List.cons_lt_cons_iff, UInt8.lt_iff_toNat_lt,
      ← UInt8.toNat_inj, UInt8.toNat_ofNat'] <;>
    omega

theorem flatMap_utf8EncodeChar_lt {text other : List Char} (less : text < other) :
    text.flatMap String.utf8EncodeChar < other.flatMap String.utf8EncodeChar := by
  induction text generalizing other with
  | nil =>
    cases other with
    | nil => cases less
    | cons d rest =>
      rw [List.flatMap_nil, List.flatMap_cons]
      have some : String.utf8EncodeChar d ≠ [] := by
        rcases utf8EncodeChar_cases d with ⟨_, eq⟩ | ⟨_, _, eq⟩ | ⟨_, _, eq⟩ | ⟨_, _, eq⟩ <;>
          simp [eq]
      obtain ⟨byte, bytes, eq⟩ := List.exists_cons_of_ne_nil some
      rw [eq]
      exact List.nil_lt_cons byte _
  | cons c text ih =>
    cases other with
    | nil => cases less
    | cons d rest =>
      rw [List.flatMap_cons, List.flatMap_cons]
      rcases List.cons_lt_cons_iff.mp less with first | ⟨rfl, others⟩
      · exact utf8EncodeChar_append_lt first _ _
      · exact List.append_left_lt (ih others)

/-- **Names are in the order of their bytes.** -/
theorem bytes_lt_iff {text other : String} : bytes text < bytes other ↔ text < other := by
  have forward {a b : String} (less : a < b) : bytes a < bytes b := by
    rw [bytes_eq_flatMap, bytes_eq_flatMap]
    exact flatMap_utf8EncodeChar_lt (String.lt_iff.mp less)
  refine ⟨fun less => Decidable.byContradiction fun notLess => ?_, forward⟩
  rcases Decidable.em (other < text) with more | notMore
  · exact List.lt_asymm less (forward more)
  · obtain rfl := String.le_antisymm (String.not_lt.mp notMore) (String.not_lt.mp notLess)
    exact List.lt_irrefl _ less

end Text

/-- **The names of a table ascend** in the order of their bytes. -/
theorem Table.pairwise_bytes {α : Type} (t : Table α) :
    t.names.Pairwise fun name other => Text.bytes name < Text.bytes other := by
  rw [Table.names, List.pairwise_map]
  exact t.sorted.imp Text.bytes_lt_iff.mpr

end CompilerGateway
