import Mathlib.Data.List.TakeDrop
import CompilerGateway.Proofs.ByteOrder

/-!
# Which bytes are text

Text is written in UTF-8 as one sequence of one to four bytes for each character. The first byte
of a sequence announces how many follow (`CompilerGateway.Utf8.announced`), each of these adds one
digit to the base 64, and the number that comes out is that of the character. A sequence is in
order (`CompilerGateway.Utf8.IsSequence`) if it is complete, no shorter one has its number, and its
number is that of a character: neither a surrogate nor beyond the last one.

`CompilerGateway.Utf8.WellFormed` says that some bytes are such sequences one after the other, and
`CompilerGateway.Utf8.wellFormed_iff` that it is just these bytes that are a text.
In bytes that are not well-formed there is a place up to which they are, where something stands
that is no sequence, for one of five reasons
(`CompilerGateway.Utf8.Malformed`, `CompilerGateway.Utf8.not_wellFormed_iff`).
-/

namespace CompilerGateway

namespace Utf8

/-! ### Sequences -/

/-- How many bytes follow a first byte, if it is one. -/
def announced (lead : UInt8) : Option Nat :=
  let n := lead.toNat
  if n < 0x80 then some 0
  else if n < 0xC0 then none
  else if n < 0xE0 then some 1
  else if n < 0xF0 then some 2
  else if n < 0xF8 then some 3
  else none

/-- **A byte that follows** another one in a sequence. -/
def Continues (byte : UInt8) : Prop := 0x80 ≤ byte.toNat ∧ byte.toNat < 0xC0

instance (byte : UInt8) : Decidable (Continues byte) := instDecidableAnd

/-- How many numbers there are for the part of a first byte that counts, by how many follow. -/
def radix : Nat → Nat
  | 0 => 0x80
  | 1 => 0x20
  | 2 => 0x10
  | _ => 0x08

/-- The least number that needs so many following bytes. -/
def least : Nat → Nat
  | 0 => 0
  | 1 => 0x80
  | 2 => 0x800
  | _ => 0x10000

/-- **The number** that a sequence stands for. -/
def number (lead : UInt8) (rest : List UInt8) : Nat :=
  rest.foldl (fun n byte => 64 * n + byte.toNat % 64) (lead.toNat % radix rest.length)

/-- **A sequence that is in order.** -/
@[mk_iff]
structure IsSequence (lead : UInt8) (rest : List UInt8) : Prop where
  /-- All bytes are there that the first one announces, -/
  complete : announced lead = some rest.length
  /-- and they are bytes that follow. -/
  continues : ∀ byte ∈ rest, Continues byte
  /-- There is no shorter sequence for the number. -/
  shortest : least rest.length ≤ number lead rest
  /-- The number is not one of the surrogates, -/
  plain : ¬ (0xD800 ≤ number lead rest ∧ number lead rest ≤ 0xDFFF)
  /-- and it is not beyond the last character. -/
  bounded : number lead rest ≤ 0x10FFFF

/-- **The first byte by what it announces.** -/
theorem announced_eq_some_iff {lead : UInt8} {k : Nat} : announced lead = some k ↔
    (k = 0 ∧ lead.toNat < 0x80) ∨ (k = 1 ∧ 0xC0 ≤ lead.toNat ∧ lead.toNat < 0xE0) ∨
    (k = 2 ∧ 0xE0 ≤ lead.toNat ∧ lead.toNat < 0xF0) ∨
    (k = 3 ∧ 0xF0 ≤ lead.toNat ∧ lead.toNat < 0xF8) := by
  simp only [announced]
  split_ifs <;> simp <;> omega

section Shapes

variable {lead a b c : UInt8}

/-! The sequences that are in order, by how many bytes they have. -/

theorem isSequence_nil_iff : IsSequence lead [] ↔ lead.toNat < 0x80 := by
  simp only [isSequence_iff, announced_eq_some_iff, number, radix, least, List.length_nil,
    List.foldl_nil, List.not_mem_nil, IsEmpty.forall_iff, implies_true, true_and]
  omega

theorem isSequence_one_iff : IsSequence lead [a] ↔
    0xC2 ≤ lead.toNat ∧ lead.toNat < 0xE0 ∧ Continues a := by
  simp only [isSequence_iff, announced_eq_some_iff, number, radix, least, List.length_cons,
    List.length_nil, List.foldl_cons, List.foldl_nil, List.forall_mem_cons, List.not_mem_nil,
    IsEmpty.forall_iff, implies_true, true_and, and_true, Continues]
  omega

theorem isSequence_two_iff : IsSequence lead [a, b] ↔
    (0xE0 ≤ lead.toNat ∧ lead.toNat < 0xF0) ∧ Continues a ∧ Continues b ∧
    (lead.toNat = 0xE0 → 0xA0 ≤ a.toNat) ∧ (lead.toNat = 0xED → a.toNat < 0xA0) := by
  simp only [isSequence_iff, announced_eq_some_iff, number, radix, least, List.length_cons,
    List.length_nil, List.foldl_cons, List.foldl_nil, List.forall_mem_cons, List.not_mem_nil,
    IsEmpty.forall_iff, implies_true, true_and, and_true, Continues]
  omega

theorem isSequence_three_iff : IsSequence lead [a, b, c] ↔
    (0xF0 ≤ lead.toNat ∧ lead.toNat < 0xF5) ∧ Continues a ∧ Continues b ∧ Continues c ∧
    (lead.toNat = 0xF0 → 0x90 ≤ a.toNat) ∧ (lead.toNat = 0xF4 → a.toNat < 0x90) := by
  simp only [isSequence_iff, announced_eq_some_iff, number, radix, least, List.length_cons,
    List.length_nil, List.foldl_cons, List.foldl_nil, List.forall_mem_cons, List.not_mem_nil,
    IsEmpty.forall_iff, implies_true, true_and, and_true, Continues]
  omega

end Shapes

/-- **The bytes of a character** are in order. -/
theorem exists_isSequence (c : Char) :
    ∃ lead rest, String.utf8EncodeChar c = lead :: rest ∧ IsSequence lead rest := by
  have plain : c.val.toNat < 0xD800 ∨ 0xDFFF < c.val.toNat := by
    have valid := c.valid
    simp only [UInt32.isValidChar, Nat.isValidChar] at valid
    omega
  rcases Text.utf8EncodeChar_cases c with ⟨_, eq⟩ | ⟨_, _, eq⟩ | ⟨_, _, eq⟩ | ⟨_, _, eq⟩ <;>
    refine ⟨_, _, eq, ?_⟩ <;>
    simp only [isSequence_nil_iff, isSequence_one_iff, isSequence_two_iff, isSequence_three_iff,
      Continues, UInt8.toNat_ofNat'] <;>
    omega

/-- **Bytes in order** are those of a character. -/
theorem IsSequence.exists_char {lead : UInt8} {rest : List UInt8} (inOrder : IsSequence lead rest) :
    ∃ c, String.utf8EncodeChar c = lead :: rest := by
  have valid : (number lead rest).isValidChar := by
    have plain := inOrder.plain
    have bounded := inOrder.bounded
    simp only [Nat.isValidChar]
    omega
  obtain ⟨c, value⟩ : ∃ c : Char, c.val.toNat = number lead rest :=
    ⟨Char.ofNatAux (number lead rest) valid, rfl⟩
  refine ⟨c, ?_⟩
  -- the bytes of the character are as many, and the number has the same digits in either
  have bytes := Text.utf8EncodeChar_cases c
  rw [value] at bytes
  have complete := announced_eq_some_iff.mp inOrder.complete
  match rest with
  | [] | [_] | [_, _] | [_, _, _] =>
    simp only [isSequence_nil_iff, isSequence_one_iff, isSequence_two_iff, isSequence_three_iff,
      Continues] at inOrder
    simp only [number, radix, List.length_cons, List.length_nil, List.foldl_cons, List.foldl_nil]
      at bytes
    rcases bytes with ⟨_, eq⟩ | ⟨_, _, eq⟩ | ⟨_, _, eq⟩ | ⟨_, _, eq⟩ <;>
      simp only [eq, List.cons.injEq, ← UInt8.toNat_inj, UInt8.toNat_ofNat', and_true, and_false,
        reduceCtorEq] <;>
      omega
  | _ :: _ :: _ :: _ :: others =>
    simp only [List.length_cons] at complete
    omega

/-! ### Well-formed bytes -/

/-- **Bytes that are well-formed**: sequences in order, one after the other. -/
inductive WellFormed : List UInt8 → Prop where
  | nil : WellFormed []
  | cons {lead : UInt8} {rest others : List UInt8} : IsSequence lead rest → WellFormed others →
    WellFormed (lead :: (rest ++ others))

theorem wellFormed_flatMap (chars : List Char) :
    WellFormed (chars.flatMap String.utf8EncodeChar) := by
  induction chars with
  | nil => exact .nil
  | cons c chars ih =>
    obtain ⟨lead, rest, eq, inOrder⟩ := exists_isSequence c
    rw [List.flatMap_cons, eq]
    exact .cons inOrder ih

/-- **Well-formed bytes** are those of a text. -/
theorem wellFormed_iff {bytes : List UInt8} :
    WellFormed bytes ↔ ∃ text, Text.bytes text = bytes := by
  constructor
  · intro wellFormed
    induction wellFormed with
    | nil => exact ⟨"", by rw [Text.bytes_eq_flatMap]; rfl⟩
    | cons inOrder _ ih =>
      obtain ⟨c, eq⟩ := inOrder.exists_char
      obtain ⟨text, rfl⟩ := ih
      refine ⟨String.ofList (c :: text.toList), ?_⟩
      rw [Text.bytes_eq_flatMap, Text.bytes_eq_flatMap, String.toList_ofList, List.flatMap_cons, eq,
        List.cons_append]
  · rintro ⟨text, rfl⟩
    rw [Text.bytes_eq_flatMap]
    exact wellFormed_flatMap _

/-- **The first byte** tells how far a sequence goes. -/
theorem IsSequence.append_inj {lead : UInt8} {rest rest' others others' : List UInt8}
    (inOrder : IsSequence lead rest) (complete : announced lead = some rest'.length)
    (same : rest ++ others = rest' ++ others') : rest = rest' ∧ others = others' :=
  List.append_inj same (Option.some.inj (inOrder.complete.symm.trans complete))

theorem wellFormed_cons_iff {lead : UInt8} {after : List UInt8} : WellFormed (lead :: after) ↔
    ∃ rest others, after = rest ++ others ∧ IsSequence lead rest ∧ WellFormed others := by
  constructor
  · intro wellFormed
    generalize all_eq : lead :: after = all at wellFormed
    cases wellFormed with
    | nil => cases all_eq
    | cons inOrder wellFormed =>
      obtain ⟨rfl, rfl⟩ := List.cons.inj all_eq
      exact ⟨_, _, rfl, inOrder, wellFormed⟩
  · rintro ⟨rest, others, rfl, inOrder, wellFormed⟩
    exact .cons inOrder wellFormed

/-- **What follows well-formed bytes** is well-formed if all is. -/
theorem WellFormed.append_iff {before after : List UInt8} (wellFormed : WellFormed before) :
    WellFormed (before ++ after) ↔ WellFormed after := by
  induction wellFormed with
  | nil => rfl
  | cons inOrder _ ih =>
    rw [List.cons_append, List.append_assoc, ← ih, wellFormed_cons_iff]
    constructor
    · rintro ⟨rest', others', same, inOrder', wellFormed'⟩
      obtain ⟨-, rfl⟩ := inOrder.append_inj inOrder'.complete same
      exact wellFormed'
    · exact fun wellFormed' => ⟨_, _, rfl, inOrder, wellFormed'⟩

/-! ### Bytes that are not well-formed -/

/-- **What is wrong** with bytes that do not start with a sequence in order. -/
inductive Malformed (lead : UInt8) (after : List UInt8) : Prop where
  /-- A sequence cannot start so. -/
  | stray : announced lead = none → Malformed lead after
  /-- The sequence is cut short. -/
  | truncated {k : Nat} : announced lead = some k →
    (k ≤ after.length → ∃ byte ∈ after.take k, ¬ Continues byte) → Malformed lead after
  /-- A shorter sequence has the same number. -/
  | overlong {rest others : List UInt8} : after = rest ++ others →
    announced lead = some rest.length → (∀ byte ∈ rest, Continues byte) →
    number lead rest < least rest.length → Malformed lead after
  /-- The number is that of a surrogate. -/
  | surrogate {rest others : List UInt8} : after = rest ++ others →
    announced lead = some rest.length → (∀ byte ∈ rest, Continues byte) →
    0xD800 ≤ number lead rest → number lead rest ≤ 0xDFFF → Malformed lead after
  /-- There is no character so far up. -/
  | beyond {rest others : List UInt8} : after = rest ++ others →
    announced lead = some rest.length → (∀ byte ∈ rest, Continues byte) →
    0x10FFFF < number lead rest → Malformed lead after

/-- **Something is wrong** unless there is a sequence in order. -/
theorem malformed_iff {lead : UInt8} {after : List UInt8} : Malformed lead after ↔
    ¬ ∃ rest others, after = rest ++ others ∧ IsSequence lead rest := by
  constructor
  · rintro malformed ⟨rest, others, rfl, inOrder⟩
    -- the announced bytes are the same ones
    have unique {rest' others' : List UInt8} (same : rest ++ others = rest' ++ others')
        (complete : announced lead = some rest'.length) : rest = rest' :=
      (inOrder.append_inj complete same).1
    cases malformed with
    | stray none => rw [inOrder.complete] at none; cases none
    | truncated complete short =>
      obtain rfl := Option.some.inj (inOrder.complete.symm.trans complete)
      obtain ⟨byte, mem, stops⟩ := short (by simp)
      rw [List.take_left] at mem
      exact stops (inOrder.continues byte mem)
    | overlong same complete _ less =>
      obtain rfl := unique same complete
      exact Nat.not_le.mpr less inOrder.shortest
    | surrogate same complete _ low high =>
      obtain rfl := unique same complete
      exact inOrder.plain ⟨low, high⟩
    | beyond same complete _ more =>
      obtain rfl := unique same complete
      exact Nat.not_le.mpr more inOrder.bounded
  · intro noSequence
    cases complete : announced lead with
    | none => exact .stray complete
    | some k =>
      by_cases full : k ≤ after.length ∧ ∀ byte ∈ after.take k, Continues byte
      · obtain ⟨enough, continues⟩ := full
        have parts : after = after.take k ++ after.drop k := (List.take_append_drop k after).symm
        have complete : announced lead = some (after.take k).length := by
          rw [complete, List.length_take_of_le enough]
        by_contra well
        refine noSequence ⟨after.take k, after.drop k, parts, complete, continues, ?_, ?_, ?_⟩
        · exact Nat.not_lt.mp fun less => well (.overlong parts complete continues less)
        · exact fun ⟨low, high⟩ => well (.surrogate parts complete continues low high)
        · exact Nat.not_lt.mp fun more => well (.beyond parts complete continues more)
      · refine .truncated complete fun enough => ?_
        simpa using fun continues => full ⟨enough, continues⟩

/-- **Bytes are well-formed** unless something is wrong at a place up to which they are. -/
theorem not_wellFormed_iff {bytes : List UInt8} : ¬ WellFormed bytes ↔
    ∃ before lead after, bytes = before ++ lead :: after ∧ WellFormed before ∧
      Malformed lead after := by
  constructor
  · intro notWell
    -- one sequence after the other is taken from the front
    induction size : bytes.length using Nat.strongRecOn generalizing bytes with
    | ind n ih =>
      subst size
      cases bytes with
      | nil => exact absurd .nil notWell
      | cons lead after =>
        by_cases starts : ∃ rest others, after = rest ++ others ∧ IsSequence lead rest
        · obtain ⟨rest, others, rfl, inOrder⟩ := starts
          have shorter : others.length < (lead :: (rest ++ others)).length := by
            rw [List.length_cons, List.length_append]
            omega
          have notWell : ¬ WellFormed others := fun well => notWell (.cons inOrder well)
          obtain ⟨before, lead', after, rfl, wellFormed, malformed⟩ := ih _ shorter notWell rfl
          exact ⟨lead :: (rest ++ before), lead', after, by simp, .cons inOrder wellFormed,
            malformed⟩
        · exact ⟨[], lead, after, rfl, .nil, malformed_iff.mpr starts⟩
  · rintro ⟨before, lead, after, rfl, wellFormed, malformed⟩ all
    obtain ⟨rest, others, rfl, inOrder, -⟩ :=
      wellFormed_cons_iff.mp (wellFormed.append_iff.mp all)
    exact malformed_iff.mp malformed ⟨rest, others, rfl, inOrder⟩

end Utf8

end CompilerGateway
