import Mathlib.Data.List.Forall2
import CompilerGateway.Proofs.Invocation
import CompilerGateway.Proofs.WireForm

/-!
# Outcomes without a tag

A compiler that answers in JSON does not say whether there is code. The value in the code field
decides: some values stand for there being none (`CompilerGateway.Json.Vacant`), and these are
looked for **before** the value is read as a value of the type asked for. So whether there is code
does not depend on that type, and where there is none, nothing can go wrong in reading it
(`CompilerGateway.RawOutcome.resolve_of_vacant`).

A number stands for no code if it is zero. For a floating-point number that is a matter of its
bits: only the two zeros are zero, and the least of the others is not
(`CompilerGateway.Binary64.isZero_iff`).

From there on the diagnostics are carried along. `CompilerGateway.RawOutcome.Received` says which
ones they are, `CompilerGateway.RawOutcome.unwrapped` what becomes of them and of the code, up to
the answer that an operation of the gateway gives.
-/

namespace CompilerGateway

/-! ### Values that stand for no code -/

/-- **Only the two zeros are zero.** -/
theorem Binary64.isZero_iff (x : Binary64) :
    x.isZero = true ↔ x.bits = 0 ∨ x.bits = 0x8000000000000000 := by
  have below : x.bits.toNat < 2 ^ 64 := x.bits.toNat_lt
  rw [isZero, beq_iff_eq, significand, exponentField, fractionField, Nat.shiftRight_eq_div_pow,
    ← UInt64.toNat_inj, ← UInt64.toNat_inj]
  change _ ↔ x.bits.toNat = 0 ∨ x.bits.toNat = 0x8000000000000000
  split <;> omega

/-- **A value that stands for no code.** -/
inductive Json.Vacant : Json → Prop where
  | null : Vacant .null
  | no : Vacant (.bool false)
  | zero : Vacant (.int 0)
  /-- The zeros of either sign. -/
  | float {x : Binary64} : x.bits = 0 ∨ x.bits = 0x8000000000000000 → Vacant (.float x)
  | empty : Vacant (.str "")

/-- What does not count as present stands for no code. -/
theorem Json.isPresent_eq_false_iff (value : Json) : value.isPresent = false ↔ value.Vacant := by
  constructor
  · intro absent
    cases value with
    | null => exact .null
    | bool value =>
      obtain rfl : value = false := absent
      exact .no
    | int value =>
      obtain rfl : value = 0 := by simpa [isPresent] using absent
      exact .zero
    | float value => exact .float (value.isZero_iff.mp (by simpa [isPresent] using absent))
    | str value =>
      obtain rfl : value = "" := by simpa [isPresent] using absent
      exact .empty
    | arr items => cases absent
    | obj fields => cases absent
  · intro vacant
    cases vacant with
    | float zero => simp [isPresent, (Binary64.isZero_iff _).mpr zero]
    | _ => rfl

/-! ### What is received -/

namespace Decoder

variable {α : Type} {item : Decoder α}

/-- Items are read one by one. -/
theorem mapM_eq_ok_iff {items : List Json} {values : List α} :
    items.mapM item = .ok values ↔ List.Forall₂ (fun i a => item i = .ok a) items values := by
  induction items generalizing values with
  | nil => cases values <;> simp [pure, Except.pure]
  | cons i rest ih =>
    rw [List.mapM_cons]
    cases first : item i with
    | error error => cases values <;> simp [bind, Except.bind, first]
    | ok a =>
      cases others : rest.mapM item with
      | error error => cases values <;> simp [bind, Except.bind, first, ← ih, others]
      | ok more =>
        cases values <;> simp [bind, Except.bind, pure, Except.pure, first, ← ih, others]

/-- **An array is read** item by item. -/
theorem list_eq_ok_iff {found : Json} {values : List α} :
    list item found = .ok values ↔
      ∃ items, found = .arr items ∧ List.Forall₂ (fun i a => item i = .ok a) items values := by
  cases found with
  | arr items => simp [list, mapM_eq_ok_iff]
  | _ => simp [list]

end Decoder

/-! ### Fields that may be left out -/

namespace RecordDecoder

variable {α β : Type} {name : String} {default : α} {decode : Decoder α}

/-- A field of an object has its default if it is left out. -/
theorem fromFields_defaulted_eq_value_iff {lookup : String → Option Json} {a : α} :
    (defaulted name default decode).fromFields lookup = .value a ↔
      (lookup name = none ∧ default = a) ∨
        ∃ found, lookup name = some found ∧ decode found = .ok a := by
  cases present : lookup name with
  | none => simp [defaulted, present]
  | some found => cases decoded : decode found <;> simp [defaulted, present, decoded]

/-- A field of an array has its default if the array has ended. -/
theorem fromItems_defaulted_eq_ok_iff {short : Nat → DecodeError} {position : Nat}
    {items rest : List Json} {a : α} :
    (defaulted name default decode).fromItems short position items = .ok (a, rest) ↔
      (items = [] ∧ default = a ∧ rest = []) ∨
        ∃ found, items = found :: rest ∧ decode found = .ok a := by
  cases items with
  | nil => simp [defaulted, eq_comm]
  | cons found left =>
    cases decoded : decode found <;> simp [defaulted, decoded, Except.map]
    exact and_comm

end RecordDecoder

namespace RawOutcome

/-- **Where the code stands**: in the field of its name, or first in an array. -/
def codeIn? : Json → Option Json
  | .obj fields => Table.findEntry "code" fields
  | .arr items => items[0]?
  | _ => none

/-- **Where the diagnostics stand**: in the field of their name, or second in an array. -/
def diagnosticsIn? : Json → Option Json
  | .obj fields => Table.findEntry "diagnostics" fields
  | .arr items => items[1]?
  | _ => none

/-- **There is no code**: nothing is in its place, or a value that stands for no code. -/
def LacksCode (found : Json) : Prop := ∀ code, codeIn? found = some code → code.Vacant

/-- **The diagnostics that are received**: those in an array, in their order, and no list where
there is nothing or `null`. -/
inductive Received : Option Json → Option (List Diagnostic) → Prop where
  | absent : Received none none
  | null : Received (some .null) none
  | list {items : List Json} {diagnostics : List Diagnostic} :
    List.Forall₂ (fun item d => Diagnostic.decode item = .ok d) items diagnostics →
    Received (some (.arr items)) (some diagnostics)

variable {found : Json} {raw : RawOutcome}

theorem received_of_nullable {diagnostics : Option (List Diagnostic)}
    (read : Decoder.nullable (.list Diagnostic.decode) found = .ok diagnostics) :
    Received (some found) diagnostics := by
  rw [Decoder.nullable.eq_def] at read
  split at read
  · obtain rfl := Except.ok.inj read
    exact .null
  · cases listed : Decoder.list Diagnostic.decode found with
    | error error =>
      rw [listed] at read
      cases read
    | ok list =>
      rw [listed] at read
      obtain rfl := Except.ok.inj read
      obtain ⟨items, rfl, both⟩ := Decoder.list_eq_ok_iff.mp listed
      exact .list both

/-- The fields of an object. -/
theorem of_fromFields {lookup : String → Option Json}
    (read : record.fromFields lookup = .value raw) :
    raw.code = (lookup "code").getD .null ∧ Received (lookup "diagnostics") raw.diagnostics := by
  rw [record, RecordDecoder.fromFields_and, Reading.apply_eq_value_iff] at read
  obtain ⟨f, diagnostics, front, back, rfl⟩ := read
  rw [RecordDecoder.fromFields_and, Reading.apply_eq_value_iff] at front
  obtain ⟨_, code, made, front, rfl⟩ := front
  cases made
  rw [RecordDecoder.fromFields_defaulted_eq_value_iff] at front back
  constructor
  · rcases front with ⟨missing, rfl⟩ | ⟨found, present, decoded⟩
    · rw [missing, Option.getD_none]
    · rw [present, Option.getD_some]
      exact (Except.ok.inj decoded).symm
  · rcases back with ⟨missing, rfl⟩ | ⟨found, present, decoded⟩
    · rw [missing]
      exact .absent
    · rw [present]
      exact received_of_nullable decoded

/-- The items of an array. -/
theorem of_fromItems {short : Nat → DecodeError} {position : Nat} {items : List Json}
    (read : record.fromItems short position items = .ok (raw, [])) :
    raw.code = items[0]?.getD .null ∧ Received items[1]? raw.diagnostics := by
  obtain ⟨f, left, diagnostics, front, back, rfl⟩ := RecordDecoder.exists_of_fromItems_and read
  obtain ⟨_, _, code, made, front, rfl⟩ := RecordDecoder.exists_of_fromItems_and front
  cases made
  rw [RecordDecoder.fromItems_defaulted_eq_ok_iff] at front back
  rcases front with ⟨rfl, rfl, rfl⟩ | ⟨found, rfl, decoded⟩
  · rcases back with ⟨-, rfl, -⟩ | ⟨found, more, -⟩
    · exact ⟨rfl, .absent⟩
    · cases more
  · refine ⟨(Except.ok.inj decoded).symm, ?_⟩
    rcases back with ⟨rfl, rfl, -⟩ | ⟨found, rfl, decoded⟩
    · exact .absent
    · exact received_of_nullable decoded

/-- **What is read** is the code in its place, or `null` if it is missing, and the diagnostics
that are received. -/
theorem of_decode (read : decode found = .ok raw) :
    raw.code = (codeIn? found).getD .null ∧ Received (diagnosticsIn? found) raw.diagnostics := by
  rcases record.exists_of_decode read with ⟨fields, rfl, fits⟩ | ⟨items, rfl, fits⟩
  · exact of_fromFields fits
  · exact of_fromItems fits

theorem vacant_code_iff (read : decode found = .ok raw) : raw.code.Vacant ↔ LacksCode found := by
  rw [(of_decode read).1, LacksCode]
  cases codeIn? found with
  | none => simp [Json.Vacant.null]
  | some code => simp

/-! ### What it is resolved to -/

variable {α : Type}

/-- **Where there is no code**, none is read, whatever the type. -/
theorem resolve_of_vacant (vacant : raw.code.Vacant) (decode : Decoder α) :
    raw.resolve decode = .ok (.ofParts none raw.diagnostics) := by
  rw [resolve, (Json.isPresent_eq_false_iff _).mpr vacant]
  rfl

/-- **Any other value** has to be code. -/
theorem resolve_of_not_vacant (present : ¬ raw.code.Vacant) (decode : Decoder α) :
    raw.resolve decode =
      (decode raw.code).map fun code => .ofParts (some code) raw.diagnostics := by
  rw [← Json.isPresent_eq_false_iff, Bool.not_eq_false] at present
  rw [resolve, if_pos present]
  rfl

end RawOutcome

/-! ### What an operation makes of it -/

/-- **The code of an outcome**, or the failure that there is none, with the diagnostics that say
why. -/
def Outcome.unwrap {α : Type} (operation : Operation) : Outcome α → Except Failure α
  | .produced code _ => .ok code
  | .refused diagnostics => .error (.notCompiled operation (diagnostics.getD []))

/-- **The backend answers by way of a raw outcome**: where this is an outcome of the type asked
for, and the backend answers with it, the result is its code. -/
def RawOutcome.Unwraps {α : Type} (raw : RawOutcome) (operation : Operation) (decode : Decoder α)
    (answered : Except Fault (Outcome α)) (result : Except Failure α) : Prop :=
  ∀ outcome, raw.resolve decode = .ok outcome → answered = .ok outcome →
    result = outcome.unwrap operation

namespace Gateway

variable {σ : Type} [Backend σ] {g : Gateway σ} {backend : σ} {α : Type}

theorem fst_exchange_of_respond {request : Request} {reply : request.Reply}
    (present : g.backend = some backend)
    (supported : Backend.supports backend request.operation = true)
    (answered : (Backend.respond request backend).1 = .ok reply) :
    (g.exchange request).1 = .ok reply := by
  rw [exchange_fst, present]
  simp only [Backend.reply, supported, if_true, answered]

omit [Backend σ] in
theorem fst_codeOf_of_ok {operation : Operation}
    {exchanged : Except Failure (Outcome α) × Gateway σ} {outcome : Outcome α}
    (result : exchanged.1 = .ok outcome) :
    (codeOf operation exchanged).1 = outcome.unwrap operation := by
  obtain ⟨answer, h⟩ := exchanged
  cases result
  cases outcome <;> rfl

end Gateway

/-- What is said of a failure for want of code. -/
theorem Failure.message_notCompiled (operation : Operation) (diagnostics : List Diagnostic) :
    (notCompiled operation diagnostics).message =
      if diagnostics = [] then "(no diagnostics)"
      else "; ".intercalate (diagnostics.map Diagnostic.message) := by
  cases diagnostics <;> rfl

/-! ### The law -/

/-- **Code and what stands for none.** Whatever type is asked for, a raw outcome is resolved to a
refusal just if its code is missing or is `null`, `false`, a zero or the empty text, and then
nothing is read. Any other value has to be code of that type: it is the code that was produced, or
the error of reading it is the error. The diagnostics are those that were received. Where a
backend answers like that, an operation that asks for code gives the code, whatever was said about
it, or else fails with the diagnostics, in one line if there are any. -/
theorem RawOutcome.unwrapped {found : Json} {raw : RawOutcome} (read : decode found = .ok raw) :
    Received (diagnosticsIn? found) raw.diagnostics ∧
    (∀ {α : Type} (decode : Decoder α),
      ((∃ diagnostics, raw.resolve decode = .ok (.refused diagnostics)) ↔ LacksCode found) ∧
      (LacksCode found →
        raw.resolve decode = .ok (.refused raw.diagnostics) ∧
        raw.resolve decode = .ok (.ofParts none raw.diagnostics)) ∧
      ∀ code, codeIn? found = some code → ¬ code.Vacant →
        (∀ a, raw.resolve decode = .ok (.produced a (raw.diagnostics.getD [])) ↔
          decode code = .ok a) ∧
        (∀ error, raw.resolve decode = .error error ↔ decode code = .error error) ∧
        raw.resolve decode = (decode code).map fun a => .ofParts (some a) raw.diagnostics) ∧
    (∀ {σ : Type} [Backend σ] (g : Gateway σ) (backend : σ), g.backend = some backend →
      (Backend.supports backend .compileWasm = true → ∀ path mode m, Gateway.modeOf mode = .ok m →
        raw.Unwraps .compileWasm WasmArtifact.decode
          (Backend.respond (.compileWasm m path) backend).1 (g.compile path mode).1) ∧
      (Backend.supports backend .candid = true → ∀ path,
        raw.Unwraps .candid .text (Backend.respond (.candid path) backend).1
          (g.interface path).1) ∧
      (Backend.supports backend .parseMotoko = true → ∀ content,
        raw.Unwraps .parseMotoko .any (Backend.respond (.parseMotoko content) backend).1
          (g.sourceTree content).1) ∧
      (Backend.supports backend .parseMotokoTypes = true → ∀ content,
        raw.Unwraps .parseMotokoTypes TypedAst.decode
          (Backend.respond (.parseMotokoTypes content) backend).1 (g.typedSourceTree content).1) ∧
      (Backend.supports backend .parseCandid = true → ∀ content,
        raw.Unwraps .parseCandid .any (Backend.respond (.parseCandid content) backend).1
          (g.interfaceTree content).1)) ∧
    ∀ operation diagnostics, (Failure.notCompiled operation diagnostics).message =
      if diagnostics = [] then "(no diagnostics)"
      else "; ".intercalate (diagnostics.map Diagnostic.message) := by
  obtain ⟨code_eq, received⟩ := of_decode read
  have vacant_iff := vacant_code_iff read
  refine ⟨received, fun {α} decode => ⟨⟨?refused, fun lacks => ?lacks⟩, fun lacks => ?none,
    fun code present filled => ?some⟩, fun {σ} _ g backend present => ?operations,
    Failure.message_notCompiled⟩
  case refused =>
    rintro ⟨diagnostics, resolved⟩
    by_contra some
    rw [resolve_of_not_vacant (mt vacant_iff.mp some)] at resolved
    cases decoded : decode raw.code <;> rw [decoded] at resolved <;> cases resolved
  case lacks => exact ⟨_, resolve_of_vacant (vacant_iff.mpr lacks) decode⟩
  case none =>
    have resolved := resolve_of_vacant (vacant_iff.mpr lacks) decode
    exact ⟨resolved, resolved⟩
  case some =>
    rw [present, Option.getD_some] at code_eq
    subst code_eq
    have resolved := resolve_of_not_vacant filled decode
    refine ⟨fun a => ?_, fun error => ?_, resolved⟩ <;> rw [resolved] <;>
      cases decode raw.code <;> simp [Except.map, Outcome.ofParts]
  case operations =>
    refine ⟨fun supported path mode m mode_eq outcome _ answered => ?_,
      fun supported path outcome _ answered => ?_, fun supported content outcome _ answered => ?_,
      fun supported content outcome _ answered => ?_,
      fun supported content outcome _ answered => ?_⟩
    · rw [Gateway.compile, mode_eq]
      exact Gateway.fst_codeOf_of_ok (Gateway.fst_exchange_of_respond present supported answered)
    all_goals
      exact Gateway.fst_codeOf_of_ok (Gateway.fst_exchange_of_respond present supported answered)

/-- A backend is asked for the interface of a file and answers with the negative zero for code. -/
theorem RawOutcome.unwrapped_negativeZero :
    let zero : Binary64 := ⟨0x8000000000000000, by decide⟩
    let d (message : String) : Diagnostic :=
      ⟨none, message, ⟨⟨0, 0⟩, ⟨0, 0⟩⟩, .error, none, []⟩
    let fields := [("code", Json.float zero),
      ("diagnostics", Json.arr [(d "A").encode, (d "B").encode])]
    let raw : RawOutcome := ⟨.float zero, some [d "A", d "B"]⟩
    let backend := Scripted.ofFiles .empty [] fun _ => [.value (.obj fields)]
    let g : Gateway Scripted := ⟨"0.14.0", .standard, some backend, .empty, []⟩
    decode (.obj fields) = .ok raw ∧ LacksCode (.obj fields) ∧
      raw.resolve Decoder.text = .ok (.refused (some [d "A", d "B"])) ∧
      (g.interface "Main.mo").1 = .error (.notCompiled .candid [d "A", d "B"]) ∧
      (Failure.notCompiled .candid [d "A", d "B"]).message = "A; B" := by
  intro zero d fields raw backend g
  have canonical (message : String) : (d message).Canonical := Severity.canonical_ofLabel "error"
  have listed : Decoder.list Diagnostic.decode (.arr [(d "A").encode, (d "B").encode]) =
      .ok [d "A", d "B"] :=
    Decoder.list_eq_ok_iff.mpr ⟨_, rfl, .cons (Diagnostic.decode_encode (canonical "A"))
      (.cons (Diagnostic.decode_encode (canonical "B")) .nil)⟩
  have diagnostics : (RecordDecoder.defaulted "diagnostics" none
      (.nullable (.list Diagnostic.decode))).Finds fields (some [d "A", d "B"]) := by
    refine .defaulted rfl ?_
    rw [Decoder.nullable, listed]
    · rfl
    · exact Json.noConfusion
  have code : (RecordDecoder.defaulted "code" Json.null .any).Finds fields (.float zero) :=
    .defaulted rfl rfl
  have read : decode (.obj fields) = .ok raw :=
    RecordDecoder.Finds.decode (((RecordDecoder.Finds.pure RawOutcome.mk).and code).and diagnostics)
  obtain ⟨-, resolves, operations, message⟩ := unwrapped read
  have lacks : LacksCode (.obj fields) := by
    intro code present
    obtain rfl := Option.some.inj present
    exact .float (.inr rfl)
  obtain ⟨resolved, -⟩ := (resolves Decoder.text).2.1 lacks
  obtain ⟨-, interface, -⟩ := operations g backend rfl
  have answered : (Backend.respond (.candid "Main.mo") backend).1 =
      .ok (.refused (some [d "A", d "B"])) := by
    have reply : Request.readReply (.candid "Main.mo") (.obj fields) =
        .ok (.refused (some [d "A", d "B"])) := by
      rw [Request.readReply, Decoder.outcome, read]
      exact resolved
    simp only [Backend.respond, Scripted.respond, Scripted.takeCue, backend, Scripted.ofFiles,
      reply]
  have line : (Failure.notCompiled .candid [d "A", d "B"]).message = "A; B" := by
    rw [message, if_neg (List.cons_ne_nil _ _)]
    decide +kernel
  exact ⟨read, lacks, resolved, interface rfl "Main.mo" _ resolved answered, line⟩

end CompilerGateway
