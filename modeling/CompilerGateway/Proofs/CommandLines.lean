import Mathlib.Data.List.Nodup
import CompilerGateway.Settings.Flags

/-!
# Command lines that can be read

A flag and its value can be spelled in several ways, all of which come to the same:
`CompilerGateway.Spelling` lists them. A command line that spells flags one after the other is read
as just these flags (`CompilerGateway.Flags.read_of_spells`), and if every flag takes its value and
none is repeated, the command line says what each flag says
(`CompilerGateway.CommandLine.parse?_of_spells`). The order of the flags does not matter then, as
what a flag says is looked up by the flag (`CompilerGateway.CommandLine.ofFlags_perm`).
-/

namespace CompilerGateway

/-! ### Spellings -/

/-- **How a flag and its value stand on a command line.** A value that is an argument by itself
must not look like a flag, and one that follows a letter without an equals sign must be there, and
not start with one. -/
inductive Spelling (flag : Flag) (value : String) : List String → Prop where
  | long : Argument.looksLikeFlag value = false → Spelling flag value ["--" ++ flag.long, value]
  | longEquals : Spelling flag value ["--" ++ flag.long ++ "=" ++ value]
  | short (letter : Char) : flag.short? = some letter → Argument.looksLikeFlag value = false →
    Spelling flag value ["-" ++ letter.toString, value]
  | shortEquals (letter : Char) : flag.short? = some letter →
    Spelling flag value ["-" ++ letter.toString ++ "=" ++ value]
  | attached (letter : Char) : flag.short? = some letter → value ≠ "" →
    value.toList.head? ≠ some '=' → Spelling flag value ["-" ++ letter.toString ++ value]

/-- **A command line that spells flags**, one after the other. -/
inductive Spells : List (Flag × String) → List String → Prop where
  | nil : Spells [] []
  | cons {flag : Flag} {value : String} {flags : List (Flag × String)}
    {arguments rest : List String} : Spelling flag value arguments → Spells flags rest →
    Spells ((flag, value) :: flags) (arguments ++ rest)

namespace Argument

theorem splitAtEquals_append {name : List Char} (plain : '=' ∉ name) (value : List Char) :
    splitAtEquals (name ++ '=' :: value) = (name, some value) := by
  have other : ∀ c ∈ name, decide (c ≠ '=') = true := fun c mem =>
    decide_eq_true fun same => plain (same ▸ mem)
  rw [splitAtEquals, List.dropWhile_append_of_pos other, List.takeWhile_append_of_pos other]
  simp

theorem find?_long (flag : Flag) :
    Flag.all.find? (fun other => other.long == flag.long) = some flag := by
  cases flag <;> rfl

theorem find?_short {flag : Flag} {letter : Char} (short : flag.short? = some letter) :
    Flag.all.find? (fun other => other.short? == some letter) = some flag := by
  cases flag <;> cases short <;> rfl

theorem ofText_of_hyphens {text : String} {first : Char} {rest : List Char}
    (text_eq : text.toList = '-' :: '-' :: first :: rest) :
    ofText text = ofLong (first :: rest) := by
  rw [ofText, text_eq]
  rfl

theorem ofText_of_letter {flag : Flag} {letter : Char} (short : flag.short? = some letter)
    {text : String} {rest : List Char} (text_eq : text.toList = '-' :: letter :: rest) :
    ofText text = ofShort letter rest := by
  rw [ofText, text_eq]
  cases flag <;> cases short <;> rfl

theorem ofText_long (flag : Flag) : ofText ("--" ++ flag.long) = .awaiting flag := by
  cases flag <;> rfl

theorem ofText_longEquals (flag : Flag) (value : String) :
    ofText ("--" ++ flag.long ++ "=" ++ value) = .attached flag value := by
  have plain : '=' ∉ flag.long.toList := by cases flag <;> decide +kernel
  have text_eq : ("--" ++ flag.long ++ "=" ++ value).toList =
      '-' :: '-' :: (flag.long.toList ++ '=' :: value.toList) := by simp
  obtain ⟨first, rest, parts⟩ := List.exists_cons_of_ne_nil
    (show flag.long.toList ++ '=' :: value.toList ≠ [] by simp)
  rw [ofText_of_hyphens (text_eq.trans (by rw [parts])), ← parts, ofLong,
    splitAtEquals_append plain]
  simp only [String.ofList_toList, find?_long]

theorem ofText_short {flag : Flag} {letter : Char} (short : flag.short? = some letter) :
    ofText ("-" ++ letter.toString) = .awaiting flag := by
  cases flag <;> cases short <;> rfl

theorem ofText_shortEquals {flag : Flag} {letter : Char} (short : flag.short? = some letter)
    (value : String) : ofText ("-" ++ letter.toString ++ "=" ++ value) = .attached flag value := by
  have text_eq : ("-" ++ letter.toString ++ "=" ++ value).toList =
      '-' :: letter :: '=' :: value.toList := by simp
  rw [ofText_of_letter short text_eq]
  simp only [ofShort, find?_short short, String.ofList_toList]

theorem ofText_attached {flag : Flag} {letter : Char} (short : flag.short? = some letter)
    {value : String} (present : value ≠ "") (plain : value.toList.head? ≠ some '=') :
    ofText ("-" ++ letter.toString ++ value) = .attached flag value := by
  have text_eq : ("-" ++ letter.toString ++ value).toList = '-' :: letter :: value.toList := by
    simp
  obtain ⟨first, rest, parts⟩ := List.exists_cons_of_ne_nil (mt String.toList_eq_nil_iff.mp present)
  have other : first ≠ '=' := by
    rw [parts] at plain
    exact mt (congrArg some) plain
  have value_eq : value = String.ofList (first :: rest) := by rw [← parts, String.ofList_toList]
  rw [ofText_of_letter short text_eq, parts, value_eq]
  simp [ofShort, find?_short short, other]

end Argument

namespace Flags

theorem read_of_attached {argument value : String} {flag : Flag}
    (attached : Argument.ofText argument = .attached flag value) (rest : List String) :
    read (argument :: rest) = (read rest).map fun flags => (flag, value) :: flags := by
  rw [read, attached]

theorem read_of_awaiting {argument value : String} {flag : Flag}
    (awaiting : Argument.ofText argument = .awaiting flag)
    (plain : Argument.looksLikeFlag value = false) (rest : List String) :
    read (argument :: value :: rest) = (read rest).map fun flags => (flag, value) :: flags := by
  rw [read, awaiting]
  simp [plain]

/-- **One spelled flag** is read at a time. -/
theorem read_of_spelling {flag : Flag} {value : String} {arguments : List String}
    (spelling : Spelling flag value arguments) (rest : List String) :
    read (arguments ++ rest) = (read rest).map fun flags => (flag, value) :: flags := by
  cases spelling with
  | long plain => exact read_of_awaiting (Argument.ofText_long flag) plain rest
  | longEquals => exact read_of_attached (Argument.ofText_longEquals flag value) rest
  | short _ short plain => exact read_of_awaiting (Argument.ofText_short short) plain rest
  | shortEquals _ short => exact read_of_attached (Argument.ofText_shortEquals short value) rest
  | attached _ short present plain =>
    exact read_of_attached (Argument.ofText_attached short present plain) rest

/-- **What is spelled is read.** -/
theorem read_of_spells {flags : List (Flag × String)} {arguments : List String}
    (spells : Spells flags arguments) : read arguments = some flags := by
  induction spells with
  | nil => rfl
  | cons spelling _ ih =>
    rw [read_of_spelling spelling, ih]
    rfl

end Flags

/-! ### What flags say -/

/-- Whether a flag takes a value. -/
def Flag.Takes : Flag → String → Prop
  | .logFormat, name => ∃ format, LogFormat.ofText? name = some format
  | .fetchConcurrency, number => ∃ n, Decimal.readBelow? UInt64.size number = some n
  | .configPath, path => path ≠ ""
  | _, _ => True

theorem Flag.lookup_cons (flag other : Flag) (value : String) (flags : List (Flag × String)) :
    ((other, value) :: flags).lookup flag =
      if flag = other then some value else flags.lookup flag := by
  by_cases same : flag = other
  · rw [same, List.lookup_cons_self, if_pos rfl]
  · rw [List.lookup_cons, beq_eq_false_iff_ne.mpr same, if_neg same]

namespace CommandLine

/-- **What flags say** of which none is repeated. -/
def ofFlags (flags : List (Flag × String)) : CommandLine where
  logFilter := flags.lookup .logFilter
  logFormat := (flags.lookup .logFormat).bind LogFormat.ofText?
  packageRoot := flags.lookup .packageRoot
  fetchConcurrency :=
    ((flags.lookup .fetchConcurrency).bind (Decimal.readBelow? UInt64.size)).map UInt64.ofNat
  configPath := flags.lookup .configPath

/-- What two command lines say together, the first one overriding the second. -/
def onto (upper lower : CommandLine) : CommandLine where
  logFilter := upper.logFilter.or lower.logFilter
  logFormat := upper.logFormat.or lower.logFormat
  packageRoot := upper.packageRoot.or lower.packageRoot
  fetchConcurrency := upper.fetchConcurrency.or lower.fetchConcurrency
  configPath := upper.configPath.or lower.configPath

/-- A flag adds what it says by itself. -/
theorem add?_of_takes {flag : Flag} {value : String} (takes : flag.Takes value)
    (line : CommandLine) :
    line.add? (flag, value) = some ((ofFlags [(flag, value)]).onto line) := by
  cases flag with
  | logFormat =>
    obtain ⟨format, found⟩ := takes
    simp [add?, ofFlags, onto, Flag.lookup_cons, found]
  | fetchConcurrency =>
    obtain ⟨n, found⟩ := takes
    simp [add?, ofFlags, onto, Flag.lookup_cons, found]
  | configPath => simp [add?, ofFlags, onto, Flag.lookup_cons, show value ≠ "" from takes]
  | _ => simp [add?, ofFlags, onto, Flag.lookup_cons]

/-- A flag that is not repeated may be added first. -/
theorem onto_onto {flag : Flag} {value : String} {flags : List (Flag × String)}
    (once : flags.lookup flag = none) (line : CommandLine) :
    (ofFlags flags).onto ((ofFlags [(flag, value)]).onto line) =
      (ofFlags ((flag, value) :: flags)).onto line := by
  cases flag <;> simp [ofFlags, onto, Flag.lookup_cons, once]

/-- **Flags that are added** one after the other. -/
theorem foldlM_add? {flags : List (Flag × String)} (once : (flags.map Prod.fst).Nodup)
    (takes : ∀ flag ∈ flags, flag.1.Takes flag.2) (line : CommandLine) :
    flags.foldlM add? line = some ((ofFlags flags).onto line) := by
  induction flags generalizing line with
  | nil => rfl
  | cons first rest ih =>
    obtain ⟨flag, value⟩ := first
    obtain ⟨notAgain, once⟩ := List.nodup_cons.mp once
    obtain ⟨takesFirst, takesRest⟩ := List.forall_mem_cons.mp takes
    rw [List.foldlM_cons, add?_of_takes takesFirst, Option.bind_eq_bind, Option.bind_some,
      ih once takesRest, onto_onto (Table.lookup_eq_none_iff.mpr notAgain)]

/-- **A command line that spells flags** says what they say. -/
theorem parse?_of_spells {flags : List (Flag × String)} {arguments : List String}
    (spells : Spells flags arguments) (once : (flags.map Prod.fst).Nodup)
    (takes : ∀ flag ∈ flags, flag.1.Takes flag.2) : parse? arguments = some (ofFlags flags) := by
  rw [parse?, Flags.read_of_spells spells]
  simp only [once, if_true, foldlM_add? once takes]
  simp [onto, empty]

/-- **The order of the flags** does not matter. -/
theorem ofFlags_perm {flags others : List (Flag × String)} (perm : flags.Perm others)
    (once : (flags.map Prod.fst).Nodup) : ofFlags flags = ofFlags others := by
  have same (flag : Flag) : flags.lookup flag = others.lookup flag := by
    refine Option.ext fun value => ?_
    rw [Table.lookup_eq_some_iff once,
      Table.lookup_eq_some_iff ((perm.map Prod.fst).nodup_iff.mp once), perm.mem_iff]
  simp only [ofFlags, same]

end CommandLine

end CompilerGateway
