import MemoryAwareMake.Flags.Quote

/-!
# MemoryAwareMake — the table of command switches

`switches` lists every switch make accepts, in the order `define_makeflags` writes them into
`MAKEFLAGS`, the memory-aware ones (`--memory-aware`, `--no-memory-aware`, `--nomem`,
`--memdebug`) among them. Each points to the variable that holds its value, and the constants
behind `noarg_value` and `default_value` are of that variable's C type.

* `SwitchStore` — the variables the switches point to, and each switch's `specified` bit;
* `switches` — the table of `main.c`;
* `optionsText`, `optionsText_fits` — the `getopt` string `init_switches` writes, which
  always fits `options`;
* `switches_plain` — no switch letter or long name holds a character `quote_for_env` escapes.
-/

namespace MemoryAwareMake

/-- `CHAR_MAX`: codes above it name switches that have only a long name. -/
def charMax : Nat := 127

/-- `short_option (c)`. -/
def shortOption (c : Nat) : Bool := c ≤ charMax

/-- The `type` of a `struct command_switch`. -/
inductive SwitchType
  | flag | flagOff | string | strlist | filename | positiveInt | floating | ignore
  deriving DecidableEq, Repr

/-- The `int` variables of the flag switches. -/
inductive IntVar
  | alwaysMakeSet | debugFlag | envOverrides | printUsageFlag | ignoreErrorsFlag
  | keepGoingFlag | checkSymlinkFlag | justPrintFlag | printDataBaseFlag | questionFlag
  | noBuiltinRulesFlag | noBuiltinVariablesFlag | silentFlag | touchFlag | printVersionFlag
  | printDirectoryFlag | traceFlag | warnUndefinedVariablesFlag | memoryAwareFlag
  | disableMemoryDisplay
  deriving DecidableEq, Repr

/-- The `int` variables `positive_int` switches read as `unsigned int`. -/
inductive UIntVar
  | argJobSlots | memoryDebugLevel
  deriving DecidableEq, Repr

/-- The `double` variable of the `floating` switch. -/
inductive DoubleVar
  | maxLoadAverage
  deriving DecidableEq, Repr

/-- The `char *` variables of the `string` switches. -/
inductive StrVar
  | outputSyncOption | jobserverAuth | syncMutex | shuffleMode | jobserverStyle
  deriving DecidableEq, Repr

/-- The `struct stringlist *` variables of the `strlist` and `filename` switches. -/
inductive ListVar
  | evalStrings | directories | makefiles | includeDirs | oldFiles | newFiles | dbFlags
  deriving DecidableEq, Repr

/-- The variables that record where a switch's value came from (`enum variable_origin *origin`):
the switch pairs `-k`/`-S`, `-s`/`--no-silent` and `-w`/`--no-print-directory` share one each. -/
inductive OriginVar
  | silentOrigin | keepGoingOrigin | printDirectoryOrigin
  deriving DecidableEq, Repr

/-- `value_ptr`, with `noarg_value` and `default_value`, which point to constants of the same
C type (`0` is `none`). -/
inductive ValuePtr
  | none
  | int (v : IntVar) (default : Option Int)
  | uint (v : UIntVar) (noarg default : Option Nat)
  | double (v : DoubleVar) (noarg default : Option Float)
  | str (v : StrVar) (noarg : Option (List Char))
  | list (v : ListVar) (noarg : Option (List Char))

/-- `struct command_switch`. -/
structure CommandSwitch where
  c : Nat
  type : SwitchType
  valuePtr : ValuePtr
  env : Bool
  toenv : Bool
  noMakefile : Bool
  longName : Option (List Char)
  origin : Option OriginVar

/-- `noarg_value != 0`. -/
def CommandSwitch.hasNoarg (cs : CommandSwitch) : Bool :=
  match cs.valuePtr with
  | .uint _ (some _) _ | .double _ (some _) _ | .str _ (some _) | .list _ (some _) => true
  | _ => false

/-- The variables the switches point to, and the `specified` bit of each switch by its code. An
`unsigned int` is its value in `[0, 2 ^ 32)`. -/
structure SwitchStore where
  ints : IntVar → Int
  uints : UIntVar → Nat
  doubles : DoubleVar → Float
  strs : StrVar → Option (List Char)
  lists : ListVar → List (List Char)
  specified : Nat → Bool

/-- `INVALID_JOB_SLOTS`, `-1`, as `*(unsigned int *)` reads it. -/
def invalidJobSlots : Nat := 4294967295

/-- A flag switch: `{ c, flag or flag_off, &var, env, toenv, no_makefile, 0, 0, 0, default,
long_name, origin }`. -/
def flagSwitch (c : Nat) (t : SwitchType) (v : IntVar) (env toenv noMakefile : Bool)
    (default : Option Int) (longName : Option String) (origin : Option OriginVar) :
    CommandSwitch :=
  ⟨c, t, .int v default, env, toenv, noMakefile, longName.map String.toList, origin⟩

/-- A switch with an argument and a long name. -/
def argSwitch (c : Nat) (t : SwitchType) (ptr : ValuePtr) (env toenv : Bool)
    (longName : String) : CommandSwitch :=
  ⟨c, t, ptr, env, toenv, false, some longName.toList, none⟩

/-- `--memory-aware`. -/
def memoryAwareSwitch : CommandSwitch :=
  flagSwitch (charMax + 13) .flag .memoryAwareFlag true true false none (some "memory-aware")
    none

/-- `--no-memory-aware`, on the same variable. -/
def noMemoryAwareSwitch : CommandSwitch :=
  flagSwitch (charMax + 14) .flagOff .memoryAwareFlag true true false none
    (some "no-memory-aware") none

/-- The `switches` table of `main.c`, in its order. `JOBSERVER_AUTH_OPT` is
`"jobserver-auth"`. -/
def switches : List CommandSwitch :=
  [⟨'b'.toNat, .ignore, .none, false, false, false, none, none⟩,
   flagSwitch 'B'.toNat .flag .alwaysMakeSet true true false none (some "always-make") none,
   flagSwitch 'd'.toNat .flag .debugFlag true true false none none none,
   flagSwitch 'e'.toNat .flag .envOverrides true true false none (some "environment-overrides")
     none,
   argSwitch 'E'.toNat .strlist (.list .evalStrings none) true false "eval",
   flagSwitch 'h'.toNat .flag .printUsageFlag false false false none (some "help") none,
   flagSwitch 'i'.toNat .flag .ignoreErrorsFlag true true false none (some "ignore-errors") none,
   flagSwitch 'k'.toNat .flag .keepGoingFlag true true false (some 0) (some "keep-going")
     (some .keepGoingOrigin),
   flagSwitch 'L'.toNat .flag .checkSymlinkFlag true true false none
     (some "check-symlink-times") none,
   ⟨'m'.toNat, .ignore, .none, false, false, false, none, none⟩,
   flagSwitch 'n'.toNat .flag .justPrintFlag true true true none (some "just-print") none,
   flagSwitch 'p'.toNat .flag .printDataBaseFlag true true false none (some "print-data-base")
     none,
   flagSwitch 'q'.toNat .flag .questionFlag true true true none (some "question") none,
   flagSwitch 'r'.toNat .flag .noBuiltinRulesFlag true true false none (some "no-builtin-rules")
     none,
   flagSwitch 'R'.toNat .flag .noBuiltinVariablesFlag true true false none
     (some "no-builtin-variables") none,
   flagSwitch 's'.toNat .flag .silentFlag true true false (some 0) (some "silent")
     (some .silentOrigin),
   flagSwitch 'S'.toNat .flagOff .keepGoingFlag true true false (some 0) (some "no-keep-going")
     (some .keepGoingOrigin),
   flagSwitch 't'.toNat .flag .touchFlag true true true none (some "touch") none,
   flagSwitch 'v'.toNat .flag .printVersionFlag true false false none (some "version") none,
   flagSwitch 'w'.toNat .flag .printDirectoryFlag true true false (some (-1))
     (some "print-directory")
     (some .printDirectoryOrigin),
   argSwitch 'C'.toNat .filename (.list .directories none) false false "directory",
   argSwitch 'f'.toNat .filename (.list .makefiles none) false false "file",
   argSwitch 'I'.toNat .filename (.list .includeDirs none) true true "include-dir",
   argSwitch 'j'.toNat .positiveInt (.uint .argJobSlots (some 0) (some invalidJobSlots)) true true
     "jobs",
   argSwitch 'l'.toNat .floating (.double .maxLoadAverage (some (-1.0)) (some (-1.0))) true true
     "load-average",
   argSwitch 'o'.toNat .filename (.list .oldFiles none) false false "old-file",
   argSwitch 'O'.toNat .string (.str .outputSyncOption (some "target".toList)) true true
     "output-sync",
   argSwitch 'W'.toNat .filename (.list .newFiles none) false false "what-if",
   argSwitch (charMax + 1) .strlist (.list .dbFlags (some "basic".toList)) true true "debug",
   argSwitch (charMax + 2) .string (.str .jobserverAuth none) true true "jobserver-auth",
   flagSwitch (charMax + 3) .flag .traceFlag true true false none (some "trace") none,
   flagSwitch (charMax + 4) .flagOff .printDirectoryFlag true true false (some (-1))
     (some "no-print-directory") (some .printDirectoryOrigin),
   flagSwitch (charMax + 5) .flag .warnUndefinedVariablesFlag true true false none
     (some "warn-undefined-variables") none,
   argSwitch (charMax + 7) .string (.str .syncMutex none) true true "sync-mutex",
   flagSwitch (charMax + 8) .flagOff .silentFlag true true false (some 0) (some "no-silent")
     (some .silentOrigin),
   argSwitch (charMax + 9) .string (.str .jobserverAuth none) true false "jobserver-fds",
   argSwitch (charMax + 10) .filename (.list .makefiles none) false false "temp-stdin",
   argSwitch (charMax + 11) .string (.str .shuffleMode (some "random".toList)) true true
     "shuffle",
   argSwitch (charMax + 12) .string (.str .jobserverStyle none) true false "jobserver-style",
   memoryAwareSwitch,
   noMemoryAwareSwitch,
   flagSwitch (charMax + 15) .flag .disableMemoryDisplay true true false none (some "nomem") none,
   argSwitch (charMax + 16) .positiveInt (.uint .memoryDebugLevel none (some 0)) true true
     "memdebug"]

/-! ## `init_switches` -/

/-- What `init_switches` writes into `options` for one switch: its letter, then `:` when it
takes an argument and `::` when the argument is optional. -/
def optionsOf (cs : CommandSwitch) : List Char :=
  if shortOption cs.c then
    Char.ofNat cs.c ::
      match cs.type with
      | .flag | .flagOff | .ignore => []
      | _ => ':' :: if cs.hasNoarg then [':'] else []
  else []

/-- The `getopt` string of `init_switches`: `-`, then each switch's letters. -/
def optionsText (t : List CommandSwitch) : List Char := '-' :: t.flatMap optionsOf

theorem optionsOf_length_le (cs : CommandSwitch) : (optionsOf cs).length ≤ 3 := by
  unfold optionsOf
  split_ifs <;> (try split) <;> simp

/-- **`options` is large enough.** `options` has `1 + 3` characters per entry of the table, its
terminating entry included; the string and its `NUL` always fit. -/
theorem optionsText_fits (t : List CommandSwitch) :
    (optionsText t).length + 1 ≤ 1 + (t.length + 1) * 3 := by
  have : (t.flatMap optionsOf).length ≤ 3 * t.length := by
    induction t with
    | nil => simp
    | cons cs t ih =>
      simp only [List.flatMap_cons, List.length_append, List.length_cons]
      have := optionsOf_length_le cs
      omega
  simp only [optionsText, List.length_cons]
  omega

/-! ## Names -/

/-- The letter of a short switch and the long name of a long one hold only characters
`quote_for_env` copies as they are, and neither `=` nor a space. -/
def SwitchPlain (cs : CommandSwitch) : Prop :=
  (shortOption cs.c = true → IsPlain (Char.ofNat cs.c) ∧ Char.ofNat cs.c ≠ '=' ∧
      Char.ofNat cs.c ≠ '-' ∧ isSpace (Char.ofNat cs.c) = false) ∧
    ∀ c ∈ cs.longName.getD [], IsPlain c

instance (cs : CommandSwitch) : Decidable (SwitchPlain cs) :=
  inferInstanceAs (Decidable (_ ∧ _))

theorem switches_plain : ∀ cs ∈ switches, SwitchPlain cs := by decide

/-- No two switches share a code. -/
theorem switches_codes_nodup : (switches.map CommandSwitch.c).Nodup := by decide

theorem memoryAwareSwitch_mem : memoryAwareSwitch ∈ switches := by
  simp only [switches, List.mem_cons, true_or, or_true]

theorem noMemoryAwareSwitch_mem : noMemoryAwareSwitch ∈ switches := by
  simp only [switches, List.mem_cons, true_or, or_true]

end MemoryAwareMake
