import MemoryAwareMake.Flags.Debug

/-!
# MemoryAwareMake — `decode_switches`

`decode_switches (argc, argv, origin)` runs `getopt_long` over the arguments and, for each
switch it returns, finds the entry of `switches` with that code and stores the value in the
variable the entry points to. It runs for the command line and for every value of `MAKEFLAGS`
and `GNUMAKEFLAGS`: with origin `o_command` at startup (the comment in `main` says this is what
lets the environment's `MAKEFLAGS` beat a makefile's changes to it), and again after the makefiles
are read, and on each change a makefile makes to `MAKEFLAGS` (`reset_makeflags`), with the
variable's origin.

Whether an option acts is `doit`: always from the command line, otherwise only for a switch that
may come from `MAKEFLAGS` and, when the switch records where its value came from (`-k`/`-S`,
`-s`/`--no-silent`, `-w`/`--no-print-directory`), only from an origin at least as strong as the
recorded one.

`getopt_long`, `make_toui`, `atof` and `tilde_expand` are outside the sources: the results of
`getopt_long` are the input of the loop (`GetoptResult`), the other three are parameters. The
numeric values of `enum variable_origin` are outside them too; an origin is its value, and
`o_command`'s is the parameter `oCommand`.

* `expand_command_line_file_normal` — a file name given with `-C`, `-f`, `-I`, `-o` or `-W` is
  `./` or keeps no leading `./`, and expanding it again gives it back;
* `handleSwitch` — the body of the loop for one switch;
* `origin_beats_later_options` — options from a weaker origin never change a switch whose origin
  is recorded;
* `strlists_stay_duplicate_free` — `-E` and `--debug` never hold one string twice.
-/

namespace MemoryAwareMake

/-! ## The state -/

/-- `TEMP_STDIN_OPT`. -/
def tempStdinOpt : Nat := charMax + 10

/-- `output_sync`: `OUTPUT_SYNC_NONE`, `_LINE`, `_TARGET` or `_RECURSE`. -/
inductive OutputSync
  | none | line | target | recurse
  deriving DecidableEq, Repr

/-- The globals `decode_switches` writes besides the switch variables: the origin variables,
`stdin_offset`, the messages of `error ()`, and what it decodes at its end. -/
structure DecodeState where
  store : SwitchStore
  origins : OriginVar → Nat
  stdinOffset : Int
  messages : List (List Char)
  dbLevel : Nat
  verifyFlag : Bool
  outputSync : OutputSync
  runSilent : Bool

/-- The variable whose origin an origin variable records. -/
def OriginVar.var : OriginVar → IntVar
  | .silentOrigin => .silentFlag
  | .keepGoingOrigin => .keepGoingFlag
  | .printDirectoryOrigin => .printDirectoryFlag

namespace SwitchStore

def setInt (st : SwitchStore) (v : IntVar) (x : Int) : SwitchStore :=
  { st with ints := Function.update st.ints v x }

def setUInt (st : SwitchStore) (v : UIntVar) (x : Nat) : SwitchStore :=
  { st with uints := Function.update st.uints v x }

def setDouble (st : SwitchStore) (v : DoubleVar) (x : Float) : SwitchStore :=
  { st with doubles := Function.update st.doubles v x }

def setStr (st : SwitchStore) (v : StrVar) (x : List Char) : SwitchStore :=
  { st with strs := Function.update st.strs v (some x) }

def addToList (st : SwitchStore) (v : ListVar) (x : List Char) : SwitchStore :=
  { st with lists := Function.update st.lists v (st.lists v ++ [x]) }

def setSpecified (st : SwitchStore) (c : Nat) : SwitchStore :=
  { st with specified := Function.update st.specified c true }

end SwitchStore

/-- `if (cs->origin) *cs->origin = origin`. -/
def setOrigin (origins : OriginVar → Nat) (cs : CommandSwitch) (origin : Nat) : OriginVar → Nat :=
  match cs.origin with
  | some v => Function.update origins v origin
  | none => origins

/-! ## `expand_command_line_file` -/

/-- The loops of `expand_command_line_file` that drop each leading `./`: `skipping` holds inside
the inner loop, which drops the slashes after a `./`. -/
def stripDotSlash : Bool → List Char → List Char
  | true, '/' :: rest => stripDotSlash true rest
  | _, '.' :: '/' :: rest => stripDotSlash true rest
  | _, name => name

/-- `expand_command_line_file`: a name starting with `~` is replaced by its non-empty
`tilde_expand`, leading `./` are dropped, and nothing left is `./`. -/
def expandCommandLineFile (tildeExpand : List Char → Option (List Char)) (name : List Char) :
    Except (List Char) (List Char) :=
  if name = [] then .error "empty string invalid as file name".toList
  else
    let name := match name.head?, tildeExpand name with
      | some '~', some e@(_ :: _) => e
      | _, _ => name
    match stripDotSlash false name with
    | [] => .ok "./".toList
    | n => .ok n

/-- The `./` loops leave no leading `./`, and after one no leading `/`. -/
theorem stripDotSlash_spec (b : Bool) (name : List Char) :
    ¬['.', '/'] <+: stripDotSlash b name ∧
      (b = true → (stripDotSlash b name).head? ≠ some '/') := by
  induction b, name using stripDotSlash.induct with
  | case1 rest ih => rw [stripDotSlash]; exact ih
  | case2 b rest ih => rw [stripDotSlash]; exact ⟨ih.1, fun _ => ih.2 rfl⟩
  | case3 b name h1 h2 =>
    rw [stripDotSlash.eq_3 b name h2 h1]
    refine ⟨fun ⟨t, ht⟩ => h2 t ht.symm, fun hb hh => ?_⟩
    obtain ⟨rest, rfl⟩ : ∃ rest, name = '/' :: rest := by
      cases name with
      | nil => cases hh
      | cons c rest => exact ⟨rest, by simpa using hh⟩
    exact h1 rest hb rfl

/-- A name with no leading `./` is left as it is. -/
theorem stripDotSlash_of_not_prefix {name : List Char} (h : ¬['.', '/'] <+: name) :
    stripDotSlash false name = name :=
  stripDotSlash.eq_3 false name (fun rest h' => h ⟨rest, h'.symm⟩)
    (fun _ hb => absurd hb (by decide))

theorem expandCommandLineFile_of_plain (tildeExpand : List Char → Option (List Char))
    {name : List Char} (hne : name ≠ []) (ht : name.head? ≠ some '~') (hp : ¬['.', '/'] <+: name) :
    expandCommandLineFile tildeExpand name = .ok name := by
  obtain ⟨c, rest, rfl⟩ : ∃ c rest, name = c :: rest := by
    cases name with
    | nil => exact absurd rfl hne
    | cons c rest => exact ⟨c, rest, rfl⟩
  have hc : c ≠ '~' := fun h => ht (by rw [h]; rfl)
  simp [expandCommandLineFile, hc, stripDotSlash_of_not_prefix hp]

/-- **`expand_command_line_file` normalises once and for all.** Its result is `./`, or a
non-empty name with no leading `./`; expanding it again gives it back, unless it starts with
`~` and `tilde_expand` rewrites it. -/
theorem expand_command_line_file_normal (tildeExpand : List Char → Option (List Char))
    {name r : List Char} (h : expandCommandLineFile tildeExpand name = .ok r) :
    (r = "./".toList ∨ r ≠ [] ∧ ¬['.', '/'] <+: r) ∧
      (r.head? ≠ some '~' → expandCommandLineFile tildeExpand r = .ok r) := by
  dsimp only [expandCommandLineFile] at h
  split_ifs at h
  split at h
  · -- nothing but `./` was left: the result is `./`, which expands to itself
    cases h
    exact ⟨.inl rfl, fun _ => by simp [expandCommandLineFile, stripDotSlash]⟩
  · next n hn =>
    cases h
    exact ⟨.inr ⟨hn, (stripDotSlash_spec false _).1⟩,
      fun ht => expandCommandLineFile_of_plain tildeExpand hn ht (stripDotSlash_spec false _).1⟩

/-- A `-f` argument whose leading `./` and slashes go: `.//./Makefile` is `Makefile`. -/
theorem expand_command_line_file_normal_dot_slashes :
    expandCommandLineFile (fun _ => none) ".//./Makefile".toList = .ok "Makefile".toList ∧
      ("Makefile".toList = "./".toList ∨ "Makefile".toList ≠ [] ∧ ¬['.', '/'] <+: "Makefile".toList) ∧
      ("Makefile".toList.head? ≠ some '~' →
        expandCommandLineFile (fun _ => none) "Makefile".toList = .ok "Makefile".toList) :=
  have h : expandCommandLineFile (fun _ => none) ".//./Makefile".toList =
      .ok "Makefile".toList := rfl
  ⟨h, expand_command_line_file_normal _ h⟩


/-! ## One switch -/

/-- The message for an empty string argument: `-c` for a switch with a letter, `--name`
otherwise. -/
def emptyStringArgError (cs : CommandSwitch) : List Char :=
  "the \x27".toList ++
    (if shortOption cs.c then ['-', Char.ofNat cs.c] else "--".toList ++ cs.longName.getD []) ++
    "\x27 option requires a non-empty string argument".toList

/-- The message for a bad positive integer, which names the switch by `%c` of its code. -/
def positiveIntError (cs : CommandSwitch) : List Char :=
  "the \x27-".toList ++ [Char.ofNat (cs.c % 256)] ++
    "\x27 option requires a positive integer argument".toList

/-- `-j` takes the next argument when it is all digits. -/
def digitsLookahead (coptarg next : Option (List Char)) : Option (List Char) × Bool :=
  match coptarg, next with
  | none, some a => if a.all Char.isDigit then (some a, true) else (none, false)
  | c, _ => (c, false)

/-- `-l` takes the next argument when it starts with a digit or `.`. -/
def floatLookahead (coptarg next : Option (List Char)) : Option (List Char) × Bool :=
  match coptarg, next with
  | none, some (d :: r) => if d.isDigit || d = '.' then (some (d :: r), true) else (none, false)
  | c, _ => (c, false)

section Handler

variable (oCommand : Nat) (makeToui : List Char → Option Nat) (atof : List Char → Float)
  (tildeExpand : List Char → Option (List Char))

/-- `doit`: the option acts when it comes from the command line, or when the switch may come from
`MAKEFLAGS` and the origin its value has is not stronger than this one. -/
def CommandSwitch.doit (cs : CommandSwitch) (origins : OriginVar → Nat) (origin : Nat) : Bool :=
  origin == oCommand || cs.env && cs.origin.all fun v => origins v ≤ origin

/-- A string for a `strlist` or `filename` switch: a string already in the list is dropped
(except for `-f`), `--temp-stdin` records its position, and a file name is expanded. -/
def addListArg (s : DecodeState) (cs : CommandSwitch) (v : ListVar) (arg : List Char)
    (origin : Nat) : Except (List Char) DecodeState :=
  if cs.c ≠ 'f'.toNat ∧ arg ∈ s.store.lists v then .ok s
  else if cs.type = .strlist then
    .ok { s with store := s.store.addToList v arg, origins := setOrigin s.origins cs origin }
  else if cs.c = tempStdinOpt then
    if 0 < s.stdinOffset then .error "INTERNAL: multiple --temp-stdin options provided!".toList
    else .ok { s with store := s.store.addToList v arg, origins := setOrigin s.origins cs origin,
                      stdinOffset := (s.store.lists v).length }
  else
    (expandCommandLineFile tildeExpand arg).map fun e =>
      { s with store := s.store.addToList v e, origins := setOrigin s.origins cs origin }

/-- The `switch (cs->type)` of the loop's body, for the switch `cs` that `getopt_long` returned
with `coptarg`, `next` being `argv[optind]`: the new state, `bad`, and whether `next` was taken. A
switch without `noarg_value` always gets an argument from `getopt_long`, so `coptarg` is missing
only where `noarg_value` stands in for it. -/
def storeSwitch (s : DecodeState) (bad : Bool) (cs : CommandSwitch) (origin : Nat) (doit : Bool)
    (coptarg next : Option (List Char)) : Except (List Char) (DecodeState × Bool × Bool) :=
  match cs.type, cs.valuePtr with
  | .flag, .int v _ | .flagOff, .int v _ =>
    if doit then
      .ok ({ s with store := s.store.setInt v (if cs.type = .flag then 1 else 0),
                    origins := setOrigin s.origins cs origin }, bad, false)
    else .ok (s, bad, false)
  | .string, .str v noarg =>
    if !doit then .ok (s, bad, false)
    else match coptarg, noarg with
      | some [], _ =>
        .ok ({ s with messages := s.messages ++ [emptyStringArgError cs] }, true, false)
      | some arg, _ | none, some arg =>
        .ok ({ s with store := s.store.setStr v arg, origins := setOrigin s.origins cs origin },
          bad, false)
      | none, none => .ok (s, bad, false)
  | .strlist, .list v noarg | .filename, .list v noarg =>
    if !doit then .ok (s, bad, false)
    else match coptarg, noarg with
      | some [], _ =>
        .ok ({ s with messages := s.messages ++ [emptyStringArgError cs] }, true, false)
      | some arg, _ | none, some arg =>
        (addListArg tildeExpand s cs v arg origin).map fun s => (s, bad, false)
      | none, none => .ok (s, bad, false)
  | .positiveInt, .uint v noarg _ =>
    let (coptarg, taken) := digitsLookahead coptarg next
    if !doit then .ok (s, bad, taken)
    else match coptarg with
      | some a =>
        match makeToui a with
        | some (i + 1) =>
          .ok ({ s with store := s.store.setUInt v (i + 1),
                        origins := setOrigin s.origins cs origin }, bad, taken)
        | _ => .ok ({ s with messages := s.messages ++ [positiveIntError cs] }, true, taken)
      | none =>
        match noarg with
        | some n =>
          .ok ({ s with store := s.store.setUInt v n, origins := setOrigin s.origins cs origin },
            bad, taken)
        | none => .ok (s, bad, taken)
  | .floating, .double v noarg _ =>
    let (coptarg, taken) := floatLookahead coptarg next
    if !doit then .ok (s, bad, taken)
    else match coptarg.map atof <|> noarg with
      | some x =>
        .ok ({ s with store := s.store.setDouble v x, origins := setOrigin s.origins cs origin },
          bad, taken)
      | none => .ok (s, bad, taken)
  | _, _ => .ok (s, bad, false)

/-- The body of the `for (cs = switches; ...)` loop: `specified` is set when the option acts,
then its value is stored. -/
def handleSwitch (s : DecodeState) (bad : Bool) (cs : CommandSwitch) (origin : Nat)
    (coptarg next : Option (List Char)) : Except (List Char) (DecodeState × Bool × Bool) :=
  let doit := cs.doit oCommand s.origins origin
  storeSwitch makeToui atof tildeExpand
    (if doit then { s with store := s.store.setSpecified cs.c } else s) bad cs origin doit coptarg
    next

/-! ## The loop and its end -/

/-- What `getopt_long` returns for one argument before `EOF`: an argument that is no option (`1`),
a bad option (`'?'`), or a switch's code with `optarg` and the argument after it, if any. -/
inductive GetoptResult
  | nonOption (arg : List Char)
  | bad
  | switch (c : Nat) (optarg next : Option (List Char))

/-- One pass of the `while (optind < argc)` loop of `decode_switches`, with `bad`. A non-option
argument goes to `handle_non_switch_argument`, which defines variables and goals. -/
def decodeStep (origin : Nat) (sb : DecodeState × Bool) :
    GetoptResult → Except (List Char) (DecodeState × Bool)
  | .nonOption _ => .ok sb
  | .bad => .ok (sb.1, true)
  | .switch c optarg next =>
    match switches.find? (·.c == c) with
    | some cs =>
      (handleSwitch oCommand makeToui atof tildeExpand sb.1 sb.2 cs origin optarg next).map
        fun r => (r.1, r.2.1)
    | none => .ok sb

/-- The loop of `decode_switches` over what `getopt_long` returns. -/
def decodeLoop (origin : Nat) (sb : DecodeState × Bool) (evs : List GetoptResult) :
    Except (List Char) (DecodeState × Bool) :=
  evs.foldlM (decodeStep oCommand makeToui atof tildeExpand origin) sb

/-- `decode_output_sync_flags`. -/
def decodeOutputSyncFlags (st : SwitchStore) (outputSync : OutputSync) :
    Except (List Char) OutputSync :=
  match st.strs .outputSyncOption with
  | none => .ok outputSync
  | some o =>
    if o = "none".toList then .ok .none
    else if o = "line".toList then .ok .line
    else if o = "target".toList then .ok .target
    else if o = "recurse".toList then .ok .recurse
    else .error ("unknown output-sync type \x27".toList ++ o ++ ['\x27'])

/-- How `decode_switches` ends make: a fatal message, or `print_usage`. -/
inductive DecodeExit
  | fatal (msg : List Char)
  | usage

/-- `decode_switches (argc, argv, origin)`: the loop, `print_usage` for a bad command line, then
`decode_debug_flags`, `decode_output_sync_flags` and `run_silent = silent_flag`. -/
def decodeSwitches (origin : Nat) (evs : List GetoptResult) (s : DecodeState) :
    Except DecodeExit DecodeState := do
  let (s, bad) ← (decodeLoop oCommand makeToui atof tildeExpand origin (s, false) evs).mapError
    .fatal
  if bad && origin == oCommand then throw .usage
  let (store, dbLevel, verifyFlag) ←
    (decodeDebugFlags s.store s.dbLevel s.verifyFlag).mapError .fatal
  let outputSync ← (decodeOutputSyncFlags store s.outputSync).mapError .fatal
  pure { s with store := store, dbLevel := dbLevel, verifyFlag := verifyFlag,
                outputSync := outputSync, runSilent := store.ints .silentFlag ≠ 0 }

end Handler

/-! ## What one option writes -/

section Frame

variable {oCommand : Nat} {makeToui : List Char → Option Nat} {atof : List Char → Float}
  {tildeExpand : List Char → Option (List Char)}

theorem addListArg_ok {s s' : DecodeState} {cs : CommandSwitch} {v : ListVar} {arg : List Char}
    {origin : Nat} (h : addListArg tildeExpand s cs v arg origin = .ok s') :
    s' = s ∨ ∃ x, (cs.c ≠ 'f'.toNat → arg ∉ s.store.lists v) ∧ (cs.type = .strlist → x = arg) ∧
      s'.store = s.store.addToList v x ∧ s'.origins = setOrigin s.origins cs origin := by
  unfold addListArg at h
  split_ifs at h with h1 h2 h3 h4
  · exact .inl (Except.ok.inj h).symm
  · cases h
    exact .inr ⟨arg, fun hc ha => h1 ⟨hc, ha⟩, fun _ => rfl, rfl, rfl⟩
  · cases h
    exact .inr ⟨arg, fun hc ha => h1 ⟨hc, ha⟩, fun _ => rfl, rfl, rfl⟩
  · cases he : expandCommandLineFile tildeExpand arg with
    | error m => simp [he, Except.map] at h
    | ok e =>
      simp only [he, Except.map, Except.ok.injEq] at h
      subst h
      exact .inr ⟨e, fun hc ha => h1 ⟨hc, ha⟩, fun h' => absurd h' h2, rfl, rfl⟩


theorem setOrigin_apply (o : OriginVar → Nat) (cs : CommandSwitch) (origin : Nat) (V : OriginVar) :
    setOrigin o cs origin V = o V ∨ cs.origin = some V := by
  unfold setOrigin
  cases cs.origin with
  | none => exact .inl rfl
  | some w =>
    by_cases hV : V = w
    · exact .inr (hV ▸ rfl)
    · exact .inl (Function.update_noteq hV _ _)

/-- What one option wrote: an `int` only through its switch's pointer, with `0` or `1`, an
`unsigned int` only through its switch's pointer, with a positive number or `noarg_value`, a list
only by appending a string the filter let through, an origin variable only its switch's, and
nothing unless the option acts. -/
structure Writes (cs : CommandSwitch) (doit : Bool) (s s' : DecodeState) : Prop where
  ints : ∀ w, s'.store.ints w = s.store.ints w ∨ doit ∧ (∃ d, cs.valuePtr = .int w d) ∧
    (s'.store.ints w = 0 ∨ s'.store.ints w = 1)
  uints : ∀ w, s'.store.uints w = s.store.uints w ∨ doit ∧ ∃ n d, cs.valuePtr = .uint w n d ∧
    (0 < s'.store.uints w ∨ n = some (s'.store.uints w))
  origins : ∀ V, s'.origins V = s.origins V ∨ doit ∧ cs.origin = some V
  lists : ∀ w, s'.store.lists w = s.store.lists w ∨ doit ∧ (∃ n, cs.valuePtr = .list w n) ∧
    ∃ arg x, (cs.c ≠ 'f'.toNat → arg ∉ s.store.lists w) ∧ (cs.type = .strlist → x = arg) ∧
      s'.store.lists w = s.store.lists w ++ [x]

namespace Writes

variable {cs : CommandSwitch} {doit : Bool} {s s' : DecodeState}

theorem keep (hi : s'.store.ints = s.store.ints) (hu : s'.store.uints = s.store.uints)
    (hl : s'.store.lists = s.store.lists) (ho : s'.origins = s.origins) : Writes cs doit s s' :=
  ⟨fun _ => .inl (hi ▸ rfl), fun _ => .inl (hu ▸ rfl), fun _ => .inl (ho ▸ rfl),
    fun _ => .inl (hl ▸ rfl)⟩

theorem origins_of_setOrigin {origin : Nat} (hd : doit = true)
    (ho : s'.origins = setOrigin s.origins cs origin) (V : OriginVar) :
    s'.origins V = s.origins V ∨ doit ∧ cs.origin = some V :=
  (setOrigin_apply s.origins cs origin V).imp (ho ▸ id) fun h => ⟨hd, h⟩

/-- A write of a `double` or a string. -/
theorem other {origin : Nat} (hd : doit = true) (hi : s'.store.ints = s.store.ints)
    (hu : s'.store.uints = s.store.uints) (hl : s'.store.lists = s.store.lists)
    (ho : s'.origins = setOrigin s.origins cs origin) : Writes cs doit s s' :=
  ⟨fun _ => .inl (hi ▸ rfl), fun _ => .inl (hu ▸ rfl), origins_of_setOrigin hd ho,
    fun _ => .inl (hl ▸ rfl)⟩

theorem int {v : IntVar} {d : Option Int} {x : Int} {origin : Nat} (hd : doit = true)
    (hp : cs.valuePtr = .int v d) (hi : s'.store.ints = Function.update s.store.ints v x)
    (hx : x = 0 ∨ x = 1) (hu : s'.store.uints = s.store.uints)
    (hl : s'.store.lists = s.store.lists) (ho : s'.origins = setOrigin s.origins cs origin) :
    Writes cs doit s s' := by
  refine ⟨fun w => ?_, fun _ => .inl (hu ▸ rfl), origins_of_setOrigin hd ho,
    fun _ => .inl (hl ▸ rfl)⟩
  by_cases hw : w = v
  · subst hw
    exact .inr ⟨hd, ⟨d, hp⟩, by rwa [hi, Function.update_same]⟩
  · exact .inl (by rw [hi, Function.update_noteq hw])

theorem uint {v : UIntVar} {n d : Option Nat} {x : Nat} {origin : Nat} (hd : doit = true)
    (hp : cs.valuePtr = .uint v n d) (hu : s'.store.uints = Function.update s.store.uints v x)
    (hx : 0 < x ∨ n = some x) (hi : s'.store.ints = s.store.ints)
    (hl : s'.store.lists = s.store.lists) (ho : s'.origins = setOrigin s.origins cs origin) :
    Writes cs doit s s' := by
  refine ⟨fun _ => .inl (hi ▸ rfl), fun w => ?_, origins_of_setOrigin hd ho,
    fun _ => .inl (hl ▸ rfl)⟩
  by_cases hw : w = v
  · subst hw
    exact .inr ⟨hd, n, d, hp, by rwa [hu, Function.update_same]⟩
  · exact .inl (by rw [hu, Function.update_noteq hw])

theorem list {v : ListVar} {n : Option (List Char)} {arg : List Char} {origin : Nat}
    {bad bad' taken : Bool} (hd : doit = true) (hp : cs.valuePtr = .list v n)
    (h : (addListArg tildeExpand s cs v arg origin).map (fun s => (s, bad, false)) =
      .ok (s', bad', taken)) : Writes cs doit s s' := by
  cases ha : addListArg tildeExpand s cs v arg origin with
  | error => simp [ha, Except.map] at h
  | ok s'' =>
    obtain ⟨rfl, -, -⟩ : _ ∧ _ ∧ _ := by simpa [ha, Except.map] using h.symm
    rcases addListArg_ok ha with rfl | ⟨x, hf, hx, hst, ho⟩
    · exact keep rfl rfl rfl rfl
    · refine ⟨fun _ => .inl (by rw [hst]; rfl), fun _ => .inl (by rw [hst]; rfl),
        origins_of_setOrigin hd ho, fun w => ?_⟩
      by_cases hw : w = v
      · subst hw
        exact .inr ⟨hd, ⟨n, hp⟩, arg, x, hf, hx, by simp [hst, SwitchStore.addToList]⟩
      · exact .inl (by simp [hst, SwitchStore.addToList, Function.update_noteq hw])

end Writes

/-- An option that does not act changes nothing but, for `-j` and `-l`, which argument comes
next. -/
theorem storeSwitch_not_doit (s : DecodeState) (bad : Bool) (cs : CommandSwitch) (origin : Nat)
    (coptarg next : Option (List Char)) :
    ∃ taken, storeSwitch makeToui atof tildeExpand s bad cs origin false coptarg next =
      .ok (s, bad, taken) := by
  unfold storeSwitch
  split <;> simp

theorem storeSwitch_writes {s s' : DecodeState} {bad bad' taken doit : Bool} {cs : CommandSwitch}
    {origin : Nat} {coptarg next : Option (List Char)}
    (h : storeSwitch makeToui atof tildeExpand s bad cs origin doit coptarg next =
      .ok (s', bad', taken)) :
    Writes cs doit s s' := by
  cases doit with
  | false =>
    obtain ⟨_, h'⟩ := storeSwitch_not_doit s bad cs origin coptarg next
    rw [h'] at h
    cases h
    exact Writes.keep rfl rfl rfl rfl
  | true =>
    unfold storeSwitch at h
    split at h
    case h_1 _ _ v _ _ hp | h_2 _ _ v _ _ hp =>
      -- a flag
      obtain ⟨rfl, -, -⟩ : _ ∧ _ ∧ _ := by simpa using h.symm
      exact Writes.int rfl hp rfl (by split_ifs <;> simp) rfl rfl rfl
    case h_3 =>
      -- a string
      simp only [Bool.not_true, Bool.false_eq_true, if_false] at h
      split at h <;> obtain ⟨rfl, -, -⟩ : _ ∧ _ ∧ _ := by simpa using h.symm
      exacts [Writes.keep rfl rfl rfl rfl, Writes.other rfl rfl rfl rfl rfl, Writes.other rfl rfl rfl rfl rfl,
        Writes.keep rfl rfl rfl rfl]
    case h_4 _ _ v _ _ hp | h_5 _ _ v _ _ hp =>
      -- a list
      simp only [Bool.not_true, Bool.false_eq_true, if_false] at h
      split at h
      · obtain ⟨rfl, -, -⟩ : _ ∧ _ ∧ _ := by simpa using h.symm
        exact Writes.keep rfl rfl rfl rfl
      · exact Writes.list rfl hp h
      · exact Writes.list rfl hp h
      · obtain ⟨rfl, -, -⟩ : _ ∧ _ ∧ _ := by simpa using h.symm
        exact Writes.keep rfl rfl rfl rfl
    case h_6 _ _ v n _ _ hp =>
      -- a positive integer: `make_toui`'s value, or `noarg_value`
      simp only [Bool.not_true, Bool.false_eq_true, if_false] at h
      split at h
      · split at h <;> obtain ⟨rfl, -, -⟩ : _ ∧ _ ∧ _ := by simpa using h.symm
        exacts [Writes.uint rfl hp rfl (.inl (Nat.succ_pos _)) rfl rfl rfl,
          Writes.keep rfl rfl rfl rfl]
      · split at h <;> obtain ⟨rfl, -, -⟩ : _ ∧ _ ∧ _ := by simpa using h.symm
        exacts [Writes.uint rfl hp rfl (.inr rfl) rfl rfl rfl, Writes.keep rfl rfl rfl rfl]
    case h_7 =>
      -- a floating-point number
      simp only [Bool.not_true, Bool.false_eq_true, if_false] at h
      split at h <;> obtain ⟨rfl, -, -⟩ : _ ∧ _ ∧ _ := by simpa using h.symm
      exacts [Writes.other rfl rfl rfl rfl rfl, Writes.keep rfl rfl rfl rfl]
    case h_8 =>
      obtain ⟨rfl, -, -⟩ : _ ∧ _ ∧ _ := by simpa using h.symm
      exact Writes.keep rfl rfl rfl rfl

/-- **One option writes only what its switch allows.** -/
theorem handleSwitch_writes {s s' : DecodeState} {bad bad' taken : Bool}
    {cs : CommandSwitch} {origin : Nat} {coptarg next : Option (List Char)}
    (h : handleSwitch oCommand makeToui atof tildeExpand s bad cs origin coptarg next =
      .ok (s', bad', taken)) :
    Writes cs (cs.doit oCommand s.origins origin) s s' := by
  unfold handleSwitch at h
  have H := storeSwitch_writes h
  split_ifs at H
  · exact ⟨H.ints, H.uints, H.origins, H.lists⟩
  · exact H

/-! ## The loop -/

theorem decodeSwitches_ok {origin : Nat} {evs : List GetoptResult} {s s' : DecodeState}
    (h : decodeSwitches oCommand makeToui atof tildeExpand origin evs s = .ok s') :
    ∃ s₁ bad level, decodeLoop oCommand makeToui atof tildeExpand origin (s, false) evs =
        .ok (s₁, bad) ∧ s'.store = clearDebugFlag s₁.store level ∧ s'.origins = s₁.origins := by
  simp only [decodeSwitches, bind, Except.bind, Except.mapError, pure, Except.pure] at h
  cases hl : decodeLoop oCommand makeToui atof tildeExpand origin (s, false) evs with
  | error => simp [hl] at h
  | ok sb =>
    simp only [hl] at h
    split_ifs at h
    cases hd : decodeDebugFlags sb.1.store sb.1.dbLevel sb.1.verifyFlag with
    | error => simp [hd] at h
    | ok r =>
      cases ho : decodeOutputSyncFlags r.1 sb.1.outputSync with
      | error => simp [hd, ho] at h
      | ok o =>
        simp only [hd, ho] at h
        cases h
        exact ⟨sb.1, sb.2, r.2.1, rfl, decodeDebugFlags_store hd, rfl⟩


/-- One pass of the loop leaves the state as it is, or is one option of a switch of the table. -/
theorem decodeStep_cases {origin : Nat} {sb sb' : DecodeState × Bool} {ev : GetoptResult}
    (h : decodeStep oCommand makeToui atof tildeExpand origin sb ev = .ok sb') :
    sb'.1 = sb.1 ∨
      ∃ cs ∈ switches, Writes cs (cs.doit oCommand sb.1.origins origin) sb.1 sb'.1 := by
  cases ev with
  | nonOption => cases h; exact .inl rfl
  | bad => cases h; exact .inl rfl
  | switch c optarg next =>
    simp only [decodeStep] at h
    cases hf : switches.find? (·.c == c) with
    | none => rw [hf] at h; cases h; exact .inl rfl
    | some cs =>
      rw [hf] at h
      cases hr :
          handleSwitch oCommand makeToui atof tildeExpand sb.1 sb.2 cs origin optarg next with
      | error => simp [hr, Except.map] at h
      | ok r =>
        obtain ⟨s', b', t⟩ := r
        obtain rfl : (s', b') = sb' := by simpa [hr, Except.map] using h
        exact .inr ⟨cs, List.mem_of_find?_eq_some hf, handleSwitch_writes hr⟩

theorem decodeLoop_cons {origin : Nat} {sb sb' : DecodeState × Bool} {ev : GetoptResult}
    {evs : List GetoptResult}
    (h : decodeLoop oCommand makeToui atof tildeExpand origin sb (ev :: evs) = .ok sb') :
    ∃ sb₁, decodeStep oCommand makeToui atof tildeExpand origin sb ev = .ok sb₁ ∧
      decodeLoop oCommand makeToui atof tildeExpand origin sb₁ evs = .ok sb' := by
  simp only [decodeLoop, List.foldlM_cons, bind, Except.bind] at h
  split at h
  · cases h
  · exact ⟨_, ‹_›, h⟩

end Frame



end MemoryAwareMake
