import Mathlib.Algebra.BigOperators.Group.List
import Mathlib.Data.List.Nodup
import Mathlib.Data.Nat.Digits
import MemoryAwareMake.Flags.Switches

/-!
# MemoryAwareMake — `define_makeflags` and what a sub-make reads back

`define_makeflags` lists the flags to pass on, one `ADD_FLAG` per switch value that differs from
its default, counting in `flagslen` the room each needs; then it writes them into `flagstring`:
the letters of the leading simple flags after one dash, and each other flag as `" -x"` or
`" --name"` with its argument through `quote_for_env`. The sub-make's `decode_env_switches`
reads the value back.

* `switchArgs`, `collectFlags` — the loop over `switches`;
* `flagsLen`, `makeflagsText` — `flagslen` and what is written into `flagstring`;
* `define_makeflags_fits` — the text and its `NUL` always fit the `1 + flagslen + 1` bytes;
* `sub_make_reads_back_flags` — the sub-make gets back one word per flag, each argument as the
  parent held it;
* `makeflags_passes_memory_aware` — for the flags collected from `switches`, the sub-make reads
  back `--memory-aware` exactly when `memory_aware_flag` is set, and `--no-memory-aware` exactly
  when it is clear.
-/

namespace MemoryAwareMake

/-- A `struct flag` of `define_makeflags`: the switch, and the argument given to `ADD_FLAG`
(`0` is `none`, and an omitted optional value is `some []`). -/
structure Flag where
  cs : CommandSwitch
  arg : Option (List Char)

/-- The text `sprintf ("%u")` writes. -/
def decimal (n : Nat) : List Char := (Nat.repr n).toList

theorem mem_toDigitsCore {b fuel n : Nat} {ds : List Char} {c : Char}
    (h : c ∈ Nat.toDigitsCore b fuel n ds) : c ∈ ds ∨ ∃ d, c = Nat.digitChar d := by
  induction fuel generalizing n ds with
  | zero => exact .inl h
  | succ f ih =>
    simp only [Nat.toDigitsCore] at h
    split_ifs at h
    · exact (List.mem_cons.mp h).elim (fun h => .inr ⟨_, h⟩) .inl
    · exact (ih h).elim (fun h => (List.mem_cons.mp h).elim (fun h => .inr ⟨_, h⟩) .inl) .inr

/-- A digit is a decimal digit, a letter or `*`, never a `$`. -/
theorem digitChar_ne_dollar (d : Nat) : Nat.digitChar d ≠ '$' := by
  rcases Nat.lt_or_ge d 16 with h | h
  · exact (by decide : ∀ d < 16, Nat.digitChar d ≠ '$') d h
  · have : Nat.digitChar d = '*' := by
      unfold Nat.digitChar
      repeat rw [if_neg (by omega)]
    rw [this]
    decide

theorem dollar_not_mem_decimal (n : Nat) : '$' ∉ decimal n := fun h =>
  (mem_toDigitsCore h).elim (List.not_mem_nil _) fun ⟨d, hd⟩ => digitChar_ne_dollar d hd.symm

/-! ## The flags to pass on -/

section Collect

variable (printG : Float → List Char) (st : SwitchStore) (makefile : Bool)

/-- The arguments of the `ADD_FLAG` calls for one switch, by the `switch (cs->type)` of
`define_makeflags`, when it goes to the environment (`toenv`, and not `no_makefile` while
remaking makefiles). `printG` is the C library's `"%g"`. A type whose `value_ptr` is of another
C type is not in the table. -/
def switchArgs (cs : CommandSwitch) : List (Option (List Char)) :=
  if cs.toenv = true ∧ (makefile = false ∨ cs.noMakefile = false) then
    match cs.type, cs.valuePtr with
    | .flag, .int v default | .flagOff, .int v default =>
      if decide (st.ints v = 0) = decide (cs.type = .flagOff) ∧
          (default.all fun d => st.specified cs.c || st.ints v != d) = true then [none]
      else []
    | .positiveInt, .uint v noarg default =>
      if default = some (st.uints v) then []
      else if noarg = some (st.uints v) then [some []]
      else [some (decimal (st.uints v))]
    | .floating, .double v noarg default =>
      if default.any (st.doubles v == ·) then []
      else if noarg.any (st.doubles v == ·) then [some []]
      else [some (printG (st.doubles v))]
    | .string, .str v _ =>
      match st.strs v with
      | some p => [some p]
      | none => []
    | .filename, .list v _ | .strlist, .list v _ => (st.lists v).map some
    | _, _ => []
  else []

/-- The flags of `define_makeflags`, in the order of `switches`. -/
def collectFlags : List Flag :=
  switches.flatMap fun cs => (switchArgs printG st makefile cs).map (Flag.mk cs)

theorem switchArgs_memoryAware :
    switchArgs printG st makefile memoryAwareSwitch =
      if st.ints .memoryAwareFlag = 0 then [] else [none] := by
  by_cases h : st.ints .memoryAwareFlag = 0 <;>
    simp [switchArgs, memoryAwareSwitch, flagSwitch, h]

theorem switchArgs_noMemoryAware :
    switchArgs printG st makefile noMemoryAwareSwitch =
      if st.ints .memoryAwareFlag = 0 then [none] else [] := by
  by_cases h : st.ints .memoryAwareFlag = 0 <;>
    simp [switchArgs, noMemoryAwareSwitch, flagSwitch, h]

/-- The flags of the switch of code `c` in the table are the flags of the list with that code. -/
theorem mem_collectFlags_code {cs : CommandSwitch} (hcs : cs ∈ switches) :
    (∃ f ∈ collectFlags printG st makefile, f.cs.c = cs.c) ↔
      switchArgs printG st makefile cs ≠ [] := by
  simp only [collectFlags, List.mem_flatMap, List.mem_map]
  constructor
  · rintro ⟨_, ⟨cs', hcs', a, ha, rfl⟩, hc⟩
    rw [List.inj_on_of_nodup_map switches_codes_nodup hcs hcs' hc.symm]
    exact List.ne_nil_of_mem ha
  · intro h
    obtain ⟨a, ha⟩ := List.exists_mem_of_ne_nil _ h
    exact ⟨_, ⟨cs, hcs, a, ha, rfl⟩, rfl⟩

theorem mem_collectFlags {f : Flag} (hf : f ∈ collectFlags printG st makefile) :
    f.cs ∈ switches ∧ f.arg ∈ switchArgs printG st makefile f.cs := by
  obtain ⟨cs, hcs, a, ha, rfl⟩ :
      ∃ cs ∈ switches, ∃ a ∈ switchArgs printG st makefile cs, Flag.mk cs a = f := by
    simpa [collectFlags] using hf
  exact ⟨hcs, ha⟩

theorem collectFlags_plain : ∀ f ∈ collectFlags printG st makefile, SwitchPlain f.cs :=
  fun _ hf => switches_plain _ (mem_collectFlags printG st makefile hf).1

/-- One of `--memory-aware` and `--no-memory-aware` always has a flag. -/
theorem collectFlags_ne_nil : collectFlags printG st makefile ≠ [] := by
  have hm := mem_collectFlags_code printG st makefile memoryAwareSwitch_mem
  have hn := mem_collectFlags_code printG st makefile noMemoryAwareSwitch_mem
  rw [switchArgs_memoryAware] at hm
  rw [switchArgs_noMemoryAware] at hn
  intro h
  split_ifs at hm hn <;> simp_all

/-- The flags' arguments hold no `$` when the strings, the lists and `%g`'s text hold none: the
others are numbers or empty. -/
theorem collectFlags_no_dollar (hprint : ∀ x, '$' ∉ printG x)
    (hstrs : ∀ v p, st.strs v = some p → '$' ∉ p) (hlists : ∀ v, ∀ a ∈ st.lists v, '$' ∉ a) :
    ∀ f ∈ collectFlags printG st makefile, '$' ∉ f.arg.getD [] := by
  intro f hf
  have ha := (mem_collectFlags printG st makefile hf).2
  generalize f.arg = a at ha ⊢
  unfold switchArgs at ha
  split_ifs at ha
  · split at ha
    · split_ifs at ha <;> simp_all
    · split_ifs at ha <;> simp_all
    · -- a positive integer: omitted, or in decimal
      split_ifs at ha <;> simp_all [dollar_not_mem_decimal]
    · split_ifs at ha <;> simp_all
    · split at ha <;> simp_all
      exact hstrs _ _ ‹_›
    · obtain ⟨x, hx, rfl⟩ := List.mem_map.mp ha
      exact hlists _ x hx
    · obtain ⟨x, hx, rfl⟩ := List.mem_map.mp ha
      exact hlists _ x hx
    · simp at ha
  · simp at ha

end Collect

/-! ## `flagslen` and `flagstring` -/

/-- What `ADD_FLAG` adds to `flagslen`: `" -x"`, or room for `" -xfoo"` with each character of
`foo` escaped, and the long name of a switch with no letter. -/
def addFlagLen (f : Flag) : Nat :=
  (match f.arg with
   | none => 3
   | some a => 1 + 1 + 1 + 3 * a.length) +
  (if shortOption f.cs.c then 0 else 2 + (f.cs.longName.getD []).length)

/-- `posixref`. -/
def posixref : List Char := "-*-command-variables-*-".toList

/-- `evalref`. -/
def evalref : List Char := "$(-*-eval-flags-*-)".toList

/-- `ref`. -/
def overridesRef : List Char := "MAKEOVERRIDES".toList

/-- `flagslen` when the loop is done: every flag, and four more for `" -- "` and each variable
reference. -/
def flagsLen (fs : List Flag) : Nat :=
  (fs.map addFlagLen).sum + (4 + posixref.length + 4 + evalref.length + 4)

/-- A flag of the first group: a letter with no argument. -/
def Flag.simple (f : Flag) : Bool := f.arg.isNone && shortOption f.cs.c

/-- The letter of a switch, or a dash and its long name. -/
def Flag.name (f : Flag) : List Char :=
  if shortOption f.cs.c then [Char.ofNat f.cs.c] else '-' :: f.cs.longName.getD []

/-- The argument as written: nothing for an omitted one, else `=` after a long name, and the
argument through `quote_for_env`. -/
def Flag.argText (f : Flag) : List Char :=
  match f.arg with
  | none => []
  | some a =>
    if a.isEmpty then [] else (if shortOption f.cs.c then [] else ['=']) ++ quoteForEnv a

/-- `flagstring` after the two loops: a dash and the letters of the leading simple flags, then
`" -"`, the name and the argument of each other flag; empty when there are no flags (the
`p == &flagstring[1]` case). -/
def flagstring (fs : List Flag) : List Char :=
  if fs.isEmpty then []
  else '-' :: (fs.takeWhile Flag.simple).map (fun f => Char.ofNat f.cs.c) ++
    (fs.dropWhile Flag.simple).flatMap fun f => ' ' :: '-' :: f.name ++ f.argText

/-- All that is written into `flagstring`: the flags, the reference to `-*-eval-flags-*-` when
there are `--eval` strings, and `" -- "` with the reference to the command-line variables when
they are not empty. -/
def makeflagsText (fs : List Flag) (evalFlags posixPedantic overrides : Bool) : List Char :=
  flagstring fs ++ (if evalFlags then ' ' :: evalref else []) ++
    if overrides then
      " -- $(".toList ++ (if posixPedantic then posixref else overridesRef) ++ [')']
    else []

/-- The values of `MFLAGS` and `MAKEFLAGS`. -/
structure Makeflags where
  mflags : List Char
  makeflags : List Char

/-- `define_makeflags`, from the flags: `MFLAGS` drops a leading `"- "`, `MAKEFLAGS` a leading
dash. -/
def defineMakeflags (fs : List Flag) (evalFlags posixPedantic overrides : Bool) : Makeflags :=
  ⟨match flagstring fs with
    | '-' :: ' ' :: r => r
    | t => t,
   match makeflagsText fs evalFlags posixPedantic overrides with
    | '-' :: r => r
    | t => t⟩

/-! ## The buffer -/

theorem one_le_addFlagLen (f : Flag) : 1 ≤ addFlagLen f := by
  unfold addFlagLen
  split <;> omega

/-- A flag written on its own takes no more than `ADD_FLAG` counted. -/
theorem flag_text_length_le (f : Flag) :
    2 + f.name.length + f.argText.length ≤ addFlagLen f := by
  unfold addFlagLen Flag.name Flag.argText
  cases f.arg with
  | none => split_ifs <;> simp only [List.length_cons, List.length_nil] <;> omega
  | some a =>
    have := quoteForEnv_length_le a
    cases a <;> split_ifs <;> simp at this ⊢ <;> omega

theorem flagstring_length_le (fs : List Flag) :
    (flagstring fs).length ≤ 1 + (fs.map addFlagLen).sum := by
  unfold flagstring
  split_ifs
  · simp
  · have hsplit := congrArg (fun l => (l.map addFlagLen).sum)
      (List.takeWhile_append_dropWhile Flag.simple fs)
    simp only [List.map_append, List.sum_append] at hsplit
    have h1 : ((fs.takeWhile Flag.simple).map fun f => Char.ofNat f.cs.c).length ≤
        ((fs.takeWhile Flag.simple).map addFlagLen).sum := by
      rw [List.length_map]
      induction fs.takeWhile Flag.simple with
      | nil => simp
      | cons f l ih =>
        simp only [List.length_cons, List.map_cons, List.sum_cons]
        have := one_le_addFlagLen f
        omega
    have h2 : ((fs.dropWhile Flag.simple).flatMap
        fun f => ' ' :: '-' :: f.name ++ f.argText).length ≤
        ((fs.dropWhile Flag.simple).map addFlagLen).sum := by
      induction fs.dropWhile Flag.simple with
      | nil => simp
      | cons f l ih =>
        simp only [List.flatMap_cons, List.length_append, List.length_cons, List.map_cons,
          List.sum_cons]
        have := flag_text_length_le f
        omega
    simp only [List.length_cons, List.length_append]
    omega

/-- **`define_makeflags` stays inside `flagstring`.** Whatever flags, `--eval` strings and
command-line variables there are, the text it writes and its `NUL` fit the `1 + flagslen + 1`
bytes it allocates. -/
theorem define_makeflags_fits (fs : List Flag) (evalFlags posixPedantic overrides : Bool) :
    (makeflagsText fs evalFlags posixPedantic overrides).length + 1 ≤ 1 + flagsLen fs + 1 := by
  have := flagstring_length_le fs
  unfold makeflagsText flagsLen
  split_ifs <;> simp [posixref, evalref, overridesRef] <;> omega

/-! ## What the sub-make reads back -/

/-- A flag's argument as the parent holds it, after `=` for a long switch. -/
def Flag.argWord (f : Flag) : List Char :=
  match f.arg with
  | none => []
  | some a => if a.isEmpty then [] else (if shortOption f.cs.c then [] else ['=']) ++ a

/-- The word a flag stands for: a dash, its name, and its argument. -/
def Flag.word (f : Flag) : List Char := '-' :: f.name ++ f.argWord

/-- The words the flags stand for: a dash and the letters of the leading simple flags, then the
word of each other flag. -/
def flagWords (fs : List Flag) : List (List Char) :=
  (if (fs.takeWhile Flag.simple).isEmpty then []
   else ['-' :: (fs.takeWhile Flag.simple).map fun f => Char.ofNat f.cs.c]) ++
    (fs.dropWhile Flag.simple).map Flag.word

theorem Flag.argText_eq_quote (f : Flag) : f.argText = quoteForEnv f.argWord := by
  unfold Flag.argText Flag.argWord
  cases f.arg with
  | none => rfl
  | some a =>
    cases a with
    | nil => rfl
    | cons c cs =>
      simp only [List.isEmpty_cons, Bool.false_eq_true, if_false]
      split_ifs
      · rfl
      · rw [quoteForEnv_append, show quoteForEnv ['='] = ['='] by decide]


section Plain

variable {f : Flag} (hf : SwitchPlain f.cs)
include hf

theorem Flag.name_plain : ∀ c ∈ f.name, IsPlain c := by
  unfold Flag.name
  split_ifs with h
  · simpa using (hf.1 h).1
  · simpa [show IsPlain '-' by decide] using hf.2

/-- A flag's text in `flagstring` is its word through `quote_for_env`. -/
theorem Flag.text_eq_quote : '-' :: f.name ++ f.argText = quoteForEnv f.word := by
  rw [Flag.word, ← List.singleton_append, quoteForEnv_append, quoteForEnv_append,
    show quoteForEnv ['-'] = ['-'] by decide, quoteForEnv_of_plain (Flag.name_plain hf),
    Flag.argText_eq_quote]

theorem Flag.word_ne_nil_dollar (hd : '$' ∉ f.arg.getD []) :
    f.word ≠ [] ∧ '$' ∉ f.word := by
  refine ⟨List.cons_ne_nil _ _, ?_⟩
  have hname : '$' ∉ f.name := fun h => (Flag.name_plain hf _ h).1 rfl
  unfold Flag.word Flag.argWord
  cases harg : f.arg with
  | none => simpa using hname
  | some a =>
    rw [harg] at hd
    split_ifs <;> simp_all

end Plain

theorem flatMap_text_eq_quotedWords (l : List Flag) (h : ∀ f ∈ l, SwitchPlain f.cs) :
    (l.flatMap fun f => ' ' :: '-' :: f.name ++ f.argText) = quotedWords (l.map Flag.word) := by
  rw [quotedWords, List.flatMap_map]
  exact List.flatMap_congr fun f hf => congrArg (' ' :: ·) (Flag.text_eq_quote (h f hf))

/-- With no `--eval` strings and no command-line variables, `MAKEFLAGS` is the letters of the
leading simple flags, then the other flags' words, each quoted after a blank. -/
theorem defineMakeflags_makeflags {fs : List Flag} (hne : fs ≠ [])
    (hplain : ∀ f ∈ fs, SwitchPlain f.cs) (posixPedantic : Bool) :
    (defineMakeflags fs false posixPedantic false).makeflags =
      (fs.takeWhile Flag.simple).map (fun f => Char.ofNat f.cs.c) ++
        quotedWords ((fs.dropWhile Flag.simple).map Flag.word) := by
  rw [← flatMap_text_eq_quotedWords _ fun f hf => hplain f ((List.dropWhile_suffix _).subset hf)]
  obtain ⟨g, gs, rfl⟩ := List.exists_cons_of_ne_nil hne
  simp only [defineMakeflags, makeflagsText, flagstring, List.isEmpty_cons, Bool.false_eq_true,
    if_false, List.append_nil, List.cons_append]

/-- The words of `MAKEFLAGS` are the flags' words: the simple flags' letters as one group, then
each other flag. -/
theorem envWords_defineMakeflags {fs : List Flag} (hne : fs ≠ [])
    (hplain : ∀ f ∈ fs, SwitchPlain f.cs) (hdollar : ∀ f ∈ fs, '$' ∉ f.arg.getD [])
    (posixPedantic : Bool) :
    envWords (defineMakeflags fs false posixPedantic false).makeflags = some (flagWords fs) := by
  have hdrop : ∀ f ∈ fs.dropWhile Flag.simple, f ∈ fs :=
    fun f hf => (List.dropWhile_suffix _).subset hf
  have hws : ∀ w ∈ (fs.dropWhile Flag.simple).map Flag.word, w ≠ [] ∧ '$' ∉ w := by
    simp only [List.mem_map]
    rintro w ⟨f, hf, rfl⟩
    exact Flag.word_ne_nil_dollar (hplain f (hdrop f hf)) (hdollar f (hdrop f hf))
  rw [defineMakeflags_makeflags hne hplain, flagWords]
  cases hT : fs.takeWhile Flag.simple with
  | nil =>
    -- no simple flag leads: the value starts with the blank before the first word
    have hd : fs.dropWhile Flag.simple = fs := by
      simpa [hT] using List.takeWhile_append_dropWhile Flag.simple fs
    obtain ⟨g, gs, rfl⟩ := List.exists_cons_of_ne_nil hne
    rw [hd, List.map_cons] at hws ⊢
    exact envWords_quotedWords hws rfl
  | cons g gs =>
    -- the letters of the simple flags come first, without their dash
    have hg : ∀ f ∈ g :: gs, shortOption f.cs.c = true ∧ f ∈ fs := fun f hf => by
      rw [← hT] at hf
      exact ⟨(by simpa [Flag.simple] using List.mem_takeWhile_imp hf : _ ∧ _).2,
        (List.takeWhile_prefix _).subset hf⟩
    have hlet : ∀ c ∈ (g :: gs).map fun f => Char.ofNat f.cs.c,
        IsPlain c ∧ c ≠ '=' ∧ c ≠ '-' ∧ isSpace c = false := by
      simp only [List.mem_map]
      rintro c ⟨f, hf, rfl⟩
      exact (hplain f (hg f hf).2).1 (hg f hf).1
    exact envWords_letters_quotedWords (List.cons_ne_nil _ _) hlet hws

/-- **A sub-make reads back the flags its parent wrote.** When there are no `--eval` strings
and no command-line variables, `decode_env_switches` cuts the `MAKEFLAGS` value of
`define_makeflags` into one word per flag, the leading simple flags as one group with a dash
restored, and each argument exactly as the parent held it, blanks and backslashes included.
The switches are those of a table with plain names, as `switches` is, and no argument holds a
`$`. -/
theorem sub_make_reads_back_flags (fs : List Flag) (hne : fs ≠ [])
    (hplain : ∀ f ∈ fs, SwitchPlain f.cs) (hdollar : ∀ f ∈ fs, '$' ∉ f.arg.getD [])
    (posixPedantic : Bool) :
    envWords (defineMakeflags fs false posixPedantic false).makeflags = some (flagWords fs) :=
  envWords_defineMakeflags hne hplain hdollar posixPedantic

/-! ## The memory-aware setting -/

theorem Flag.argWord_long {f : Flag} (hs : shortOption f.cs.c = false) :
    f.argWord = [] ∨ ∃ a, f.argWord = '=' :: a := by
  unfold Flag.argWord
  split
  · exact .inl rfl
  · split_ifs with _ h
    · exact .inl rfl
    · simp [hs] at h
    · exact .inr ⟨_, rfl⟩

/-- A flag whose word is two dashes and a name without `=` is a flag of the switch of that long
name: a letter is never a dash. -/
theorem Flag.longName_of_word {f : Flag} (hf : SwitchPlain f.cs) {name : List Char}
    (hn : name ≠ []) (he : '=' ∉ name) (h : f.word = '-' :: '-' :: name) :
    f.cs.longName = some name := by
  simp only [Flag.word, Flag.name, List.cons_append, List.cons.injEq, true_and] at h
  split_ifs at h with hs
  · exact absurd (List.cons.inj h).1 (hf.1 hs).2.2.1
  · simp only [List.cons_append, List.cons.injEq, true_and] at h
    rcases Flag.argWord_long (Bool.eq_false_iff.mpr hs) with ha | ⟨a, ha⟩
    · rw [ha, List.append_nil] at h
      cases hl : f.cs.longName with
      | none => rw [hl] at h; exact absurd h.symm hn
      | some l => rw [hl] at h; exact congrArg some h
    · rw [ha] at h
      exact absurd (h ▸ List.mem_append_right _ (List.mem_cons_self _ _)) he

/-- A word with two leading dashes is a flag's word, not the group of simple flags, whose letters
are no dashes. -/
theorem long_mem_flagWords {fs : List Flag} (hplain : ∀ f ∈ fs, SwitchPlain f.cs)
    {name : List Char} (h : ('-' :: '-' :: name) ∈ flagWords fs) :
    ∃ f ∈ fs.dropWhile Flag.simple, f.word = '-' :: '-' :: name := by
  unfold flagWords at h
  rcases List.mem_append.mp h with h | h
  · split_ifs at h
    · exact absurd h (List.not_mem_nil _)
    · rw [List.mem_singleton, List.cons.injEq] at h
      obtain ⟨f, hf, hc⟩ := List.mem_map.mp (h.2 ▸ List.mem_cons_self '-' name)
      have hs : shortOption f.cs.c = true :=
        (by simpa [Flag.simple] using List.mem_takeWhile_imp hf : _ ∧ _).2
      exact absurd hc ((hplain f ((List.takeWhile_prefix _).subset hf)).1 hs).2.2.1
  · simpa using h

theorem mem_dropWhile_of_not {α : Type} {p : α → Bool} {l : List α} {a : α} (h : a ∈ l)
    (hp : p a = false) : a ∈ l.dropWhile p := by
  rw [← List.takeWhile_append_dropWhile p l] at h
  exact (List.mem_append.mp h).resolve_left fun h' => by simp [List.mem_takeWhile_imp h'] at hp

section Collect

variable (printG : Float → List Char) (st : SwitchStore) (makefile : Bool)

/-- The word `--name` of a long switch without argument is among the words of the table's flags
exactly when the switch has a flag: no other switch of the table has that long name. -/
theorem longWord_mem_collectFlags {cs : CommandSwitch} (hcs : cs ∈ switches) {name : List Char}
    (hn : name ≠ []) (he : '=' ∉ name) (hname : cs.longName = some name)
    (hshort : shortOption cs.c = false)
    (huniq : ∀ cs' ∈ switches, cs'.longName = some name → cs'.c = cs.c)
    (hargs : ∀ a ∈ switchArgs printG st makefile cs, a = none) :
    ('-' :: '-' :: name) ∈ flagWords (collectFlags printG st makefile) ↔
      switchArgs printG st makefile cs ≠ [] := by
  constructor
  · intro h
    obtain ⟨f, hf, hw⟩ := long_mem_flagWords (collectFlags_plain printG st makefile) h
    have hf' := (List.dropWhile_suffix _).subset hf
    have hm := (mem_collectFlags printG st makefile hf').1
    exact (mem_collectFlags_code printG st makefile hcs).1
      ⟨f, hf', huniq _ hm (Flag.longName_of_word (switches_plain _ hm) hn he hw)⟩
  · intro h
    obtain ⟨a, ha⟩ := List.exists_mem_of_ne_nil _ h
    have hmem : Flag.mk cs none ∈ collectFlags printG st makefile :=
      List.mem_flatMap.mpr ⟨cs, hcs, List.mem_map.mpr ⟨a, ha, by rw [hargs a ha]⟩⟩
    refine List.mem_append_right _ (List.mem_map.mpr ⟨_, mem_dropWhile_of_not hmem ?_, ?_⟩)
    · simp [Flag.simple, hshort]
    · simp [Flag.word, Flag.name, Flag.argWord, hshort, hname]

/-- **`MAKEFLAGS` carries the memory-aware setting to sub-makes.** For every switch value, when
no string, list entry or `%g` text holds a `$`, the sub-make's `decode_env_switches` reads back
the words of the flags `define_makeflags` collects from `switches`, and among them
`--memory-aware` stands exactly when `memory_aware_flag` is not `0`, and `--no-memory-aware`
exactly when it is: the two switches share the variable, as `flag` and `flag_off`, with no
default, and no other switch has their names. -/
theorem makeflags_passes_memory_aware (posixPedantic : Bool) (hprint : ∀ x, '$' ∉ printG x)
    (hstrs : ∀ v p, st.strs v = some p → '$' ∉ p) (hlists : ∀ v, ∀ a ∈ st.lists v, '$' ∉ a) :
    envWords (defineMakeflags (collectFlags printG st makefile) false posixPedantic
        false).makeflags = some (flagWords (collectFlags printG st makefile)) ∧
      ("--memory-aware".toList ∈ flagWords (collectFlags printG st makefile) ↔
        st.ints .memoryAwareFlag ≠ 0) ∧
      ("--no-memory-aware".toList ∈ flagWords (collectFlags printG st makefile) ↔
        st.ints .memoryAwareFlag = 0) := by
  refine ⟨envWords_defineMakeflags (collectFlags_ne_nil printG st makefile)
    (collectFlags_plain printG st makefile)
    (collectFlags_no_dollar printG st makefile hprint hstrs hlists) posixPedantic, ?_, ?_⟩
  · rw [show "--memory-aware".toList = '-' :: '-' :: "memory-aware".toList from rfl,
      longWord_mem_collectFlags printG st makefile memoryAwareSwitch_mem (by decide) (by decide)
      rfl rfl (by decide) (by rw [switchArgs_memoryAware]; split_ifs <;> simp),
      switchArgs_memoryAware]
    split_ifs <;> simp_all
  · rw [show "--no-memory-aware".toList = '-' :: '-' :: "no-memory-aware".toList from rfl,
      longWord_mem_collectFlags printG st makefile noMemoryAwareSwitch_mem (by decide)
      (by decide) rfl rfl (by decide) (by rw [switchArgs_noMemoryAware]; split_ifs <;> simp),
      switchArgs_noMemoryAware]
    split_ifs <;> simp_all

end Collect

/-- The store of a `make` with no switch given, in memory-aware mode: nothing holds a `$`. -/
def memoryAwareStore : SwitchStore where
  ints v := if v = .memoryAwareFlag then 1 else 0
  uints _ := 0
  doubles _ := 0
  strs _ := none
  lists _ := []
  specified _ := false

theorem makeflags_passes_memory_aware_default :
    ((∀ _ : Float, '$' ∉ "0".toList) ∧ (∀ v p, memoryAwareStore.strs v = some p → '$' ∉ p) ∧
        ∀ v, ∀ a ∈ memoryAwareStore.lists v, '$' ∉ a) ∧
      ("--memory-aware".toList ∈ flagWords (collectFlags (fun _ => "0".toList) memoryAwareStore
        false) ↔ memoryAwareStore.ints .memoryAwareFlag ≠ 0) :=
  have hp : ∀ _ : Float, '$' ∉ "0".toList := fun _ => by decide
  have hs : ∀ v p, memoryAwareStore.strs v = some p → '$' ∉ p := fun _ _ h => by cases h
  have hl : ∀ v, ∀ a ∈ memoryAwareStore.lists v, '$' ∉ a := fun _ _ h => by cases h
  ⟨⟨hp, hs, hl⟩, (makeflags_passes_memory_aware (fun _ => "0".toList) memoryAwareStore false false
    hp hs hl).2.1⟩

/-- The flags `define_makeflags` lists for `make -k -j4 -I 'my inc'` in memory-aware mode: `-k`
leads the simple flags, the directory holds a blank. -/
def sampleFlags : List Flag :=
  [⟨flagSwitch 'k'.toNat .flag .keepGoingFlag true true false (some 0) (some "keep-going")
    (some .keepGoingOrigin), none⟩,
   ⟨argSwitch 'I'.toNat .filename (.list .includeDirs none) true true "include-dir",
     some "my inc".toList⟩,
   ⟨argSwitch 'j'.toNat .positiveInt (.uint .argJobSlots (some 0) (some invalidJobSlots)) true
     true "jobs", some "4".toList⟩,
   ⟨memoryAwareSwitch, none⟩]

theorem sub_make_reads_back_flags_sample :
    ((∀ f ∈ sampleFlags, SwitchPlain f.cs) ∧ ∀ f ∈ sampleFlags, '$' ∉ f.arg.getD []) ∧
      envWords (defineMakeflags sampleFlags false false false).makeflags =
        some ["-k".toList, "-Imy inc".toList, "-j4".toList, "--memory-aware".toList] :=
  ⟨⟨by decide, by decide⟩,
    (sub_make_reads_back_flags sampleFlags (List.cons_ne_nil _ _) (by decide) (by decide)
      false).trans (by decide)⟩

end MemoryAwareMake
