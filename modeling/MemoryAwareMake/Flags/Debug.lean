import Mathlib.Data.List.Basic
import MemoryAwareMake.Flags.Switches

/-!
# MemoryAwareMake — `--debug` words and `db_level`

`decode_debug_flags` runs at the end of every `decode_switches`. It starts `db_level` from
`DB_ALL` under `-d`, ORs in `DB_PRINT | DB_WHY` under `--trace`, and then scans each `--debug`
word with a character loop: a keyword is read by its first letter, the rest of it up to a `,`
or a space is skipped, and a letter outside `abijmnpvw`, an empty word or an empty keyword
between two separators is fatal.

Each keyword either ORs bits into `db_level` or clears it (`n`), so what a word does to
`db_level` is one `DebugEffect`: clear or keep, then OR in some bits.

* `debugScan` — the character loop over one word;
* `debugScan_toOption` — it agrees with the word cut at its separators
  (`List.splitOnP`), each piece judged by its first letter;
* `decode_debug_flags_reads_keywords` — the whole of `decode_debug_flags` against the words'
  changes;
* `debug_flags_idempotent` — running `decode_debug_flags` again on the state it leaves changes
  nothing.
-/

namespace MemoryAwareMake

/-! ## The loop of `decode_debug_flags` -/

/-- The bits of `db_level` in `debug.h`. -/
def dbBasic : Nat := 0x001
def dbVerbose : Nat := 0x002
def dbJobs : Nat := 0x004
def dbImplicit : Nat := 0x008
def dbPrint : Nat := 0x010
def dbWhy : Nat := 0x020
def dbMakefiles : Nat := 0x100
def dbAll : Nat := 0x1fff

/-- The characters that end a keyword: `*p == ',' || *p == ' '`. -/
def isDebugSep (c : Char) : Bool := c = ',' || c = ' '

/-- The `switch (tolower (p[0]))`: the new `db_level`, or `none` for the fatal `default`. -/
def debugKeyword (c : Char) (level : Nat) : Option Nat :=
  match c.toLower with
  | 'a' => some (level ||| dbAll)
  | 'b' => some (level ||| dbBasic)
  | 'i' => some (level ||| (dbBasic ||| dbImplicit))
  | 'j' => some (level ||| dbJobs)
  | 'm' => some (level ||| (dbBasic ||| dbMakefiles))
  | 'n' => some 0
  | 'p' => some (level ||| dbPrint)
  | 'v' => some (level ||| (dbBasic ||| dbVerbose))
  | 'w' => some (level ||| dbWhy)
  | _ => none

/-- The fatal message of the `default` branch, naming the rest of the word from `p`. -/
def unknownDebugLevel (p : List Char) : List Char :=
  "unknown debug level specification \x27".toList ++ p ++ ['\x27']

/-- The `while (1)` loop over one word `p`, from `db_level = level`. `atKeyword` holds where `p`
points at a keyword (the `switch`); otherwise the loop is in `while (*(++p) != '\0')`, skipping
the rest of a keyword up to a separator. After a separator the loop ends if the word does. -/
def debugScan (level : Nat) : Bool → List Char → Except (List Char) Nat
  | true, [] => .error (unknownDebugLevel [])
  | true, c :: rest =>
    match debugKeyword c level with
    | some l => debugScan l false rest
    | none => .error (unknownDebugLevel (c :: rest))
  | false, [] => .ok level
  | false, c :: rest =>
    if isDebugSep c then
      if rest = [] then .ok level else debugScan level true rest
    else debugScan level false rest

/-- The `debug_flag = 0` write: the switch store with `debug_flag` cleared when `db_level` is
`0`. -/
def clearDebugFlag (st : SwitchStore) (level : Nat) : SwitchStore :=
  { st with ints := fun v => if v = .debugFlag ∧ level = 0 then 0 else st.ints v }

/-- `decode_debug_flags`: from the switch store and the globals `db_level` and `verify_flag`, the
new store and globals, or the fatal message. -/
def decodeDebugFlags (st : SwitchStore) (dbLevel : Nat) (verifyFlag : Bool) :
    Except (List Char) (SwitchStore × Nat × Bool) := do
  let l0 := if st.ints .debugFlag ≠ 0 then dbAll else dbLevel
  let l1 := if st.ints .traceFlag ≠ 0 then l0 ||| (dbPrint ||| dbWhy) else l0
  let level ← (st.lists .dbFlags).foldlM (fun l p => debugScan l true p) l1
  pure (clearDebugFlag st level, level, verifyFlag || level ≠ 0)

/-! ## What a keyword does to `db_level` -/

/-- A change of `db_level`: clear it if `reset`, then OR in `bits`. -/
structure DebugEffect where
  reset : Bool
  bits : Nat
  deriving DecidableEq, Repr

namespace DebugEffect

def apply (e : DebugEffect) (level : Nat) : Nat := (if e.reset then 0 else level) ||| e.bits

/-- The change that changes nothing. -/
def keep : DebugEffect := ⟨false, 0⟩

/-- `e`, then `e'`. -/
def andThen (e e' : DebugEffect) : DebugEffect :=
  ⟨e.reset || e'.reset, if e'.reset then e'.bits else e.bits ||| e'.bits⟩

@[simp] theorem apply_keep (level : Nat) : keep.apply level = level := by
  simp [apply, keep]

@[simp] theorem apply_andThen (e e' : DebugEffect) (level : Nat) :
    (e.andThen e').apply level = e'.apply (e.apply level) := by
  cases hr : e.reset <;> cases hr' : e'.reset <;> simp [apply, andThen, hr, hr', Nat.or_assoc]

@[simp] theorem keep_andThen (e : DebugEffect) : keep.andThen e = e := by
  cases e with
  | mk r b => cases r <;> simp [keep, andThen]

/-- Applying a change twice is applying it once. -/
theorem apply_apply (e : DebugEffect) (level : Nat) : e.apply (e.apply level) = e.apply level := by
  cases hr : e.reset <;> simp [apply, hr, Nat.or_assoc]

end DebugEffect

/-- What the keyword starting with `c` does, if it is one. -/
def keywordEffect (c : Char) : Option DebugEffect :=
  (debugKeyword c 0).map (DebugEffect.mk (c.toLower == 'n'))

theorem debugKeyword_eq (c : Char) (level : Nat) :
    debugKeyword c level = (keywordEffect c).map (·.apply level) := by
  unfold keywordEffect debugKeyword
  split <;> simp_all [DebugEffect.apply]

theorem debugKeyword_sep {c : Char} (hc : isDebugSep c = true) (level : Nat) :
    debugKeyword c level = none := by
  simp only [isDebugSep, Bool.or_eq_true, decide_eq_true_eq] at hc
  rcases hc with rfl | rfl <;> rfl

/-- What a word cut at its separators does: every piece must start with a keyword, except a last
empty piece after a final separator. -/
def keywordsEffect : List (List Char) → Option DebugEffect
  | [] | [[]] => some .keep
  | [] :: _ => none
  | (c :: _) :: ps => (keywordEffect c).bind fun e => (keywordsEffect ps).map e.andThen

/-- What a `--debug` word does to `db_level`, read as keywords; an empty word is no keyword. -/
def debugWordEffect (p : List Char) : Option DebugEffect :=
  if p = [] then none else keywordsEffect (p.splitOnP isDebugSep)

/-- The two modes of the loop against the pieces: skipping reads the pieces after the current
one, and at a keyword reads them all. -/
theorem debugScan_pieces (p : List Char) :
    ∀ level, (debugScan level false p).toOption =
        (keywordsEffect (p.splitOnP isDebugSep).tail).map (·.apply level) ∧
      (p ≠ [] → (debugScan level true p).toOption =
        (keywordsEffect (p.splitOnP isDebugSep)).map (·.apply level)) := by
  induction p with
  | nil => intro level; simp [debugScan, keywordsEffect, Except.toOption]
  | cons c rest ih =>
    intro level
    obtain ⟨q, qs, hsplit⟩ := List.exists_cons_of_ne_nil (List.splitOnP_ne_nil isDebugSep rest)
    by_cases hc : isDebugSep c = true
    · -- a separator: it ends the word, or a keyword follows
      refine ⟨?_, fun _ => ?_⟩
      · simp only [debugScan, hc, if_true, List.splitOnP_cons, List.tail_cons]
        split_ifs with hr
        · subst hr; simp [keywordsEffect, Except.toOption]
        · exact (ih level).2 hr
      · simp [debugScan, debugKeyword_sep hc, hc, hsplit, keywordsEffect, Except.toOption]
    · -- a character of a keyword
      simp only [Bool.not_eq_true] at hc
      have hcons : (c :: rest).splitOnP isDebugSep = (c :: q) :: qs := by
        simp [hc, hsplit]
      refine ⟨?_, fun _ => ?_⟩
      · simpa [debugScan, hc, hcons, hsplit] using (ih level).1
      · rw [hcons, keywordsEffect]
        simp only [debugScan, debugKeyword_eq]
        cases keywordEffect c with
        | none => rfl
        | some e => simpa [hsplit, Function.comp_def] using (ih (e.apply level)).1

/-- **The `--debug` loop reads keywords.** Scanning a word from any `db_level` succeeds exactly
when the word, cut at its commas and spaces, is a list of keywords (with at most one empty piece,
after a final separator), and then applies each keyword's change in order. -/
theorem debugScan_toOption (level : Nat) (p : List Char) :
    (debugScan level true p).toOption = (debugWordEffect p).map (·.apply level) := by
  by_cases hp : p = []
  · subst hp; rfl
  · rw [debugWordEffect, if_neg hp]
    exact (debugScan_pieces p level).2 hp

/-! ## `decode_debug_flags` -/

/-- What the `--debug` words do, in order. -/
def wordsEffect : List (List Char) → Option DebugEffect
  | [] => some .keep
  | p :: ps => (debugWordEffect p).bind fun e => (wordsEffect ps).map e.andThen

theorem foldlM_debugScan (ws : List (List Char)) :
    ∀ level, (ws.foldlM (fun l p => debugScan l true p) level).toOption =
      (wordsEffect ws).map (·.apply level) := by
  induction ws with
  | nil => intro level; simp [wordsEffect, Except.toOption, pure, Except.pure]
  | cons p ps ih =>
    intro level
    have hp := debugScan_toOption level p
    simp only [List.foldlM_cons, wordsEffect, bind, Except.bind]
    cases hs : debugScan level true p with
    | error m =>
      cases he : debugWordEffect p <;> simp_all [Except.toOption]
    | ok l =>
      cases he : debugWordEffect p with
      | none => simp [hs, he, Except.toOption] at hp
      | some e =>
        simp only [hs, he, Except.toOption, Option.map_some', Option.some.injEq] at hp
        subst hp
        simpa [Option.map_map, Function.comp_def] using ih (e.apply level)

/-- `db_level = DB_ALL` under `-d`. -/
def debugFlagEffect (st : SwitchStore) : DebugEffect :=
  if st.ints .debugFlag ≠ 0 then ⟨true, dbAll⟩ else .keep

/-- `db_level |= DB_PRINT | DB_WHY` under `--trace`. -/
def traceEffect (st : SwitchStore) : DebugEffect :=
  if st.ints .traceFlag ≠ 0 then ⟨false, dbPrint ||| dbWhy⟩ else .keep

/-- `db_level` before the words. -/
def startEffect (st : SwitchStore) : DebugEffect := (debugFlagEffect st).andThen (traceEffect st)

theorem startEffect_apply (st : SwitchStore) (level : Nat) :
    (startEffect st).apply level =
      let l0 := if st.ints .debugFlag ≠ 0 then dbAll else level
      if st.ints .traceFlag ≠ 0 then l0 ||| (dbPrint ||| dbWhy) else l0 := by
  simp only [startEffect, debugFlagEffect, traceEffect, DebugEffect.apply_andThen]
  split_ifs <;> simp [DebugEffect.apply, DebugEffect.keep]

theorem toOption_eq_some {ε α : Type} {r : Except ε α} {a : α} :
    r.toOption = some a ↔ r = .ok a := by
  cases r <;> simp [Except.toOption]

theorem toOption_eq_none {ε α : Type} {r : Except ε α} : r.toOption = none ↔ ∃ m, r = .error m := by
  cases r <;> simp [Except.toOption]

theorem decodeDebugFlags_of_words {st : SwitchStore} {e : DebugEffect}
    (he : wordsEffect (st.lists .dbFlags) = some e) (dbLevel : Nat) (vf : Bool) :
    decodeDebugFlags st dbLevel vf =
      .ok (clearDebugFlag st (e.apply ((startEffect st).apply dbLevel)),
        e.apply ((startEffect st).apply dbLevel),
        vf || e.apply ((startEffect st).apply dbLevel) ≠ 0) := by
  have hfold := foldlM_debugScan (st.lists .dbFlags) ((startEffect st).apply dbLevel)
  rw [he, Option.map_some', toOption_eq_some] at hfold
  simp only [startEffect_apply] at hfold ⊢
  simp only [decodeDebugFlags, bind, Except.bind, hfold]
  rfl

theorem decodeDebugFlags_of_words_none {st : SwitchStore}
    (he : wordsEffect (st.lists .dbFlags) = none) (dbLevel : Nat) (vf : Bool) :
    (decodeDebugFlags st dbLevel vf).toOption = none := by
  have hfold := foldlM_debugScan (st.lists .dbFlags) ((startEffect st).apply dbLevel)
  rw [he, Option.map_none', toOption_eq_none] at hfold
  obtain ⟨m, hm⟩ := hfold
  simp only [startEffect_apply] at hm
  simp only [decodeDebugFlags, bind, Except.bind, hm]
  rfl

/-- A successful `decode_debug_flags` writes the switch store only through `debug_flag`. -/
theorem decodeDebugFlags_store {st st' : SwitchStore} {dbLevel level : Nat} {vf vf' : Bool}
    (h : decodeDebugFlags st dbLevel vf = .ok (st', level, vf')) :
    st' = clearDebugFlag st level := by
  cases he : wordsEffect (st.lists .dbFlags) with
  | none => simpa [h, Except.toOption] using decodeDebugFlags_of_words_none he dbLevel vf
  | some e =>
    rw [decodeDebugFlags_of_words he] at h
    obtain ⟨rfl, rfl, -⟩ : _ ∧ _ ∧ _ := by simpa using h
    rfl

@[simp] theorem clearDebugFlag_lists (st : SwitchStore) (level : Nat) :
    (clearDebugFlag st level).lists = st.lists := rfl

theorem clearDebugFlag_idem (st : SwitchStore) (level : Nat) :
    clearDebugFlag (clearDebugFlag st level) level = clearDebugFlag st level := by
  simp only [clearDebugFlag, SwitchStore.mk.injEq, and_true]
  funext v
  split_ifs <;> simp_all

theorem startEffect_clearDebugFlag (st : SwitchStore) (level : Nat) :
    startEffect (clearDebugFlag st level) =
      if level = 0 then traceEffect st else startEffect st := by
  have htrace : traceEffect (clearDebugFlag st level) = traceEffect st := by
    simp [traceEffect, clearDebugFlag]
  unfold startEffect debugFlagEffect
  split_ifs <;> simp_all [clearDebugFlag]

/-- The second run starts from the level the first left: without `-d` if it is `0` (the first
run cleared `debug_flag`), from `DB_ALL` as the first did otherwise. Either way it applies the
first run's whole change once more, which changes nothing. -/
theorem rerun_level {st : SwitchStore} {e : DebugEffect} {dbLevel level : Nat}
    (hl : e.apply ((startEffect st).apply dbLevel) = level) :
    e.apply ((startEffect (clearDebugFlag st level)).apply level) = level := by
  subst hl
  rw [startEffect_clearDebugFlag]
  split_ifs
  · simpa [startEffect] using
      DebugEffect.apply_apply ((traceEffect st).andThen e) ((debugFlagEffect st).apply dbLevel)
  · simpa using DebugEffect.apply_apply ((startEffect st).andThen e) dbLevel

/-- **`decode_debug_flags` is idempotent.** It runs at the end of every `decode_switches`; from
the store and globals one run leaves, a second run succeeds and leaves them as they are. -/
theorem debug_flags_idempotent {st st' : SwitchStore} {dbLevel level : Nat} {vf vf' : Bool}
    (h : decodeDebugFlags st dbLevel vf = .ok (st', level, vf')) :
    decodeDebugFlags st' level vf' = .ok (st', level, vf') := by
  cases he : wordsEffect (st.lists .dbFlags) with
  | none => simpa [h, Except.toOption] using decodeDebugFlags_of_words_none he dbLevel vf
  | some e =>
    rw [decodeDebugFlags_of_words he] at h
    obtain ⟨rfl, rfl, rfl⟩ : _ ∧ _ ∧ _ := by simpa using h
    rw [decodeDebugFlags_of_words (by simpa using he), rerun_level rfl, clearDebugFlag_idem]
    simp

/-- `make -d --trace --debug=basic,jobs --debug=Why,`: no switch with a value but these. -/
def debugSampleStore : SwitchStore where
  ints v := if v = .debugFlag ∨ v = .traceFlag then 1 else 0
  uints _ := 0
  doubles _ := 0
  strs _ := none
  lists v := if v = .dbFlags then ["basic,jobs".toList, "Why,".toList] else []
  specified _ := false

theorem debug_flags_idempotent_sample :
    decodeDebugFlags debugSampleStore 0 false =
        .ok (clearDebugFlag debugSampleStore dbAll, dbAll, true) ∧
      decodeDebugFlags (clearDebugFlag debugSampleStore dbAll) dbAll true =
        .ok (clearDebugFlag debugSampleStore dbAll, dbAll, true) :=
  have h : decodeDebugFlags debugSampleStore 0 false =
      .ok (clearDebugFlag debugSampleStore dbAll, dbAll, true) := rfl
  ⟨h, debug_flags_idempotent h⟩

end MemoryAwareMake
