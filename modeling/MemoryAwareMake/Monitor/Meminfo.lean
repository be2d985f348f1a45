import MemoryAwareMake.Monitor.Display

/-!
# MemoryAwareMake — reading `/proc/meminfo`

`get_memory_stats` reads `/proc/meminfo` line by line with `fgets` and tries each line against
`"MemTotal: %lu"`, going on to the next line when it converts, then against
`"MemAvailable: %lu"`, leaving the loop when that converts. The `%lu` conversion of `sscanf` is
the C library's and a parameter here (`scanLu`): it gets the text after the literal field name,
whose blank in the format matches any run of white space, as `%lu` itself skips it.

`getMemoryStats` takes the two values the loop leaves in `total_kb` and `avail_kb`; this module
is the loop that finds them.

* `meminfoLoop_eq` — the loop keeps the last `MemTotal` line before the first `MemAvailable`
  line, and that line's value;
* `get_memory_stats_reads_meminfo` — `get_memory_stats` on the lines of the file is
  `getMemoryStats` of those two values;
* `monitor_quits_iff` — the monitor thread's loop returns on `mem_percent == 0`, which happens
  exactly when no memory or all of it is available.
-/

namespace MemoryAwareMake

/-- `sscanf (line, "<field> %<conv>", &v) == 1`: the line starts with the field name and the
conversion `conv` (`%lu`, `%d`) converts what follows it. -/
def scanField {α : Type} (conv : List Char → Option α) (field line : List Char) : Option α :=
  if field.isPrefixOf line then conv (line.drop field.length) else none

section Scan

variable (scanLu : List Char → Option Nat)

/-- The `while (fgets (line, sizeof (line), meminfo))` loop, from `total_kb` and `avail_kb`. -/
def meminfoLoop : List (List Char) → Nat → Nat → Nat × Nat
  | [], totalKb, availKb => (totalKb, availKb)
  | line :: lines, totalKb, availKb =>
    match scanField scanLu "MemTotal:".toList line with
    | some t => meminfoLoop lines t availKb
    | none =>
      match scanField scanLu "MemAvailable:".toList line with
      | some a => (totalKb, a)
      | none => meminfoLoop lines totalKb availKb

/-- `get_memory_stats (&percent)` on the lines of `/proc/meminfo`, or on a failed `fopen`
(`none`): `(avail_kb / 1024, *percent)`. -/
def getMemoryStatsFile (meminfo : Option (List (List Char))) : Nat × Nat :=
  match meminfo with
  | none => (0, 0)
  | some lines =>
    let kb := meminfoLoop scanLu lines 0 0
    getMemoryStats kb.1 kb.2

/-- A line that ends the loop: it is no `MemTotal` line, and a `MemAvailable` line. -/
def availLine (line : List Char) : Bool :=
  (scanField scanLu "MemTotal:".toList line).isNone &&
    (scanField scanLu "MemAvailable:".toList line).isSome

/-- **The loop keeps the last `MemTotal` before the first `MemAvailable`.** `total_kb` ends as
the value of the last `MemTotal` line before the first `MemAvailable` line (or as it started),
and `avail_kb` as the value of that `MemAvailable` line (or as it started); no line after it is
read. -/
theorem meminfoLoop_eq (lines : List (List Char)) (totalKb availKb : Nat) :
    meminfoLoop scanLu lines totalKb availKb =
      ((((lines.takeWhile fun l => !availLine scanLu l).filterMap
          (scanField scanLu "MemTotal:".toList)).getLast?.getD totalKb),
        ((lines.find? (availLine scanLu)).bind (scanField scanLu "MemAvailable:".toList)).getD
          availKb) := by
  induction lines generalizing totalKb availKb with
  | nil => rfl
  | cons line lines ih =>
    unfold meminfoLoop
    cases ht : scanField scanLu "MemTotal:".toList line with
    | some t =>
      -- a `MemTotal` line: `continue`
      have hl : availLine scanLu line = false := by
        simp only [availLine, ht, Option.isNone_some, Bool.false_and]
      simp only [ih, List.takeWhile_cons, hl, Bool.not_false, if_true, List.filterMap_cons, ht,
        List.getLast?_cons, Option.getD_some, List.find?_cons, Bool.false_eq_true, if_false]
    | none =>
      cases ha : scanField scanLu "MemAvailable:".toList line with
      | some a =>
        -- the first `MemAvailable` line: `break`
        have hl : availLine scanLu line = true := by
          simp only [availLine, ht, ha, Option.isNone_none, Option.isSome_some, Bool.and_self]
        simp only [List.takeWhile_cons, hl, Bool.not_true, Bool.false_eq_true, if_false,
          List.filterMap_nil, List.getLast?_nil, Option.getD_none, List.find?_cons, if_true,
          Option.some_bind, ha, Option.getD_some]
      | none =>
        have hl : availLine scanLu line = false := by
          simp only [availLine, ht, ha, Option.isNone_none, Option.isSome_none, Bool.and_false]
        simp only [ih, List.takeWhile_cons, hl, Bool.not_false, if_true, List.filterMap_cons, ht,
          List.find?_cons, Bool.false_eq_true, if_false]

/-- **`get_memory_stats` reads `/proc/meminfo` as `getMemoryStats` expects.** On any lines and
for any `%lu` conversion, `get_memory_stats` gives `getMemoryStats` of the last `MemTotal` value
before the first `MemAvailable` line and of that line's value, each `0` when there is no such
line: a `MemTotal` line after `MemAvailable` is never read, and with no `MemAvailable` line the
result is `(0, 0)`. -/
theorem get_memory_stats_reads_meminfo (lines : List (List Char)) :
    getMemoryStatsFile scanLu (some lines) =
      getMemoryStats
        (((lines.takeWhile fun l => !availLine scanLu l).filterMap
          (scanField scanLu "MemTotal:".toList)).getLast?.getD 0)
        (((lines.find? (availLine scanLu)).bind
          (scanField scanLu "MemAvailable:".toList)).getD 0) := by
  simp only [getMemoryStatsFile, meminfoLoop_eq]

end Scan

/-! ## When the monitor quits -/

/-- **The monitor thread quits exactly when `MemAvailable` is 0 or all of `MemTotal`.** With
`MemAvailable` at most `MemTotal`, `get_memory_stats` gives `mem_percent == 0`, on which the
loop of `memory_monitor_thread_func` returns, when there is no available memory, and also when
all of it is available: `100 - avail_kb * 100 / total_kb` is then `0`. -/
theorem monitor_quits_iff {totalKb availKb : Nat} (makeMem imminentMb : Nat)
    (havail : availKb ≤ totalKb) (htotal : totalKb * 100 < ulongSize) :
    monitorDisplay totalKb availKb makeMem imminentMb = none ↔
      availKb = 0 ∨ availKb = totalKb := by
  have hI : uintSize = 4294967296 := rfl
  simp only [monitorDisplay, ite_eq_left_iff, reduceCtorEq, imp_false, not_not]
  unfold getMemoryStats
  rcases Nat.eq_zero_or_pos availKb with h0 | h0
  · simp [h0]
  have ht : 0 < totalKb := by omega
  -- `avail_kb * 100` does not wrap, and its quotient is at most 100, reached only at `total_kb`
  rw [Nat.mod_eq_of_lt (show availKb * 100 < ulongSize by omega)]
  have hq : availKb * 100 / totalKb ≤ 100 :=
    Nat.div_le_of_le_mul (by rw [Nat.mul_comm totalKb]; omega)
  have h100 := (Nat.le_div_iff_mul_le ht : 100 ≤ availKb * 100 / totalKb ↔ _)
  simp only [if_pos h0, if_pos ht, ulongSub_of_le hq (by decide), Nat.ne_of_gt h0, false_or]
  generalize availKb * 100 / totalKb = q at hq h100 ⊢
  rw [hI]
  omega

/-- A `/proc/meminfo` with all of its 1000 kB available stops the monitor. -/
theorem monitor_quits_iff_all_available :
    (1000 ≤ 1000 ∧ 1000 * 100 < ulongSize) ∧
      (monitorDisplay 1000 1000 0 0 = none ↔ 1000 = 0 ∨ 1000 = 1000) :=
  ⟨by decide, monitor_quits_iff 0 0 (by decide) (by decide)⟩

end MemoryAwareMake
