import MemoryAwareMake.Monitor.Tick

/-!
# MemoryAwareMake — the memory bar of the monitor

Each pass of the monitor loop reads `/proc/meminfo` with `get_memory_stats (&mem_percent)`,
stops the thread when `mem_percent == 0`, and ends with `display_memory_status (mem_percent,
free_mb, 0, total_jobs, total_make_mem, total_imminent_mb)`. When the display is enabled and
due (every 300 ms), that call estimates the total memory as `free_mb / (100 - mem_percent) *
100` and divides by it to size the four zones of a 20-column bar.

The `unsigned` arithmetic is modelled on `Nat` with its moduli, and a division by zero, which
raises `SIGFPE` and kills make, as `none` (`udiv`).

* `memoryBar_eq_none_iff` — the bar traps exactly when `100 - mem_percent` or the estimated
  total is `0`;
* `memoryBar_width` — the four widths add up to the larger of 20 and the first three;
* `display_divides_by_zero_below_one_percent` — below 1% of available memory `mem_percent` is
  `100`, and the monitor's call divides by zero;
* `memory_bar_overflows` — imminent memory above the estimated total draws a bar wider than 20.
-/

namespace MemoryAwareMake

/-- `get_memory_stats (&percent)` on a `/proc/meminfo` whose `MemTotal` and `MemAvailable` lines
read `totalKb` and `availKb` (`0` for a missing line): `avail_kb / 1024` and `*percent`, which is
`(unsigned int) (100 - avail_kb * 100 / total_kb)` computed in `unsigned long`. -/
def getMemoryStats (totalKb availKb : Nat) : Nat × Nat :=
  if 0 < availKb then
    (availKb / 1024,
      if 0 < totalKb then ulongSub 100 ((availKb * 100 % ulongSize) / totalKb) % uintSize
      else 0)
  else (0, 0)

/-- Unsigned division: a zero divisor raises `SIGFPE`. -/
def udiv (a b : Nat) : Option Nat := if b = 0 then none else some (a / b)

/-- An `unsigned long` stored into an `int`: its low 32 bits, in two's complement. -/
def intOfUlong (n : Nat) : Int :=
  if n % uintSize < 2147483648 then (n % uintSize : Nat) else (n % uintSize : Nat) - uintSize

/-- `int bar_len = 20;` -/
def barLen : Int := 20

/-- The widths of the bar's zones: make's memory, other used memory, imminent memory, free
memory. -/
structure BarWidths where
  makeFilled : Int
  otherFilled : Int
  imminentFilled : Int
  freeFilled : Int
  deriving DecidableEq, Repr

/-- The bar of `display_memory_status (mem_percent, free_mb, force, total_jobs, make_usage_mb,
imminent_mb)` once the call is due: `total_mb = free_mb / (100 - mem_percent) * 100`, then the
four zone widths, `none` when a division traps. -/
def memoryBar (memPercent freeMb makeUsageMb imminentMb : Nat) : Option BarWidths := do
  let q ← udiv freeMb ((100 + uintSize - memPercent % uintSize) % uintSize)
  let totalMb := q * 100 % ulongSize
  let makeFilled := intOfUlong (← udiv (makeUsageMb * 20 % ulongSize) totalMb)
  let imminentFilled := intOfUlong (← udiv (imminentMb * 20 % ulongSize) totalMb)
  let totalUsedFilled : Int := ((memPercent * 20 % uintSize) / 100 : Nat)
  let otherFilled := totalUsedFilled - makeFilled
  let otherFilled := if otherFilled < 0 then 0 else otherFilled
  let freeFilled := barLen - makeFilled - otherFilled - imminentFilled
  let freeFilled := if freeFilled < 0 then 0 else freeFilled
  return ⟨makeFilled, otherFilled, imminentFilled, freeFilled⟩

/-- One pass of the monitor loop from `/proc/meminfo` to the bar: `none` when `mem_percent == 0`
stops the thread, otherwise what the `display_memory_status` call computes once it is due. -/
def monitorDisplay (totalKb availKb makeMem imminentMb : Nat) : Option (Option BarWidths) :=
  let st := getMemoryStats totalKb availKb
  if st.2 = 0 then none else some (memoryBar st.2 st.1 makeMem imminentMb)

/-! ## When the bar traps -/

theorem udiv_eq_none_iff {a b : Nat} : udiv a b = none ↔ b = 0 := by
  unfold udiv; split_ifs <;> simp_all

/-- **The bar traps exactly when a divisor is zero**: `100 - mem_percent`, or the estimated
total `free_mb / (100 - mem_percent) * 100`. -/
theorem memoryBar_eq_none_iff (p f m i : Nat) :
    memoryBar p f m i = none ↔ (100 + uintSize - p % uintSize) % uintSize = 0 ∨
      f / ((100 + uintSize - p % uintSize) % uintSize) * 100 % ulongSize = 0 := by
  unfold memoryBar
  by_cases h1 : (100 + uintSize - p % uintSize) % uintSize = 0 <;>
    by_cases h2 : f / ((100 + uintSize - p % uintSize) % uintSize) * 100 % ulongSize = 0 <;>
    simp [udiv, h1, h2]

/-- **Below 1% of available memory the monitor divides by zero.** When `MemAvailable` is
positive but under 1% of `MemTotal`, `get_memory_stats` gives `mem_percent = 100`, so the
thread goes on and the call of `display_memory_status` divides by `100 - mem_percent = 0`. -/
theorem display_divides_by_zero_below_one_percent (totalKb availKb makeMem imminentMb : Nat)
    (h0 : 0 < availKb) (h1 : availKb * 100 < totalKb) (hT : totalKb < ulongSize) :
    (getMemoryStats totalKb availKb).2 = 100 ∧
      monitorDisplay totalKb availKb makeMem imminentMb = some none := by
  have hq : (availKb * 100 % ulongSize) / totalKb = 0 := by
    rw [Nat.mod_eq_of_lt (by omega)]
    exact Nat.div_eq_of_lt h1
  have hp : (getMemoryStats totalKb availKb).2 = 100 := by
    simp only [getMemoryStats, if_pos h0, if_pos (show 0 < totalKb by omega), hq]
    decide
  refine ⟨hp, ?_⟩
  simp only [monitorDisplay, hp]
  rw [if_neg (by decide), (memoryBar_eq_none_iff _ _ _ _).mpr (.inl (by decide))]

/-- The monitor's call with 16 GiB of memory of which 100000 kB are available. -/
theorem display_divides_by_zero_below_one_percent_run :
    (0 < 100000 ∧ 100000 * 100 < 16777216 ∧ 16777216 < ulongSize) ∧
      ((getMemoryStats 16777216 100000).2 = 100 ∧ monitorDisplay 16777216 100000 0 0 = some none) :=
  ⟨by decide, display_divides_by_zero_below_one_percent 16777216 100000 0 0 (by decide)
    (by decide) (by decide)⟩

/-! ## The width of the bar -/

/-- **The bar is 20 columns only when its first three zones fit.** The free zone fills what
the other three leave of 20 columns, and nothing when they take more. -/
theorem memoryBar_width {p f m i : Nat} {w : BarWidths} (h : memoryBar p f m i = some w) :
    0 ≤ w.otherFilled ∧ 0 ≤ w.freeFilled ∧
      w.makeFilled + w.otherFilled + w.imminentFilled + w.freeFilled =
        max barLen (w.makeFilled + w.otherFilled + w.imminentFilled) := by
  unfold memoryBar at h
  by_cases h1 : (100 + uintSize - p % uintSize) % uintSize = 0
  · simp [udiv, h1] at h
  by_cases h2 : f / ((100 + uintSize - p % uintSize) % uintSize) * 100 % ulongSize = 0
  · simp [udiv, h1, h2] at h
  simp only [udiv, h1, h2, if_false, Option.bind_eq_bind, Option.some_bind, Option.pure_def,
    Option.some.injEq] at h
  subst h
  -- the two clamps
  dsimp only
  split_ifs <;> unfold barLen at * <;> omega

/-- **Imminent memory can widen the bar past 20 columns.** At 50% used of an estimated
2000 MiB, 4000 MiB of imminent memory take 40 columns, the used share 10 more, and the bar is
50 columns wide. -/
theorem memory_bar_overflows :
    memoryBar 50 1000 0 4000 = some ⟨0, 10, 40, 0⟩ := by
  decide

end MemoryAwareMake
