import MemoryAwareMake.Monitor.Walker

/-!
# MemoryAwareMake — one tick of the monitor loop

Each pass of the `while (monitor_thread_running)` loop of `memory_monitor_thread_func`

1. walks the processes below make (`find_child_descendants (getpid (), 0, -1, ...)`);
2. detects the tracked processes that are gone: each gets a final record of its peak when it
   has a profile, and is removed from the table (`exitDetection`);
3. publishes the unused peaks to the shared region;
4. writes the profiles to `.make_memory_cache` when they are dirty and the last write is at
   least 10 s old, clearing the flag whether or not the write succeeded (`saveIfDirty`).

A tick sees one snapshot of the processes (`TickInput`), for the walk and the liveness tests
alike, and one time for every `time (NULL)`. The sleep, the memory statistics and the status
display do not change the state and are not modelled. `runSystem` interleaves ticks with the
`reserve_memory_mb` calls that other processes make on the shared region.
-/

namespace MemoryAwareMake

/-- What one tick sees: the processes in `readdir` order, the time, the memory just before the
descendant array, and whether `save_memory_profiles` fails to open its temporary file or to
rename it. -/
structure TickInput where
  snap : List Proc
  now : Int
  below : Descendant
  fopenFails : Bool
  renameFails : Bool

/-- `fopen ("/proc/<pid>/status")` succeeds: the process still exists. -/
def alive (snap : List Proc) (pid : Int) : Bool :=
  snap.any fun p => p.pid = pid

/-- `UINT_MAX + 1`, the modulus of the loop index. -/
def uintSize : Nat := 4294967296

/-- The exit-detection loop `for (unsigned int i = 0; i < compile_count; i++)` from index `i`,
for at most `fuel` iterations, `none` when the fuel runs out before the loop test fails: an
entry whose process is gone gets its final record when it has a profile and a nonzero peak or
old peak, is removed, and `i--` (wrapping at `0`) makes the loop test index `i` again. -/
def exitDetection (snap : List Proc) (now : Int) : Nat → Nat → Monitor → Option Monitor
  | 0, _, _ => none
  | fuel + 1, i, m =>
    if i < m.md.compileCount then
      let d := m.md.descendants i
      if alive snap d.pid then exitDetection snap now fuel ((i + 1) % uintSize) m
      else
        let m := if 0 ≤ d.profileIdx ∧ (0 < d.peakMb ∨ 0 < d.oldPeakMb) then
          m.recordUsage d.profileIdx d.peakMb true now else m
        exitDetection snap now fuel (((i + uintSize - 1) % uintSize + 1) % uintSize)
          { m with md := removeDescendant m.md i }
    else some m

/-- `save_memory_profiles ()` in the top-level make: write the profiles to
`.make_memory_cache.tmp`, then rename it over `.make_memory_cache`. -/
def saveMemoryProfiles (m : Monitor) (fopenFails renameFails : Bool) : Monitor :=
  if fopenFails then m
  else if m.store.memoryProfilesCapacity = 0 then { m with tmp := some "" }
  else if renameFails then { m with tmp := some (serializeProfiles m.store) }
  else { m with cache := some (serializeProfiles m.store), tmp := none }

/-- The rate-limited save: when the profiles are dirty and the last save is at least 10 s old,
save, note the time and clear the flag. -/
def saveIfDirty (t : TickInput) (m : Monitor) : Monitor :=
  if m.store.memoryProfilesDirty ∧ 10 ≤ t.now - m.lastSaveTime then
    let m := saveMemoryProfiles m t.fopenFails t.renameFails
    { m with lastSaveTime := t.now, store := { m.store with memoryProfilesDirty := false } }
  else m

/-- One pass of the monitor loop of the make whose pid is `self`. The exit detection gets one
test per entry and a last one, which is enough on every table the walk leaves
(`Monitor/Exit.lean`); the state it was given stands in for a run out of fuel. -/
def tick (self : Int) (t : TickInput) (m : Monitor) : Monitor :=
  let r := findChildDescendants t.snap t.below t.now (t.snap.length + 1) self (-1) ⟨m, 0⟩
  let m := (exitDetection t.snap t.now (r.1.mon.md.compileCount + 1) 0 r.1.mon).getD r.1.mon
  saveIfDirty t { m with shared := { m.shared with unusedPeaksMb := r.1.unusedPeaksMb } }

/-- The monitor as it starts: an empty table, the profiles `s` as loaded from
`.make_memory_cache`, and a zeroed shared region. -/
def Monitor.start (s : ProfileStore) : Monitor :=
  ⟨.zero, s, .zero, 0, some (serializeProfiles s), none, []⟩

/-- What happens to the top-level make's state: a monitor tick, or a `reserve_memory_mb` call
by another thread or process. -/
inductive SysEvent where
  | tick (t : TickInput)
  | reserve (pid mb : Int)

/-- One event. -/
def sysStep (self : Int) (m : Monitor) : SysEvent → Monitor
  | .tick t => tick self t m
  | .reserve pid mb => { m with shared := (reserveMemoryMb m.shared pid mb).1 }

/-- A run of events. -/
def runSystem (self : Int) (m : Monitor) (evs : List SysEvent) : Monitor :=
  evs.foldl (sysStep self) m

/-! ## What a tick leaves undone -/

/-- **The exit detection never touches the reservations.** Whatever entries it removes, the
shared region is left as it was: the reservation of a process seen to exit is not released. -/
theorem exitDetection_shared (snap : List Proc) (now : Int) (fuel : Nat) :
    ∀ i m m', exitDetection snap now fuel i m = some m' → m'.shared = m.shared := by
  induction fuel with
  | zero => exact fun _ _ _ h => by simp [exitDetection] at h
  | succ n ih =>
    intro i m m' h
    simp only [exitDetection] at h
    split_ifs at h
    · exact ih _ _ _ h
    · rw [ih _ _ _ h]
      simp only [Monitor.recordUsage_shared]
    · rw [ih _ _ _ h]
    · cases h
      rfl

/-- The save never touches the descendant table. -/
@[simp] theorem saveIfDirty_md (t : TickInput) (m : Monitor) : (saveIfDirty t m).md = m.md := by
  unfold saveIfDirty saveMemoryProfiles
  split_ifs <;> rfl

/-- **A due save clears the flag whatever happens to the file.** When the profiles are dirty
and the last save is at least 10 s old, the flag is cleared, and when the temporary file cannot
be opened or renamed `.make_memory_cache` keeps its old contents. -/
theorem saveIfDirty_clears (t : TickInput) (m : Monitor) (hd : m.store.memoryProfilesDirty = true)
    (hdue : 10 ≤ t.now - m.lastSaveTime) :
    (saveIfDirty t m).store.memoryProfilesDirty = false ∧
      (t.fopenFails = true ∨ t.renameFails = true → (saveIfDirty t m).cache = m.cache) := by
  simp only [saveIfDirty, hd, hdue, and_self, if_true, saveMemoryProfiles, true_and]
  intro h
  split_ifs <;> simp_all

/-! ## Runs on concrete process trees

Make runs as pid `100`, its compilers are `gcc -c <file>` processes, every tick reads `0` in the
memory before the descendant array and every save succeeds. -/

/-- `/proc/<pid>/cmdline` of `gcc -c file`. -/
def gccCmdline (file : String) : List Char :=
  cmdlineOfArgv ["gcc".toList, "-c".toList, file.toList]

/-- A compiler `pid`, child of `ppid`, resident at `mb` MiB, compiling `file`. -/
def compileProc (pid ppid : Int) (mb : Nat) (file : String) : Proc :=
  ⟨pid, ppid, mb * 1024, some (gccCmdline file)⟩

/-- A store holding exactly the profiles `ps`, as loaded from the cache. -/
def ProfileStore.ofList (ps : List FileMemoryProfile) : ProfileStore :=
  ⟨fun i => ps.getD i .empty, ps.length, ps.length, false⟩

/-- A tick that reads `0` before the descendant array and saves without failure. -/
def TickInput.ok (snap : List Proc) (now : Int) : TickInput := ⟨snap, now, .zero, false, false⟩

/-- **A reservation outlives its process.** The monitor discovers compiler `101` of `src/a.c`
(releasing its profile's 500 MiB, of which nothing is reserved yet); make then reserves 500 MiB
for it; the compiler exits and the next tick removes its entry, yet slot 0 of the shared region
still holds its 500 MiB. -/
theorem exited_descendant_keeps_reservation :
    let m₁ : Monitor := runSystem 100 (.start (.ofList [⟨some "src/a.c", 500, 0⟩]))
      [.tick (.ok [compileProc 101 100 100 "src/a.c"] 1000), .reserve 101 500]
    let m₂ : Monitor := tick 100 (.ok [] 1001) m₁
    m₁.md.compileCount = 1 ∧ (m₁.md.descendants 0).pid = 101 ∧ m₂.md.compileCount = 0 ∧
      m₂.shared.reservations ⟨0, by decide⟩ = ⟨101, 500⟩ := by
  decide

/-- **A new profile is left unsaved under a clear flag.** Starting with the cache file holding
the store and the flag clear, a compiler of the new file `src/b.c` gets a profile (peak 100 MiB)
that is not saved, while the flag stays clear. -/
theorem new_profile_left_unsaved_while_clean :
    let m₀ : Monitor := .start (.ofList [⟨some "src/a.c", 1000, 0⟩])
    let m₁ : Monitor := tick 100 (.ok [compileProc 101 100 100 "src/b.c"] 1000) m₀
    m₀.cache = some (serializeProfiles m₀.store) ∧ m₀.store.memoryProfilesDirty = false ∧
      m₁.store.memoryProfilesDirty = false ∧ m₁.cache ≠ some (serializeProfiles m₁.store) := by
  decide

/-- **The published unused peaks ignore a falling RSS.** A compiler of `src/a.c`, whose profile
says 1000 MiB, is seen at 500 MiB and then at 200 MiB: the second tick still publishes the
shortfall 500 from the first, not 800. -/
theorem published_unused_peaks_ignore_falling_rss :
    let m₁ : Monitor := tick 100 (.ok [compileProc 101 100 500 "src/a.c"] 1000)
      (.start (.ofList [⟨some "src/a.c", 1000, 0⟩]))
    let m₂ : Monitor := tick 100 (.ok [compileProc 101 100 200 "src/a.c"] 1001) m₁
    m₁.shared.unusedPeaksMb = 500 ∧ m₂.md.compileCount = 1 ∧ (m₂.md.descendants 0).pid = 101 ∧
      (m₂.md.descendants 0).oldPeakMb = 1000 ∧ (m₂.md.descendants 0).profileIdx = 0 ∧
      m₂.shared.unusedPeaksMb = 500 := by
  decide

/-- A compiler of `src/a.c` at 100 MiB running its compiler proper `cc1` at 200 MiB. -/
def gccWithCc1 : TickInput :=
  .ok [compileProc 101 100 100 "src/a.c", ⟨102, 101, 200 * 1024, some "cc1".toList⟩] 1000

/-- The monitor with the loaded profile `src/a.c` at 1000 MiB. -/
def startWithA : Monitor := .start (.ofList [⟨some "src/a.c", 1000, 0⟩])

/-- **A second tick on the same snapshot changes the state.** On the first tick the new entry's
shortfall is taken from the compiler's own RSS (1000 - 100); on the second from its RSS with
that of `cc1` (1000 - 300). -/
theorem monitor_tick_not_idempotent :
    (tick 100 gccWithCc1 startWithA).shared.unusedPeaksMb = 900 ∧
      (tick 100 gccWithCc1 (tick 100 gccWithCc1 startWithA)).shared.unusedPeaksMb = 700 ∧
      tick 100 gccWithCc1 (tick 100 gccWithCc1 startWithA) ≠ tick 100 gccWithCc1 startWithA := by
  have h : (tick 100 gccWithCc1 startWithA).shared.unusedPeaksMb = 900 ∧
      (tick 100 gccWithCc1 (tick 100 gccWithCc1 startWithA)).shared.unusedPeaksMb = 700 := by
    decide
  refine ⟨h.1, h.2, fun heq => ?_⟩
  have := congrArg (fun m : Monitor => m.shared.unusedPeaksMb) heq
  simp only [h.1, h.2] at this
  exact absurd this (by decide)

/-- **The walk reads `descendants[-1]`.** The compiler proper `cc1` runs under the tracked,
profiled `gcc`, so the walk gives it no entry (`parent_idx >= 0`) and the table holds `gcc`
alone; yet the shortfall added for `cc1` is read at `descendant_idx = -1`, from the memory just
before the array: with a zero word there the tick publishes 900 MiB of unused peaks, with a word
whose `old_peak_mb` field reads 500 it publishes 1400. -/
theorem walk_reads_before_descendants :
    (tick 100 gccWithCc1 startWithA).md.compileCount = 1 ∧
      (tick 100 gccWithCc1 startWithA).shared.unusedPeaksMb = 900 ∧
      (tick 100 { gccWithCc1 with below := ⟨0, 0, 500, 0, 0⟩ } startWithA).shared.unusedPeaksMb =
        1400 := by
  decide

/-- **An entry inherits a stale peak.** Compiler `101` of `src/a.c` peaks at 500 MiB and exits;
compiler `102` of `src/b.c` then takes the vacated slot and, though it is only ever seen at
100 MiB, keeps `peak_mb = 500`; at its exit the final record writes 500 MiB into the profile of
`src/b.c`. -/
theorem reused_slot_keeps_stale_peak :
    let m₃ : Monitor := runSystem 100 (.start (.ofList []))
      [.tick (.ok [compileProc 101 100 500 "src/a.c"] 1000), .tick (.ok [] 1001),
        .tick (.ok [compileProc 102 100 100 "src/b.c"] 1002)]
    let m₄ : Monitor := tick 100 (.ok [] 1003) m₃
    m₃.md.compileCount = 1 ∧ m₃.md.descendants 0 = ⟨102, 500, 0, 100, 1⟩ ∧
      m₄.trace.getLast? = some (.record 1 500 true) ∧
      m₄.store.memoryProfiles 1 = ⟨some "src/b.c", 500, 1003⟩ := by
  decide

end MemoryAwareMake
