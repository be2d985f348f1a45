import MemoryAwareMake.Shared.Reserve
import MemoryAwareMake.Monitor.Profiles

/-!
# MemoryAwareMake — the monitor's state and its descendant table

The monitor thread of the top-level make (`memory_monitor_thread_func`) tracks the processes it
finds below make in `main_monitoring_data`: up to `MAX_TRACKED_DESCENDANTS` entries, each with
the process's pid, its peak and current MiB, the profile's peak when the process was found
(`old_peak_mb`) and the index of its file's profile.

`Monitor` gathers everything the monitor reads and writes: the table, the profile store, the
shared reservation region, the rate limiter of the cache writes, the two cache files and the
monitor's debug lines (`Event`), which record when an entry was made and each call of
`record_file_memory_usage_by_index`.

* `scanTable_not_found` — when the walker's table scan reports no entry, no entry below the
  count has the pid;
* `addDescendant`, `removeDescendant` — a new entry at the end, and the `memmove` compaction;
  `removeDescendant_descendants` says where every remaining entry came from;
* `DescendantsInv` — at most 100 entries, with pairwise distinct pids.
-/

namespace MemoryAwareMake

/-- `MAX_TRACKED_DESCENDANTS`. -/
def maxTrackedDescendants : Nat := 100

/-- One entry of `main_monitoring_data.descendants`. -/
structure Descendant where
  pid : Int
  peakMb : Nat
  oldPeakMb : Nat
  currentMb : Nat
  profileIdx : Int
  deriving DecidableEq, Repr

/-- A zero-initialised entry. -/
def Descendant.zero : Descendant := ⟨0, 0, 0, 0, 0⟩

/-- `main_monitoring_data`: the count and the entries (the walker writes no index past 99). -/
structure MonitoringData where
  compileCount : Nat
  descendants : Nat → Descendant

/-- `main_monitoring_data = {0}`. -/
def MonitoringData.zero : MonitoringData := ⟨0, fun _ => .zero⟩

/-- What the walker reads of `/proc/<pid>`: the `PPid` and `VmRSS` (0 when absent) of its
`status`, and its `cmdline` (`none` when it cannot be opened). -/
structure Proc where
  pid : Int
  ppid : Int
  vmRssKb : Nat
  cmdline : Option (List Char)
  deriving DecidableEq, Repr

/-- The monitor's debug lines the proofs look at. -/
inductive Event where
  /-- `New descendant[idx] PID=pid ... pidx=profile_idx ... (file: strip_ptr)` -/
  | newDescendant (idx : Nat) (pid : Int) (profileIdx : Int) (file : Option String)
  /-- A call `record_file_memory_usage_by_index (profile_idx, memory_mb, final)`. -/
  | record (profileIdx : Int) (memoryMb : Nat) (final : Bool)
  deriving DecidableEq, Repr

/-- The state of the top-level make that the monitor thread reads and writes. -/
structure Monitor where
  md : MonitoringData
  store : ProfileStore
  shared : SharedMemoryData
  /-- The `static time_t last_save_time` of the monitor loop. -/
  lastSaveTime : Int
  /-- The contents of `.make_memory_cache`, if it exists. -/
  cache : Option String
  /-- The contents of `.make_memory_cache.tmp`, if it exists. -/
  tmp : Option String
  trace : List Event

/-- A call of `record_file_memory_usage_by_index`, with its debug line. -/
def Monitor.recordUsage (m : Monitor) (profileIdx : Int) (memoryMb : Nat) (final : Bool)
    (now : Int) : Monitor :=
  { m with
    store := recordFileMemoryUsageByIndex m.store profileIdx memoryMb final now
    trace := m.trace ++ [.record profileIdx memoryMb final] }

@[simp] theorem Monitor.recordUsage_md (m : Monitor) (k : Int) (mb : Nat) (final : Bool)
    (now : Int) : (m.recordUsage k mb final now).md = m.md := rfl

@[simp] theorem Monitor.recordUsage_shared (m : Monitor) (k : Int) (mb : Nat) (final : Bool)
    (now : Int) : (m.recordUsage k mb final now).shared = m.shared := rfl

/-! ## The table scan -/

/-- What the table scan of one walker iteration finds: `descendant_idx`, `found_ppidx` and
`profile_idx`. -/
structure TableHit where
  descendantIdx : Int
  foundPpidx : Int
  profileIdx : Int
  deriving DecidableEq, Repr

/-- The two tests of the scan at index `i`: the parent's entry gives `found_ppidx`, the
process's own entry gives `descendant_idx` and `profile_idx`. -/
def scanStep (d : Nat → Descendant) (parentPid pid : Int) (i : Nat) (h : TableHit) : TableHit :=
  let h := if (d i).pid = parentPid then { h with foundPpidx := (d i).profileIdx } else h
  if (d i).pid = pid then { h with descendantIdx := i, profileIdx := (d i).profileIdx } else h

/-- `for (i = 0; i < compile_count; i++)` from index `i` with `n` entries left, stopping once
both the process's entry and a profile for its parent are known. -/
def scanTable (d : Nat → Descendant) (parentPid pid : Int) : Nat → Nat → TableHit → TableHit
  | _, 0, h => h
  | i, n + 1, h =>
    let h := scanStep d parentPid pid i h
    if 0 ≤ h.descendantIdx ∧ 0 ≤ h.foundPpidx then h else scanTable d parentPid pid (i + 1) n h

theorem scanStep_descendantIdx (d : Nat → Descendant) (parentPid pid : Int) (i : Nat)
    (h : TableHit) : (scanStep d parentPid pid i h).descendantIdx =
      if (d i).pid = pid then (i : Int) else h.descendantIdx := by
  unfold scanStep; split_ifs <;> rfl

/-- Once the process's entry is found the scan keeps it. -/
theorem scanTable_found {d : Nat → Descendant} {parentPid pid : Int} (i n : Nat) {h : TableHit}
    (hd : 0 ≤ h.descendantIdx) : 0 ≤ (scanTable d parentPid pid i n h).descendantIdx := by
  induction n generalizing i h with
  | zero => exact hd
  | succ n ih =>
    have hs : 0 ≤ (scanStep d parentPid pid i h).descendantIdx := by
      rw [scanStep_descendantIdx]; split_ifs <;> omega
    simp only [scanTable]
    split_ifs
    · exact hs
    · exact ih _ hs

/-- **The scan misses only absent pids.** When the scan from `i` over `n` entries reports no
entry for `pid`, none of those entries has it. -/
theorem scanTable_not_found {d : Nat → Descendant} {parentPid pid : Int} (i n : Nat)
    {h : TableHit} (hr : (scanTable d parentPid pid i n h).descendantIdx < 0) :
    ∀ j, i ≤ j → j < i + n → (d j).pid ≠ pid := by
  induction n generalizing i h with
  | zero => intro j _ _; omega
  | succ n ih =>
    simp only [scanTable] at hr
    -- the scan did not stop at `i`, so `hr` is about the scan from `i + 1`
    split_ifs at hr with hstop
    · omega
    intro j hij hjn hpid
    rcases Nat.eq_or_lt_of_le hij with heq | hlt
    · rw [← heq] at hpid
      have := @scanTable_found d parentPid pid (i + 1) n (scanStep d parentPid pid i h)
        (by rw [scanStep_descendantIdx, if_pos hpid]; omega)
      omega
    · exact ih (i + 1) hr j (by omega) (by omega) hpid

/-! ## Adding and removing entries -/

/-- The new-entry block: at index `compile_count` set the pid, the current MiB, the profile's
peak and index, and count the entry. `peak_mb` keeps what the slot held. -/
def addDescendant (md : MonitoringData) (pid : Int) (currentMb oldPeakMb : Nat) (profileIdx : Int) :
    MonitoringData where
  compileCount := md.compileCount + 1
  descendants := Function.update md.descendants md.compileCount
    { md.descendants md.compileCount with pid, currentMb, oldPeakMb, profileIdx }

/-- The exit detection's removal of entry `i`: the entries after it move down one place (the
`memmove`, empty when `i` is the last) and the count drops. The slot at the old last index
keeps its contents. -/
def removeDescendant (md : MonitoringData) (i : Nat) : MonitoringData where
  compileCount := md.compileCount - 1
  descendants j := if i ≤ j ∧ j < md.compileCount - 1 then md.descendants (j + 1) else md.descendants j

/-- Overwrite entry `i` (the walker's update of `current_mb` and `peak_mb`). -/
def MonitoringData.setDescendant (md : MonitoringData) (i : Nat) (d : Descendant) : MonitoringData :=
  { md with descendants := Function.update md.descendants i d }

/-- An overwrite that keeps the entry's pid and profile index keeps every entry's pid and
profile index. -/
theorem MonitoringData.setDescendant_keys (md : MonitoringData) {i : Nat} {d : Descendant}
    (hpid : d.pid = (md.descendants i).pid) (hk : d.profileIdx = (md.descendants i).profileIdx)
    (j : Nat) : ((md.setDescendant i d).descendants j).pid = (md.descendants j).pid ∧
      ((md.setDescendant i d).descendants j).profileIdx = (md.descendants j).profileIdx := by
  simp only [setDescendant, Function.update_apply]
  split_ifs with h
  · subst h; exact ⟨hpid, hk⟩
  · exact ⟨rfl, rfl⟩

/-- Entry `j` after the removal of entry `i` is the old entry `j` before `i`, and `j + 1` from
`i` on. -/
theorem removeDescendant_descendants (md : MonitoringData) {i j : Nat}
    (hj : j < md.compileCount - 1) :
    (removeDescendant md i).descendants j = md.descendants (if j < i then j else j + 1) := by
  simp only [removeDescendant]
  split_ifs <;> first | rfl | omega

/-- Entry `j` of the table after the new entry: the old entry below the count, the new one at
it. -/
theorem addDescendant_descendants (md : MonitoringData) (pid : Int) (c o : Nat) (k : Int)
    (j : Nat) : (addDescendant md pid c o k).descendants j =
      if j = md.compileCount then
        { md.descendants md.compileCount with
          pid := pid, currentMb := c, oldPeakMb := o, profileIdx := k }
      else md.descendants j := by
  simp [addDescendant, Function.update_apply]

/-- The representation invariant of the table: at most `MAX_TRACKED_DESCENDANTS` entries, with
pairwise distinct pids. -/
structure DescendantsInv (md : MonitoringData) : Prop where
  count_le : md.compileCount ≤ maxTrackedDescendants
  pid_inj : ∀ i < md.compileCount, ∀ j < md.compileCount,
    (md.descendants i).pid = (md.descendants j).pid → i = j

/-- A new entry for a pid the table does not hold keeps the invariant, when there is room. -/
theorem addDescendant_inv {md : MonitoringData} (h : DescendantsInv md) {pid : Int} (c o : Nat)
    (k : Int) (hroom : md.compileCount < maxTrackedDescendants)
    (hnew : ∀ j < md.compileCount, (md.descendants j).pid ≠ pid) :
    DescendantsInv (addDescendant md pid c o k) :=
  ⟨hroom, keys_inj_update Descendant.pid h.pid_inj hnew⟩

/-- Removing an entry keeps the invariant. -/
theorem removeDescendant_inv {md : MonitoringData} (h : DescendantsInv md) {i : Nat}
    (hi : i < md.compileCount) : DescendantsInv (removeDescendant md i) := by
  refine ⟨by simp only [removeDescendant]; have := h.count_le; omega, fun a ha b hb hab => ?_⟩
  simp only [removeDescendant] at ha hb
  rw [removeDescendant_descendants md ha, removeDescendant_descendants md hb] at hab
  have := h.pid_inj _ (by split_ifs <;> omega) _ (by split_ifs <;> omega) hab
  split_ifs at this <;> omega

/-- **A reused slot keeps its peak.** After entry `i` is removed, the next new entry goes to
the vacated last slot, where the removed table's last entry left its `peak_mb`. -/
theorem addDescendant_removeDescendant_peakMb (md : MonitoringData) {i : Nat}
    (hi : i < md.compileCount) (pid : Int) (c o : Nat) (k : Int) :
    (addDescendant (removeDescendant md i) pid c o k).compileCount = md.compileCount ∧
      ((addDescendant (removeDescendant md i) pid c o k).descendants (md.compileCount - 1)).peakMb =
        (md.descendants (md.compileCount - 1)).peakMb := by
  refine ⟨by simp only [addDescendant, removeDescendant]; omega, ?_⟩
  simp [addDescendant, removeDescendant]

end MemoryAwareMake
