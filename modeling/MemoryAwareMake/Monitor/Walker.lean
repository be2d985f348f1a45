import MemoryAwareMake.Monitor.Table
import MemoryAwareMake.Classify.EntryPoints

/-!
# MemoryAwareMake — `find_child_descendants`

Each tick the monitor walks the processes below make: `find_child_descendants (parent_pid,
depth, parent_idx, &total_jobs, &unused_peaks_mb)` scans all of `/proc` for the children of
`parent_pid` and, for each child,

1. adds its RSS to the total and looks it and its parent up in the descendant table, taking
   over the parent's profile index into `parent_idx` (which stays changed for the later
   children);
2. skips the child, its subtree included, when it is new, untracked above and the table is
   full;
3. for a new child not below a tracked profiled process, classifies its command line, finds or
   appends the profile of its file, makes a table entry and releases the profile's peak from the
   shared reservations (`discover`);
4. walks the child's own children, adds their RSS, adds the entry's shortfall
   `old_peak_mb - current_mb` to the unused peaks, and for a profiled entry raises `current_mb`
   and `peak_mb`, recording a new peak in the profile (`descendInto`).

The snapshot `snap` is the list of processes in `readdir` order (`Monitor/Status.lean` reads it
off the `/proc` entries); the recursion is bounded by a `fuel` argument. The unsigned
`long` sums wrap modulo `ulongSize`. Reading `descendants[-1]` (a visited process with no entry)
reads the memory just before the array, whose contents are the parameter `below`.
-/

namespace MemoryAwareMake

/-- What `find_child_descendants` threads through all its calls: the monitor's state and the
tick's `total_unused_peaks_mb`, to which every call adds through its pointer. -/
structure Walk where
  mon : Monitor
  unusedPeaksMb : Nat

/-- The state of one call's `readdir` loop: the walk, `parent_idx` (which an iteration may
reassign for the rest of the loop), `total_rss_kb` and the call's `*total_jobs`. -/
structure WalkLoop where
  walk : Walk
  parentIdx : Int
  totalRssKb : Nat
  totalJobs : Nat

/-- Where the visit of one child stands after its table lookup and discovery: the walk,
`descendant_idx`, `profile_idx` and `new_descendant`. -/
structure Visit where
  walk : Walk
  descendantIdx : Int
  profileIdx : Int
  newDescendant : Bool

/-- The result of the classification of a new process: the store, `profile_idx`,
`profile_peak_mb` and `strip_ptr`. -/
structure NewProfile where
  store : ProfileStore
  profileIdx : Int
  profilePeakMb : Nat
  stripPtr : Option String

/-- `old_peak_mb > current_mb ? old_peak_mb - current_mb : 0`. -/
def shortfall (d : Descendant) : Nat :=
  if d.currentMb < d.oldPeakMb then d.oldPeakMb - d.currentMb else 0

/-- `main_monitoring_data.descendants[descendant_idx]`; at `-1` the read lands just before the
array, in memory holding `below`. -/
def descendantAt (md : MonitoringData) (below : Descendant) (idx : Int) : Descendant :=
  if idx < 0 then below else md.descendants idx.toNat

/-- `extract_filename_from_cmdline` and the profile lookup of a new process: the profile of its
file, appended when the file has none (with the process's RSS as its peak and
`profile_peak_mb` left at `0`). -/
def profileOfNewDescendant (s : ProfileStore) (p : Proc) (now : Int) : NewProfile :=
  match extractFilenameFromCmdline p.cmdline with
  | none => ⟨s, -1, 0, none⟩
  | some f =>
    match lookupProfile s f with
    | some i => ⟨s, i, (s.memoryProfiles i).peakMemoryMb, some f⟩
    | none => ⟨(appendProfile s f p.vmRssKb now).1, (appendProfile s f p.vmRssKb now).2, 0, some f⟩

/-- `if (profile_peak_mb > 0) reserve_memory_mb (pid, -profile_peak_mb, strip_ptr);`, the
unsigned negation read back as a `long`. -/
def releaseOnDiscovery (sd : SharedMemoryData) (pid : Int) (profilePeakMb : Nat) : SharedMemoryData :=
  if 0 < profilePeakMb then (reserveMemoryMb sd pid (longOfUlong (ulongSub 0 profilePeakMb))).1
  else sd

/-- The `descendant_idx < 0` blocks for a child the table does not hold, when the table-full
`continue` did not fire. Below a tracked profiled process (`parent_idx >= 0`) nothing happens;
otherwise the child is classified, gets an entry and its profile's peak is released. -/
def discover (w : Walk) (p : Proc) (parentIdx : Int) (now : Int) : Visit :=
  if parentIdx < 0 then
    let np := profileOfNewDescendant w.mon.store p now
    let md := w.mon.md
    let shared := releaseOnDiscovery w.mon.shared p.pid np.profilePeakMb
    if md.compileCount < maxTrackedDescendants then
      ⟨⟨{ w.mon with
          md := addDescendant md p.pid (p.vmRssKb / 1024) np.profilePeakMb np.profileIdx
          store := np.store
          shared := shared
          trace := w.mon.trace ++ [.newDescendant md.compileCount p.pid np.profileIdx np.stripPtr] },
        w.unusedPeaksMb⟩, md.compileCount, np.profileIdx, true⟩
    else ⟨⟨{ w.mon with store := np.store, shared := shared }, w.unusedPeaksMb⟩, -1, np.profileIdx, false⟩
  else ⟨w, -1, -1, false⟩

/-- The update of the tracked, profiled entry `idx` with the MiB measured for it this tick:
raise `current_mb` (set it on the entry's first visit) and, above `peak_mb`, raise the peak and
record it with `final = 0`. -/
def updateDescendant (m : Monitor) (idx : Nat) (profileIdx : Int) (newCurrentMb : Nat)
    (newDescendant : Bool) (now : Int) : Monitor :=
  let d := m.md.descendants idx
  if d.currentMb < newCurrentMb ∨ newDescendant then
    if d.peakMb < newCurrentMb then
      ({ m with
          md := m.md.setDescendant idx { d with currentMb := newCurrentMb, peakMb := newCurrentMb } }
        ).recordUsage profileIdx newCurrentMb false now
    else { m with md := m.md.setDescendant idx { d with currentMb := newCurrentMb } }
  else m

/-- The end of an iteration for a child the walk keeps: walk its children with `send_idx` (the
recursive call `recur`), add their RSS and jobs, add the entry's shortfall to the unused peaks,
and update a tracked, profiled entry with `(rss_kb + child_rss_kb) / 1024`. -/
def descendInto (recur : Int → Int → Walk → Walk × Nat × Nat) (below : Descendant) (now : Int)
    (p : Proc) (parentIdx : Int) (totalRssKb totalJobs : Nat) (v : Visit) : WalkLoop :=
  let sendIdx := if 0 ≤ v.profileIdx then v.profileIdx else parentIdx
  let r := recur p.pid sendIdx v.walk
  let w : Walk := { r.1 with
    unusedPeaksMb :=
      (r.1.unusedPeaksMb + shortfall (descendantAt r.1.mon.md below v.descendantIdx)) % ulongSize }
  let totalRssKb := (totalRssKb + r.2.1) % ulongSize
  let newCurrentMb := ((p.vmRssKb + r.2.1) % ulongSize) / 1024
  if 0 ≤ v.descendantIdx ∧ 0 ≤ v.profileIdx then
    ⟨{ w with
        mon := updateDescendant w.mon v.descendantIdx.toNat v.profileIdx newCurrentMb v.newDescendant now },
      parentIdx, totalRssKb, totalJobs + r.2.2 + 1⟩
  else ⟨w, parentIdx, totalRssKb, totalJobs + r.2.2⟩

/-- The table scan of one iteration, from `descendant_idx = -1`, `found_ppidx = parent_idx`,
`profile_idx = -1`. -/
def lookupDescendant (md : MonitoringData) (parentPid pid parentIdx : Int) : TableHit :=
  scanTable md.descendants parentPid pid 0 md.compileCount ⟨-1, parentIdx, -1⟩

/-- A new child is absent from the table. -/
theorem lookupDescendant_not_found {md : MonitoringData} {parentPid pid parentIdx : Int}
    (h : (lookupDescendant md parentPid pid parentIdx).descendantIdx < 0) :
    ∀ j < md.compileCount, (md.descendants j).pid ≠ pid :=
  fun j hj => scanTable_not_found 0 md.compileCount h j (Nat.zero_le j) (by omega)

/-- `if (descendant_idx < 0 && parent_idx != found_ppidx) parent_idx = found_ppidx;` -/
def adoptParentIdx (hit : TableHit) (parentIdx : Int) : Int :=
  if hit.descendantIdx < 0 ∧ parentIdx ≠ hit.foundPpidx then hit.foundPpidx else parentIdx

/-- One iteration of the `readdir` loop of `find_child_descendants (parent_pid, ...)` on the
process `p`. -/
def walkEntry (recur : Int → Int → Walk → Walk × Nat × Nat) (below : Descendant) (now : Int)
    (parentPid : Int) (L : WalkLoop) (p : Proc) : WalkLoop :=
  if p.pid ≤ 0 ∨ p.ppid ≠ parentPid then L
  else
    let totalRssKb := (L.totalRssKb + p.vmRssKb) % ulongSize
    let md := L.walk.mon.md
    let hit := lookupDescendant md parentPid p.pid L.parentIdx
    let parentIdx := adoptParentIdx hit L.parentIdx
    if hit.descendantIdx < 0 ∧ parentIdx < 0 ∧ maxTrackedDescendants ≤ md.compileCount then
      { L with parentIdx := parentIdx, totalRssKb := totalRssKb }
    else
      descendInto recur below now p parentIdx totalRssKb L.totalJobs
        (if hit.descendantIdx < 0 then discover L.walk p parentIdx now
         else ⟨L.walk, hit.descendantIdx, hit.profileIdx, false⟩)

/-- `find_child_descendants (parent_pid, depth, parent_idx, &total_jobs, unused_peaks_mb)` on the
snapshot `snap`, with `fuel` bounding the depth: the walk after the call, `total_rss_kb`, and
the jobs it counted. -/
def findChildDescendants (snap : List Proc) (below : Descendant) (now : Int) :
    Nat → Int → Int → Walk → Walk × Nat × Nat
  | 0, _, _, w => (w, 0, 0)
  | fuel + 1, parentPid, parentIdx, w =>
    let L := snap.foldl (walkEntry (findChildDescendants snap below now fuel) below now parentPid)
      ⟨w, parentIdx, 0, 0⟩
    (L.walk, L.totalRssKb, L.totalJobs)

/-- **`current_mb` never falls.** On an entry seen before, the update keeps the larger of the
entry's `current_mb` and the MiB measured now. -/
theorem updateDescendant_currentMb (m : Monitor) (idx : Nat) (k : Int) (n : Nat) (now : Int) :
    ((updateDescendant m idx k n false now).md.descendants idx).currentMb =
      max (m.md.descendants idx).currentMb n := by
  simp only [updateDescendant, Bool.false_eq_true, or_false]
  split_ifs with h1 h2 <;>
    simp [MonitoringData.setDescendant, Monitor.recordUsage] <;> omega

/-- **Discovery never marks the profiles dirty**, even when it appends a profile. -/
theorem discover_dirty (w : Walk) (p : Proc) (parentIdx now : Int) :
    (discover w p parentIdx now).walk.mon.store.memoryProfilesDirty =
      w.mon.store.memoryProfilesDirty := by
  have h : (profileOfNewDescendant w.mon.store p now).store.memoryProfilesDirty =
      w.mon.store.memoryProfilesDirty := by
    unfold profileOfNewDescendant
    split
    · rfl
    · split
      · rfl
      · exact appendProfile_dirty _ _ _ _
  simp only [discover]
  split_ifs
  · exact h
  · exact h
  · rfl

end MemoryAwareMake
