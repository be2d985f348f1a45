import MemoryAwareMake.Monitor.Meminfo

/-!
# MemoryAwareMake — reading `/proc` in `find_child_descendants`

`findChildDescendants` walks a snapshot of `Proc`s: each process with the `PPid` and `VmRSS`
of its `status`. This module is the code that reads them. Each call of
`find_child_descendants` runs `readdir` over `/proc`, skips the entries whose name does not
start with a digit, whose `atoi` is not positive or whose `status` does not open, and reads
`status` with `fgets` line by line:

* a line `"PPid: %d"`, while no `PPid` has been found, sets `check_pid`, and leaves the loop when
  it is not `parent_pid`;
* otherwise a line `"VmRSS: %lu kB"`, while no `VmRSS` has been found, sets `rss_kb`;
* the loop stops once both are found.

`atoi` and the `%d` and `%lu` conversions of `sscanf` are the C library's and parameters here.
The listing is one snapshot for the whole walk: every recursive call reads the same `/proc`.

* `statusLoop_spec` — `check_pid` ends as the first `PPid`, and, when that is `parent_pid`,
  `rss_kb` as the first `VmRSS`, each `0` when the file has none;
* `readdirEntry_eq`, `foldl_readdirEntry` — one `readdir` iteration is the model's `walkEntry` on
  the entry's process, and the loop over a listing is the walk over its processes;
* `find_child_descendants_reads_proc` — the whole walk over the listing is `findChildDescendants`
  over the snapshot of its processes.
-/

namespace MemoryAwareMake

/-- An entry `readdir` returns from `/proc`: its `d_name`, the lines of its `status` (`none` when
`fopen` fails) and its `cmdline` as `extract_filename_from_cmdline` reads it. -/
structure ProcEntry where
  dName : List Char
  status : Option (List (List Char))
  cmdline : Option (List Char)

/-- The locals of the `status` loop: `found_ppid`, `found_vmrss`, `check_pid` and `rss_kb`. -/
structure StatusScan where
  foundPpid : Bool
  foundVmrss : Bool
  checkPid : Int
  rssKb : Nat

/-- Their values before the loop. -/
def StatusScan.init : StatusScan := ⟨false, false, 0, 0⟩

/-- `"PPid:"`, the text the format `"PPid: %d"` starts with. -/
def ppidField : List Char := "PPid:".toList

/-- `"VmRSS:"`, the text the format `"VmRSS: %lu kB"` starts with. -/
def vmRssField : List Char := "VmRSS:".toList

section Status

variable (atoi : List Char → Int) (scanD : List Char → Option Int)
  (scanLu : List Char → Option Nat)

/-- The two tests of the loop body on one line: the locals after them, and whether the body
left the loop on a `PPid` other than `parent_pid`. -/
def statusLine (parentPid : Int) (st : StatusScan) (line : List Char) : StatusScan × Bool :=
  match if st.foundPpid then none else scanField scanD ppidField line with
  | some c =>
    if c ≠ parentPid then ({ st with checkPid := c }, true)
    else ({ st with checkPid := c, foundPpid := true }, false)
  | none =>
    match if st.foundVmrss then none else scanField scanLu vmRssField line with
    | some r => ({ st with rssKb := r, foundVmrss := true }, false)
    | none => (st, false)

/-- The `while (fgets (line, sizeof (line), stat_file))` loop over the lines of `status`. -/
def statusLoop (parentPid : Int) : List (List Char) → StatusScan → StatusScan
  | [], st => st
  | line :: lines, st =>
    let r := statusLine scanD scanLu parentPid st line
    if r.2 || (r.1.foundPpid && r.1.foundVmrss) then r.1 else statusLoop parentPid lines r.1

/-- One iteration of the `readdir` loop up to `fclose (stat_file)`: `none` for a `continue`
before it, otherwise the pid with the `check_pid` and `rss_kb` the `status` loop leaves. -/
def readEntry (parentPid : Int) (e : ProcEntry) : Option Proc :=
  if e.dName.head?.any Char.isDigit then
    let pid := atoi e.dName
    if pid ≤ 0 then none
    else e.status.map fun lines =>
      let st := statusLoop scanD scanLu parentPid lines .init
      ⟨pid, st.checkPid, st.rssKb, e.cmdline⟩
  else none

/-- One iteration of the `readdir` loop of `find_child_descendants (parent_pid, ...)` on the
entry `e`: from `if (check_pid != parent_pid) continue;` on it is `walkEntry`. -/
def readdirEntry (recur : Int → Int → Walk → Walk × Nat × Nat) (below : Descendant)
    (now : Int) (parentPid : Int) (L : WalkLoop) (e : ProcEntry) : WalkLoop :=
  match readEntry atoi scanD scanLu parentPid e with
  | none => L
  | some p => walkEntry recur below now parentPid L p

/-- `find_child_descendants (parent_pid, depth, parent_idx, &total_jobs, unused_peaks_mb)` over
the `/proc` listing `dir`, with `fuel` bounding the depth. -/
def findChildDescendantsDir (dir : List ProcEntry) (below : Descendant) (now : Int) :
    Nat → Int → Int → Walk → Walk × Nat × Nat
  | 0, _, _, w => (w, 0, 0)
  | fuel + 1, parentPid, parentIdx, w =>
    let L := dir.foldl
      (readdirEntry atoi scanD scanLu (findChildDescendantsDir dir below now fuel) below now
        parentPid) ⟨w, parentIdx, 0, 0⟩
    (L.walk, L.totalRssKb, L.totalJobs)

/-- The process the model's snapshot holds for an entry: its pid, the first `PPid` and the
first `VmRSS` of its `status` (`0` when there is none) and its `cmdline`; `none` for an entry
skipped before `status` is read. -/
def snapshotProc (e : ProcEntry) : Option Proc :=
  if e.dName.head?.any Char.isDigit then
    let pid := atoi e.dName
    if pid ≤ 0 then none
    else e.status.map fun lines =>
      ⟨pid, (lines.findSome? (scanField scanD ppidField)).getD 0,
        (lines.findSome? (scanField scanLu vmRssField)).getD 0, e.cmdline⟩
  else none

/-! ## The `status` loop -/

/-- A `PPid` line is no `VmRSS` line. -/
theorem scanField_vmRss_of_ppid {line : List Char} {c : Int}
    (h : scanField scanD ppidField line = some c) :
    scanField scanLu vmRssField line = none := by
  rcases line with _ | ⟨a, rest⟩
  · rfl
  · by_cases ha : a = 'P'
    · subst ha; rfl
    · unfold scanField at h
      split_ifs at h with hp
      change ('P' == a && _) = true at hp
      simp [Ne.symm ha] at hp

/-- **The `status` loop reads the first `PPid` and the first `VmRSS`.** From locals that have
not found both, `check_pid` ends as the first `PPid` still to be found, and, when that is
`parent_pid`, `rss_kb` as the first `VmRSS` still to be found. -/
theorem statusLoop_spec (parentPid : Int) (lines : List (List Char)) (st : StatusScan)
    (hst : ¬(st.foundPpid ∧ st.foundVmrss)) :
    (statusLoop scanD scanLu parentPid lines st).checkPid =
        (if st.foundPpid then st.checkPid
         else (lines.findSome? (scanField scanD ppidField)).getD st.checkPid) ∧
      ((statusLoop scanD scanLu parentPid lines st).checkPid = parentPid →
        (statusLoop scanD scanLu parentPid lines st).rssKb =
          if st.foundVmrss then st.rssKb
          else (lines.findSome? (scanField scanLu vmRssField)).getD st.rssKb) := by
  induction lines generalizing st with
  | nil => simp [statusLoop]
  | cons line lines ih =>
    obtain ⟨fp, fv, cp, rss⟩ := st
    cases fp
    · cases hP : scanField scanD ppidField line with
      | some c =>
        have hV := scanField_vmRss_of_ppid scanD scanLu hP
        by_cases hc : c = parentPid
        · -- the parent's `PPid`: the loop goes on until it has a `VmRSS`
          subst hc
          cases fv
          · simpa [statusLoop, statusLine, hP, hV] using ih ⟨true, false, c, rss⟩ (by simp)
          · simp [statusLoop, statusLine, hP]
        · -- another process's child: the loop stops
          simp [statusLoop, statusLine, hP, hc]
      | none =>
        cases fv
        · cases hV : scanField scanLu vmRssField line with
          | some r =>
            simpa [statusLoop, statusLine, hP, hV] using ih ⟨false, true, cp, r⟩ (by simp)
          | none =>
            simpa [statusLoop, statusLine, hP, hV] using ih ⟨false, false, cp, rss⟩ (by simp)
        · simpa [statusLoop, statusLine, hP] using ih ⟨false, true, cp, rss⟩ (by simp)
    · cases fv
      · cases hV : scanField scanLu vmRssField line with
        | some r => simp [statusLoop, statusLine, hV]
        | none => simpa [statusLoop, statusLine, hV] using ih ⟨true, false, cp, rss⟩ (by simp)
      · simp at hst

/-- The `status` loop from its first line: the first `PPid`, and, when that is `parent_pid`, the
first `VmRSS`. -/
theorem statusLoop_init (parentPid : Int) (lines : List (List Char)) :
    (statusLoop scanD scanLu parentPid lines .init).checkPid =
        (lines.findSome? (scanField scanD ppidField)).getD 0 ∧
      ((statusLoop scanD scanLu parentPid lines .init).checkPid = parentPid →
        (statusLoop scanD scanLu parentPid lines .init).rssKb =
          (lines.findSome? (scanField scanLu vmRssField)).getD 0) :=
  statusLoop_spec scanD scanLu parentPid lines .init (by simp [StatusScan.init])

/-! ## The walk over `/proc` -/

/-- **One `readdir` iteration walks the snapshot's process.** Where the loop read another
`PPid` than `parent_pid` its `rss_kb` differs from the snapshot's first `VmRSS`, but the walk
skips that process either way. -/
theorem readdirEntry_eq (recur : Int → Int → Walk → Walk × Nat × Nat) (below : Descendant)
    (now parentPid : Int) (L : WalkLoop) (e : ProcEntry) :
    readdirEntry atoi scanD scanLu recur below now parentPid L e =
      match snapshotProc atoi scanD scanLu e with
      | none => L
      | some p => walkEntry recur below now parentPid L p := by
  dsimp only [readdirEntry, readEntry, snapshotProc]
  split_ifs
  · rfl
  · cases e.status with
    | none => rfl
    | some lines =>
      obtain ⟨hc, hr⟩ := statusLoop_init scanD scanLu parentPid lines
      by_cases hpar : (lines.findSome? (scanField scanD ppidField)).getD 0 = parentPid
      · simp only [Option.map_some', hc, hr (hc.trans hpar)]
      · -- neither process is a child of `parent_pid`
        simp only [Option.map_some', walkEntry, hc, ne_eq, hpar, not_false_eq_true, or_true,
          if_true]
  · rfl

/-- The `readdir` loop over any entries, from any loop state, walks the snapshot's processes. -/
theorem foldl_readdirEntry (recur : Int → Int → Walk → Walk × Nat × Nat) (below : Descendant)
    (now parentPid : Int) (es : List ProcEntry) (L : WalkLoop) :
    es.foldl (readdirEntry atoi scanD scanLu recur below now parentPid) L =
      (es.filterMap (snapshotProc atoi scanD scanLu)).foldl
        (walkEntry recur below now parentPid) L := by
  induction es generalizing L with
  | nil => rfl
  | cons e es ih =>
    rw [List.foldl_cons, readdirEntry_eq, List.filterMap_cons]
    cases snapshotProc atoi scanD scanLu e <;> exact ih _

/-- **`find_child_descendants` over `/proc` is the model's walk over its snapshot.** For every
listing, depth bound, parent and walk, the calls that read `/proc` entry by entry, with `atoi`,
`fopen` and the `status` loop, end as `findChildDescendants` over the processes of the listing,
each with its first `PPid` and first `VmRSS`. -/
theorem find_child_descendants_reads_proc (dir : List ProcEntry) (below : Descendant)
    (now : Int) (fuel : Nat) :
    findChildDescendantsDir atoi scanD scanLu dir below now fuel =
      findChildDescendants (dir.filterMap (snapshotProc atoi scanD scanLu)) below now fuel := by
  induction fuel with
  | zero => rfl
  | succ fuel ih =>
    funext parentPid parentIdx w
    simp only [findChildDescendantsDir, findChildDescendants, foldl_readdirEntry, ih]

end Status

end MemoryAwareMake
